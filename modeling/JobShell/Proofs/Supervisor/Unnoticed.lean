import JobShell.Proofs.Child.Calls
import JobShell.Proofs.System.Interruption
import JobShell.Supervisor.Foreground

/-!
# JobShell.Proofs.Supervisor.Unnoticed — the code that is interrupted does not notice the reaper

The handler for ended children makes calls of its own, and they leave their numbers behind: the last
of them fails if nobody is left. It can begin between a call of the code that it interrupts and the
moment when this code looks why the call failed. So it puts back the number that it has found.

* `waiting` is waiting for a child, call by call. `WaitsAs.step` and `waitsAs_after` tie it to
  `waitFor`.
* `Supervisor.cutsIn_of_handle`: the handler is one of those that an `Instant` knows, from its
  beginning to its return.
* `Supervisor.handler_goes_unnoticed` puts this together with the invariant of code that is cut
  into.
-/

namespace JobShell

open Relation (ReflTransGen)

/-! ## Waiting, call by call -/

/-- How the reply of a collecting call is read right after the call. -/
def Reply.collected (reply : Reply WaitStatus) : Except WaitError (Pid × WaitStatus) :=
  readCollected reply.value reply.record reply.errno

/-- Waiting for a child in the foreground: it is repeated until an answer decides. -/
def waiting (pid : Pid) : Routine Pid WaitStatus (Option (Except ShellError Termination))
  | some _ => .ends
  | none => .calls pid fun value status found => decide? pid (readCollected value status found)

/-- A call is made, and its answer decides or not. The number that is found may be an old one, but
only if the call has not failed. -/
theorem turn_waiting (pid : Pid) (reply : Reply WaitStatus) (requests : List Pid) (found : Errno) :
    (waiting pid).turn reply (⟨none, requests⟩, found) =
      (⟨decide? pid reply.collected, requests ++ [pid]⟩, reply.leaves found) := by
  rw [Routine.turn_of_calls rfl, readCollected, readReply_leaves]
  rfl

/-- One more answer decides if those before it have not. -/
theorem waitFor_concat (pid : Pid) (answers : List (Except WaitError (Pid × WaitStatus)))
    (answer : Except WaitError (Pid × WaitStatus)) :
    waitFor pid (answers ++ [answer]) =
      match waitFor pid answers with
      | some (result, unused) => some (result, unused ++ [answer])
      | none => (decide? pid answer).map (·, []) := by
  induction answers with
  | nil =>
    simp only [List.nil_append, waitFor]
    cases decide? pid answer <;> rfl
  | cons first answers ih =>
    simp only [List.cons_append, waitFor]
    cases decide? pid first with
    | some result => rfl
    | none => exact ih

/-- Waiting has come as far as `waitFor` comes with these answers, and it has made a call for each
answer that was asked for. -/
structure WaitsAs (pid : Pid) (answers : List (Except WaitError (Pid × WaitStatus)))
    (progress : Progress Pid (Option (Except ShellError Termination))) : Prop where
  state : progress.state = (waitFor pid answers).map Prod.fst
  calls : progress.requests.length + (waitFor pid answers).elim 0 (·.2.length) = answers.length

/-- One more answer is only asked for if none before it decides. -/
theorem WaitsAs.step {pid : Pid} {answers : List (Except WaitError (Pid × WaitStatus))}
    {spot : Progress Pid (Option (Except ShellError Termination)) × Errno}
    (h : WaitsAs pid answers spot.1) (reply : Reply WaitStatus) :
    WaitsAs pid (answers ++ [reply.collected]) ((waiting pid).turn reply spot).1 := by
  obtain ⟨⟨state, requests⟩, found⟩ := spot
  obtain ⟨hstate, hcalls⟩ := h
  cases hbefore : waitFor pid answers with
  | some decided =>
    -- an earlier answer has decided, so no call is made and this one is not asked for
    obtain ⟨result, unused⟩ := decided
    rw [hbefore] at hstate hcalls
    obtain rfl : state = some result := hstate
    have hturn : (waiting pid).turn reply (⟨some result, requests⟩, found) =
        (⟨some result, requests⟩, found) := rfl
    have hafter : waitFor pid (answers ++ [reply.collected]) =
        some (result, unused ++ [reply.collected]) := by rw [waitFor_concat, hbefore]
    have hlength : requests.length + unused.length = answers.length := hcalls
    rw [hturn]
    refine ⟨?_, ?_⟩
    · rw [hafter]
      rfl
    · rw [hafter, List.length_append, ← hlength, Nat.add_assoc]
      exact congrArg _ List.length_append
  | none =>
    rw [hbefore] at hstate hcalls
    obtain rfl : state = none := hstate
    have hafter : waitFor pid (answers ++ [reply.collected]) =
        (decide? pid reply.collected).map (·, []) := by rw [waitFor_concat, hbefore]
    have hlength : requests.length = answers.length := hcalls
    rw [turn_waiting]
    refine ⟨?_, ?_⟩
    · rw [hafter, Option.map_map]
      exact Option.map_id'.symm
    · simp only [hafter, List.length_append, hlength]
      cases decide? pid reply.collected <;> rfl

/-- Waiting stops right after the first answer that decides. -/
theorem waitsAs_after (pid : Pid) (replies : Nat → Reply WaitStatus) (errno : Errno) (n : Nat) :
    WaitsAs pid ((List.range n).map fun i => (replies i).collected)
      ((waiting pid).after replies none errno n).1 := by
  induction n with
  | zero => exact ⟨rfl, rfl⟩
  | succ n ih =>
    rw [List.range_succ, List.map_append]
    exact ih.step (replies n)

/-! ## The handler -/

namespace Reaper

open Children

/-- If nobody is left, a look fails and leaves its number behind. -/
theorem errnoAfter_of_peek {children : Children} {reason : WaitError} (errno : Errno)
    (hpeek : children.peek = .error reason) (hchildren : children = []) :
    errnoAfter errno reason = .noChild := by
  subst hchildren
  cases hpeek
  rfl

/-- A run that leaves nobody has ended with such a look. -/
theorem errno_of_reap_all (foreground : Option Pid) (interruptions : List Bool)
    (writes : List (List WriteResult)) (errno : Errno) (children : Children)
    (h : (reap foreground interruptions writes errno children).children = []) :
    (reap foreground interruptions writes errno children).errno = .noChild := by
  fun_induction reap foreground interruptions writes errno children with
  | case1 _ _ _ _ ih => exact ih h
  | case2 _ errno _ _ _ hpeek => exact errnoAfter_of_peek errno hpeek h
  | case3 _ _ _ _ _ hpeek =>
    -- the foreground child is still there
    cases h
    cases hpeek
  | case4 _ _ _ _ _ _ _ ih => exact ih h
  | case5 _ errno _ _ _ _ _ hpeek => exact errnoAfter_of_peek errno hpeek h
  | case6 _ _ _ _ _ _ _ hpeek =>
    cases h
    cases hpeek
  | case7 _ _ _ _ _ _ _ _ _ _ _ _ _ _ _ _ _ ih => exact ih h
  | case8 _ _ _ _ _ _ _ _ _ _ _ _ _ _ ih => exact ih h
  | case9 _ _ _ _ _ _ _ hpeek _ _ _ hwait =>
    obtain ⟨_, ⟨⟩⟩ := ok_of_peek_ok hpeek hwait
  | case10 _ _ _ _ _ _ _ hpeek _ _ hwait =>
    obtain ⟨_, ⟨⟩⟩ := ok_of_peek_ok hpeek hwait

section Instants

variable {Request Record State : Type} (code : Routine Request Record State)
  (replies : Nat → Reply Record)

/-- What can happen next to code that the reaper cuts into. -/
abbrev Step : Instant Request Record State (Option Pid) Reaper.Request Stage →
    Instant Request Record State (Option Pid) Reaper.Request Stage → Prop :=
  Instant.Step code replies routine .looking

/-- The calls of a run are what a handler can do. -/
theorem Leads.steps {foreground : Option Pid} {stage last : Stage} {errno left : Errno}
    {bytes : Bytes} (h : Leads foreground stage errno bytes last left)
    (progress : Progress Request State) (unread : Option (Reply Record)) (kept : Errno)
    (requests : List Reaper.Request) :
    ∃ made, ReflTransGen (Step code replies)
      ⟨progress, unread, errno, some ⟨foreground, kept, ⟨stage, requests⟩⟩⟩
      ⟨progress, unread, left, some ⟨foreground, kept, ⟨last, made⟩⟩⟩ := by
  induction h generalizing requests with
  | here => exact ⟨requests, .refl⟩
  | @call _ _ request _ _ _ _ reply asks _ ih =>
    obtain ⟨made, hlater⟩ := ih (requests ++ [request])
    exact ⟨made, .head (.of_calls reply asks) hlater⟩

/-- A handler begins when one number stands there, comes to the end of its calls with another one,
and leaves a third one when it returns. -/
def CutsIn (progress : Progress Request State) (unread : Option (Reply Record))
    (foreground : Option Pid) (found called left : Errno) : Prop :=
  ∃ kept made,
    Step code replies ⟨progress, unread, found, none⟩
      ⟨progress, unread, found, some ⟨foreground, kept, ⟨.looking, []⟩⟩⟩ ∧
    ReflTransGen (Step code replies)
      ⟨progress, unread, found, some ⟨foreground, kept, ⟨.looking, []⟩⟩⟩
      ⟨progress, unread, called, some ⟨foreground, kept, ⟨.ended, made⟩⟩⟩ ∧
    Step code replies ⟨progress, unread, called, some ⟨foreground, kept, ⟨.ended, made⟩⟩⟩
      ⟨progress, unread, left, none⟩

/-- The third number is the first one, whatever the calls have left. -/
theorem CutsIn.left_eq {progress : Progress Request State} {unread : Option (Reply Record)}
    {foreground : Option Pid} {found called left : Errno}
    (h : CutsIn code replies progress unread foreground found called left) : left = found := by
  obtain ⟨kept, made, hbegins, -, hreturns⟩ := h
  have hkept : kept = found := hbegins.kept_of_begins rfl rfl
  have hleft : left = kept := hreturns.errno_of_returns rfl rfl
  exact hleft.trans hkept

end Instants

end Reaper

/-! ## The handler in a process -/

namespace Supervisor

variable {World File Place : Type} (host : Host World File Place)
  (shell : Supervisor World File Place)

/-- The number is the same after a signal is delivered, whether there is a handler or not. -/
theorem errno_deliver : (shell.deliver host).errno = shell.errno := by
  rw [deliver]
  split
  · dsimp only
    split <;> rfl
  · rfl

/-- The handler is one that cuts in: its calls leave the number of a run of the reaper, and it puts
the other one back. -/
theorem cutsIn_of_handle {Request Record State : Type} (code : Routine Request Record State)
    (replies : Nat → Reply Record) (progress : Progress Request State)
    (unread : Option (Reply Record)) (conditions : ReapConditions)
    (hpositive : ∀ child ∈ shell.children, 0 < child.pid.number) :
    Reaper.CutsIn code replies progress unread shell.foreground shell.errno
      (shell.reap host conditions).errno (shell.handle host conditions).errno := by
  have hleads := Reaper.leads_of_run shell.foreground conditions shell.errno hpositive
  obtain ⟨made, hsteps⟩ := hleads.steps code replies progress unread shell.errno []
  exact ⟨shell.errno, made, .begins shell.foreground, hsteps, .returns rfl⟩

/-- The instants that code can come to while handlers cut in, if it begins in this process. -/
def Meets {Request Record State : Type} (code : Routine Request Record State)
    (replies : Nat → Reply Record) (start : State) :
    Instant Request Record State (Option Pid) Reaper.Request Reaper.Stage → Prop :=
  Instant.Reachable code replies Reaper.routine .looking start shell.errno

/-- What is true of the handler for ended children and of the code that it cuts into. -/
structure Unnoticed : Prop where
  /-- The number is the same after the handler, -/
  restores : ∀ conditions, (shell.handle host conditions).errno = shell.errno
  /-- and after a signal that is delivered. -/
  delivered : (shell.deliver host).errno = shell.errno
  /-- It would not be if the handler did not put it back. -/
  disturbs : ∀ conditions, (shell.reap host conditions).children = [] →
    (shell.reap host conditions).errno = .noChild
  /-- A handler that cuts into code puts it back, whatever its calls answer, -/
  putsBack : ∀ {Request Record State : Type} (code : Routine Request Record State) replies progress
    unread foreground found called left,
      Reaper.CutsIn code replies progress unread foreground found called left → left = found
  /-- and the handler of this process is one that cuts in. -/
  cutsIn : (∀ child ∈ shell.children, 0 < child.pid.number) → ∀ {Request Record State : Type}
    (code : Routine Request Record State) replies progress unread conditions,
      Reaper.CutsIn code replies progress unread shell.foreground shell.errno
        (shell.reap host conditions).errno (shell.handle host conditions).errno
  /-- Its calls deliver what a run of the reaper delivers, and leave the number that it leaves. -/
  calls : (∀ child ∈ shell.children, 0 < child.pid.number) → ∀ conditions,
    Reaper.Leads shell.foreground .looking shell.errno
      (Reaper.run shell.foreground conditions shell.errno shell.children).delivered .ended
      (shell.reap host conditions).errno
  /-- However often handlers cut in, and whatever their calls answer, the code is where it is
  without them. -/
  unaware : ∀ {Request Record State : Type} (code : Routine Request Record State) replies start
    instant, shell.Meets code replies start instant →
      instant.Unaware code replies start shell.errno
  /-- When it looks at a reply, it finds the reason for which this call has failed. -/
  checks : ∀ {Request Record State : Type} (code : Routine Request Record State) replies start
    instant reply, shell.Meets code replies start instant → instant.unread = some reply →
      instant.handling = none →
      Failure.ofReturn reply.value instant.errno = Failure.ofReturn reply.value reply.errno
  /-- This is so for a call that looks after children, -/
  looks : ∀ {Request State : Type} (code : Routine Request Int32 State) replies start instant reply,
    shell.Meets code replies start instant → instant.unread = some reply →
      instant.handling = none →
      readLooked reply.value reply.record instant.errno =
        readLooked reply.value reply.record reply.errno
  /-- and for one that collects a child. -/
  collects : ∀ {Request State : Type} (code : Routine Request WaitStatus State) replies start
    instant reply, shell.Meets code replies start instant → instant.unread = some reply →
      instant.handling = none →
      readCollected reply.value reply.record instant.errno = reply.collected
  /-- When a buffer has been written, what arrived and the number are those of `deliver`. -/
  writes : ∀ bytes results, Writing.Honest bytes results → ∀ instant,
    shell.Meets Writing.routine (fun i => (results i).reply) (.offering bytes) instant →
      instant.unread = none → Writing.routine.IsOver instant.progress → ∀ later,
        JobShell.deliver shell.errno
            ((List.range instant.progress.requests.length).map results ++ later) bytes =
          ⟨Writing.arrived results instant.progress.requests, later, instant.shown⟩
  /-- Waiting for a child stops at the answer at which `waitFor` stops. -/
  waits : ∀ pid replies instant, shell.Meets (waiting pid) replies none instant →
    instant.unread = none →
      WaitsAs pid
        ((List.range instant.progress.requests.length).map fun i => (replies i).collected)
        instant.progress

/-- **Code that is interrupted does not notice the handler for ended children.** Whichever children
have ended and whatever the calls of the handler answer, the number for the reason of a failure is
the same after it as before. So however often it cuts in, and between whichever instructions, the
code makes the same calls, goes on and stops at the same places and finds the same reasons as
without it. -/
theorem handler_goes_unnoticed : shell.Unnoticed host where
  restores := fun _ => rfl
  delivered := shell.errno_deliver host
  disturbs := fun _ hnobody => Reaper.errno_of_reap_all _ _ _ _ _ hnobody
  putsBack := fun _ _ _ _ _ _ _ _ hcutsIn => hcutsIn.left_eq
  cutsIn := fun hpositive _ _ _ code replies progress unread conditions =>
    shell.cutsIn_of_handle host code replies progress unread conditions hpositive
  calls := fun hpositive conditions =>
    Reaper.leads_of_run shell.foreground conditions shell.errno hpositive
  unaware := fun _ _ _ _ hmeets => Instant.unaware_of_reachable hmeets
  checks := by
    intro _ _ _ code replies start instant reply hmeets hunread hidle
    obtain ⟨before, hfound⟩ :=
      (Instant.unaware_of_reachable hmeets).leaves_of_unread hunread hidle
    rw [hfound, Failure.ofReturn_leaves]
  looks := by
    intro _ _ code replies start instant reply hmeets hunread hidle
    obtain ⟨before, hfound⟩ :=
      (Instant.unaware_of_reachable hmeets).leaves_of_unread hunread hidle
    rw [hfound]
    exact readReply_leaves ..
  collects := by
    intro _ _ code replies start instant reply hmeets hunread hidle
    obtain ⟨before, hfound⟩ :=
      (Instant.unaware_of_reachable hmeets).leaves_of_unread hunread hidle
    rw [hfound]
    exact readReply_leaves ..
  writes := by
    -- the progress is that of the calls alone, which `deliver` follows
    intro bytes results hhonest instant hmeets hread hover later
    have hafter : Writing.after shell.errno bytes results _ = (instant.progress, instant.shown) :=
      (Instant.unaware_of_reachable hmeets).settled hread
    have hdeliver := Writing.deliver_of_isOver hhonest (by rwa [hafter]) later
    rwa [hafter] at hdeliver
  waits := by
    intro pid replies instant hmeets hread
    have hafter := (Instant.unaware_of_reachable hmeets).settled hread
    have hwaits := waitsAs_after pid replies shell.errno instant.progress.requests.length
    rwa [hafter] at hwaits

/-- If the handler left its own number behind, waiting that was interrupted would fail instead of
being repeated. -/
example : decide? ⟨7⟩ (readCollected (-1) ⟨0⟩ .interrupted) = none ∧
    decide? ⟨7⟩ (readCollected (-1) ⟨0⟩ .noChild) =
      some (.error (.wait ⟨7⟩ (.os .noChild))) :=
  ⟨rfl, rfl⟩

end Supervisor

end JobShell
