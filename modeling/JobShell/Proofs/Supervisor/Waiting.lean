import JobShell.Proofs.Child.Decoding
import JobShell.Proofs.Supervisor.Restoring
import JobShell.Proofs.Supervisor.Unnoticed

/-!
# JobShell.Proofs.Supervisor.Waiting — waiting ends with the first answer that decides

A call that waits for the foreground child can be interrupted, it can find nobody ready, and it can
bring a child that was only stopped or has gone on. None of this says how the command ended, so the
call is made again. The other answers decide.

* `Skipped` and `Decides` sort the answers. `decide?_eq_none_iff` and `decide?_eq_some_iff` say that
  the supervisor sorts them so, `Reply.skipped_iff` and `Reply.decides_iff` which values and numbers
  of the call are behind them.
* `waitFor_eq_some_iff`: the first answer that decides is the result, and the ones behind it are
  never asked for. `waitFor_filter`: those in front of it make no difference.
* `waiting_after_of_skipped` and `waiting_after_of_decides` say the same call by call, of replies
  that never end.
* `Supervisor.run_waiting`: the supervisor that runs ends with what `waitFor` makes of the answers
  to its calls, and the last of these is the one that decided.
-/

namespace JobShell

/-! ## Answers that decide -/

/-- An answer that says neither how the child ended nor that waiting for it failed. -/
inductive Skipped : Except WaitError (Pid × WaitStatus) → Prop
  /-- A signal handler ran during the call. -/
  | interrupted : Skipped (.error (.failed .interrupted))
  /-- No child was ready. -/
  | notReady : Skipped (.error .notReady)
  /-- The child has not ended: it was stopped or has gone on. -/
  | unended {child : Pid} {status : WaitStatus} (h : status.cause = 127) :
      Skipped (.ok (child, status))

/-- The result that an answer of waiting for a child decides. -/
inductive Decides (pid : Pid) :
    Except WaitError (Pid × WaitStatus) → Except ShellError Termination → Prop
  /-- The child has ended. -/
  | ended {child : Pid} {status : WaitStatus} {termination : Termination}
      (h : status.termination? = some termination) :
      Decides pid (.ok (child, status)) (.ok termination)
  /-- The call failed, and not because it was interrupted. -/
  | failed {errno : Errno} (h : errno ≠ .interrupted) :
      Decides pid (.error (.failed errno)) (.error (.wait pid (.os errno)))

section

variable {pid : Pid} {answer : Except WaitError (Pid × WaitStatus)}
  {answers unused : List (Except WaitError (Pid × WaitStatus))}
  {result : Except ShellError Termination}

theorem decide?_eq_none_iff : decide? pid answer = none ↔ Skipped answer := by
  constructor
  · intro h
    rcases answer with (_ | errno) | ⟨child, status⟩
    · exact .notReady
    · by_cases hinterrupted : errno = .interrupted
      · subst hinterrupted
        exact .interrupted
      · simp [decide?, hinterrupted] at h
    · have hnone : status.termination? = none := by simpa [decide?] using h
      exact .unended (WaitStatus.termination?_eq_none_iff.1 hnone)
  · intro h
    cases h with
    | interrupted => rfl
    | notReady => rfl
    | unended h => rw [decide?, WaitStatus.termination?_eq_none_iff.2 h, Option.map_none]

theorem decide?_eq_some_iff : decide? pid answer = some result ↔ Decides pid answer result := by
  constructor
  · intro h
    rcases answer with (_ | errno) | ⟨child, status⟩
    · cases h
    · by_cases hinterrupted : errno = .interrupted
      · simp [decide?, hinterrupted] at h
      · have hresult : .error (.wait pid (.os errno)) = result := by
          simpa [decide?, hinterrupted] using h
        subst hresult
        exact .failed hinterrupted
    · rcases Option.map_eq_some_iff.1 h with ⟨termination, htermination, rfl⟩
      exact .ended htermination
  · intro h
    cases h with
    | ended h => rw [decide?, h, Option.map_some]
    | failed h => rw [decide?, if_neg h]

instance (answer : Except WaitError (Pid × WaitStatus)) : Decidable (Skipped answer) :=
  decidable_of_iff (decide? .anyChild answer = none) decide?_eq_none_iff

/-- Every answer is skipped, or there is one result that it decides. -/
theorem skipped_or_decides (pid : Pid) (answer : Except WaitError (Pid × WaitStatus)) :
    (Skipped answer ∧ ∀ result, ¬Decides pid answer result) ∨
      (¬Skipped answer ∧ ∃! result, Decides pid answer result) := by
  simp only [← @decide?_eq_none_iff pid, ← decide?_eq_some_iff]
  cases decide? pid answer with
  | none =>
    left
    exact ⟨rfl, nofun⟩
  | some result =>
    right
    exact ⟨nofun, result, rfl, fun _ hother => (Option.some.inj hother).symm⟩

/-- A call that failed is made again if it was interrupted, and also if nobody was ready. -/
theorem skipped_error_iff {reason : WaitError} :
    Skipped (.error reason) ↔ reason.isInterrupted = true ∨ reason = .notReady := by
  rw [← @decide?_eq_none_iff .anyChild]
  cases reason with
  | notReady => exact iff_of_true rfl (.inr rfl)
  | failed errno => simp [decide?, WaitError.isInterrupted]

/-! ## Replies of the call -/

namespace Reply

variable {reply : Reply WaitStatus}

theorem collected_of_failed (h : reply.value = -1) :
    reply.collected = .error (.failed reply.errno) := by
  rw [collected, readCollected, readReply, Failure.ofReturn, if_pos h]

theorem collected_of_zero (h : reply.value = 0) : reply.collected = .error .notReady := by
  have hvalue : reply.value ≠ -1 := by omega
  rw [collected, readCollected, readReply, Failure.ofReturn, if_neg hvalue, if_pos h]

theorem collected_of_number (hfailed : reply.value ≠ -1) (hzero : reply.value ≠ 0) :
    reply.collected = .ok (⟨Int32.ofInt reply.value⟩, reply.record) := by
  rw [collected, readCollected, readReply, Failure.ofReturn, if_neg hfailed, if_neg hzero]

theorem skipped_iff : Skipped reply.collected ↔
    reply.value = -1 ∧ reply.errno = .interrupted ∨ reply.value = 0 ∨
      reply.value ≠ -1 ∧ reply.value ≠ 0 ∧ reply.record.cause = 127 := by
  by_cases hfailed : reply.value = -1
  · rw [collected_of_failed hfailed, ← @decide?_eq_none_iff .anyChild, decide?]
    simp [hfailed]
  · by_cases hzero : reply.value = 0
    · rw [collected_of_zero hzero]
      exact iff_of_true .notReady (.inr (.inl hzero))
    · rw [collected_of_number hfailed hzero, ← @decide?_eq_none_iff .anyChild, decide?,
        Option.map_eq_none_iff, WaitStatus.termination?_eq_none_iff]
      simp [hfailed, hzero]

theorem decides_iff : Decides pid reply.collected result ↔
    (reply.value = -1 ∧ reply.errno ≠ .interrupted ∧
        result = .error (.wait pid (.os reply.errno))) ∨
      (reply.value ≠ -1 ∧ reply.value ≠ 0 ∧
        ∃ termination,
          reply.record.termination? = some termination ∧ result = .ok termination) := by
  by_cases hfailed : reply.value = -1
  · rw [collected_of_failed hfailed, ← decide?_eq_some_iff, decide?]
    simp [hfailed, eq_comm]
  · by_cases hzero : reply.value = 0
    · rw [collected_of_zero hzero]
      simp [← decide?_eq_some_iff, decide?, hzero]
    · rw [collected_of_number hfailed hzero, ← decide?_eq_some_iff, decide?]
      simp [hfailed, hzero, eq_comm]

end Reply

/-! ## Sequences of answers -/

theorem waitFor_of_skipped (h : Skipped answer) :
    waitFor pid (answer :: answers) = waitFor pid answers := by
  rw [waitFor, decide?_eq_none_iff.2 h]

theorem waitFor_of_decides (h : Decides pid answer result) :
    waitFor pid (answer :: answers) = some (result, answers) := by
  rw [waitFor, decide?_eq_some_iff.2 h]

theorem waitFor_eq_none_iff : waitFor pid answers = none ↔ ∀ answer ∈ answers, Skipped answer := by
  induction answers with
  | nil => exact iff_of_true rfl nofun
  | cons answer answers ih =>
    rw [List.forall_mem_cons, ← ih]
    rcases skipped_or_decides pid answer with ⟨hskipped, -⟩ | ⟨hdecisive, result, hdecides, -⟩
    · rw [waitFor_of_skipped hskipped]
      exact (and_iff_right hskipped).symm
    · rw [waitFor_of_decides hdecides]
      exact iff_of_false nofun fun hboth => hdecisive hboth.1

/-- The first answer that decides is the result. The answers in front of it are skipped, and those
behind it are not used. -/
theorem waitFor_eq_some_iff : waitFor pid answers = some (result, unused) ↔
    ∃ skipped answer, answers = skipped ++ answer :: unused ∧
      (∀ other ∈ skipped, Skipped other) ∧ Decides pid answer result := by
  constructor
  · intro h
    induction answers with
    | nil => cases h
    | cons answer answers ih =>
      rcases skipped_or_decides pid answer with ⟨hskipped, -⟩ | ⟨-, decided, hdecides, -⟩
      · rw [waitFor_of_skipped hskipped] at h
        rcases ih h with ⟨skipped, decisive, rfl, hall, hdecides⟩
        exact ⟨answer :: skipped, decisive, rfl, List.forall_mem_cons.2 ⟨hskipped, hall⟩, hdecides⟩
      · rw [waitFor_of_decides hdecides] at h
        cases h
        exact ⟨[], answer, rfl, nofun, hdecides⟩
  · rintro ⟨skipped, answer, rfl, hall, hdecides⟩
    induction skipped with
    | nil => exact waitFor_of_decides hdecides
    | cons other skipped ih =>
      rcases List.forall_mem_cons.1 hall with ⟨hother, hrest⟩
      rw [List.cons_append, waitFor_of_skipped hother]
      exact ih hrest

/-- What waiting comes to depends on the answers that are not skipped only. -/
theorem waitFor_filter (pid : Pid) (answers : List (Except WaitError (Pid × WaitStatus))) :
    (waitFor pid (answers.filter fun answer => ¬Skipped answer)).map Prod.fst =
      (waitFor pid answers).map Prod.fst := by
  induction answers with
  | nil => rfl
  | cons answer answers ih =>
    rcases skipped_or_decides pid answer with ⟨hskipped, -⟩ | ⟨hdecisive, result, hdecides, -⟩
    · rw [List.filter_cons_of_neg (by simpa using hskipped), ih, waitFor_of_skipped hskipped]
    · rw [List.filter_cons_of_pos (by simpa using hdecisive), waitFor_of_decides hdecides,
        waitFor_of_decides hdecides]
      rfl

/-! ## Call by call -/

variable {replies : Nat → Reply WaitStatus} {first : Nat}

/-- One more call, and its answer decides or not. -/
theorem waiting_after_succ {errno : Errno} {n : Nat}
    (h : ((waiting pid).after replies none errno n).1 = ⟨none, List.replicate n pid⟩) :
    ((waiting pid).after replies none errno (n + 1)).1 =
      ⟨decide? pid (replies n).collected, List.replicate (n + 1) pid⟩ := by
  rcases hspot : (waiting pid).after replies none errno n with ⟨progress, found⟩
  rw [hspot] at h
  obtain rfl : progress = ⟨none, List.replicate n pid⟩ := h
  rw [Routine.after, hspot, turn_waiting, List.replicate_succ']

/-- As long as every answer is skipped, waiting goes on, with one call after the other. -/
theorem waiting_after_of_skipped (pid : Pid) (errno : Errno) {n : Nat}
    (h : ∀ i < n, Skipped (replies i).collected) :
    ((waiting pid).after replies none errno n).1 = ⟨none, List.replicate n pid⟩ := by
  induction n with
  | zero => rfl
  | succ n ih =>
    have hbefore := ih fun i hi => h i (Nat.lt_succ_of_lt hi)
    have hskipped := h n (Nat.lt_succ_self n)
    rw [waiting_after_succ hbefore, decide?_eq_none_iff.2 hskipped]

/-- The first answer that decides ends waiting, and no call is made after it. -/
theorem waiting_after_of_decides (errno : Errno) (h : ∀ i < first, Skipped (replies i).collected)
    (hdecides : Decides pid (replies first).collected result) {n : Nat} (hn : first < n) :
    ((waiting pid).after replies none errno n).1 =
      ⟨some result, List.replicate (first + 1) pid⟩ := by
  induction n, hn using Nat.le_induction with
  | base =>
    have hbefore := waiting_after_of_skipped pid errno h
    rw [waiting_after_succ hbefore, decide?_eq_some_iff.2 hdecides]
  | succ n _ ih =>
    have hover : (waiting pid).IsOver ((waiting pid).after replies none errno n).1 := by
      rw [ih]
      rfl
    rw [Routine.after, Routine.turn_of_isOver hover, ih]

end

/-! ## The supervisor that runs -/

/-- The result that a supervisor has found, once it does not wait any more. -/
def Phase.found? : Phase → Option (Except ShellError Termination)
  | .collected _ result | .cleared _ result | .reporting _ _ result | .reported _ _ result
  | .leaving _ result | .finished result => some result
  | _ => none

namespace Supervisor

variable {World File Place : Type} {host : Host World File Place} {command : Command}
  {guard : Registration} {pid : Pid} {phase : Phase} {shell : Supervisor World File Place}
  {result : Except ShellError Termination}

/-- No step after waiting changes the result. -/
theorem found?_step (h : phase.found? = some result) :
    (step host command phase shell).1.found? = some result := by
  cases phase with
  | cleared guard other =>
    rw [step]
    split <;> exact h
  | collected | reporting | reported | leaving | finished => exact h
  | _ => cases h

/-- A supervisor that has found a result ends with it. -/
theorem run_of_found (patience : Nat) (h : phase.found? = some result) :
    (run host command patience phase shell).1 = result := by
  fun_induction run host command patience phase shell with
  | case1 patience phase shell other hresult =>
    cases phase with
    | finished =>
      rw [Phase.result?, Option.some.injEq] at hresult
      rw [Phase.found?, Option.some.injEq] at h
      exact hresult.symm.trans h
    | _ => cases hresult
  | case2 phase shell _ hwaiting _ =>
    cases phase with
    | waiting => cases h
    | _ => cases hwaiting
  | case3 phase shell _ _ patience advanced ih => exact ih (found?_step h)
  | case4 patience phase shell _ _ advanced ih => exact ih (found?_step h)

/-- The answers to the calls of a supervisor while it waits, in order. A call that would have to
wait for something to happen has no answer. -/
def heard (host : Host World File Place) (command : Command) (patience : Nat) (phase : Phase)
    (shell : Supervisor World File Place) : List (Except WaitError (Pid × WaitStatus)) :=
  match patience, phase with
  | patience + 1, .waiting guard pid =>
    let advanced := advance host command (.waiting guard pid) shell
    (shell.children.wait (.child pid) false).1.toList ++
      heard host command patience advanced.1 advanced.2
  | _, _ => []

theorem heard_of_found (patience : Nat) (h : phase.found? = some result) :
    heard host command patience phase shell = [] := by
  cases phase with
  | waiting => cases h
  | _ => cases patience <;> rfl

/-- A call without an answer is made again, and any other one leads where its answer leads. -/
theorem advance_waiting (host : Host World File Place) (command : Command) (guard : Registration)
    (pid : Pid) (shell : Supervisor World File Place) :
    (advance host command (.waiting guard pid) shell).1 =
      (shell.children.wait (.child pid) false).1.elim (.waiting guard pid)
        (Phase.answered guard pid) := by
  change (shell.waitOnce host guard pid).1 = _
  rcases hwait : shell.children.wait (.child pid) false with ⟨_ | answer, children⟩
  · rw [waitOnce, hwait]
    rfl
  · rw [waitOnce, hwait, Option.elim_some, Phase.answered]
    cases hdecided : decide? pid answer <;> simp only [hdecided]

/-- The run lemma: a supervisor that waits ends with the last answer that it has heard, and this is
the first one that decides; or it has heard none that does, and has given up. -/
theorem run_waiting (patience : Nat) (h : phase = .waiting guard pid) :
    (∃ result, waitFor pid (heard host command patience phase shell) = some (result, []) ∧
      (run host command patience phase shell).1 = result) ∨
    (waitFor pid (heard host command patience phase shell) = none ∧
      (run host command patience phase shell).1 = .error (.wait pid (.os .interrupted))) := by
  fun_induction run host command patience phase shell with
  | case1 patience phase shell result hresult =>
    subst h
    cases hresult
  | case2 phase shell _ _ _ =>
    subst h
    right
    exact ⟨rfl, run_of_found 0 rfl⟩
  | case3 phase shell _ _ patience advanced ih =>
    subst h
    have hphase : advanced.1 = _ := advance_waiting host command guard pid shell
    rw [heard]
    cases hreply : (shell.children.wait (.child pid) false).1 with
    | none =>
      rw [hreply, Option.elim_none] at hphase
      exact ih hphase
    | some answer =>
      rw [hreply, Option.elim_some, Phase.answered] at hphase
      rw [Option.toList_some, List.singleton_append]
      rcases skipped_or_decides pid answer with ⟨hskipped, -⟩ | ⟨-, result, hdecides, -⟩
      · rw [decide?_eq_none_iff.2 hskipped] at hphase
        rw [waitFor_of_skipped hskipped]
        exact ih hphase
      · rw [decide?_eq_some_iff.2 hdecides] at hphase
        have hfound : advanced.1.found? = some result := by
          rw [hphase]
          rfl
        left
        refine ⟨result, ?_, run_of_found patience hfound⟩
        rw [waitFor_of_decides hdecides, heard_of_found patience hfound]
  | case4 patience phase shell _ hwaiting advanced _ =>
    subst h
    exact absurd rfl hwaiting

end Supervisor

/-! ## Waiting -/

/-- What waiting for a child comes to. -/
structure WaitsForDecision (pid : Pid) : Prop where
  /-- An answer is skipped, or it decides one result. -/
  sorted : ∀ answer, (Skipped answer ∧ ∀ result, ¬Decides pid answer result) ∨
    (¬Skipped answer ∧ ∃! result, Decides pid answer result)
  /-- A call that failed is skipped by the same test for interruptions as everywhere. -/
  failures : ∀ reason : WaitError,
    Skipped (.error reason) ↔ reason.isInterrupted = true ∨ reason = .notReady
  /-- Skipped are the calls that were interrupted, that found nobody ready, or that brought the
  status of a child that has not ended, -/
  skips : ∀ reply : Reply WaitStatus, Skipped reply.collected ↔
    reply.value = -1 ∧ reply.errno = .interrupted ∨ reply.value = 0 ∨
      reply.value ≠ -1 ∧ reply.value ≠ 0 ∧ reply.record.cause = 127
  /-- and the others decide: a failure with its reason, a status with what it says of the child. -/
  decides : ∀ (reply : Reply WaitStatus) result, Decides pid reply.collected result ↔
    (reply.value = -1 ∧ reply.errno ≠ .interrupted ∧
        result = .error (.wait pid (.os reply.errno))) ∨
      (reply.value ≠ -1 ∧ reply.value ≠ 0 ∧
        ∃ termination, reply.record.termination? = some termination ∧ result = .ok termination)
  /-- The result is that of the first answer that decides, and those behind it are not used. -/
  first : ∀ answers result unused, waitFor pid answers = some (result, unused) ↔
    ∃ skipped answer, answers = skipped ++ answer :: unused ∧
      (∀ other ∈ skipped, Skipped other) ∧ Decides pid answer result
  /-- There is no result as long as every answer is skipped. -/
  undecided : ∀ answers, waitFor pid answers = none ↔ ∀ answer ∈ answers, Skipped answer
  /-- Skipped answers make no difference, wherever they are and however many. -/
  unaffected : ∀ answers others : List (Except WaitError (Pid × WaitStatus)),
    (answers.filter fun answer => ¬Skipped answer) =
        (others.filter fun answer => ¬Skipped answer) →
      (waitFor pid answers).map Prod.fst = (waitFor pid others).map Prod.fst
  /-- Call by call, waiting goes on with a call for this child after each answer that is skipped, -/
  goesOn : ∀ replies errno n, (∀ i < n, Skipped (replies i).collected) →
    ((waiting pid).after replies none errno n).1 = ⟨none, List.replicate n pid⟩
  /-- and it makes no call after the first one that decides. -/
  stops : ∀ replies errno first result, (∀ i < first, Skipped (replies i).collected) →
    Decides pid (replies first).collected result → ∀ n, first < n →
      ((waiting pid).after replies none errno n).1 = ⟨some result, List.replicate (first + 1) pid⟩
  /-- The supervisor of a command ends with the result of the answers that it has heard, and the
  last of them is the one that decided, unless its patience has come to an end. -/
  runs : ∀ {World File Place : Type} (host : Host World File Place) command patience guard
    (shell : Supervisor World File Place),
    (∃ result, waitFor pid (shell.heard host command patience (.waiting guard pid)) =
          some (result, []) ∧
        (shell.run host command patience (.waiting guard pid)).1 = result) ∨
      (waitFor pid (shell.heard host command patience (.waiting guard pid)) = none ∧
        (shell.run host command patience (.waiting guard pid)).1 =
          .error (.wait pid (.os .interrupted)))

/-- **Waiting for a child ends with the first answer that decides.** Whatever the calls answer, and
in whichever order, interruptions, answers without a child and children that have not ended are
passed over. The first answer of another kind is the result: how the child ended, or why the call
failed. After that no call is made. -/
theorem waits_for_decision (pid : Pid) : WaitsForDecision pid where
  sorted := skipped_or_decides pid
  failures := fun _ => skipped_error_iff
  skips := fun _ => Reply.skipped_iff
  decides := fun _ _ => Reply.decides_iff
  first := fun _ _ _ => waitFor_eq_some_iff
  undecided := fun _ => waitFor_eq_none_iff
  unaffected := by
    intro answers others hsame
    rw [← waitFor_filter, hsame, waitFor_filter]
  goesOn := fun _ errno _ hskipped => waiting_after_of_skipped pid errno hskipped
  stops := fun _ errno _ _ hskipped hdecides _ hn =>
    waiting_after_of_decides errno hskipped hdecides hn
  runs := fun _ _ patience _ _ => Supervisor.run_waiting patience rfl

/-- An interruption, nobody ready and a child that was stopped are passed over, and what comes after
the end of the child is not used. -/
example : waitFor ⟨7⟩ [.error (.failed .interrupted), .error .notReady, .ok (⟨7⟩, ⟨0x137f⟩),
    .ok (⟨7⟩, .ofExit 3), .error (.failed .noChild)] =
      some (.ok (.exited 3), [.error (.failed .noChild)]) :=
  rfl

end JobShell
