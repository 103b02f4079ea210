import JobShell.Proofs.Child.Rounds
import JobShell.Proofs.System.Writing

/-!
# JobShell.Proofs.Child.Calls — the reaper, call by call

A round of the reaper is up to two calls that look after children and those that write a notice.
Where it goes on depends on what each of them hands back and on the number that is then found.
`Reaper.routine` is the reaper as such code. It does not know what its calls answer, so nothing is
assumed about them.

* `Reaper.Leads` says that the reaper can come from one place to another, and which bytes its calls
  deliver on the way.
* `Reaper.leads_of_look`, `leads_of_collect` and `leads_of_deliver` are the parts of a round,
  `leads_of_round` is the round and `leads_of_rounds` the loop.
* `Reaper.leads_of_reap`: every run of the reaper is made of such calls.
-/

namespace JobShell

namespace Reaper

/-- A call of the reaper. -/
inductive Request where
  | look
  | collect (pid : Pid)
  | write (bytes : Bytes)
deriving DecidableEq, Repr

/-- What a call can put into the records of the reaper. -/
structure Record where
  number : Int32 := 0
  status : WaitStatus := ⟨0⟩
deriving DecidableEq, Repr

/-- Where the reaper stands. -/
inductive Stage where
  | looking
  | collecting (pid : Pid)
  /-- The next call offers these bytes of a notice. -/
  | writing (rest : Bytes)
  | ended
  /-- A call took more than it was offered. -/
  | outOfRange
deriving DecidableEq, Repr

namespace Stage

/-- After a failure, the reaper begins again if a call was interrupted. -/
def failed (reason : WaitError) : Stage :=
  if reason.isInterrupted then looking else ended

/-- How it goes on after a look. -/
def looked (foreground : Option Pid) : Except WaitError Pid → Stage
  | .ok pid => if foreground = some pid then ended else collecting pid
  | .error reason => failed reason

/-- How it goes on while it writes a notice; whatever became of that, it begins again. -/
def written : Writing → Stage
  | .offering [] => looking
  | .offering (byte :: rest) => writing (byte :: rest)
  | .stopped => looking
  | .outOfRange => outOfRange

/-- How it goes on after it has collected a child. -/
def collected : Except WaitError (Pid × WaitStatus) → Stage
  | .ok (pid, status) =>
    match status.termination? with
    | some termination => written (.offering (Notice.of pid termination))
    | none => looking
  | .error reason => failed reason

end Stage

/-- The reaper, call by call. -/
def routine (foreground : Option Pid) : Routine Request Record Stage
  | .looking => .calls .look fun value record found =>
    .looked foreground (readLooked value record.number found)
  | .collecting pid => .calls (.collect pid) fun value record found =>
    .collected (readCollected value record.status found)
  | .writing rest => .calls (.write rest) fun value _ found =>
    .written (Writing.resume rest value found)
  | .ended => .ends
  | .outOfRange => .ends

/-- What a call delivers. -/
def arrives (reply : Reply Record) : Request → Bytes
  | .write bytes => bytes.take reply.value.toNat
  | _ => []

/-- The reaper can come from one place to another, and the number with it. The calls that it makes
deliver these bytes. -/
inductive Leads (foreground : Option Pid) : Stage → Errno → Bytes → Stage → Errno → Prop
  | here {stage errno} : Leads foreground stage errno [] stage errno
  | call {stage errno request resume later last left} (reply : Reply Record)
      (asks : routine foreground stage = .calls request resume)
      (goesOn : Leads foreground (resume reply.value reply.record (reply.leaves errno))
        (reply.leaves errno) later last left) :
      Leads foreground stage errno (arrives reply request ++ later) last left

variable {foreground : Option Pid} {stage middle last : Stage} {errno between left : Errno}
  {bytes later : Bytes}

theorem Leads.trans (h : Leads foreground stage errno bytes middle between)
    (hlater : Leads foreground middle between later last left) :
    Leads foreground stage errno (bytes ++ later) last left := by
  induction h with
  | here => exact hlater
  | call reply asks _ ih =>
    rw [List.append_assoc]
    exact .call reply asks (ih hlater)

/-- The number after a call that looks after children, by what it was read as. -/
def leftBy {Answer : Type} (errno : Errno) : Except WaitError Answer → Errno
  | .ok _ => errno
  | .error reason => errnoAfter errno reason

/-- One call. -/
theorem Leads.one {request : Request} {resume : Int → Record → Errno → Stage}
    (reply : Reply Record) (asks : routine foreground stage = .calls request resume)
    (hbytes : arrives reply request = bytes)
    (hstage : resume reply.value reply.record (reply.leaves errno) = last)
    (hleft : reply.leaves errno = left) : Leads foreground stage errno bytes last left := by
  subst hbytes hstage hleft
  have hcall : Leads foreground stage errno (_ ++ []) _ _ := .call reply asks .here
  rwa [List.append_nil] at hcall

/-- What a call is read as tells the number that it leaves, unless its answer is a failure. -/
theorem leftBy_readReply {Record Answer : Type} (reply : Reply Record) (before : Errno)
    {answer : Except WaitError Answer} (hanswer : leftBy before answer = before) :
    leftBy before (readReply reply.value (reply.leaves before) answer) = reply.leaves before := by
  by_cases hfailed : reply.value = -1
  · simp only [Reply.leaves, if_pos hfailed, readReply, Failure.ofReturn]
    rfl
  · simp only [Reply.leaves, if_neg hfailed, readReply, Failure.ofReturn, hanswer]

/-- The reaper's loop looks with one call. -/
theorem leads_of_look (foreground : Option Pid) (loop : Loop) :
    Leads foreground .looking loop.errno [] (.looked foreground loop.look.1)
      (leftBy loop.errno loop.look.1) := by
  have hreply : ∃ reply : Reply Record,
      readLooked reply.value reply.record.number (reply.leaves loop.errno) = loop.look.1 := by
    cases hinterrupted : loop.interruptions.headD false with
    | true =>
      refine ⟨{ value := -1, record := {}, errno := .interrupted }, ?_⟩
      exact (if_pos hinterrupted).symm
    | false =>
      rw [Loop.look_of_passed hinterrupted, ← loop.children.readLooked_peekCall loop.errno]
      exact ⟨⟨(Children.lookReply loop.children.peekCall).value,
        { number := (Children.lookReply loop.children.peekCall).record },
        (Children.lookReply loop.children.peekCall).errno⟩, rfl⟩
  obtain ⟨reply, hread⟩ := hreply
  refine .one reply rfl rfl (congrArg _ hread) ?_
  rw [← hread]
  exact (leftBy_readReply reply loop.errno (by split <;> rfl)).symm

/-- The reaper's loop collects with one call. -/
theorem leads_of_collect (foreground : Option Pid) (loop : Loop)
    (hpositive : ∀ child ∈ loop.children, 0 < child.pid.number) (pid : Pid) :
    Leads foreground (.collecting pid) loop.errno [] (.collected (loop.collect pid).1)
      (leftBy loop.errno (loop.collect pid).1) := by
  have hreply : ∃ reply : Reply Record,
      readCollected reply.value reply.record.status (reply.leaves loop.errno) =
        (loop.collect pid).1 := by
    cases hinterrupted : loop.interruptions.headD false with
    | true =>
      refine ⟨{ value := -1, record := {}, errno := .interrupted }, ?_⟩
      simp only [Loop.collect, if_pos hinterrupted]
      rfl
    | false =>
      have hread := Children.readCollected_collectCall hpositive (.child pid) true loop.errno
      simp only [Loop.collect, hinterrupted, if_neg Bool.false_ne_true, ← hread]
      cases (Children.collectCall (.child pid) true loop.children).1.reply? with
      | some reply => exact ⟨⟨reply.value, { status := reply.record }, reply.errno⟩, rfl⟩
      -- a call that would wait brings as little as one that finds nobody
      | none => exact ⟨{ value := 0, record := {} }, rfl⟩
  obtain ⟨reply, hread⟩ := hreply
  refine .one reply rfl rfl (congrArg _ hread) ?_
  rw [← hread]
  exact (leftBy_readReply reply loop.errno (by split <;> rfl)).symm

/-! ## Writing a notice -/

/-- A call that takes more than it is offered might as well take just that. -/
theorem exists_fitting (errno : Errno) (result : WriteResult) (hne : bytes ≠ []) :
    ∃ fitting : WriteResult, fitting.count ≤ bytes.length ∧
      (fitting.Succeeds ↔ result.Succeeds) ∧ bytes.take fitting.count = bytes.take result.count ∧
      bytes.drop fitting.count = bytes.drop result.count ∧
      fitting.reply.leaves errno = result.reply.leaves errno := by
  have hlength : 0 < bytes.length := List.length_pos_of_ne_nil hne
  by_cases hfits : result.count ≤ bytes.length
  · exact ⟨result, hfits, .rfl, rfl, rfl, rfl⟩
  · cases result with
    | accepted count =>
      have hmore : bytes.length ≤ count := Nat.le_of_not_le hfits
      refine ⟨.accepted bytes.length, Nat.le_refl _, ?_, ?_, ?_, ?_⟩
      · exact iff_of_true hlength (Nat.lt_of_lt_of_le hlength hmore)
      · exact (List.take_length ..).trans (List.take_of_length_le hmore).symm
      · exact (List.drop_length ..).trans (List.drop_of_length_le hmore).symm
      · rw [WriteResult.leaves_accepted, WriteResult.leaves_accepted]
    | failed reason => exact absurd (Nat.zero_le _) hfits

/-- One call that writes. -/
theorem leads_of_write (foreground : Option Pid) (errno : Errno) (result : WriteResult)
    (hne : bytes ≠ []) :
    Leads foreground (.written (.offering bytes)) errno (bytes.take result.count)
      (.written (if result.Succeeds then .offering (bytes.drop result.count) else .stopped))
      (result.reply.leaves errno) := by
  obtain ⟨fitting, hfits, hsucceeds, htake, hdrop, hleaves⟩ :=
    exists_fitting errno result hne
  have hresume := Writing.resume_reply hfits errno
  simp only [hsucceeds, hdrop] at hresume
  obtain ⟨byte, rest, rfl⟩ := List.exists_cons_of_ne_nil hne
  refine .one ⟨fitting.reply.value, {}, fitting.reply.errno⟩ rfl ?_ (congrArg _ hresume) hleaves
  rw [← htake]
  cases fitting <;> rfl

/-- Whatever becomes of a notice, the reaper looks again. -/
theorem leads_of_deliver (foreground : Option Pid) (errno : Errno) (results : List WriteResult)
    (bytes : Bytes) :
    Leads foreground (.written (.offering bytes)) errno (deliver errno results bytes).delivered
      .looking (deliver errno results bytes).errno := by
  -- each call takes one of the results, and the one behind the last takes everything
  induction results generalizing errno bytes with
  | nil =>
    by_cases hne : bytes = []
    · subst hne
      exact .here
    · have hwrite := leads_of_write foreground errno (.accepted bytes.length) hne
      have hall : (WriteResult.accepted bytes.length).Succeeds := List.length_pos_of_ne_nil hne
      rw [if_pos hall, WriteResult.leaves_accepted, WriteResult.count, List.take_length,
        List.drop_length] at hwrite
      obtain ⟨byte, rest, rfl⟩ := List.exists_cons_of_ne_nil hne
      exact hwrite
  | cons result results ih =>
    by_cases hne : bytes = []
    · subst hne
      exact .here
    · have hwrite := leads_of_write foreground errno result hne
      rw [deliver_cons errno result results hne]
      by_cases hsucceeds : result.Succeeds
      · rw [if_pos hsucceeds] at hwrite ⊢
        exact hwrite.trans (ih ..)
      · -- writing stops, and what is left of the notice is lost
        rw [if_neg hsucceeds] at hwrite ⊢
        rw [Writing.count_of_not_succeeds hsucceeds] at hwrite
        exact hwrite

/-! ## The loop -/

/-- Collecting puts nobody into the table. -/
theorem wait_sublist (target : WaitTarget) (noHang : Bool) (children : Children) :
    (children.wait target noHang).2.Sublist children := by
  have hrest : (children.wait target noHang).2 =
      (Children.collectCall target noHang children).2 := by
    rw [Children.wait]
    split <;> next hcall => rw [hcall]
  rw [hrest, Children.collectCall]
  split
  · exact List.eraseP_sublist
  · split <;> exact .refl _

/-- Collecting changes nothing else. -/
theorem exists_collect (pid : Pid) (loop : Loop) :
    ∃ children, children.Sublist loop.children ∧
      (loop.collect pid).2 =
        { loop with interruptions := loop.interruptions.tail, children } := by
  cases hinterrupted : loop.interruptions.headD false with
  | true =>
    refine ⟨loop.children, .refl _, ?_⟩
    simp only [Loop.collect, if_pos hinterrupted]
  | false =>
    refine ⟨_, wait_sublist (.child pid) true loop.children, ?_⟩
    simp only [Loop.collect, hinterrupted, if_neg Bool.false_ne_true]

/-- The rest of a round after a look that has found a child. -/
def Loop.take (pid : Pid) (loop : Loop) : Bool × Loop :=
  match loop.collect pid with
  | (.error reason, loop) => loop.fail reason
  | (.ok (pid, status), loop) =>
    match status.termination? with
    | some termination => (true, loop.notify pid termination)
    | none => (true, loop)

theorem Loop.round_eq_take (foreground : Option Pid) (loop : Loop) :
    loop.round foreground =
      match loop.look with
      | (.error reason, loop) => loop.fail reason
      | (.ok pid, loop) => if foreground = some pid then (false, loop) else loop.take pid :=
  rfl

/-- Collecting a child and writing its notice comes back to a look, or ends the reaper. -/
theorem leads_of_take (foreground : Option Pid) {loop next : Loop} {again : Bool} {pid : Pid}
    (h : loop.take pid = (again, next))
    (hpositive : ∀ child ∈ loop.children, 0 < child.pid.number) :
    ∃ delivered, next.delivered = loop.delivered ++ delivered ∧
      next.children.Sublist loop.children ∧
      Leads foreground (.collecting pid) loop.errno delivered (if again then .looking else .ended)
        next.errno := by
  have hcollects := leads_of_collect foreground loop hpositive pid
  obtain ⟨children, hsublist, hcollected⟩ := exists_collect pid loop
  rw [Loop.take] at h
  rcases hcollect : loop.collect pid with ⟨reason | ⟨found, status⟩, collected⟩
  all_goals
    rw [hcollect] at hcollects hcollected h
    obtain rfl : collected =
        { loop with interruptions := loop.interruptions.tail, children } := hcollected
  · cases h
    exact ⟨[], (List.append_nil _).symm, hsublist, hcollects⟩
  · dsimp only at h
    rw [Stage.collected] at hcollects
    split at h
    · next hdecoded =>
      cases h
      rw [hdecoded] at hcollects
      exact ⟨_, rfl, hsublist, hcollects.trans (leads_of_deliver ..)⟩
    · next hdecoded =>
      cases h
      rw [hdecoded] at hcollects
      exact ⟨[], (List.append_nil _).symm, hsublist, hcollects⟩

/-- A round is a sequence of calls that comes back to a look, or ends the reaper. -/
theorem leads_of_round {loop next : Loop} {again : Bool}
    (h : loop.round foreground = (again, next))
    (hpositive : ∀ child ∈ loop.children, 0 < child.pid.number) :
    ∃ delivered, next.delivered = loop.delivered ++ delivered ∧
      next.children.Sublist loop.children ∧
      Leads foreground .looking loop.errno delivered (if again then .looking else .ended)
        next.errno := by
  have hlooks := leads_of_look foreground loop
  rw [Loop.round_eq_take] at h
  rcases hlook : loop.look with ⟨reason | pid, looked⟩
  all_goals
    rw [hlook] at hlooks h
    obtain rfl : { loop with interruptions := loop.interruptions.tail } = looked :=
      congrArg Prod.snd hlook
  · cases h
    exact ⟨[], (List.append_nil _).symm, .refl _, hlooks⟩
  · dsimp only at h
    rw [Stage.looked] at hlooks
    split at h
    · next hown =>
      cases h
      rw [if_pos hown] at hlooks
      exact ⟨[], (List.append_nil _).symm, .refl _, hlooks⟩
    · next hother =>
      rw [if_neg hother] at hlooks
      obtain ⟨delivered, hdelivered, hsublist, htakes⟩ :=
        leads_of_take foreground h hpositive
      exact ⟨delivered, hdelivered, hsublist, hlooks.trans htakes⟩

/-- The loop is a sequence of calls that ends the reaper. -/
theorem leads_of_rounds {loop last : Loop} {fuel : Nat}
    (h : Loop.rounds foreground fuel loop = some last)
    (hpositive : ∀ child ∈ loop.children, 0 < child.pid.number) :
    ∃ delivered, last.delivered = loop.delivered ++ delivered ∧
      Leads foreground .looking loop.errno delivered .ended last.errno := by
  induction fuel generalizing loop with
  | zero => cases h
  | succ fuel ih =>
    rcases hround : loop.round foreground with ⟨_ | _, next⟩
    · rw [Loop.rounds_of_end hround] at h
      cases h
      obtain ⟨delivered, hdelivered, -, hleads⟩ := leads_of_round hround hpositive
      exact ⟨delivered, hdelivered, hleads⟩
    · rw [Loop.rounds_of_again hround] at h
      obtain ⟨delivered, hdelivered, hsublist, hleads⟩ := leads_of_round hround hpositive
      obtain ⟨later, hlater, hgoesOn⟩ :=
        ih h fun child hmem => hpositive child (hsublist.subset hmem)
      refine ⟨delivered ++ later, ?_, hleads.trans hgoesOn⟩
      rw [hlater, hdelivered, List.append_assoc]

/-- Every run of the reaper is made of its calls: they deliver what the run delivers, and leave the
number behind that it leaves. -/
theorem leads_of_run (foreground : Option Pid) (conditions : ReapConditions) (errno : Errno)
    {children : Children} (hpositive : ∀ child ∈ children, 0 < child.pid.number) :
    Leads foreground .looking errno (run foreground conditions errno children).delivered .ended
      (run foreground conditions errno children).errno := by
  obtain ⟨last, hlast, hmatches⟩ := endsAs_of_reap conditions.interruptions conditions.writes errno
    children 0 [] (Nat.le_add_right _ _)
  obtain ⟨delivered, hdelivered, hleads⟩ := leads_of_rounds hlast hpositive
  have hsame : delivered = (run foreground conditions errno children).delivered :=
    hdelivered.symm.trans hmatches.delivered
  rw [← hsame]
  exact hmatches.errno ▸ hleads

end Reaper

end JobShell
