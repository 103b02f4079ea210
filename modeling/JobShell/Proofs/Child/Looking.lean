import JobShell.Proofs.Child.Drain
import JobShell.Proofs.System.Calls

/-!
# JobShell.Proofs.Child.Looking — what is looked at is what is collected

The reaper looks which child it would collect next before it collects that child. These are two
calls of the kernel, and each has its own way to say that there is nothing yet: collecting hands
back zero, and looking leaves zero in a record. `Children.peek` and `Children.wait` read both.

* `CollectReply.reply?` and `lookReply` are what the calls hand back, with `-1` for a failure;
  `readCollected_collectCall` and `readLooked_peekCall` compare the readings with the tables.
* `lookCall` is the looking call with its flag. Without the flag it would take the child
  (`lookCall_taking`).
* `peek_eq_map` is the comparison, by the first child that has ended if there is one;
  `peek_eq_ok_iff` and `peek_eq_error_iff` are its two sides.
* `Children.looks_ahead`: looking and collecting agree on every table.
-/

namespace JobShell

/-- The children that are waited for in the name of a process number. -/
def Pid.target (pid : Pid) : WaitTarget :=
  if pid = anyChild then .any else .child pid

theorem Pid.target_anyChild : anyChild.target = .any :=
  if_pos rfl

theorem Pid.includes_target (child : Child) : child.pid.target.includes child = true := by
  rw [target]
  split
  · rfl
  · exact beq_self_eq_true child.pid

namespace Children

/-! ## What the calls hand back -/

/-- What the collecting call hands back, if it does not wait. -/
def CollectReply.reply? : CollectReply → Option (Reply WaitStatus)
  | .value number status => some { value := number.toInt, record := status }
  | .failed errno => some { value := -1, record := ⟨0⟩, errno }
  | .blocks => none

/-- What the looking call hands back. Its record was zero before. -/
def lookReply : Except Errno Int32 → Reply Int32
  | .ok number => { value := 0, record := number }
  | .error errno => { value := -1, record := 0, errno }

/-- The looking call, and the table after it: the child is left where it is if the flag for that is
set. -/
def lookCall (keep : Bool) (children : Children) : Except Errno Int32 × Children :=
  (children.peekCall, if keep then children else children.eraseP Child.hasEnded)

theorem isReady_any : isReady .any = Child.hasEnded :=
  funext fun child => Bool.true_and child.hasEnded

/-- Without its flag, looking would take the child that collecting takes. -/
theorem lookCall_taking (children : Children) :
    (lookCall false children).2 = (children.wait .any true).2 := by
  rw [lookCall, wait, collectCall, isReady_any]
  cases hfind : children.find? Child.hasEnded with
  | some child => rfl
  | none =>
    have herase : children.eraseP Child.hasEnded = children :=
      List.eraseP_of_forall_not (List.find?_eq_none.1 hfind)
    cases hany : children.any WaitTarget.any.includes <;> simp [herase]

theorem readLooked_peekCall (children : Children) (before : Errno) :
    readLooked (lookReply children.peekCall).value (lookReply children.peekCall).record
      ((lookReply children.peekCall).leaves before) = children.peek := by
  rw [peek]
  cases children.peekCall with
  | ok number => rfl
  | error errno => rfl

theorem readCollected_of_number {number : Int32} (h : 0 ≤ number) (status : WaitStatus)
    (before : Errno) :
    readCollected number.toInt status before =
      if number = 0 then .error .notReady else .ok (⟨number⟩, status) := by
  have hnumber : 0 ≤ number.toInt := Int32.le_iff_toInt_le.1 h
  have hfailed : number.toInt ≠ -1 := by omega
  have hzero : number.toInt = 0 ↔ number = 0 := Int32.toInt_inj (y := 0)
  rw [readCollected, readReply, Failure.ofReturn, if_neg hfailed]
  simp only [hzero, Int32.ofInt_toInt]

theorem readCollected_collectCall {children : Children}
    (hpositive : ∀ child ∈ children, 0 < child.pid.number) (target : WaitTarget) (noHang : Bool)
    (before : Errno) :
    ((collectCall target noHang children).1.reply?.map fun reply =>
        readCollected reply.value reply.record (reply.leaves before)) =
      (children.wait target noHang).1 := by
  rw [wait, collectCall]
  cases hfind : children.find? (isReady target) with
  | some child =>
    have hnumber := Int32.le_of_lt (hpositive child (List.mem_of_find?_eq_some hfind))
    exact congrArg some (readCollected_of_number hnumber _ _)
  | none => cases hany : children.any target.includes <;> cases noHang <;> rfl

/-! ## Looking and collecting -/

/-- While every child runs, collecting without waiting answers what a look answers. -/
theorem wait_any_of_running {children : Children}
    (h : ∀ child ∈ children, child.hasEnded = false) :
    children.wait .any true =
      (some (.error (if children.isEmpty then .failed .noChild else .notReady)), children) := by
  have hfind : children.find? (isReady .any) = none := by
    rw [isReady_any, List.find?_eq_none]
    intro child hmem
    simp [h child hmem]
  have hany : children.any WaitTarget.any.includes = !children.isEmpty := by
    cases children with
    | nil => rfl
    | cons child children => rfl
  rw [wait, collectCall, hfind, hany]
  cases children.isEmpty <;> rfl

/-- Collecting any child takes the first one that has ended. -/
theorem wait_any_of_split {before after : Children} {child : Child} {status : WaitStatus}
    (hbefore : ∀ other ∈ before, other.hasEnded = false) (hstatus : child.status = some status) :
    wait .any true (before ++ child :: after) =
      (some (if child.pid.number = 0 then .error .notReady else .ok (child.pid, status)),
        before ++ after) := by
  refine wait_eq_of_split (fun other hmem => ?_) rfl hstatus
  rw [isReady_any]
  exact hbefore other hmem

/-- A look answers what collecting would answer, without the status. -/
theorem peek_eq_map (children : Children) :
    ∃ answer, (children.wait .any true).1 = some answer ∧
      children.peek = answer.map Prod.fst := by
  rcases running_or_split children with hrunning | ⟨before, child, after, status, rfl, hbefore, hs⟩
  · exact ⟨_, congrArg Prod.fst (wait_any_of_running hrunning), peek_eq_of_running hrunning⟩
  · have hended : child.hasEnded = true := Child.hasEnded_iff.2 ⟨status, hs⟩
    refine ⟨_, congrArg Prod.fst (wait_any_of_split hbefore hs), ?_⟩
    rw [peek_eq_of_split hbefore hended]
    split <;> rfl

/-- A look fails as collecting any child would. -/
theorem peek_eq_error_iff {children : Children} {reason : WaitError} :
    children.peek = .error reason ↔
      (children.wait Pid.anyChild.target true).1 = some (.error reason) := by
  obtain ⟨answer, hwait, hpeek⟩ := children.peek_eq_map
  rw [Pid.target_anyChild, hwait, hpeek]
  cases answer <;> simp [Except.map]

/-- A look finds the child that collecting any child would bring. -/
theorem peek_eq_ok_iff {children : Children} {pid : Pid} :
    children.peek = .ok pid ↔
      ∃ status, (children.wait Pid.anyChild.target true).1 = some (.ok (pid, status)) := by
  obtain ⟨answer, hwait, hpeek⟩ := children.peek_eq_map
  rw [Pid.target_anyChild, hwait, hpeek]
  cases answer with
  | ok found => simp [Except.map, Prod.ext_iff]
  | error error => simp [Except.map]

/-- A look says that nobody has ended yet exactly if there are children that all run. -/
theorem peek_eq_notReady_iff {children : Children}
    (hpositive : ∀ child ∈ children, 0 < child.pid.number) :
    children.peek = .error .notReady ↔
      children ≠ [] ∧ ∀ child ∈ children, child.hasEnded = false := by
  rcases running_or_split children with hrunning | ⟨before, child, after, status, rfl, hbefore, hs⟩
  · rw [peek_eq_of_running hrunning]
    cases children with
    | nil => simp
    | cons child children => simpa using hrunning
  · have hended : child.hasEnded = true := Child.hasEnded_iff.2 ⟨status, hs⟩
    have hnumber : child.pid.number ≠ 0 := (Int32.ne_of_lt (hpositive child (by simp))).symm
    rw [peek_eq_of_split hbefore hended, if_neg hnumber]
    refine iff_of_false nofun fun hall => ?_
    rw [hall.2 child (by simp)] at hended
    cases hended

/-- A look fails exactly if there are no children. -/
theorem peek_eq_failed_iff {children : Children} {errno : Errno} :
    children.peek = .error (.failed errno) ↔ errno = .noChild ∧ children = [] := by
  rcases running_or_split children with hrunning | ⟨before, child, after, status, rfl, hbefore, hs⟩
  · rw [peek_eq_of_running hrunning]
    cases children with
    | nil => simp [eq_comm]
    | cons child children => simp
  · have hended : child.hasEnded = true := Child.hasEnded_iff.2 ⟨status, hs⟩
    rw [peek_eq_of_split hbefore hended]
    split <;> simp

/-- What a look at a table promises of collecting. -/
structure LooksAhead (children : Children) : Prop where
  /-- The flag of the call leaves the table as it is. Without it the child would be taken. -/
  untouched : lookCall true children = (children.peekCall, children) ∧
    (lookCall false children).2 = (children.wait Pid.anyChild.target true).2
  /-- A look finds the child that collecting any child would bring. -/
  ok_iff : ∀ pid, children.peek = .ok pid ↔
    ∃ status, (children.wait Pid.anyChild.target true).1 = some (.ok (pid, status))
  /-- Collecting it by its number after the look brings it too, with the status that it ended with.
  No other child is touched. -/
  collects : ∀ pid, children.peek = .ok pid →
    ∃ before child after status, children = before ++ child :: after ∧
      (∀ other ∈ before, other.hasEnded = false) ∧ child.pid = pid ∧ child.status = some status ∧
      (lookCall true children).2.wait pid.target true =
        (some (.ok (pid, status)), before ++ after)
  /-- A look finds nobody yet if collecting would not either. -/
  notReady_iff : children.peek = .error .notReady ↔
    (children.wait Pid.anyChild.target true).1 = some (.error .notReady)
  /-- This means that there are children and that none of them has ended. -/
  notReady_tells : (∀ child ∈ children, 0 < child.pid.number) →
    (children.peek = .error .notReady ↔
      children ≠ [] ∧ ∀ child ∈ children, child.hasEnded = false)
  /-- A look fails as collecting would. -/
  failed_iff : ∀ errno, children.peek = .error (.failed errno) ↔
    (children.wait Pid.anyChild.target true).1 = some (.error (.failed errno))
  /-- This means that there are no children. -/
  failed_tells : ∀ errno, children.peek = .error (.failed errno) ↔ errno = .noChild ∧ children = []
  /-- Both answers are what the two calls hand back, each read in its own way. -/
  looked : ∀ before, children.peek =
    readLooked (lookReply children.peekCall).value (lookReply children.peekCall).record
      ((lookReply children.peekCall).leaves before)
  collected : (∀ child ∈ children, 0 < child.pid.number) → ∀ (pid : Pid) (noHang : Bool) before,
    (children.wait pid.target noHang).1 =
      (collectCall pid.target noHang children).1.reply?.map fun reply =>
        readCollected reply.value reply.record (reply.leaves before)

/-- **Looking and collecting agree**, whichever children a table has and whichever of them have
ended: a look leaves the table as it is and answers what collecting any child would answer. If it
finds a child, this child can be collected by its number, with the status that it ended with. -/
theorem looks_ahead (children : Children) : children.LooksAhead where
  untouched := ⟨rfl, children.lookCall_taking⟩
  ok_iff := fun _ => peek_eq_ok_iff
  collects := by
    intro pid hpeek
    obtain ⟨before, child, after, status, rfl, hbefore, hs, rfl, hnumber⟩ :=
      split_of_peek_ok hpeek
    exact ⟨before, child, after, status, rfl, hbefore, rfl, hs,
      wait_of_first hbefore (Pid.includes_target child) hs hnumber⟩
  notReady_iff := peek_eq_error_iff
  notReady_tells := peek_eq_notReady_iff
  failed_iff := fun _ => peek_eq_error_iff
  failed_tells := fun _ => peek_eq_failed_iff
  looked := fun before => (children.readLooked_peekCall before).symm
  collected := fun hpositive pid noHang before =>
    (readCollected_collectCall hpositive pid.target noHang before).symm

end Children

end JobShell
