import JobShell.Child.Reaper
import Mathlib.Data.List.Forall2

/-!
# JobShell.Proofs.Child.Drain — what one run of the reaper takes

A run of the reaper looks at the first child that has ended, collects it and looks again, until no
child is left that has ended or the next one is the foreground child. `Drains` is this loop without
its system calls. Every run is a drain (`run_drains`): interrupted calls cost nothing but time, and
what happens to the writes decides only how much of the notices arrives.
-/

namespace JobShell

/-- What the kernel guarantees about a child: its number is positive, and if it has ended, its
status tells how. -/
structure Child.Proper (child : Child) : Prop where
  positive : 0 < child.pid.number
  decodes : ∀ status, child.status = some status → status.termination?.isSome

theorem Child.Proper.number_ne_zero {child : Child} (h : child.Proper) : child.pid.number ≠ 0 := by
  intro hzero
  have hpositive := h.positive
  rw [hzero] at hpositive
  exact absurd hpositive (by decide)

theorem Child.hasEnded_iff {child : Child} :
    child.hasEnded = true ↔ ∃ status, child.status = some status := by
  rw [Child.hasEnded, Option.isSome_iff_exists]

/-! ## What arrives of a buffer -/

/-- Whether a writing call gets on with its buffer; one that is interrupted is repeated. -/
def WriteResult.Succeeds : WriteResult → Prop
  | .accepted count => 0 < count
  | .failed errno => errno = .interrupted

/-- What arrives is a beginning of the buffer. -/
theorem deliver_prefix (errno : Errno) (results : List WriteResult) (bytes : Bytes) :
    (deliver errno results bytes).delivered <+: bytes := by
  fun_induction deliver errno results bytes with
  | case1 => exact List.prefix_refl _
  | case2 => exact List.prefix_refl _
  | case3 => exact List.nil_prefix
  | case4 errno count results bytes _ rest ih =>
    obtain ⟨missing, hmissing⟩ := ih
    refine ⟨missing, ?_⟩
    rw [List.append_assoc, hmissing, List.take_append_drop]
  | case5 _ _ _ _ ih => exact ih
  | case6 => exact List.nil_prefix

/-- The whole buffer arrives if every call succeeds. -/
theorem deliver_whole (errno : Errno) {results : List WriteResult} (bytes : Bytes)
    (h : ∀ result ∈ results, result.Succeeds) :
    (deliver errno results bytes).delivered = bytes := by
  fun_induction deliver errno results bytes with
  | case1 => rfl
  | case2 => rfl
  | case3 =>
    have hzero := h (.accepted 0) (by simp)
    simp [WriteResult.Succeeds] at hzero
  | case4 errno count results bytes _ rest ih =>
    have hrest : rest.delivered = bytes.drop (count + 1) :=
      ih fun result hmem => h result (by simp [hmem])
    simp [hrest]
  | case5 _ _ _ _ ih => exact ih fun result hmem => h result (by simp [hmem])
  | case6 _ reason _ _ _ hreason => exact absurd (h (.failed reason) (by simp)) hreason

/-! ## Notices for what was collected -/

/-- `Carries Arrives reports written`: what was written has one piece for each report, in order, and
`Arrives` relates each piece to the whole notice. -/
def Carries (Arrives : Bytes → Bytes → Prop) (reports : List (Pid × Termination))
    (written : Bytes) : Prop :=
  ∃ pieces,
    List.Forall₂ (fun piece report => Arrives piece (Notice.of report.1 report.2)) pieces reports ∧
      written = pieces.flatten

namespace Carries

variable {Arrives : Bytes → Bytes → Prop} {reports later : List (Pid × Termination)}
  {written rest : Bytes}

theorem nil : Carries Arrives [] [] :=
  ⟨[], .nil, rfl⟩

theorem cons {pid : Pid} {termination : Termination} {piece : Bytes}
    (harrives : Arrives piece (Notice.of pid termination)) (h : Carries Arrives later rest) :
    Carries Arrives ((pid, termination) :: later) (piece ++ rest) := by
  obtain ⟨pieces, hpieces, rfl⟩ := h
  exact ⟨piece :: pieces, .cons harrives hpieces, rfl⟩

theorem append (h : Carries Arrives reports written) (hlater : Carries Arrives later rest) :
    Carries Arrives (reports ++ later) (written ++ rest) := by
  obtain ⟨pieces, hpieces, rfl⟩ := h
  obtain ⟨laterPieces, hlaterPieces, rfl⟩ := hlater
  exact ⟨pieces ++ laterPieces, List.rel_append hpieces hlaterPieces, by simp⟩

/-- If whole notices arrive, what was written are the notices one after the other. -/
theorem eq_flatMap (h : Carries Eq reports written) :
    written = reports.flatMap fun report => Notice.of report.1 report.2 := by
  obtain ⟨pieces, hpieces, rfl⟩ := h
  rw [List.flatMap_def]
  congr 1
  rw [← List.forall₂_eq_eq_eq, List.forall₂_map_right_iff]
  exact hpieces

end Carries

namespace ReapConditions

/-- Under these conditions, a piece of each notice arrives that `Arrives` relates to the whole. -/
def Bring (conditions : ReapConditions) (Arrives : Bytes → Bytes → Prop) : Prop :=
  ∀ results, results ∈ conditions.writes ∨ results = [] →
    ∀ errno bytes, Arrives (deliver errno results bytes).delivered bytes

/-- Every writing call succeeds. -/
def Complete (conditions : ReapConditions) : Prop :=
  ∀ results ∈ conditions.writes, ∀ result ∈ results, result.Succeeds

theorem bring_prefix (conditions : ReapConditions) : conditions.Bring (· <+: ·) :=
  fun results _ errno bytes => deliver_prefix errno results bytes

theorem Complete.bring_eq {conditions : ReapConditions} (h : conditions.Complete) :
    conditions.Bring Eq := by
  rintro results (hmem | rfl) errno bytes
  · exact deliver_whole errno bytes (h results hmem)
  · exact deliver_whole errno bytes (by simp)

end ReapConditions

namespace Children

/-! ## Looking and collecting -/

/-- Either every child of a table runs, or there is a first one that has ended. -/
theorem running_or_split (children : Children) :
    (∀ child ∈ children, child.hasEnded = false) ∨
      ∃ before child after status, children = before ++ child :: after ∧
        (∀ other ∈ before, other.hasEnded = false) ∧ child.status = some status := by
  cases hfind : children.find? Child.hasEnded with
  | none =>
    left
    intro child hmem
    have := List.find?_eq_none.1 hfind child hmem
    simpa using this
  | some child =>
    right
    obtain ⟨hended, before, after, rfl, hbefore⟩ := List.find?_eq_some_iff_append.1 hfind
    obtain ⟨status, hstatus⟩ := Child.hasEnded_iff.1 hended
    refine ⟨before, child, after, status, rfl, ?_, hstatus⟩
    intro other hmem
    simpa using hbefore other hmem

/-- While every child runs, a look answers that nobody has ended yet, or that there is nobody. -/
theorem peek_eq_of_running {children : Children}
    (h : ∀ child ∈ children, child.hasEnded = false) :
    children.peek = .error (if children.isEmpty then .failed .noChild else .notReady) := by
  have hfind : children.find? Child.hasEnded = none := by
    rw [List.find?_eq_none]
    intro child hmem
    simp [h child hmem]
  cases hempty : children.isEmpty with
  | true => simp [peek, peekCall, hempty]
  | false => simp [peek, peekCall, hempty, hfind]

/-- A look finds nothing while every child runs. -/
theorem peek_of_running {children : Children} (h : ∀ child ∈ children, child.hasEnded = false) :
    ∃ error, children.peek = .error error :=
  ⟨_, peek_eq_of_running h⟩

/-- A look answers the number of the first child that has ended; zero means that there is none. -/
theorem peek_eq_of_split {before after : Children} {child : Child}
    (hbefore : ∀ other ∈ before, other.hasEnded = false) (hended : child.hasEnded = true) :
    peek (before ++ child :: after) =
      if child.pid.number = 0 then .error .notReady else .ok child.pid := by
  have hfind : (before ++ child :: after).find? Child.hasEnded = some child := by
    rw [List.find?_eq_some_iff_append]
    refine ⟨hended, before, after, rfl, ?_⟩
    intro other hmem
    simp [hbefore other hmem]
  have hempty : (before ++ child :: after).isEmpty = false := by simp
  simp [peek, peekCall, hempty, hfind]

/-- A look finds the first child that has ended. -/
theorem peek_of_split {before after : Children} {child : Child}
    (hbefore : ∀ other ∈ before, other.hasEnded = false) (hended : child.hasEnded = true)
    (hproper : child.Proper) : peek (before ++ child :: after) = .ok child.pid := by
  rw [peek_eq_of_split hbefore hended, if_neg hproper.number_ne_zero]

/-- Waiting takes the first child that is waited for and has ended out of the table, and answers its
number; zero means that there is none. -/
theorem wait_eq_of_split {target : WaitTarget} {noHang : Bool} {before after : Children}
    {child : Child} {status : WaitStatus}
    (hbefore : ∀ other ∈ before, isReady target other = false)
    (htarget : target.includes child = true) (hstatus : child.status = some status) :
    wait target noHang (before ++ child :: after) =
      (some (if child.pid.number = 0 then .error .notReady else .ok (child.pid, status)),
        before ++ after) := by
  have hready : isReady target child = true := by
    simp [isReady, htarget, Child.hasEnded, hstatus]
  have hfind : (before ++ child :: after).find? (isReady target) = some child := by
    rw [List.find?_eq_some_iff_append]
    refine ⟨hready, before, after, rfl, ?_⟩
    intro other hmem
    simp [hbefore other hmem]
  have herase : (before ++ child :: after).eraseP (isReady target) = before ++ after := by
    rw [List.eraseP_append_right]
    · simp [hready]
    · intro other hmem
      simp [hbefore other hmem]
  simp [wait, collectCall, hfind, herase, hstatus]

/-- Waiting takes the first child that is waited for and has ended out of the table. -/
theorem wait_of_split {target : WaitTarget} {noHang : Bool} {before after : Children}
    {child : Child} {status : WaitStatus}
    (hbefore : ∀ other ∈ before, isReady target other = false)
    (htarget : target.includes child = true) (hstatus : child.status = some status)
    (hproper : child.Proper) :
    wait target noHang (before ++ child :: after) =
      (some (.ok (child.pid, status)), before ++ after) := by
  rw [wait_eq_of_split hbefore htarget hstatus, if_neg hproper.number_ne_zero]

/-- What a look finds is the first child that has ended. -/
theorem split_of_peek_ok {children : Children} {pid : Pid} (h : children.peek = .ok pid) :
    ∃ before child after status, children = before ++ child :: after ∧
      (∀ other ∈ before, other.hasEnded = false) ∧ child.status = some status ∧
      child.pid = pid ∧ pid.number ≠ 0 := by
  rcases running_or_split children with hrunning | ⟨before, child, after, status, rfl, hbefore, hs⟩
  · -- nobody has ended, so the look fails
    obtain ⟨error, herror⟩ := peek_of_running hrunning
    rw [herror] at h
    cases h
  · have hended : child.hasEnded = true := Child.hasEnded_iff.2 ⟨status, hs⟩
    rw [peek_eq_of_split hbefore hended] at h
    split at h
    · cases h
    · rename_i hnumber
      obtain rfl : child.pid = pid := Except.ok.inj h
      exact ⟨before, child, after, status, rfl, hbefore, hs, rfl, hnumber⟩

/-- The child that a look finds can be collected under any name that it is waited for by. -/
theorem wait_of_first {target : WaitTarget} {noHang : Bool} {before after : Children}
    {child : Child} {status : WaitStatus} (hbefore : ∀ other ∈ before, other.hasEnded = false)
    (htarget : target.includes child = true) (hstatus : child.status = some status)
    (hnumber : child.pid.number ≠ 0) :
    wait target noHang (before ++ child :: after) =
      (some (.ok (child.pid, status)), before ++ after) := by
  rw [wait_eq_of_split (fun other hmem => ?_) htarget hstatus, if_neg hnumber]
  simp [isReady, hbefore other hmem]

/-- The child that a look finds is the one that collecting by its number brings. -/
theorem wait_of_peek_ok {noHang : Bool} {children : Children} {pid : Pid}
    (h : children.peek = .ok pid) :
    ∃ before child after status, children = before ++ child :: after ∧
      (∀ other ∈ before, other.hasEnded = false) ∧ child.status = some status ∧
      child.pid = pid ∧
      wait (.child pid) noHang children = (some (.ok (pid, status)), before ++ after) := by
  obtain ⟨before, child, after, status, rfl, hbefore, hs, rfl, hnumber⟩ := split_of_peek_ok h
  exact ⟨before, child, after, status, rfl, hbefore, hs, rfl,
    wait_of_first hbefore (beq_self_eq_true child.pid) hs hnumber⟩

/-- Collecting the child that a look finds does not fail. -/
theorem ok_of_peek_ok {noHang : Bool} {children rest : Children} {pid : Pid}
    {answer : Option (Except WaitError (Pid × WaitStatus))} (h : children.peek = .ok pid)
    (hwait : wait (.child pid) noHang children = (answer, rest)) :
    ∃ status, answer = some (.ok (pid, status)) := by
  obtain ⟨_, _, _, status, _, _, _, _, hcollected⟩ := @wait_of_peek_ok noHang _ _ h
  rw [hcollected] at hwait
  exact ⟨status, (congrArg Prod.fst hwait).symm⟩

/-- Waiting brings a child that was waited for, with its own status, and takes only that one out of
the table. -/
theorem perm_of_wait_ok {target : WaitTarget} {noHang : Bool} {children rest : Children}
    {pid : Pid} {status : WaitStatus} (hproper : ∀ child ∈ children, child.Proper)
    (h : wait target noHang children = (some (.ok (pid, status)), rest)) :
    ∃ child, children.Perm (child :: rest) ∧ target.includes child = true ∧ child.pid = pid ∧
      child.status = some status := by
  cases hfind : children.find? (isReady target) with
  | none =>
    exfalso
    rw [wait, collectCall, hfind] at h
    cases hany : children.any target.includes <;> cases noHang <;> simp [hany] at h
  | some child =>
    obtain ⟨hready, before, after, rfl, hbefore⟩ := List.find?_eq_some_iff_append.1 hfind
    obtain ⟨htarget, hended⟩ : target.includes child = true ∧ child.hasEnded = true := by
      simpa [isReady] using hready
    obtain ⟨own, hown⟩ := Child.hasEnded_iff.1 hended
    rw [wait_of_split (fun other hmem => by simpa using hbefore other hmem) htarget hown
      (hproper child (by simp))] at h
    cases h
    exact ⟨child, List.perm_middle, htarget, rfl, hown⟩

/-- Waiting that fails takes nobody out of the table. -/
theorem rest_of_wait_error {target : WaitTarget} {noHang : Bool} {children rest : Children}
    {error : WaitError} (hproper : ∀ child ∈ children, child.Proper)
    (h : wait target noHang children = (some (.error error), rest)) : rest = children := by
  cases hfind : children.find? (isReady target) with
  | none =>
    rw [wait, collectCall, hfind] at h
    cases hany : children.any target.includes <;> cases noHang <;> simp [hany] at h
    all_goals exact h.2.symm
  | some found =>
    have hnumber := (hproper found (List.mem_of_find?_eq_some hfind)).number_ne_zero
    rw [wait, collectCall, hfind] at h
    simp [hnumber] at h

/-- Waiting for a child in the table does not fail. -/
theorem wait_child_ne_error {children rest : Children} {child : Child} {error : WaitError}
    (hproper : ∀ child ∈ children, child.Proper) (hmem : child ∈ children) :
    wait (.child child.pid) false children ≠ (some (.error error), rest) := by
  intro h
  cases hfind : children.find? (isReady (.child child.pid)) with
  | none =>
    -- the child still runs, so the call blocks
    have hany : children.any (WaitTarget.child child.pid).includes = true := by
      rw [List.any_eq_true]
      exact ⟨child, hmem, by simp [WaitTarget.includes]⟩
    rw [wait, collectCall, hfind] at h
    simp [hany] at h
  | some found =>
    have hnumber := (hproper found (List.mem_of_find?_eq_some hfind)).number_ne_zero
    rw [wait, collectCall, hfind] at h
    simp [hnumber] at h

/-- Waiting for a child that has ended brings a child. -/
theorem wait_child_of_ended {children : Children} {child : Child}
    (hproper : ∀ child ∈ children, child.Proper) (hmem : child ∈ children)
    (hended : child.hasEnded = true) :
    ∃ found status rest,
      wait (.child child.pid) false children = (some (.ok (found, status)), rest) := by
  cases hfind : children.find? (isReady (.child child.pid)) with
  | none =>
    have hnot := List.find?_eq_none.1 hfind child hmem
    simp [isReady, WaitTarget.includes, hended] at hnot
  | some found =>
    have hnumber := (hproper found (List.mem_of_find?_eq_some hfind)).number_ne_zero
    rw [wait, collectCall, hfind]
    simp [hnumber]

/-! ## The loop without its calls -/

/-- `Drains foreground children collected rest`: with that child in the foreground, the reaper's
loop takes `collected` out of a table, in this order, and leaves `rest`. -/
inductive Drains (foreground : Option Pid) :
    Children → List (Pid × Termination) → Children → Prop
  /-- Nobody is left who has ended. -/
  | dry {children} (running : ∀ child ∈ children, child.hasEnded = false) :
      Drains foreground children [] children
  /-- The next one is the foreground child. -/
  | held {before child after} (running : ∀ other ∈ before, other.hasEnded = false)
      (ended : child.hasEnded = true) (own : foreground = some child.pid) :
      Drains foreground (before ++ child :: after) [] (before ++ child :: after)
  /-- The next one is taken. -/
  | take {before child after status termination collected rest}
      (running : ∀ other ∈ before, other.hasEnded = false) (ended : child.status = some status)
      (decoded : status.termination? = some termination) (other : foreground ≠ some child.pid)
      (later : Drains foreground (before ++ after) collected rest) :
      Drains foreground (before ++ child :: after) ((child.pid, termination) :: collected) rest

/-- What a drain leaves behind: nobody who has ended, or the foreground child, which has. -/
theorem Drains.rest_running_or_held {foreground : Option Pid} {children rest : Children}
    {collected : List (Pid × Termination)} (h : Drains foreground children collected rest) :
    (∀ child ∈ rest, child.hasEnded = false) ∨
      ∃ child ∈ rest, child.hasEnded = true ∧ foreground = some child.pid := by
  induction h with
  | dry running =>
    left
    exact running
  | @held before child after running ended own =>
    right
    exact ⟨child, by simp, ended, own⟩
  | take _ _ _ _ _ ih => exact ih

/-- A drain takes each child that it reports out of the table. -/
theorem Drains.length_eq {foreground : Option Pid} {children rest : Children}
    {collected : List (Pid × Termination)} (h : Drains foreground children collected rest) :
    children.length = collected.length + rest.length := by
  induction h with
  | dry | held => exact (Nat.zero_add _).symm
  | take _ _ _ _ _ ih =>
    simp only [List.length_append, List.length_cons] at ih ⊢
    omega

/-- A drain never takes the foreground child. -/
theorem Drains.not_own {foreground : Option Pid} {children rest : Children}
    {collected : List (Pid × Termination)} (h : Drains foreground children collected rest) :
    ∀ report ∈ collected, foreground ≠ some report.1 := by
  induction h with
  | dry | held => simp
  | take _ _ _ other _ ih =>
    intro report hmem
    rcases List.mem_cons.1 hmem with rfl | hmem
    · exact other
    · exact ih report hmem

/-- A drain leaves the foreground child where it is. -/
theorem Drains.mem_rest_of_own {foreground : Option Pid} {children rest : Children}
    {collected : List (Pid × Termination)} (h : Drains foreground children collected rest)
    {own : Child} (hmem : own ∈ children) (hown : foreground = some own.pid) : own ∈ rest := by
  induction h with
  | dry | held => exact hmem
  | @take before child after status termination collected rest _ _ _ other _ ih =>
    refine ih ?_
    simp only [List.mem_append, List.mem_cons] at hmem ⊢
    rcases hmem with hbefore | rfl | hafter
    · exact .inl hbefore
    · exact absurd hown other
    · exact .inr hafter

/-- What the reaper reports of a child that has ended. -/
def report? (child : Child) : Option (Pid × Termination) :=
  (child.status.bind WaitStatus.termination?).map (child.pid, ·)

/-- Of children that run there is nothing to report, and nobody is taken. -/
theorem reports_of_running {children : Children}
    (h : ∀ child ∈ children, child.hasEnded = false) :
    children.filterMap report? = [] ∧
      children.filter (fun child => !child.hasEnded) = children := by
  refine ⟨List.filterMap_eq_nil_iff.2 ?_, List.filter_eq_self.2 ?_⟩
  · intro child hmem
    have hnone : child.status = none := by simpa [Child.hasEnded] using h child hmem
    simp [report?, hnone]
  · intro child hmem
    simp [h child hmem]

/-- A drain takes everybody who has ended, in order, up to the foreground child if that has ended,
and leaves the others. -/
theorem Drains.eq_of_append {foreground : Option Pid} {reached beyond rest : Children}
    {collected : List (Pid × Termination)}
    (h : Drains foreground (reached ++ beyond) collected rest)
    (hfree : ∀ child ∈ reached, child.hasEnded = true → foreground ≠ some child.pid)
    (hheld : ∀ child ∈ beyond.head?, child.hasEnded = true ∧ foreground = some child.pid) :
    collected = reached.filterMap report? ∧
      rest = reached.filter (fun child => !child.hasEnded) ++ beyond := by
  generalize hchildren : reached ++ beyond = children at h
  induction h generalizing reached with
  | dry running =>
    subst hchildren
    obtain ⟨hreports, hrest⟩ :=
      reports_of_running fun child hmem => running child (List.mem_append_left beyond hmem)
    exact ⟨hreports.symm, by rw [hrest]⟩
  | @held before child after running ended own =>
    -- the foreground child is not among those that are reached, so these stand before it
    have hrunning : ∀ other ∈ reached, other.hasEnded = false := by
      rcases List.append_eq_append_iff.1 hchildren with ⟨gap, rfl, -⟩ | ⟨gap, rfl, hgap⟩
      · exact fun other hmem => running other (List.mem_append_left gap hmem)
      · cases gap with
        | nil => simpa using running
        | cons first gap =>
          obtain ⟨rfl, -⟩ := List.cons.inj hgap
          exact absurd own (hfree child (by simp) ended)
    obtain ⟨hreports, hrest⟩ := reports_of_running hrunning
    exact ⟨hreports.symm, by rw [hrest, hchildren]⟩
  | @take before child after status termination collected rest running ended decoded other _ ih =>
    have hended : child.hasEnded = true := Child.hasEnded_iff.2 ⟨status, ended⟩
    -- the child that is taken is among those that are reached
    obtain ⟨gap, rfl, rfl⟩ : ∃ gap, reached = before ++ child :: gap ∧ after = gap ++ beyond := by
      rcases List.append_eq_append_iff.1 hchildren with ⟨gap, rfl, hgap⟩ | ⟨gap, rfl, hgap⟩
      · cases gap with
        | nil =>
          obtain rfl : beyond = child :: after := hgap
          exact absurd (hheld child rfl).2 other
        | cons first gap =>
          have hfirst := (hheld first (by simp [hgap])).1
          rw [running first (by simp)] at hfirst
          cases hfirst
      · cases gap with
        | nil =>
          obtain rfl : child :: after = beyond := hgap
          exact absurd (hheld child rfl).2 other
        | cons first gap =>
          obtain ⟨rfl, rfl⟩ := List.cons.inj hgap
          exact ⟨gap, rfl, rfl⟩
    have hsub : (before ++ gap).Sublist (before ++ child :: gap) :=
      (List.sublist_cons_self child gap).append_left before
    obtain ⟨hlater, hrest⟩ :=
      ih (fun other hmem => hfree other (hsub.subset hmem)) (List.append_assoc _ _ _)
    have hreport : report? child = some (child.pid, termination) := by
      simp [report?, ended, decoded]
    obtain ⟨hreports, hkept⟩ := reports_of_running running
    rw [List.filterMap_append, hreports] at hlater
    rw [List.filter_append, hkept] at hrest
    rw [List.filterMap_append, hreports, List.filterMap_cons_some hreport, List.filter_append,
      hkept]
    refine ⟨?_, ?_⟩
    · rw [hlater]
      rfl
    · rw [hrest]
      simp [hended]

/-- A drain that is not held up takes everybody who has ended, in order, and leaves the others. -/
theorem Drains.eq_of_not_held {foreground : Option Pid} {children rest : Children}
    {collected : List (Pid × Termination)} (h : Drains foreground children collected rest)
    (hfree : ∀ child ∈ children, child.hasEnded = true → foreground ≠ some child.pid) :
    collected = children.filterMap report? ∧
      rest = children.filter fun child => !child.hasEnded := by
  rw [← List.append_nil children] at h
  have hall := h.eq_of_append hfree (by simp)
  rwa [List.append_nil] at hall

/-- A table is what a drain goes through and what it would leave alone: nothing, or the foreground
child, which has ended, and whoever stands behind it. -/
theorem exists_reached (foreground : Option Pid) (children : Children) :
    ∃ reached beyond, children = reached ++ beyond ∧
      (∀ child ∈ reached, child.hasEnded = true → foreground ≠ some child.pid) ∧
      ∀ child ∈ beyond.head?, child.hasEnded = true ∧ foreground = some child.pid := by
  induction children with
  | nil => exact ⟨[], [], rfl, by simp, by simp⟩
  | cons first children ih =>
    by_cases hheld : first.hasEnded = true ∧ foreground = some first.pid
    · refine ⟨[], first :: children, rfl, by simp, ?_⟩
      rintro child ⟨⟩
      exact hheld
    · obtain ⟨reached, beyond, rfl, hfree, hbeyond⟩ := ih
      refine ⟨first :: reached, beyond, rfl, List.forall_mem_cons.2 ⟨?_, hfree⟩, hbeyond⟩
      intro hended hown
      exact hheld ⟨hended, hown⟩

/-- The table decides what a drain takes and what it leaves. -/
theorem Drains.unique {foreground : Option Pid} {children rest left : Children}
    {collected others : List (Pid × Termination)} (h : Drains foreground children collected rest)
    (hother : Drains foreground children others left) : collected = others ∧ rest = left := by
  obtain ⟨reached, beyond, rfl, hfree, hheld⟩ := exists_reached foreground children
  obtain ⟨rfl, rfl⟩ := h.eq_of_append hfree hheld
  obtain ⟨rfl, rfl⟩ := hother.eq_of_append hfree hheld
  exact ⟨rfl, rfl⟩

/-- The loop on a system that offers the children that have ended in any order it likes, another one
at each look. -/
inductive Picks (foreground : Option Pid) :
    Children → List (Pid × Termination) → Children → Prop
  /-- There is nobody to offer. -/
  | dry {children} (running : ∀ child ∈ children, child.hasEnded = false) :
      Picks foreground children [] children
  /-- The foreground child is offered. -/
  | held {children child} (offered : child ∈ children) (ended : child.hasEnded = true)
      (own : foreground = some child.pid) : Picks foreground children [] children
  /-- Somebody else is offered and taken. -/
  | take {children others child status termination collected rest}
      (offered : children.Perm (child :: others)) (ended : child.status = some status)
      (decoded : status.termination? = some termination) (other : foreground ≠ some child.pid)
      (later : Picks foreground others collected rest) :
      Picks foreground children ((child.pid, termination) :: collected) rest

/-- Whichever children a system offers, there is an order of the table in which a drain takes the
same ones. -/
theorem Picks.exists_order {foreground : Option Pid} {children rest : Children}
    {collected : List (Pid × Termination)} (h : Picks foreground children collected rest) :
    ∃ order left, order.Perm children ∧ Drains foreground order collected left ∧
      left.Perm rest := by
  induction h with
  | @dry children running => exact ⟨children, children, .refl _, .dry running, .refl _⟩
  | @held children child offered ended own =>
    -- the foreground child comes first
    obtain ⟨before, after, rfl⟩ := List.append_of_mem offered
    have hdrains : Drains foreground ([] ++ child :: (before ++ after)) []
        ([] ++ child :: (before ++ after)) := .held (by simp) ended own
    exact ⟨_, _, List.perm_middle.symm, hdrains, List.perm_middle.symm⟩
  | @take children others child status termination collected rest offered ended decoded other _
      ih =>
    obtain ⟨order, left, hperm, hdrains, hleft⟩ := ih
    have htake : Drains foreground ([] ++ child :: order) ((child.pid, termination) :: collected)
        left := .take (by simp) ended decoded other hdrains
    exact ⟨_, left, (hperm.cons child).trans offered.symm, htake, hleft⟩

theorem Drains.of_peek_error {foreground : Option Pid} {children : Children} {error : WaitError}
    (hproper : ∀ child ∈ children, child.Proper) (h : children.peek = .error error) :
    Drains foreground children [] children := by
  rcases running_or_split children with hrunning | ⟨before, child, after, status, rfl, hbefore, hs⟩
  · exact .dry hrunning
  · -- a look would find the child that has ended
    have hended : child.hasEnded = true := Child.hasEnded_iff.2 ⟨status, hs⟩
    rw [peek_of_split hbefore hended (hproper child (by simp))] at h
    cases h

theorem Drains.of_peek_own {foreground : Option Pid} {children : Children} {pid : Pid}
    (h : children.peek = .ok pid) (hown : foreground = some pid) :
    Drains foreground children [] children := by
  obtain ⟨before, child, after, status, rfl, hbefore, hs, rfl, -⟩ := split_of_peek_ok h
  exact .held hbefore (Child.hasEnded_iff.2 ⟨status, hs⟩) hown

end Children

namespace Reaper

open Children

/-- Whatever is interrupted and whatever the writes answer, the loop is a drain. -/
theorem reap_drains {foreground : Option Pid} (interruptions : List Bool)
    (writes : List (List WriteResult)) (errno : Errno) {children : Children}
    (hproper : ∀ child ∈ children, child.Proper) :
    Drains foreground children
      (reap foreground interruptions writes errno children).collected
      (reap foreground interruptions writes errno children).children := by
  fun_induction reap foreground interruptions writes errno children with
  | case1 _ _ _ _ ih => exact ih hproper
  | case2 _ _ _ _ _ hpeek => exact .of_peek_error hproper hpeek
  | case3 _ _ _ _ _ hpeek hown => exact .of_peek_own hpeek hown
  | case4 _ _ _ _ _ _ _ ih => exact ih hproper
  | case5 _ _ _ _ _ _ _ hpeek => exact .of_peek_error hproper hpeek
  | case6 _ _ _ _ _ _ _ hpeek hown => exact .of_peek_own hpeek hown
  | case7 _ _ _ _ _ _ pid hpeek hother _ _ _ hwait _ hdecoded _ _ ih =>
    obtain ⟨before, child, after, status, rfl, hbefore, hs, rfl, hcollect⟩ :=
      wait_of_peek_ok hpeek
    rw [hcollect] at hwait
    cases hwait
    refine .take hbefore hs hdecoded hother (ih ?_)
    have hrest := (List.sublist_cons_self child after).append_left before
    intro other hmem
    exact hproper other (hrest.subset hmem)
  | case8 _ _ _ _ _ _ pid hpeek hother _ _ _ hwait hdecoded _ =>
    -- a status that tells nothing belongs to no child that has ended
    obtain ⟨before, child, after, status, rfl, hbefore, hs, rfl, hcollect⟩ :=
      wait_of_peek_ok hpeek
    rw [hcollect] at hwait
    cases hwait
    have hsome := (hproper child (by simp)).decodes _ hs
    rw [hdecoded] at hsome
    cases hsome
  | case9 _ _ _ _ _ _ pid hpeek hother _ _ hwait =>
    obtain ⟨_, ⟨⟩⟩ := ok_of_peek_ok hpeek hwait
  | case10 _ _ _ _ _ _ pid hpeek hother _ hwait =>
    obtain ⟨_, ⟨⟩⟩ := ok_of_peek_ok hpeek hwait

/-- Every run of the reaper is a drain. -/
theorem run_drains (foreground : Option Pid) (conditions : ReapConditions) (errno : Errno)
    {children : Children} (hproper : ∀ child ∈ children, child.Proper) :
    Drains foreground children (run foreground conditions errno children).collected
      (run foreground conditions errno children).children :=
  reap_drains conditions.interruptions conditions.writes errno hproper

/-- Whichever children a system offers, there is an order of the table in which the reaper takes the
same ones, whatever is interrupted. -/
theorem run_of_picks {foreground : Option Pid} {children rest : Children}
    {collected : List (Pid × Termination)} (h : Picks foreground children collected rest)
    (hproper : ∀ child ∈ children, child.Proper) :
    ∃ order, order.Perm children ∧ ∀ conditions errno,
      (run foreground conditions errno order).collected = collected ∧
        (run foreground conditions errno order).children.Perm rest := by
  obtain ⟨order, left, hperm, hdrains, hleft⟩ := h.exists_order
  refine ⟨order, hperm, fun conditions errno => ?_⟩
  have hrun := run_drains foreground conditions errno fun child hmem =>
    hproper child (hperm.mem_iff.1 hmem)
  obtain ⟨hcollected, hchildren⟩ := hrun.unique hdrains
  exact ⟨hcollected, by rwa [hchildren]⟩

/-- What the loop writes carries a notice for each child that it collects. -/
theorem reap_carries {Arrives : Bytes → Bytes → Prop} {foreground : Option Pid}
    (interruptions : List Bool) {writes : List (List WriteResult)} (errno : Errno)
    (children : Children)
    (hbring : ∀ results, results ∈ writes ∨ results = [] →
      ∀ errno bytes, Arrives (deliver errno results bytes).delivered bytes) :
    Carries Arrives (reap foreground interruptions writes errno children).collected
      (reap foreground interruptions writes errno children).delivered := by
  fun_induction reap foreground interruptions writes errno children with
  | case1 _ _ _ _ ih => exact ih hbring
  | case4 _ _ _ _ _ _ _ ih => exact ih hbring
  | case7 writes _ _ _ _ _ _ _ _ _ _ _ _ _ _ delivery later ih =>
    -- the first results are those of this notice, the others those of the later ones
    have hfirst := hbring (writes.headD []) (by cases writes <;> simp)
    refine .cons (hfirst _ _) (ih ?_)
    intro results hresults
    refine hbring results ?_
    rcases hresults with hmem | rfl
    · exact .inl (List.mem_of_mem_tail hmem)
    · exact .inr rfl
  | case8 _ _ _ _ _ _ _ _ _ _ _ _ _ _ ih => exact ih hbring
  | _ => exact .nil

/-- What a run of the reaper writes carries a notice for each child that it collects. -/
theorem run_carries {Arrives : Bytes → Bytes → Prop} (foreground : Option Pid)
    {conditions : ReapConditions} (errno : Errno) (children : Children)
    (h : conditions.Bring Arrives) :
    Carries Arrives (run foreground conditions errno children).collected
      (run foreground conditions errno children).delivered :=
  reap_carries conditions.interruptions errno children h

end Reaper

end JobShell
