import JobShell.Child.Parent
import JobShell.Proofs.Supervisor.History
import Mathlib.Logic.Relation

/-!
# JobShell.Proofs.Child.Conservation — no child is lost or collected twice

Waiting, looking and the reaper share one table of children, in any order and with any child named
as the one in the foreground: one that runs, one that has ended, or one that is long gone. A
`Family` is a parent with everything that was observed of its children: how each of them ended, what
the notices say, and what waiting has brought. The observer goes by process numbers alone.

* `Family.Step` lists the operations; `Family.Reachable` are all orders of them.
* `History.Balanced` says that table, records and observations agree. Each operation keeps it, and a
  run of the reaper does because it is a drain.
* `Family.children_are_conserved`: every child is in one of four states (`Standing`), and every
  notice and every answer of waiting is the one collection of one child.
-/

namespace JobShell

/-- Where a child stands. -/
inductive Standing where
  | running
  /-- It has ended and nobody has collected it. -/
  | uncollected
  /-- Waiting has brought it. -/
  | awaited
  /-- The reaper has collected it, with a notice. -/
  | noticed
deriving DecidableEq, Repr

namespace ChildRecord

variable {record : ChildRecord}

/-- What the record of a child shows about where it stands. A collected child was collected once,
and what was observed then is how it ended. -/
def Stands (record : ChildRecord) : Standing → Prop
  | .running => record.isLive = true ∧ record.ended = none
  | .uncollected => record.isLive = true ∧ record.ended.isSome = true
  | .awaited => ∃ termination, record.Awaited termination
  | .noticed => record.Reported

/-- The child has not been collected, or once. -/
def Settled (record : ChildRecord) : Prop :=
  record.isLive = true ∨ record.Reported ∨ ∃ termination, record.Awaited termination

/-- Where a child can stand at most. -/
def standing (record : ChildRecord) : Standing :=
  if record.isLive then if record.ended.isSome then .uncollected else .running
  else if record.notices.isEmpty then .awaited else .noticed

theorem Stands.standing_eq {standing : Standing} (h : record.Stands standing) :
    record.standing = standing := by
  cases standing with
  | running => simp [ChildRecord.standing, h.1, h.2]
  | uncollected => simp [ChildRecord.standing, h.1, h.2]
  | awaited =>
    obtain ⟨termination, hawaited⟩ := h
    simp [ChildRecord.standing, hawaited.not_isLive, hawaited.1]
  | noticed =>
    have hcollected := Reported.not_isLive h
    obtain ⟨-, status, termination, -, -, hnotices⟩ := h
    simp [ChildRecord.standing, hcollected, hnotices]

/-- A child that was collected at most once stands in exactly one place. -/
theorem Settled.existsUnique (h : record.Settled) : ∃! standing, record.Stands standing := by
  have hstands : ∃ standing, record.Stands standing := by
    rcases h with hlive | hreported | hawaited
    · cases hended : record.ended with
      | none => exact ⟨.running, hlive, hended⟩
      | some status => exact ⟨.uncollected, hlive, by rw [hended]; rfl⟩
    · exact ⟨.noticed, hreported⟩
    · exact ⟨.awaited, hawaited⟩
  obtain ⟨standing, hstanding⟩ := hstands
  exact ⟨standing, hstanding, fun _ hother => hother.standing_eq.symm.trans hstanding.standing_eq⟩

end ChildRecord

/-! ## Observations -/

/-- Table, records and observations of the children of a process agree. -/
structure History.Balanced (children : Children) (history : History)
    (brought : List (Pid × WaitStatus)) : Prop where
  register : Register children history.records
  settled : ∀ record ∈ history.records, record.Settled
  /-- Every report is the notice of one record. -/
  reported : history.reports.Perm
    (history.records.flatMap fun record => record.notices.map (record.pid, ·))
  /-- Whatever waiting brought is in one record. -/
  brought : brought.Perm
    (history.records.flatMap fun record => record.waits.map (record.pid, ·))

namespace History.Balanced

open ChildRecord

variable {children rest : Children} {history : History} {brought : List (Pid × WaitStatus)}
  {child : Child}

theorem empty : Balanced [] {} [] :=
  ⟨.empty, by simp, .nil, .nil⟩

/-- The order of the table does not matter. -/
theorem perm (h : history.Balanced children brought) (hperm : rest.Perm children) :
    history.Balanced rest brought :=
  ⟨h.register.perm hperm, h.settled, h.reported, h.brought⟩

theorem created (h : history.Balanced children brought) {pid : Pid} (mode : Mode)
    (hpositive : 0 < pid.number) (hunused : ∀ child ∈ children, child.pid ≠ pid) :
    (history.created pid mode).Balanced (children ++ [⟨pid, none⟩]) brought where
  register := h.register.created mode hpositive hunused
  settled := by
    intro record hmem
    rcases List.mem_cons.1 hmem with rfl | hmem
    · exact .inl rfl
    · exact h.settled record hmem
  reported := h.reported
  brought := h.brought

theorem ended (h : history.Balanced children brought) {pid : Pid} {status : WaitStatus}
    (hrunning : ⟨pid, none⟩ ∈ children) (hfinal : status.termination?.isSome) :
    (history.ended pid status).Balanced (children.terminate pid status) brought where
  register := h.register.ended hrunning hfinal
  settled := h.register.forall_amend hrunning h.settled fun record _ hlive _ => .inl hlive
  reported := h.reported.trans (.of_eq (flatMap_amend (fun _ => by rfl) _ _).symm)
  brought := h.brought.trans (.of_eq (flatMap_amend (fun _ => by rfl) _ _).symm)

/-- The reaper collects a child that has ended. -/
theorem noticed (h : history.Balanced children brought) (hperm : children.Perm (child :: rest))
    {status : WaitStatus} {termination : Termination} (hstatus : child.status = some status)
    (hdecoded : status.termination? = some termination) :
    (history.reported child.pid termination).Balanced rest brought where
  register := h.register.reported hperm termination
  settled := by
    refine h.register.forall_amend (hperm.mem_iff.2 (by simp)) h.settled ?_
    rintro record - hlive rfl
    exact .inr (.inl (reported_noticed hlive hstatus hdecoded))
  reported := (h.reported.append_right _).trans
    (h.register.perm_notices (hperm.mem_iff.2 (by simp)) termination).symm
  brought := h.brought.trans (.of_eq (flatMap_amend (fun _ => by rfl) _ _).symm)

/-- Waiting collects a child that has ended. -/
theorem awaited (h : history.Balanced children brought) (hperm : children.Perm (child :: rest))
    {status : WaitStatus} (hstatus : child.status = some status) :
    (history.awaited child.pid status).Balanced rest (brought ++ [(child.pid, status)]) where
  register := h.register.awaited hperm status
  settled := by
    refine h.register.forall_amend (hperm.mem_iff.2 (by simp)) h.settled ?_
    rintro record hmem hlive rfl
    obtain ⟨termination, hdecoded⟩ :=
      Option.isSome_iff_exists.1 ((h.register.proper record hmem).decodes status hstatus)
    exact .inr (.inr ⟨termination, awaited_waited hlive hstatus hdecoded⟩)
  reported := h.reported.trans (.of_eq (flatMap_amend (fun _ => by rfl) _ _).symm)
  brought := (h.brought.append_right _).trans
    (h.register.perm_waits (hperm.mem_iff.2 (by simp)) status).symm

/-- A whole run of the reaper collects children one after the other. -/
theorem drained {foreground : Option Pid} {collected : List (Pid × Termination)}
    (hdrains : Children.Drains foreground children collected rest)
    (h : history.Balanced children brought) :
    (history.reportedAll collected).Balanced rest brought := by
  induction hdrains generalizing history with
  | dry | held => exact h
  | take _ hstatus hdecoded _ _ ih => exact ih (h.noticed List.perm_middle hstatus hdecoded)

end History.Balanced

/-! ## Families -/

/-- Waiting is about the table alone. -/
theorem Parent.wait_eq {parent after : Parent} {target : WaitTarget} {noHang : Bool}
    {reply : Option (Except WaitError (Pid × WaitStatus))}
    (h : parent.wait target noHang = (reply, after)) :
    ∃ rest, parent.children.wait target noHang = (reply, rest) ∧
      after = { parent with children := rest } := by
  rcases hwait : parent.children.wait target noHang with ⟨answer, rest⟩
  simp only [wait, hwait, Prod.mk.injEq] at h
  obtain ⟨rfl, rfl⟩ := h
  exact ⟨rest, rfl, rfl⟩

/-- What one run of the reaper did. -/
structure Sweep where
  /-- The child that it had to leave alone. -/
  foreground : Option Pid
  /-- How many children it says it collected, if it is a run that says so. -/
  answer : Option Nat
  reports : List (Pid × Termination)
  /-- What arrived of its notices. -/
  delivered : Bytes
deriving DecidableEq, Repr

/-- What a run of the reaper did makes sense: it wrote a notice for each report, it answers how
many, and the child that it had to leave alone is none of them. -/
structure Sweep.Proper (Arrives : Bytes → Bytes → Prop) (sweep : Sweep) : Prop where
  carries : Carries Arrives sweep.reports sweep.delivered
  counts : ∀ count, sweep.answer = some count → count = sweep.reports.length
  spares : ∀ report ∈ sweep.reports, sweep.foreground ≠ some report.1

/-- What the answers of some runs add up to. -/
def Sweep.total : List Sweep → Nat
  | [] => 0
  | sweep :: sweeps => sweep.answer.getD 0 + total sweeps

/-- The answers of some runs add up to the number of reports of those that answer. -/
theorem Sweep.total_eq {sweeps : List Sweep}
    (h : ∀ sweep ∈ sweeps, ∀ count, sweep.answer = some count → count = sweep.reports.length) :
    total sweeps = ((sweeps.filter (·.answer.isSome)).flatMap reports).length := by
  induction sweeps with
  | nil => rfl
  | cons sweep sweeps ih =>
    have hlater := ih fun other hmem => h other (List.mem_cons_of_mem _ hmem)
    rw [total, hlater]
    cases hanswer : sweep.answer with
    | none => simp [hanswer]
    | some count =>
      have hcount := h sweep List.mem_cons_self count hanswer
      simp [hanswer, hcount]

/-- A process with children, and everything that was observed of them. -/
structure Family where
  parent : Parent := {}
  history : History := {}
  /-- The runs of the reaper. -/
  sweeps : List Sweep := []
  /-- What waiting has brought. -/
  brought : List (Pid × WaitStatus) := []

namespace Family

/-- The family after a run of the reaper, of a kind that answers how many it collected or not. -/
def reaped (answers : Bool) (conditions : ReapConditions) (family : Family) : Family :=
  let reaping := Reaper.run family.parent.foreground conditions .success family.parent.children
  { family with
    parent := (family.parent.reap conditions).2
    history := family.history.swept reaping
    sweeps := family.sweeps ++
      [{ foreground := family.parent.foreground
         answer := if answers then some (family.parent.reap conditions).1 else none
         reports := reaping.collected
         delivered := reaping.delivered }] }

/-- What can happen next, when a piece of each notice arrives that `Arrives` relates to it. -/
inductive Step (Arrives : Bytes → Bytes → Prop) : Family → Family → Prop
  /-- A child is created, with a number that no child in the table has. -/
  | creates {family : Family} {pid : Pid} (mode : Mode) (positive : 0 < pid.number)
      (unused : ∀ child ∈ family.parent.children, child.pid ≠ pid) :
      Step Arrives family
        { family with
          parent := family.parent.create pid
          history := family.history.created pid mode }
  /-- A child ends. -/
  | ends {family : Family} {pid : Pid} {status : WaitStatus}
      (running : ⟨pid, none⟩ ∈ family.parent.children) (final : status.termination?.isSome) :
      Step Arrives family
        { family with
          parent := family.parent.terminate pid status
          history := family.history.ended pid status }
  /-- The kernel will offer the children in another order. -/
  | offers {family : Family} {children : Children}
      (order : children.Perm family.parent.children) :
      Step Arrives family { family with parent := { family.parent with children } }
  /-- Any child, or none, is named as the one in the foreground. -/
  | names {family : Family} (pid : Option Pid) :
      Step Arrives family { family with parent := family.parent.setForeground pid }
  /-- The reaper runs and answers how many children it collected. -/
  | finishes {family : Family} {conditions : ReapConditions}
      (brings : conditions.Bring Arrives) : Step Arrives family (family.reaped true conditions)
  /-- What is pending is reported. -/
  | reports {family : Family} {conditions : ReapConditions}
      (brings : conditions.Bring Arrives) : Step Arrives family (family.reaped false conditions)
  /-- Somebody looks which child has ended. -/
  | looks {family : Family} {reply : Except WaitError Pid}
      (found : family.parent.children.peek = reply) : Step Arrives family family
  /-- Waiting for a child, or for any, brings one. -/
  | waits {family : Family} {target : WaitTarget} {noHang : Bool} {pid : Pid}
      {status : WaitStatus} {parent : Parent}
      (answers : family.parent.wait target noHang = (some (.ok (pid, status)), parent)) :
      Step Arrives family
        { family with
          parent
          history := family.history.awaited pid status
          brought := family.brought ++ [(pid, status)] }
  /-- Waiting fails, or nobody who is waited for has ended yet. -/
  | fails {family : Family} {target : WaitTarget} {noHang : Bool} {error : WaitError}
      {parent : Parent}
      (answers : family.parent.wait target noHang = (some (.error error), parent)) :
      Step Arrives family { family with parent }

/-- What any order of the operations leads to from a process without children. -/
def Reachable (Arrives : Bytes → Bytes → Prop) : Family → Prop :=
  Relation.ReflTransGen (Step Arrives) {}

/-- What every operation keeps. -/
structure Keeps (Arrives : Bytes → Bytes → Prop) (family : Family) : Prop where
  balanced : family.history.Balanced family.parent.children family.brought
  reports : family.history.reports = family.sweeps.flatMap Sweep.reports
  output : family.parent.output = family.sweeps.flatMap Sweep.delivered
  sweeps : ∀ sweep ∈ family.sweeps, sweep.Proper Arrives

variable {Arrives : Bytes → Bytes → Prop} {family later : Family}

/-- A run of the reaper is a drain of the table. -/
theorem Keeps.drains (h : family.Keeps Arrives) (conditions : ReapConditions) :
    Children.Drains family.parent.foreground family.parent.children
      (Reaper.run family.parent.foreground conditions .success family.parent.children).collected
      (family.parent.reap conditions).2.children :=
  Reaper.run_drains family.parent.foreground conditions .success h.balanced.register.proper_child

theorem Keeps.reaped (h : family.Keeps Arrives) {conditions : ReapConditions}
    (hbrings : conditions.Bring Arrives) (answers : Bool) :
    (family.reaped answers conditions).Keeps Arrives where
  balanced := by
    have hdrained := History.Balanced.drained (h.drains conditions) h.balanced
    exact ⟨hdrained.register, hdrained.settled, hdrained.reported, hdrained.brought⟩
  reports := by
    have hreports := h.reports
    simp [Family.reaped, History.swept, hreports]
  output := by
    have houtput := h.output
    simp [Family.reaped, Parent.reap, houtput]
  sweeps := by
    intro sweep hmem
    rcases List.mem_append.1 hmem with hbefore | hlast
    · exact h.sweeps sweep hbefore
    · obtain rfl := List.mem_singleton.1 hlast
      refine ⟨Reaper.run_carries _ _ _ hbrings, ?_, (h.drains conditions).not_own⟩
      intro count hcount
      cases answers with
      | false => cases hcount
      | true => exact (Option.some.inj hcount).symm

/-- Every operation keeps the balance of a family. -/
theorem Keeps.step (hstep : Step Arrives family later) (h : family.Keeps Arrives) :
    later.Keeps Arrives := by
  cases hstep with
  | creates mode positive unused =>
    exact ⟨h.balanced.created mode positive unused, h.reports, h.output, h.sweeps⟩
  | ends running final => exact ⟨h.balanced.ended running final, h.reports, h.output, h.sweeps⟩
  | offers order => exact ⟨h.balanced.perm order, h.reports, h.output, h.sweeps⟩
  | names pid => exact ⟨h.balanced, h.reports, h.output, h.sweeps⟩
  | finishes brings => exact h.reaped brings true
  | reports brings => exact h.reaped brings false
  | looks => exact h
  | waits answers =>
    obtain ⟨rest, hwait, rfl⟩ := Parent.wait_eq answers
    obtain ⟨child, hperm, -, rfl, hstatus⟩ :=
      Children.perm_of_wait_ok h.balanced.register.proper_child hwait
    exact ⟨h.balanced.awaited hperm hstatus, h.reports, h.output, h.sweeps⟩
  | fails answers =>
    obtain ⟨rest, hwait, rfl⟩ := Parent.wait_eq answers
    obtain rfl := Children.rest_of_wait_error h.balanced.register.proper_child hwait
    exact h

theorem Reachable.keeps (h : Reachable Arrives family) : family.Keeps Arrives := by
  induction h with
  | refl => exact ⟨.empty, rfl, rfl, by simp⟩
  | tail _ hstep ih => exact ih.step hstep

/-- No child is lost and none is collected twice. -/
structure Conserved (Arrives : Bytes → Bytes → Prop) (family : Family) : Prop where
  /-- The table lists the children that were not collected: those that run and those that have
  ended. -/
  table : family.parent.children.Perm (ChildRecord.entries family.history.records)
  /-- Every child that was ever created stands in exactly one place. -/
  standing : ∀ record ∈ family.history.records, ∃! standing, record.Stands standing
  /-- What waiting has brought are the collections by waiting. -/
  brought : family.brought.Perm
    (family.history.records.flatMap fun record => record.waits.map (record.pid, ·))
  /-- The reports of all runs are the collections by the reaper. -/
  noticed : (family.sweeps.flatMap Sweep.reports).Perm
    (family.history.records.flatMap fun record => record.notices.map (record.pid, ·))
  /-- All that was written are the notices of the runs. -/
  output : family.parent.output = family.sweeps.flatMap Sweep.delivered
  carries : ∀ sweep ∈ family.sweeps, Carries Arrives sweep.reports sweep.delivered
  /-- The answers add up to the number of notices of the runs that answer. -/
  counted : Sweep.total family.sweeps =
    ((family.sweeps.filter (·.answer.isSome)).flatMap Sweep.reports).length
  /-- Whoever is named next is then the child in the foreground, and nothing else changes. -/
  named : ∀ pid, family.parent.setForeground pid = { family.parent with foreground := pid }
  /-- No run has collected the child that was in the foreground. -/
  spares : ∀ sweep ∈ family.sweeps, ∀ report ∈ sweep.reports, sweep.foreground ≠ some report.1
  /-- A run leaves the child that is in the foreground in the table. -/
  leaves : ∀ conditions, ∀ child ∈ family.parent.children,
    family.parent.foreground = some child.pid →
      child ∈ (family.parent.reap conditions).2.children
  /-- With nobody in the foreground, a run leaves nobody who has ended. -/
  drains : family.parent.foreground = none → ∀ conditions,
    ∀ child ∈ (family.parent.reap conditions).2.children, child.hasEnded = false

/-- **Children are conserved**, whatever is done in which order: they are created and end, one of
them or none is named as the one in the foreground, the reaper runs for either reason, somebody
looks, and somebody waits for one of them or for any of them. -/
theorem children_are_conserved (h : Reachable Arrives family) : family.Conserved Arrives := by
  have hkeeps := h.keeps
  refine
    { table := hkeeps.balanced.register.table
      standing := fun record hmem => (hkeeps.balanced.settled record hmem).existsUnique
      brought := hkeeps.balanced.brought
      noticed := ?noticed
      output := hkeeps.output
      carries := fun sweep hmem => (hkeeps.sweeps sweep hmem).carries
      counted := Sweep.total_eq fun sweep hmem => (hkeeps.sweeps sweep hmem).counts
      named := fun _ => rfl
      spares := fun sweep hmem => (hkeeps.sweeps sweep hmem).spares
      leaves := fun conditions child hmem hown =>
        (hkeeps.drains conditions).mem_rest_of_own hmem hown
      drains := ?drains }
  case noticed =>
    rw [← hkeeps.reports]
    exact hkeeps.balanced.reported
  case drains =>
    intro hfree conditions
    rcases (hkeeps.drains conditions).rest_running_or_held with hrunning | ⟨_, -, -, hown⟩
    · exact hrunning
    · rw [hfree] at hown
      cases hown

/-- A job has ended while a command runs in the foreground. -/
def jobEnded : Family where
  parent :=
    { children := [⟨⟨5⟩, some (.ofExit 4)⟩, ⟨⟨6⟩, none⟩]
      foreground := some ⟨6⟩ }
  history :=
    { records :=
        [{ pid := ⟨6⟩, mode := .foreground },
          { pid := ⟨5⟩, mode := .background, ended := some (.ofExit 4) }] }

theorem reachable_jobEnded : Reachable Eq jobEnded := by
  have created : Reachable Eq
      { parent := { children := [⟨⟨5⟩, none⟩, ⟨⟨6⟩, none⟩] }
        history :=
          { records :=
              [{ pid := ⟨6⟩, mode := .foreground }, { pid := ⟨5⟩, mode := .background }] } } :=
    (Relation.ReflTransGen.refl.tail (.creates .background (by decide) (by simp))).tail
      (.creates .foreground (by decide) (by decide))
  have hfinal : (WaitStatus.ofExit 4).termination?.isSome := by decide
  have ended := (created.tail (.names (some ⟨6⟩))).tail (.ends List.mem_cons_self hfinal)
  exact ended

/-- The reaper takes the job, and then the command ends and somebody waits for any child. -/
theorem children_are_conserved_by_turns :
    ∃ family, Reachable Eq family ∧ family.Conserved Eq ∧ family.parent.children = [] ∧
      family.brought = [(⟨6⟩, .ofExit 3)] ∧
      family.sweeps.map Sweep.reports = [[(⟨5⟩, .exited 4)]] := by
  have hcomplete : ({} : ReapConditions).Complete := by simp [ReapConditions.Complete]
  have swept := reachable_jobEnded.tail (.finishes hcomplete.bring_eq)
  have hfree : ∀ child ∈ jobEnded.parent.children, child.hasEnded = true →
      jobEnded.parent.foreground ≠ some child.pid := by decide
  obtain ⟨hcollected, hrest⟩ := (reachable_jobEnded.keeps.drains {}).eq_of_not_held hfree
  have hchildren : (jobEnded.reaped true {}).parent.children = [⟨⟨6⟩, none⟩] := hrest
  have hreports : (jobEnded.reaped true {}).sweeps.map Sweep.reports = [[(⟨5⟩, .exited 4)]] :=
    congrArg (fun reports => [reports]) hcollected
  have hbrought : (jobEnded.reaped true {}).brought = [] := rfl
  generalize jobEnded.reaped true {} = family at swept hchildren hreports hbrought
  obtain ⟨⟨children, foreground, output⟩, history, sweeps, brought⟩ := family
  obtain rfl : children = _ := hchildren
  obtain rfl : brought = _ := hbrought
  have hfinal : (WaitStatus.ofExit 3).termination?.isSome := by decide
  have ended := swept.tail (.ends (List.mem_singleton_self _) hfinal)
  have hanswer : Parent.wait ⟨[⟨⟨6⟩, some (.ofExit 3)⟩], foreground, output⟩ .any false =
      (some (.ok (⟨6⟩, .ofExit 3)), ⟨[], foreground, output⟩) := rfl
  have waited := ended.tail (.waits hanswer)
  exact ⟨_, waited, children_are_conserved waited, rfl, rfl, hreports⟩

end Family

end JobShell
