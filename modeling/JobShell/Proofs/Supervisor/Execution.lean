import JobShell.Proofs.Supervisor.Custody

/-!
# JobShell.Proofs.Supervisor.Execution — what runs is among what can happen

The supervisor that runs delivers the signal after each of its steps and lets the host decide what
happens while it waits. `Covers` says that none of this leaves the moments that a shell can come to:
each delivery, each launch and each step is a sequence of the steps that a moment allows, and so is
whatever the system offers the reaper. So what holds at every reachable moment holds wherever the
running shell gets.

The host has to tell nothing but the truth about children that end, and its writes to standard
output have to answer as the reaper's conditions allow.
-/

namespace JobShell

variable {World File Place : Type}

namespace Host

/-- The host tells of no end of a child that its status does not explain. -/
def Truthful (host : Host World File Place) : Prop :=
  ∀ world pid status, (host.next world).1 = .ended pid status → status.termination?.isSome

/-- A run of the reaper that writes to this file meets conditions that are allowed. -/
def Grants (host : Host World File Place) (allowed : ReapConditions → Prop)
    (file : Option File) : Prop :=
  ∀ world count, allowed { writes := List.replicate count (host.resultsOf world file) }

end Host

/-- The end of a child that does not run changes nothing in the table. -/
theorem Children.terminate_of_not_running {children : Children} {pid : Pid}
    (h : ⟨pid, none⟩ ∉ children) (status : WaitStatus) :
    children.terminate pid status = children := by
  refine (List.map_congr_left fun child hmem => ?_).trans (List.map_id children)
  rw [if_neg, id]
  intro hrunning
  simp only [Bool.and_eq_true, decide_eq_true_eq, Bool.not_eq_true', Child.hasEnded,
    Option.isSome_eq_false_iff, Option.isNone_iff_eq_none] at hrunning
  obtain ⟨rfl, hnone⟩ := hrunning
  rw [← hnone] at h
  exact h hmem

theorem Supervisor.output_notice (shell : Supervisor World File Place) (event : Event) :
    (shell.notice event).output = shell.output := by
  cases event with
  | alarm => rfl
  | ended pid status =>
    rw [Supervisor.notice, Supervisor.terminate]
    split <;> rfl

namespace Moment

/-- From the moment, the shell can come to this activity in this state. -/
def LeadsTo (host : Host World File Place) (allowed : ReapConditions → Prop)
    (moment : Moment World File Place) (activity : Activity)
    (shell : Supervisor World File Place) : Prop :=
  ∃ history, Relation.ReflTransGen (Step host allowed) moment ⟨activity, shell, history⟩

/-- What a shell that runs does at a moment is among what can happen. -/
structure Covers (host : Host World File Place) (allowed : ReapConditions → Prop)
    (moment : Moment World File Place) : Prop where
  /-- The delivery of the signal. -/
  delivers : host.Grants allowed moment.shell.output →
    LeadsTo host allowed moment moment.activity (moment.shell.deliver host)
  /-- The launch of a job. -/
  launches : ∀ command, moment.activity = .idle →
    (∀ pid, (moment.shell.launch host command .background).1 = .ok pid → moment.shell.Fresh pid) →
    LeadsTo host allowed moment .idle (moment.shell.launch host command .background).2
  /-- The next step of a command in the foreground. -/
  steps : host.Truthful → host.Grants allowed moment.shell.output →
    ∀ command phase, moment.activity = .supervising command phase → phase.result? = none →
      (∀ pid, (moment.shell.launch host command .foreground).1 = .ok pid →
        moment.shell.Fresh pid) →
      LeadsTo host allowed moment
        (.supervising command (Supervisor.step host command phase moment.shell).1)
        (Supervisor.step host command phase moment.shell).2
  /-- The children that a run of the reaper takes where the system offers whom it likes of those
  that have ended, somebody else at each look: the table can come into an order in which the reaper
  takes the same ones. -/
  offers : ∀ collected rest,
    Children.Picks moment.shell.foreground moment.shell.children collected rest →
      ∃ order, Step host allowed moment
          ⟨moment.activity, { moment.shell with children := order }, moment.history⟩ ∧
        ∀ conditions errno,
          (Reaper.run moment.shell.foreground conditions errno order).collected = collected ∧
            (Reaper.run moment.shell.foreground conditions errno order).children.Perm rest

namespace Custody

variable {host : Host World File Place} {allowed : ReapConditions → Prop} {activity : Activity}
  {shell : Supervisor World File Place} {history : History} {command : Command} {phase : Phase}

/-- A shell that delivers the signal does what can happen. -/
theorem leadsTo_deliver (h : Custody ⟨activity, shell, history⟩)
    (hgrants : host.Grants allowed shell.output) :
    LeadsTo host allowed ⟨activity, shell, history⟩ activity (shell.deliver host) := by
  have hreaction : shell.attributes.dispositions.get .child = .handle .reaper := h.reaction
  cases hpending : shell.pending && !shell.isBlocked with
  | false =>
    rw [Supervisor.deliver, if_neg (by simp [hpending])]
    exact ⟨history, .refl⟩
  | true =>
    obtain ⟨hpends, hunblocked⟩ : shell.pending = true ∧ shell.isBlocked = false := by
      simpa using hpending
    rw [Supervisor.deliver, if_pos hpending, hreaction]
    exact ⟨_, .single (.handled hpends hunblocked hreaction (hgrants _ _))⟩

/-- A shell that notices what happens does what can happen. -/
theorem leadsTo_notice (h : Custody ⟨activity, shell, history⟩) (event : Event)
    (hfinal : ∀ pid status, event = .ended pid status → status.termination?.isSome) :
    LeadsTo host allowed ⟨activity, shell, history⟩ activity (shell.notice event) := by
  cases event with
  | alarm => exact ⟨history, .refl⟩
  | ended pid status =>
    by_cases hrunning : ⟨pid, none⟩ ∈ shell.children
    · exact ⟨_, .single (.ends hrunning (hfinal pid status rfl))⟩
    · -- nobody of that number runs, so only the signal arrives
      rw [Supervisor.notice, Supervisor.terminate_of_reaction h.reaction,
        Children.terminate_of_not_running hrunning]
      exact ⟨history, .single .raised⟩

/-- A shell that lets time pass does what can happen. -/
theorem leadsTo_await (h : Custody ⟨activity, shell, history⟩) (htruthful : host.Truthful)
    (hgrants : host.Grants allowed shell.output) :
    LeadsTo host allowed ⟨activity, shell, history⟩ activity (shell.await host) := by
  have hpasses : Step host allowed ⟨activity, shell, history⟩
      ⟨activity, { shell with world := (host.next shell.world).2 }, history⟩ :=
    .elsewhere ⟨rfl, rfl, rfl, rfl, rfl, rfl⟩
  have hpassed := h.step hpasses
  obtain ⟨noticed, hnotices⟩ := hpassed.leadsTo_notice (host.next shell.world).1
    fun pid status hevent => htruthful _ pid status hevent
  obtain ⟨later, hdelivers⟩ := (hpassed.later hnotices).leadsTo_deliver
    (by rwa [Supervisor.output_notice])
  exact ⟨later, .head hpasses (hnotices.trans hdelivers)⟩

/-- A shell that launches a job does what can happen. -/
theorem leadsTo_launch (command : Command)
    (hfresh : ∀ pid, (shell.launch host command .background).1 = .ok pid → shell.Fresh pid) :
    LeadsTo host allowed ⟨.idle, shell, history⟩ .idle
      (shell.launch host command .background).2 := by
  rcases hlaunch : shell.launch host command .background with ⟨error | pid, launched⟩
  · exact ⟨_, .single (.rejected hlaunch)⟩
  · exact ⟨_, .single (.launched hlaunch (hfresh pid (by rw [hlaunch])))⟩

/-- A step of the supervisor that runs is one that can happen. -/
theorem leadsTo_step (h : Custody ⟨.supervising command phase, shell, history⟩)
    (htruthful : host.Truthful) (hgrants : host.Grants allowed shell.output)
    (hgoes : phase.result? = none)
    (hfresh : ∀ pid, (shell.launch host command .foreground).1 = .ok pid → shell.Fresh pid) :
    LeadsTo host allowed ⟨.supervising command phase, shell, history⟩
      (.supervising command (Supervisor.step host command phase shell).1)
      (Supervisor.step host command phase shell).2 := by
  cases phase with
  | entering | guarded | launched | registered | rejected | collected | cleared | reported
  | leaving => exact ⟨_, .single (.quiet rfl trivial)⟩
  | blocked guard mask =>
    rcases hlaunch : shell.launch host command .foreground with ⟨error | pid, stepped⟩
    · have hsteps : Supervisor.step host command (.blocked guard mask) shell =
          (.rejected guard mask error, stepped) := by
        rw [Supervisor.step, hlaunch]
      rw [hsteps]
      exact ⟨_, .single (.quiet hsteps trivial)⟩
    · have hsteps : Supervisor.step host command (.blocked guard mask) shell =
          (.launched guard mask pid, stepped) := by
        rw [Supervisor.step, hlaunch]
      rw [hsteps]
      exact ⟨_, .single (.forked hsteps (hfresh pid (by rw [hlaunch])))⟩
  | waiting guard pid =>
    rcases hwait : shell.children.wait (.child pid) false with
      ⟨_ | error | ⟨found, status⟩, rest⟩
    · -- the call blocks, so time passes
      rw [Supervisor.step, Supervisor.waitOnce, hwait]
      exact h.leadsTo_await htruthful hgrants
    · exact absurd hwait h.not_failed
    · exact ⟨_, .single (.waited hwait rfl)⟩
  | reporting => exact ⟨_, .single (.reported (hgrants _ _))⟩
  | finished => cases hgoes

/-- Wherever there is custody, what runs is among what can happen. -/
theorem covers {moment : Moment World File Place} (h : Custody moment) :
    Covers host allowed moment where
  delivers hgrants := h.leadsTo_deliver hgrants
  launches command hidle hfresh := by
    obtain ⟨activity, shell, history⟩ := moment
    cases hidle
    exact leadsTo_launch command hfresh
  steps htruthful hgrants command phase hactivity hgoes hfresh := by
    obtain ⟨activity, shell, history⟩ := moment
    cases hactivity
    exact h.leadsTo_step htruthful hgrants hgoes hfresh
  offers collected rest hpicks := by
    obtain ⟨order, hperm, hruns⟩ := Reaper.run_of_picks hpicks h.accounts.proper
    exact ⟨order, .offered hperm, hruns⟩

end Custody

end Moment

end JobShell
