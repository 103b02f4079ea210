import JobShell.Proofs.Supervisor.Keeping

/-!
# JobShell.Proofs.Supervisor.Reporting — every job is reported once

Deliveries of the signal coalesce, and the reaper holds back at the foreground child, so a job that
has ended may have to wait for its notice without any signal pending. What makes up for it is the
report after the foreground child was collected. `Noticed` says, phase by phase, who may have ended
while no signal is pending:

* usually nobody, because the last run of the reaper went on until nobody was left;
* while the reaper knows a child in the foreground, others as well, provided that this one has;
* anybody between collecting that child and the report that follows.

Whatever else the shell does, the signal is let through again when a call returns, so a pending
signal is always delivered in the end. That is `Unmasked`.
-/

namespace JobShell

/-- Nobody has ended. -/
def Dry (children : Children) : Prop :=
  ∀ child ∈ children, child.hasEnded = false

/-- Whoever has ended is noticed: a signal is pending, or the reaper holds back for a reason. -/
def Noticed (pending : Bool) (children : Children) : Activity → Prop
  | .idle => pending = false → Dry children
  | .supervising _ phase =>
    match phase with
    | .registered _ _ pid | .waiting _ pid =>
      pending = false → Dry children ∨ ∃ child ∈ children, child.hasEnded = true ∧ child.pid = pid
    | .collected .. | .cleared .. | .reporting .. => True
    | .entering | .guarded .. | .blocked .. | .launched .. | .rejected .. | .reported ..
    | .leaving .. | .finished .. => pending = false → Dry children

/-- The signal is let through, or the mask that will be put back lets it through. -/
def Unmasked (blocked : Bool) : Activity → Prop
  | .idle => blocked = false
  | .supervising _ phase =>
    match phase with
    | .blocked _ mask | .launched _ mask _ | .registered _ mask _ | .rejected _ mask _
    | .reporting _ mask _ | .reported _ mask _ => mask.has .child = false
    | .entering | .guarded .. | .waiting .. | .collected .. | .cleared .. | .leaving ..
    | .finished .. => blocked = false

section Noticed

variable {pending : Bool} {children rest : Children} {activity : Activity}

theorem Noticed.of_pending : Noticed true children activity := by
  cases activity with
  | idle => exact fun h => nomatch h
  | supervising command phase =>
    cases phase with
    | collected | cleared | reporting => trivial
    | _ => exact fun h => nomatch h

theorem Noticed.of_dry (h : Dry children) : Noticed pending children activity := by
  cases activity with
  | idle => exact fun _ => h
  | supervising command phase =>
    cases phase with
    | collected | cleared | reporting => trivial
    | registered | waiting => exact fun _ => .inl h
    | _ => exact fun _ => h

theorem Dry.append_running (h : Dry children) (pid : Pid) : Dry (children ++ [⟨pid, none⟩]) := by
  intro child hmem
  rcases List.mem_append.1 hmem with hmem | hmem
  · exact h child hmem
  · obtain rfl := List.mem_singleton.1 hmem
    rfl

theorem Noticed.perm (h : Noticed pending children activity) (hperm : rest.Perm children) :
    Noticed pending rest activity := by
  have hdry : Dry children → Dry rest := by
    intro hdry child hmem
    exact hdry child (hperm.mem_iff.1 hmem)
  cases activity with
  | idle => exact fun hpending => hdry (h hpending)
  | supervising command phase =>
    cases phase with
    | collected | cleared | reporting => trivial
    | registered | waiting =>
      intro hpending
      refine (h hpending).imp hdry ?_
      rintro ⟨child, hmem, hended⟩
      exact ⟨child, hperm.mem_iff.2 hmem, hended⟩
    | _ => exact fun hpending => hdry (h hpending)

/-- After a run of the reaper nobody is left who has ended but the child it holds back for. -/
theorem Noticed.of_drains {foreground : Option Pid} {foregrounds : List ChildRecord}
    {collected : List (Pid × Termination)}
    (htracked : Tracked foreground false foregrounds activity)
    (hdrains : Children.Drains foreground children collected rest) :
    Noticed pending rest activity := by
  rcases hdrains.rest_running_or_held with hdry | ⟨child, hmem, hended, hown⟩
  · exact .of_dry hdry
  · cases activity with
    | idle =>
      obtain ⟨rfl, -⟩ := htracked
      cases hown
    | supervising command phase =>
      cases phase with
      | collected | cleared | reporting => trivial
      | registered | waiting =>
        obtain ⟨rfl, -⟩ := htracked
        intro _
        exact .inr ⟨child, hmem, hended, (Option.some.inj hown).symm⟩
      | _ =>
        -- the reaper holds back for nobody
        obtain ⟨rfl, -⟩ := htracked
        cases hown

end Noticed

namespace Moment

variable {World File Place : Type}

/-- What holds at every moment of a shell that lets the signal through when it starts. -/
structure Vigilance (moment : Moment World File Place) : Prop where
  custody : Custody moment
  noticed : Noticed moment.shell.pending moment.shell.children moment.activity
  unmasked : Unmasked moment.shell.isBlocked moment.activity

namespace Vigilance

variable {host : Host World File Place} {allowed : ReapConditions → Prop} {activity : Activity}
  {shell stepped : Supervisor World File Place} {history : History} {command : Command}
  {phase next : Phase}

theorem start (hstarts : shell.Starts) (hunblocked : shell.isBlocked = false) :
    Vigilance ⟨.idle, shell, {}⟩ where
  custody := .start hstarts
  noticed := by
    rw [hstarts.children]
    intro _ child hmem
    cases hmem
  unmasked := hunblocked

/-- The quiet steps of a supervisor overlook nobody and let the signal through in the end. -/
theorem moved (h : Vigilance ⟨.supervising command phase, shell, history⟩)
    (hmoves : shell.Moves phase next stepped) :
    Noticed stepped.pending stepped.children (.supervising command next) ∧
      Unmasked stepped.isBlocked (.supervising command next) := by
  obtain ⟨hcustody, hnoticed, hunmasked⟩ := h
  cases hmoves with
  | guard => exact ⟨hnoticed, hunmasked⟩
  | block => exact ⟨hnoticed, hunmasked⟩
  | reject same =>
    rw [same.pending, same.children]
    exact ⟨hnoticed, hunmasked⟩
  | register => exact ⟨fun hpending => .inl (hnoticed hpending), hunmasked⟩
  | unblock => exact ⟨hnoticed, (shell.isBlocked_restoreMask _).trans hunmasked⟩
  | abandon => exact ⟨hnoticed, (shell.isBlocked_restoreMask _).trans hunmasked⟩
  | clear => exact ⟨trivial, hunmasked⟩
  | hold => exact ⟨trivial, hunmasked⟩
  | skip absent =>
    have hinstalled := hcustody.installed
    dsimp only at hinstalled
    rw [hinstalled] at absent
    cases absent
  | release => exact ⟨hnoticed, (shell.isBlocked_restoreMask _).trans hunmasked⟩
  | leave => exact ⟨hnoticed, hunmasked⟩

/-- Every step keeps watch. -/
theorem step {moment later : Moment World File Place} (h : Vigilance moment)
    (hstep : Step host allowed moment later) : Vigilance later := by
  have hcustody := h.custody.step hstep
  obtain ⟨hbefore, hnoticed, hunmasked⟩ := h
  suffices hwatch : Noticed later.shell.pending later.shell.children later.activity ∧
      Unmasked later.shell.isBlocked later.activity from ⟨hcustody, hwatch.1, hwatch.2⟩
  cases hstep with
  | ends running final =>
    rw [Supervisor.terminate_of_reaction hbefore.reaction]
    exact ⟨.of_pending, hunmasked⟩
  | raised => exact ⟨.of_pending, hunmasked⟩
  | offered order => exact ⟨hnoticed.perm order, hunmasked⟩
  | elsewhere same =>
    dsimp only
    rw [same.pending, same.children, same.isBlocked]
    exact ⟨hnoticed, hunmasked⟩
  | @handled activity shell history conditions pending unblocked reaction allows =>
    have htracked := hbefore.tracked
    dsimp only at htracked
    rw [unblocked] at htracked
    have hdrains := Reaper.run_drains shell.foreground conditions shell.errno
      hbefore.accounts.proper
    exact ⟨.of_drains htracked hdrains, hunmasked⟩
  | launched created fresh =>
    have hsame := Supervisor.launch_ok created
    dsimp only
    rw [hsame.pending, hsame.children, hsame.isBlocked]
    exact ⟨fun hpending => (hnoticed hpending).append_running _, hunmasked⟩
  | rejected failed =>
    have hsame := Supervisor.launch_error failed
    dsimp only
    rw [hsame.pending, hsame.children, hsame.isBlocked]
    exact ⟨hnoticed, hunmasked⟩
  | called => exact ⟨hnoticed, hunmasked⟩
  | quiet steps isQuiet =>
    exact moved ⟨hbefore, hnoticed, hunmasked⟩ (Supervisor.moves_of_step steps isQuiet)
  | forked steps fresh =>
    have hsame := Supervisor.launch_ok (Supervisor.launch_of_step steps)
    dsimp only
    rw [hsame.pending, hsame.children]
    exact ⟨fun hpending => (hnoticed hpending).append_running _, hunmasked⟩
  | interrupted => exact ⟨hnoticed, hunmasked⟩
  | waited answers steps =>
    obtain ⟨-, -, -, -, -, -, -, rfl, rfl⟩ := hbefore.collects answers steps
    exact ⟨trivial, hunmasked⟩
  | failed answers steps => exact absurd answers hbefore.not_failed
  | @reported command guard mask result shell history conditions allows =>
    obtain ⟨hforeground, -⟩ := hbefore.tracked
    have hdrains := Reaper.run_drains shell.foreground conditions shell.errno
      hbefore.accounts.proper
    refine ⟨?_, hunmasked⟩
    rcases hdrains.rest_running_or_held with hdry | ⟨child, -, -, hown⟩
    · exact .of_dry hdry
    · -- the reaper has been told that there is nobody in the foreground
      dsimp only at hforeground
      rw [hforeground] at hown
      cases hown
  | returned => exact ⟨hnoticed, hunmasked⟩

/-- Watch is kept at every moment of a shell that lets the signal through when it starts. -/
theorem of_reachable {moment : Moment World File Place} (hstarts : shell.Starts)
    (hunblocked : shell.isBlocked = false) (h : Reachable host allowed shell moment) :
    Vigilance moment := by
  induction h with
  | refl => exact start hstarts hunblocked
  | tail _ hstep ih => exact ih.step hstep

end Vigilance

/-! ## What follows for the jobs in the background -/

/-- What is promised about the jobs in the background. -/
structure ReportsOnce (host : Host World File Place) (allowed : ReapConditions → Prop)
    (moment : Moment World File Place) : Prop where
  /-- No child has more than one notice, and a notice says how its child ended. -/
  notices : ∀ record ∈ moment.history.records, record.notices = [] ∨
    ∃ status termination, record.ended = some status ∧ status.termination? = some termination ∧
      record.notices = [termination]
  /-- The bytes that arrived are these notices, each of them whole. -/
  written : moment.history.reports.Perm
      (moment.history.records.flatMap fun record => record.notices.map (record.pid, ·)) ∧
    moment.history.written =
      moment.history.reports.flatMap fun report => Notice.of report.1 report.2
  /-- Whatever happens next, the notices that it adds go to standard output, each of them whole. -/
  publishes : ∀ later, Step host allowed moment later → Publishes Eq host moment later
  /-- Between two commands with no signal pending, nobody is left who has ended. -/
  collected : moment.activity = .idle → moment.shell.pending = false →
    ∀ child ∈ moment.shell.children, child.status = none
  /-- By then every job that has ended was collected with its one notice. -/
  reported : moment.activity = .idle → moment.shell.pending = false →
    ∀ record ∈ moment.history.records, record.mode = .background → record.ended ≠ none →
      record.Reported
  /-- Between two commands a pending signal can be delivered. -/
  delivered : moment.activity = .idle → moment.shell.pending = true →
    ∃ later, Step host allowed moment later ∧ later.activity = .idle ∧ later.shell.pending = false
  /-- What the shell does when it runs is among what can happen next. -/
  covers : Covers host allowed moment

namespace Vigilance

variable {host : Host World File Place} {allowed : ReapConditions → Prop}
  {moment : Moment World File Place} {record : ChildRecord}

theorem notices (h : Vigilance moment) (hmem : record ∈ moment.history.records) :
    record.notices = [] ∨ ∃ status termination, record.ended = some status ∧
      status.termination? = some termination ∧ record.notices = [termination] := by
  rcases (h.custody.accounts.sound record hmem).collected with
    hlive | ⟨-, -, hreported⟩ | ⟨-, termination, hnotices, -⟩
  · exact .inl (ChildRecord.isLive_iff.1 hlive).1
  · exact .inr hreported
  · exact .inl hnotices

theorem dry_of_idle (h : Vigilance moment) (hidle : moment.activity = .idle)
    (hpending : moment.shell.pending = false) : Dry moment.shell.children := by
  have hnoticed := h.noticed
  rw [hidle] at hnoticed
  exact hnoticed hpending

/-- A job that has ended and is no longer in the table was reported. -/
theorem reported_of_dry (h : Vigilance moment) (hdry : Dry moment.shell.children)
    (hmem : record ∈ moment.history.records) (hmode : record.mode = .background)
    (hended : record.ended ≠ none) : record.Reported := by
  rcases (h.custody.accounts.sound record hmem).collected with
    hlive | ⟨-, hreported⟩ | ⟨hforeground, -⟩
  · -- its entry would be that of a child that has ended
    have hrunning := hdry record.entry (h.custody.accounts.entry_mem hmem hlive)
    simp [Child.hasEnded, ChildRecord.entry] at hrunning
    exact absurd hrunning hended
  · exact hreported
  · rw [hmode] at hforeground
    cases hforeground

theorem delivered (h : Vigilance moment) (hallowed : ∃ conditions, allowed conditions)
    (hidle : moment.activity = .idle) (hpending : moment.shell.pending = true) :
    ∃ later, Step host allowed moment later ∧ later.activity = .idle ∧
      later.shell.pending = false := by
  obtain ⟨conditions, hallowed⟩ := hallowed
  have hunmasked := h.unmasked
  rw [hidle] at hunmasked
  exact ⟨_, .handled hpending hunmasked h.custody.reaction hallowed, hidle, rfl⟩

/-- Watch is what gets every job its notice. -/
theorem reportsOnce (h : Vigilance moment) (hallowed : ∃ conditions, allowed conditions)
    (hbring : ∀ conditions, allowed conditions → conditions.Bring Eq)
    (hcarries : Carries Eq moment.history.reports moment.history.written) :
    ReportsOnce host allowed moment where
  notices record hmem := h.notices hmem
  written := ⟨h.custody.accounts.listed, hcarries.eq_flatMap⟩
  publishes later hstep := hstep.publishes hbring
  collected := by
    intro hidle hpending child hmem
    simpa [Child.hasEnded] using h.dry_of_idle hidle hpending child hmem
  reported := by
    intro hidle hpending record hmem hmode hended
    exact h.reported_of_dry (h.dry_of_idle hidle hpending) hmem hmode hended
  delivered hidle hpending := h.delivered hallowed hidle hpending
  covers := h.custody.covers

end Vigilance

/-! ### A job that was held back -/

/-- The records after the call has returned and the job was reported. -/
def sampleReturned : List ChildRecord :=
  [{ sampleOwn with
      ended := some (.ofExit 3)
      waits := [.ofExit 3]
      answer := some (.ok ⟨.exited 3, none⟩) },
    { sampleJob with ended := some (.ofExit 4), notices := [.exited 4] }]

/-- The job for which the reaper held back is reported before the call returns. -/
theorem sample_returned {allowed : ReapConditions → Prop} (h : allowed {}) :
    ∃ moment, Reachable Host.granting allowed (sampleShell [] false none .empty) moment ∧
      moment.activity = .idle ∧ moment.shell.pending = false ∧
      moment.history.records = sampleReturned := by
  have hproper : ∀ child ∈ [(⟨⟨5⟩, some (.ofExit 4)⟩ : Child)], child.Proper := by
    intro child hmem
    obtain rfl := List.mem_singleton.1 hmem
    refine ⟨by decide, ?_⟩
    rintro status ⟨⟩
    rfl
  have hdrains := Reaper.run_drains none {} .success hproper
  obtain ⟨hcollected, -⟩ := hdrains.eq_of_not_held (by simp)
  have waited := (sample_held h).tail (.waited rfl rfl)
  have cleared := waited.tail (.quiet rfl trivial)
  have reporting : Reachable Host.granting allowed (sampleShell [] false none .empty)
      ⟨.supervising sampleCommand (.reporting sampleGuard .empty (.ok (.exited 3))),
        sampleShell [⟨⟨5⟩, some (.ofExit 4)⟩] false none sampleMask,
        { records := [{ sampleOwn with ended := some (.ofExit 3), waits := [.ofExit 3] },
            { sampleJob with ended := some (.ofExit 4) }] }⟩ :=
    .then cleared (.quiet rfl trivial) ⟨rfl, rfl, rfl, rfl, rfl, rfl⟩
  have reported := reporting.tail (.reported h)
  have released := reported.tail (.quiet rfl trivial)
  have left := released.tail (.quiet rfl trivial)
  have returned := left.tail .returned
  refine ⟨_, returned, rfl, rfl, ?_⟩
  change (History.returned _ (History.swept
    (Reaper.run none {} .success [⟨⟨5⟩, some (.ofExit 4)⟩]) _)).records = _
  rw [History.swept, hcollected]
  rfl

/-! ### The promise kept -/

/-- Every job is reported once: whatever happens and in whichever order, a job that has ended has
its one notice by the time the shell is between two commands and no signal is pending. -/
theorem background_jobs_are_reported_once (host : Host World File Place)
    {shell : Supervisor World File Place} {moment : Moment World File Place}
    (hstarts : shell.Starts) (hunblocked : shell.isBlocked = false)
    (h : Reachable host ReapConditions.Complete shell moment) :
    ReportsOnce host ReapConditions.Complete moment := by
  have hvigilance := Vigilance.of_reachable hstarts hunblocked h
  have hbring (conditions : ReapConditions) (hcomplete : conditions.Complete) :
      conditions.Bring Eq := hcomplete.bring_eq
  have hcarries := carries_of_reachable hbring h
  have hnone : ReapConditions.Complete {} := by
    intro results hmem
    cases hmem
  exact hvigilance.reportsOnce ⟨{}, hnone⟩ hbring hcarries

/-- The job that ended while the reaper was holding back has been reported. -/
theorem job_held_back_is_reported :
    ∃ shell moment, sampleProcess.prepare = .ok shell ∧ shell.Starts ∧ shell.isBlocked = false ∧
      Reachable Host.granting ReapConditions.Complete shell moment ∧
      moment.activity = .idle ∧ moment.shell.pending = false ∧
      moment.history.records = sampleReturned ∧
      ReportsOnce Host.granting ReapConditions.Complete moment := by
  have hstarts := Supervisor.starts_of_prepare rfl rfl prepare_sampleProcess
  have hnone : ReapConditions.Complete {} := by
    intro results hmem
    cases hmem
  obtain ⟨moment, hreachable, hidle, hpending, hrecords⟩ := sample_returned hnone
  exact ⟨_, moment, prepare_sampleProcess, hstarts, rfl, hreachable, hidle, hpending, hrecords,
    background_jobs_are_reported_once Host.granting hstarts rfl hreachable⟩

end Moment

end JobShell
