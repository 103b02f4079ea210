import JobShell.Proofs.Supervisor.Interleaving

/-!
# JobShell.Proofs.Supervisor.Custody — who collects the foreground child

The supervisor of a foreground command and the reaper collect from one table of children. The
supervisor finds its child there whenever it waits, because the reaper cannot have taken it:

1. before the reaper knows the child, the signal is blocked and the reaper does not run;
2. from then on the reaper stops at the child as long as the child is in the table;
3. when the child has been collected, nobody else has its number until the call returns.

`Tracked` says this for each phase, and `Custody` is the invariant that every step keeps.
-/

namespace JobShell

open ChildRecord

/-! ## The children in the foreground, seen from a phase -/

/-- The call that ran the child has collected it and has returned its outcome. -/
def ChildRecord.Completed (record : ChildRecord) : Prop :=
  ∃ termination, record.Awaited termination ∧
    record.answer = some (.ok (Outcome.ofTermination termination))

/-- All calls have returned. -/
def Settled (foregrounds : List ChildRecord) : Prop :=
  ∀ record ∈ foregrounds, record.Completed

/-- One call goes on; it has a child that it has not collected. -/
def Runs (pid : Pid) (foregrounds : List ChildRecord) : Prop :=
  ∃ own past, foregrounds = own :: past ∧ own.pid = pid ∧ own.isLive = true ∧
    own.answer = none ∧ Settled past

/-- One call goes on; it has collected its child and knows what to return. -/
def Owes (result : Except ShellError Termination) (foregrounds : List ChildRecord) : Prop :=
  ∃ own past termination, foregrounds = own :: past ∧ own.Awaited termination ∧
    own.answer = none ∧ result = .ok termination ∧ Settled past

/-- The reaper leaves alone whoever runs in the foreground and has not been collected. -/
def Spares (foreground : Option Pid) (foregrounds : List ChildRecord) : Prop :=
  ∀ record ∈ foregrounds, record.isLive = true → foreground = some record.pid

section Foregrounds

variable {pid : Pid} {result : Except ShellError Termination} {foregrounds : List ChildRecord}

theorem ChildRecord.Completed.not_isLive {record : ChildRecord} (h : record.Completed) :
    record.isLive = false := by
  obtain ⟨termination, hawaited, -⟩ := h
  exact hawaited.not_isLive

theorem Settled.spares (h : Settled foregrounds) (foreground : Option Pid) :
    Spares foreground foregrounds := by
  intro record hmem hlive
  rw [(h record hmem).not_isLive] at hlive
  cases hlive

theorem Runs.spares (h : Runs pid foregrounds) : Spares (some pid) foregrounds := by
  obtain ⟨own, past, rfl, rfl, -, -, hpast⟩ := h
  intro record hmem hlive
  rcases List.mem_cons.1 hmem with rfl | hmem
  · rfl
  · exact hpast.spares _ record hmem hlive

theorem Owes.spares (h : Owes result foregrounds) (foreground : Option Pid) :
    Spares foreground foregrounds := by
  obtain ⟨own, past, termination, rfl, hawaited, -, -, hpast⟩ := h
  intro record hmem hlive
  rcases List.mem_cons.1 hmem with rfl | hmem
  · rw [hawaited.not_isLive] at hlive
    cases hlive
  · exact hpast.spares _ record hmem hlive

/-- What happens to children that were not collected does not happen to these. -/
theorem map_changeLive_of_collected {records : List ChildRecord}
    (h : ∀ record ∈ records, record.isLive = false) (pid : Pid)
    (change : ChildRecord → ChildRecord) : records.map (changeLive pid change) = records := by
  refine (List.map_congr_left fun record hmem => ?_).trans (List.map_id records)
  rw [changeLive, if_neg, id]
  rintro ⟨hlive, -⟩
  rw [h record hmem] at hlive
  cases hlive

theorem Settled.map_changeLive (h : Settled foregrounds) (pid : Pid)
    (change : ChildRecord → ChildRecord) :
    foregrounds.map (changeLive pid change) = foregrounds :=
  map_changeLive_of_collected (fun record hmem => (h record hmem).not_isLive) pid change

theorem Owes.map_changeLive (h : Owes result foregrounds) (pid : Pid)
    (change : ChildRecord → ChildRecord) :
    foregrounds.map (changeLive pid change) = foregrounds := by
  obtain ⟨own, past, termination, rfl, hawaited, -, -, hpast⟩ := h
  refine map_changeLive_of_collected ?_ pid change
  intro record hmem
  rcases List.mem_cons.1 hmem with rfl | hmem
  · exact hawaited.not_isLive
  · exact (hpast record hmem).not_isLive

/-- A call whose child may have ended meanwhile goes on. -/
theorem Runs.ended (h : Runs pid foregrounds) (other : Pid) (status : WaitStatus) :
    Runs pid
      (foregrounds.map (changeLive other fun record => { record with ended := some status })) := by
  obtain ⟨own, past, rfl, rfl, hlive, hanswer, hpast⟩ := h
  rw [List.map_cons, hpast.map_changeLive]
  by_cases hother : own.pid = other
  · refine ⟨{ own with ended := some status }, past, ?_, rfl, hlive, hanswer, hpast⟩
    rw [changeLive, if_pos ⟨hlive, hother⟩]
  · refine ⟨own, past, ?_, rfl, hlive, hanswer, hpast⟩
    rw [changeLive, if_neg fun hboth => hother hboth.2]

/-- A call that has collected its child owes how the child ended. -/
theorem Runs.awaited (h : Runs pid foregrounds) {status : WaitStatus} {termination : Termination}
    (hended : ∀ record ∈ foregrounds, record.isLive = true → record.pid = pid →
      record.ended = some status)
    (hdecoded : status.termination? = some termination) :
    Owes (.ok termination) (foregrounds.map (changeLive pid (waited status))) := by
  obtain ⟨own, past, rfl, rfl, hlive, hanswer, hpast⟩ := h
  rw [List.map_cons, hpast.map_changeLive, changeLive, if_pos ⟨hlive, rfl⟩]
  have hown := hended own (by simp) hlive rfl
  exact ⟨_, past, termination, rfl, awaited_waited hlive hown hdecoded, hanswer, rfl, hpast⟩

/-- An answer is given once. -/
theorem Settled.map_answered (h : Settled foregrounds) (answer : Except ShellError Outcome) :
    foregrounds.map (·.answered answer) = foregrounds := by
  refine (List.map_congr_left fun record hmem => ?_).trans (List.map_id foregrounds)
  obtain ⟨termination, -, hanswer⟩ := h record hmem
  exact answered_of_some hanswer answer

/-- When the call returns what it owes, all calls have returned. -/
theorem Owes.answered (h : Owes result foregrounds)
    (hmode : ∀ record ∈ foregrounds, record.mode = .foreground) :
    Settled (foregrounds.map (·.answered (result.map Outcome.ofTermination))) := by
  obtain ⟨own, past, termination, rfl, hawaited, hanswer, rfl, hpast⟩ := h
  rw [List.map_cons, hpast.map_answered, answered_of_none (hmode own (by simp)) hanswer]
  intro record hmem
  rcases List.mem_cons.1 hmem with rfl | hmem
  · exact ⟨termination, hawaited, rfl⟩
  · exact hpast record hmem

end Foregrounds

/-! ## The invariant -/

/-- Where the child of a foreground command stands, by the phase of its supervisor: what the reaper
was told, whether its signal is blocked, and what the records of such children say. -/
def Tracked (foreground : Option Pid) (blocked : Bool) (foregrounds : List ChildRecord) :
    Activity → Prop
  | .idle => foreground = none ∧ Settled foregrounds
  | .supervising _ phase =>
    match phase with
    | .entering | .guarded _ | .rejected .. => foreground = none ∧ Settled foregrounds
    | .blocked .. => foreground = none ∧ blocked = true ∧ Settled foregrounds
    -- the reaper does not know the child yet, so it must not run
    | .launched _ _ pid => foreground = none ∧ blocked = true ∧ Runs pid foregrounds
    | .registered _ _ pid | .waiting _ pid => foreground = some pid ∧ Runs pid foregrounds
    -- the reaper may still be told of a child that is no longer in the table
    | .collected _ result => Owes result foregrounds
    | .cleared _ result | .reporting _ _ result | .reported _ _ result =>
      foreground = none ∧ Owes result foregrounds
    | .leaving _ result | .finished result =>
      foreground = none ∧ (Settled foregrounds ∨ Owes result foregrounds)

section Tracked

variable {foreground : Option Pid} {blocked : Bool} {foregrounds : List ChildRecord}
  {activity : Activity}

/-- Whenever the reaper can run, it spares the child in the foreground. -/
theorem Tracked.spares (h : Tracked foreground false foregrounds activity) :
    Spares foreground foregrounds := by
  cases activity with
  | idle => exact h.2.spares _
  | supervising command phase =>
    cases phase with
    | entering | guarded | rejected => exact h.2.spares _
    | blocked | launched =>
      -- the signal is blocked
      obtain ⟨-, hblocked, -⟩ := h
      cases hblocked
    | registered | waiting =>
      obtain ⟨rfl, hruns⟩ := h
      exact hruns.spares
    | collected => exact Owes.spares h _
    | cleared | reporting | reported => exact h.2.spares _
    | leaving | finished =>
      obtain ⟨-, hsettled | howes⟩ := h
      · exact hsettled.spares _
      · exact howes.spares _

/-- A child may end in every phase. -/
theorem Tracked.ended (h : Tracked foreground blocked foregrounds activity) (pid : Pid)
    (status : WaitStatus) :
    Tracked foreground blocked
      (foregrounds.map (changeLive pid fun record => { record with ended := some status }))
      activity := by
  have hsettled : Settled foregrounds → Settled (foregrounds.map
      (changeLive pid fun record => { record with ended := some status })) := by
    intro hsettled
    rw [hsettled.map_changeLive]
    exact hsettled
  have howes : ∀ {result}, Owes result foregrounds → Owes result (foregrounds.map
      (changeLive pid fun record => { record with ended := some status })) := by
    intro result howes
    rw [howes.map_changeLive]
    exact howes
  cases activity with
  | idle => exact ⟨h.1, hsettled h.2⟩
  | supervising command phase =>
    cases phase with
    | entering | guarded | rejected => exact ⟨h.1, hsettled h.2⟩
    | blocked => exact ⟨h.1, h.2.1, hsettled h.2.2⟩
    | launched => exact ⟨h.1, h.2.1, h.2.2.ended pid status⟩
    | registered | waiting => exact ⟨h.1, h.2.ended pid status⟩
    | collected => exact howes h
    | cleared | reporting | reported => exact ⟨h.1, howes h.2⟩
    | leaving | finished => exact ⟨h.1, h.2.imp hsettled howes⟩

/-- At most one call has not returned, the one that created the youngest child. -/
theorem Tracked.settled_or_own (h : Tracked foreground blocked foregrounds activity) :
    Settled foregrounds ∨
      ∃ own past, foregrounds = own :: past ∧ own.answer = none ∧ Settled past := by
  have hruns : ∀ {pid}, Runs pid foregrounds →
      ∃ own past, foregrounds = own :: past ∧ own.answer = none ∧ Settled past := by
    rintro pid ⟨own, past, hsplit, -, -, hanswer, hpast⟩
    exact ⟨own, past, hsplit, hanswer, hpast⟩
  have howes : ∀ {result}, Owes result foregrounds →
      ∃ own past, foregrounds = own :: past ∧ own.answer = none ∧ Settled past := by
    rintro result ⟨own, past, -, hsplit, -, hanswer, -, hpast⟩
    exact ⟨own, past, hsplit, hanswer, hpast⟩
  cases activity with
  | idle => exact .inl h.2
  | supervising command phase =>
    cases phase with
    | entering | guarded | rejected => exact .inl h.2
    | blocked => exact .inl h.2.2
    | launched => exact .inr (hruns h.2.2)
    | registered | waiting => exact .inr (hruns h.2)
    | collected => exact .inr (howes h)
    | cleared | reporting | reported => exact .inr (howes h.2)
    | leaving | finished => exact h.2.imp_right howes

end Tracked

/-- No call is left that has not returned. -/
theorem Settled.filter_unanswered {foregrounds : List ChildRecord} (h : Settled foregrounds) :
    foregrounds.filter (·.answer = none) = [] := by
  rw [List.filter_eq_nil_iff]
  intro record hmem
  obtain ⟨termination, -, hanswer⟩ := h record hmem
  simp [hanswer]

/-- The registration that a supervisor holds. -/
def Phase.guard? : Phase → Option Registration
  | .entering | .finished _ => none
  | .guarded guard | .blocked guard _ | .launched guard _ _ | .registered guard _ _
  | .rejected guard _ _ | .waiting guard _ | .collected guard _ | .cleared guard _
  | .reporting guard _ _ | .reported guard _ _ | .leaving guard _ => some guard

/-- The registration that is held at a moment. -/
def Activity.guard? : Activity → Option Registration
  | .idle => none
  | .supervising _ phase => phase.guard?

namespace Moment

variable {World File Place : Type}

/-- What holds at every moment of a shell with a reaper. -/
structure Custody (moment : Moment World File Place) : Prop where
  accounts : Accounts moment.shell.children moment.history
  reaction : moment.shell.attributes.dispositions.get .child = .handle .reaper
  installed : moment.shell.reaperInstalled = true
  /-- Dropping the registration will not touch the signal for ended children. -/
  guards : ∀ guard, moment.activity.guard? = some guard → guard.signal = .interrupt
  tracked : Tracked moment.shell.foreground moment.shell.isBlocked moment.history.foregrounds
    moment.activity

namespace Custody

variable {host : Host World File Place} {allowed : ReapConditions → Prop} {activity : Activity}
  {shell stepped : Supervisor World File Place} {history : History} {command : Command}
  {phase next : Phase}

/-- A shell that was started has no child to lose. -/
theorem start (h : shell.Starts) : Custody ⟨.idle, shell, {}⟩ where
  accounts := by
    rw [h.children]
    exact .empty
  reaction := h.reaction
  installed := h.reaperInstalled
  guards := by
    intro guard hguard
    cases hguard
  tracked := ⟨h.foreground, by simp [Settled, History.foregrounds]⟩

/-- Custody does not depend on anything but what concerns the children. -/
theorem elsewhere (h : Custody ⟨activity, shell, history⟩) (hsame : shell.SameJobs stepped) :
    Custody ⟨activity, stepped, history⟩ where
  accounts := by
    rw [hsame.children]
    exact h.accounts
  reaction := hsame.reaction.trans h.reaction
  installed := hsame.reaperInstalled.trans h.installed
  guards := h.guards
  tracked := by
    have htracked := h.tracked
    dsimp only at htracked ⊢
    rw [hsame.foreground, hsame.isBlocked]
    exact htracked

/-- A run of the reaper takes nobody who is spared. -/
theorem swept (h : Custody ⟨activity, shell, history⟩) (conditions : ReapConditions)
    (hspares : Spares shell.foreground history.foregrounds) :
    Accounts (Reaper.run shell.foreground conditions shell.errno shell.children).children
        (history.swept (Reaper.run shell.foreground conditions shell.errno shell.children)) ∧
      (history.swept
        (Reaper.run shell.foreground conditions shell.errno shell.children)).foregrounds =
          history.foregrounds := by
  have hdrains := Reaper.run_drains shell.foreground conditions shell.errno h.accounts.proper
  obtain ⟨haccounts, hforegrounds⟩ := Accounts.drained hdrains h.accounts hspares
  exact ⟨⟨haccounts.table, haccounts.youngest, haccounts.sound, haccounts.listed⟩, hforegrounds⟩

/-- The quiet steps of a supervisor lead from phase to phase. -/
theorem moved (h : Custody ⟨.supervising command phase, shell, history⟩)
    (hmoves : shell.Moves phase next stepped) :
    Custody ⟨.supervising command next, stepped, history⟩ := by
  obtain ⟨haccounts, hreaction, hinstalled, hguards, htracked⟩ := h
  cases hmoves with
  | guard signal reaction =>
    refine ⟨haccounts, reaction.trans hreaction, hinstalled, ?_, htracked⟩
    intro guard hguard
    cases hguard
    exact signal
  | block =>
    obtain ⟨hforeground, hsettled⟩ := htracked
    exact ⟨haccounts, hreaction, hinstalled, hguards, hforeground,
      shell.isBlocked_withMask_blockingMask, hsettled⟩
  | reject same =>
    have hsame := elsewhere ⟨haccounts, hreaction, hinstalled, hguards, htracked⟩ same
    obtain ⟨hforeground, -, hsettled⟩ := hsame.tracked
    exact ⟨hsame.accounts, hsame.reaction, hsame.installed, hguards, hforeground, hsettled⟩
  | register =>
    obtain ⟨-, -, hruns⟩ := htracked
    exact ⟨haccounts, hreaction, hinstalled, hguards, rfl, hruns⟩
  | unblock =>
    exact ⟨haccounts, hreaction, hinstalled, hguards, htracked⟩
  | abandon =>
    obtain ⟨hforeground, hsettled⟩ := htracked
    exact ⟨haccounts, hreaction, hinstalled, hguards, hforeground, .inl hsettled⟩
  | clear =>
    exact ⟨haccounts, hreaction, hinstalled, hguards, rfl, htracked⟩
  | hold =>
    exact ⟨haccounts, hreaction, hinstalled, hguards, htracked⟩
  | skip absent =>
    rw [hinstalled] at absent
    cases absent
  | release =>
    obtain ⟨hforeground, howes⟩ := htracked
    exact ⟨haccounts, hreaction, hinstalled, hguards, hforeground, .inr howes⟩
  | leave =>
    refine ⟨haccounts, ?_, hinstalled, ?_, htracked⟩
    · -- the registration that is dropped is about interrupts
      refine (Dispositions.get_set_of_ne _ _ ?_).trans hreaction
      rw [hguards _ rfl]
      decide
    · intro guard hguard
      cases hguard

/-- A child is created in the foreground while the signal is blocked. -/
theorem forked {guard : Registration} {mask : SignalSet} {pid : Pid}
    (h : Custody ⟨.supervising command (.blocked guard mask), shell, history⟩)
    (hlaunch : shell.launch host command .foreground = (.ok pid, stepped))
    (hfresh : shell.Fresh pid) :
    Custody ⟨.supervising command (.launched guard mask pid), stepped,
      history.created pid .foreground⟩ := by
  obtain ⟨hforeground, hblocked, hsettled⟩ := h.tracked
  have hsame := Supervisor.launch_ok hlaunch
  refine ⟨?_, hsame.reaction.trans h.reaction, hsame.reaperInstalled.trans h.installed, h.guards,
    hsame.foreground.trans hforeground, hsame.isBlocked.trans hblocked, ?_⟩
  · dsimp only
    rw [hsame.children]
    exact h.accounts.created .foreground hfresh.positive hfresh.unused
  · exact ⟨_, _, History.foregrounds_created_foreground pid history, rfl, rfl, rfl, hsettled⟩

/-- A child is created in the background. -/
theorem launched {pid : Pid} (h : Custody ⟨.idle, shell, history⟩)
    (hlaunch : shell.launch host command .background = (.ok pid, stepped))
    (hfresh : shell.Fresh pid) :
    Custody ⟨.idle, stepped, history.created pid .background⟩ := by
  obtain ⟨hforeground, hsettled⟩ := h.tracked
  have hsame := Supervisor.launch_ok hlaunch
  refine ⟨?_, hsame.reaction.trans h.reaction, hsame.reaperInstalled.trans h.installed, h.guards,
    hsame.foreground.trans hforeground, ?_⟩
  · dsimp only
    rw [hsame.children]
    exact h.accounts.created .background hfresh.positive hfresh.unused
  · dsimp only
    rw [History.foregrounds_created_background]
    exact hsettled

/-- Waiting brings the child that was waited for and takes it out of the table. -/
theorem collects {guard : Registration} {pid found : Pid} {status : WaitStatus} {rest : Children}
    (h : Custody ⟨.supervising command (.waiting guard pid), shell, history⟩)
    (hanswer : shell.children.wait (.child pid) false = (some (.ok (found, status)), rest))
    (hstep : Supervisor.step host command (.waiting guard pid) shell = (next, stepped)) :
    ∃ child termination, shell.children.Perm (child :: rest) ∧ child.pid = pid ∧ found = pid ∧
      child.status = some status ∧ status.termination? = some termination ∧
      next = .collected guard (.ok termination) ∧ stepped = { shell with children := rest } := by
  obtain ⟨child, hperm, htarget, rfl, hstatus⟩ :=
    Children.perm_of_wait_ok h.accounts.proper hanswer
  have hpid : child.pid = pid := by simpa [WaitTarget.includes] using htarget
  have hproper := h.accounts.proper child (hperm.mem_iff.2 (by simp))
  obtain ⟨termination, hdecoded⟩ := Option.isSome_iff_exists.1 (hproper.decodes status hstatus)
  rw [Supervisor.step_of_wait_ok hanswer hdecoded] at hstep
  cases hstep
  exact ⟨child, termination, hperm, hpid, hpid, hstatus, hdecoded, rfl, rfl⟩

/-- A supervisor that has collected its child owes how the child ended. -/
theorem waited {guard : Registration} {pid found : Pid} {status : WaitStatus} {rest : Children}
    (h : Custody ⟨.supervising command (.waiting guard pid), shell, history⟩)
    (hanswer : shell.children.wait (.child pid) false = (some (.ok (found, status)), rest))
    (hstep : Supervisor.step host command (.waiting guard pid) shell = (next, stepped)) :
    Custody ⟨.supervising command next, stepped, history.awaited found status⟩ := by
  obtain ⟨-, hruns⟩ := h.tracked
  obtain ⟨child, termination, hperm, hpid, rfl, hstatus, hdecoded, rfl, rfl⟩ :=
    h.collects hanswer hstep
  have hmem : child ∈ shell.children := hperm.mem_iff.2 (by simp)
  obtain ⟨own, past, hforegrounds, hown, hlive, -, -⟩ := id hruns
  have hrecord : own ∈ history.foregrounds := by simp [hforegrounds]
  rw [← hpid]
  refine ⟨h.accounts.awaited hperm hstatus ⟨own, hrecord, hlive, hown.trans hpid.symm⟩,
    h.reaction, h.installed, h.guards, ?_⟩
  dsimp only
  rw [h.accounts.foregrounds_awaited hmem, hpid]
  refine hruns.awaited ?_ hdecoded
  intro record hmine hlive hsame
  have hentry := h.accounts.entry_eq (List.mem_filter.1 hmine).1 hlive hmem (hsame.trans hpid.symm)
  rw [← hstatus, ← hentry]
  rfl

/-- Waiting for the child does not fail, because the child is in the table. -/
theorem not_failed {guard : Registration} {pid : Pid} {error : WaitError} {rest : Children}
    (h : Custody ⟨.supervising command (.waiting guard pid), shell, history⟩) :
    shell.children.wait (.child pid) false ≠ (some (.error error), rest) := by
  obtain ⟨-, own, past, hforegrounds, rfl, hlive, -⟩ := h.tracked
  have hrecord : own ∈ history.foregrounds := by simp [hforegrounds]
  have hmem := h.accounts.entry_mem (List.mem_filter.1 hrecord).1 hlive
  exact Children.wait_child_ne_error h.accounts.proper hmem

/-- Every step keeps custody. -/
theorem step {moment later : Moment World File Place} (h : Custody moment)
    (hstep : Step host allowed moment later) : Custody later := by
  cases hstep with
  | ends running final =>
    rw [Supervisor.terminate_of_reaction h.reaction]
    refine ⟨h.accounts.ended running final, h.reaction, h.installed, h.guards, ?_⟩
    dsimp only
    rw [h.accounts.foregrounds_ended _ running]
    exact h.tracked.ended _ _
  | raised => exact ⟨h.accounts, h.reaction, h.installed, h.guards, h.tracked⟩
  | offered order => exact ⟨h.accounts.perm order, h.reaction, h.installed, h.guards, h.tracked⟩
  | elsewhere same => exact h.elsewhere same
  | @handled activity shell history conditions pending unblocked reaction allows =>
    have htracked := h.tracked
    dsimp only at htracked
    rw [unblocked] at htracked
    obtain ⟨haccounts, hforegrounds⟩ := h.swept conditions htracked.spares
    refine ⟨haccounts, h.reaction, h.installed, h.guards, ?_⟩
    dsimp only
    rw [hforegrounds]
    exact h.tracked
  | launched created fresh => exact h.launched created fresh
  | rejected failed => exact h.elsewhere (Supervisor.launch_error failed)
  | called =>
    refine ⟨h.accounts, h.reaction, h.installed, ?_, h.tracked⟩
    intro guard hguard
    cases hguard
  | quiet steps isQuiet => exact h.moved (Supervisor.moves_of_step steps isQuiet)
  | forked steps fresh => exact h.forked (Supervisor.launch_of_step steps) fresh
  | interrupted => exact h
  | waited answers steps => exact h.waited answers steps
  | failed answers steps => exact absurd answers h.not_failed
  | @reported command guard mask result shell history conditions allows =>
    obtain ⟨hforeground, howes⟩ := h.tracked
    obtain ⟨haccounts, hforegrounds⟩ := h.swept conditions (howes.spares _)
    refine ⟨haccounts, h.reaction, h.installed, h.guards, hforeground, ?_⟩
    dsimp only
    rw [hforegrounds]
    exact howes
  | @returned command result shell history =>
    obtain ⟨hforeground, hsettled | howes⟩ := h.tracked
    · -- there was no child to answer for
      refine ⟨h.accounts.returned _, h.reaction, h.installed, h.guards, hforeground, ?_⟩
      dsimp only
      rw [History.foregrounds_returned, hsettled.map_answered]
      exact hsettled
    · refine ⟨h.accounts.returned _, h.reaction, h.installed, h.guards, hforeground, ?_⟩
      dsimp only
      rw [History.foregrounds_returned]
      refine howes.answered fun record hmem => ?_
      simpa using (List.mem_filter.1 hmem).2

/-- Whatever happens next, custody is kept. -/
theorem later {moment later : Moment World File Place} (h : Custody moment)
    (hsteps : Relation.ReflTransGen (Step host allowed) moment later) : Custody later := by
  induction hsteps with
  | refl => exact h
  | tail _ hstep ih => exact ih.step hstep

/-- Custody holds at every moment of a shell. -/
theorem of_reachable {moment : Moment World File Place} (hstarts : shell.Starts)
    (h : Reachable host allowed shell moment) : Custody moment :=
  (start hstarts).later h

end Custody

end Moment

end JobShell
