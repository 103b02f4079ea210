import JobShell.Proofs.Supervisor.Execution
import JobShell.Proofs.System.Granting

/-!
# JobShell.Proofs.Supervisor.Keeping — every call gets its own child

What follows from custody for the children that were launched in the foreground. No run of the
reaper takes one of them, whenever it cuts in; each is collected by the call that launched it, once;
and what the call returns is the outcome of that child. A call that has a child can always go on,
unless it waits and the child still runs.
-/

namespace JobShell

open ChildRecord

namespace Moment

variable {World File Place : Type}

/-- What is promised about the children that were launched in the foreground. -/
structure Keeps (host : Host World File Place) (allowed : ReapConditions → Prop)
    (moment : Moment World File Place) : Prop where
  /-- The reaper never collects one of them. -/
  unreported : ∀ record ∈ moment.history.foregrounds, record.notices = []
  /-- The reaper writes nothing but notices, cut short perhaps, for children from the background. -/
  written : Carries (· <+: ·) moment.history.reports moment.history.written ∧
    moment.history.reports.Perm
      ((moment.history.records.filter (·.mode = .background)).flatMap fun record =>
        record.notices.map (record.pid, ·))
  /-- Whatever happens next, what it adds to them goes to standard output. -/
  publishes : ∀ later, Step host allowed moment later → Publishes (· <+: ·) host moment later
  /-- A child that its call has not collected is still in the table. -/
  kept : ∀ record ∈ moment.history.foregrounds, record.waits = [] →
    record.entry ∈ moment.shell.children
  /-- A call that has collected its child has done so once, and found how the child ended. -/
  collected : ∀ record ∈ moment.history.foregrounds, record.waits ≠ [] →
    ∃ termination, record.Awaited termination
  /-- What a call has returned is the outcome of its own child, which it has collected. -/
  answered : ∀ record ∈ moment.history.foregrounds, ∀ answer, record.answer = some answer →
    ∃ termination, record.Awaited termination ∧ answer = .ok (Outcome.ofTermination termination)
  /-- Every call that launched a child has returned, except for one that still goes on. -/
  returned : moment.history.unanswered.length ≤ 1 ∧
    (moment.activity = .idle → moment.history.unanswered = [])
  /-- That one can go on at any time, unless it waits and its child still runs. -/
  progress : moment.history.unanswered ≠ [] → Advances host allowed moment ∨
    ∃ command guard pid, moment.activity = .supervising command (.waiting guard pid) ∧
      ⟨pid, none⟩ ∈ moment.shell.children
  /-- What the shell does when it runs is among what can happen next. -/
  covers : Covers host allowed moment

namespace Custody

variable {host : Host World File Place} {allowed : ReapConditions → Prop}
  {shell : Supervisor World File Place} {history : History} {command : Command}
  {moment : Moment World File Place} {record : ChildRecord}

/-- A supervisor whose child has ended can collect it. -/
theorem advances_of_ended {guard : Registration} {pid : Pid} {child : Child}
    (h : Custody ⟨.supervising command (.waiting guard pid), shell, history⟩)
    (hmem : child ∈ shell.children) (hpid : child.pid = pid) (hended : child.hasEnded = true) :
    Advances host allowed ⟨.supervising command (.waiting guard pid), shell, history⟩ := by
  subst hpid
  obtain ⟨found, status, rest, hanswer⟩ :=
    Children.wait_child_of_ended h.accounts.proper hmem hended
  obtain ⟨taken, hperm, -, -, hstatus⟩ := Children.perm_of_wait_ok h.accounts.proper hanswer
  have htaken := h.accounts.proper taken (hperm.mem_iff.2 (by simp))
  obtain ⟨termination, hdecoded⟩ := Option.isSome_iff_exists.1 (htaken.decodes status hstatus)
  refine ⟨_, .waited hanswer (Supervisor.step_of_wait_ok hanswer hdecoded), ?_⟩
  simp [remaining, Phase.remaining]

/-- A supervisor whose child nobody has answered for gets on, unless the child still runs. -/
theorem advances (h : Custody moment) (hallowed : ∃ conditions, allowed conditions)
    (hopen : ∃ record ∈ moment.history.foregrounds, record.answer = none) :
    Advances host allowed moment ∨
      ∃ command guard pid, moment.activity = .supervising command (.waiting guard pid) ∧
        ⟨pid, none⟩ ∈ moment.shell.children := by
  obtain ⟨activity, shell, history⟩ := moment
  have hunsettled : ¬Settled history.foregrounds := by
    intro hsettled
    obtain ⟨record, hmem, hnone⟩ := hopen
    obtain ⟨termination, -, hanswer⟩ := hsettled record hmem
    rw [hnone] at hanswer
    cases hanswer
  have htracked := h.tracked
  cases activity with
  | idle => exact absurd htracked.2 hunsettled
  | supervising command phase =>
    cases phase with
    | entering | guarded | rejected => exact absurd htracked.2 hunsettled
    | blocked => exact absurd htracked.2.2 hunsettled
    | launched | registered | collected | reported | leaving =>
      exact .inl ⟨_, .quiet rfl trivial, by simp [remaining, Phase.remaining]⟩
    | waiting guard pid =>
      obtain ⟨-, own, past, hforegrounds, rfl, hlive, -⟩ := htracked
      have hrecord : own ∈ history.foregrounds := by simp [hforegrounds]
      have hmem := h.accounts.entry_mem (List.mem_filter.1 hrecord).1 hlive
      cases hended : own.entry.hasEnded with
      | true =>
        left
        exact h.advances_of_ended hmem rfl hended
      | false =>
        right
        refine ⟨command, guard, own.pid, rfl, ?_⟩
        have hnone : own.entry.status = none := by simpa [Child.hasEnded] using hended
        rwa [← hnone]
    | cleared guard result =>
      have hsteps : Supervisor.step host command (.cleared guard result) shell =
          (.reporting guard shell.attributes.mask result, shell.withMask shell.blockingMask) := by
        have hinstalled : shell.reaperInstalled = true := h.installed
        rw [Supervisor.step, if_pos hinstalled]
      exact .inl ⟨_, .quiet hsteps trivial, by simp [remaining, Phase.remaining]⟩
    | reporting =>
      obtain ⟨conditions, hallowed⟩ := hallowed
      exact .inl ⟨_, .reported hallowed, by simp [remaining, Phase.remaining]⟩
    | finished => exact .inl ⟨_, .returned, by simp [remaining, Phase.remaining]⟩

theorem sound_of_foreground (h : Custody moment) (hmem : record ∈ moment.history.foregrounds) :
    record.isLive = true ∨ ∃ termination, record.Awaited termination := by
  obtain ⟨hrecord, hmode⟩ := List.mem_filter.1 hmem
  rcases (h.accounts.sound record hrecord).collected with hlive | ⟨hbackground, -⟩ | ⟨-, hawaited⟩
  · exact .inl hlive
  · simp [hbackground] at hmode
  · exact .inr hawaited

theorem unreported (h : Custody moment) (hmem : record ∈ moment.history.foregrounds) :
    record.notices = [] := by
  rcases h.sound_of_foreground hmem with hlive | ⟨termination, hawaited⟩
  · exact (isLive_iff.1 hlive).1
  · exact hawaited.1

/-- All reports are about children from the background. -/
theorem reports_perm (h : Custody moment) :
    moment.history.reports.Perm
      ((moment.history.records.filter (·.mode = .background)).flatMap fun record =>
        record.notices.map (record.pid, ·)) := by
  refine h.accounts.listed.trans (List.Perm.of_eq ?_)
  have hnone : ∀ record ∈ moment.history.records, record.mode = .foreground →
      record.notices = [] := by
    intro record hmem hmode
    exact h.unreported (List.mem_filter.2 ⟨hmem, by simp [hmode]⟩)
  generalize moment.history.records = records at hnone
  induction records with
  | nil => rfl
  | cons first records ih =>
    have hrest := ih fun record hmem => hnone record (by simp [hmem])
    cases hmode : first.mode with
    | background => simp [hmode, hrest]
    | foreground => simp [hmode, hrest, hnone first (by simp) hmode]

theorem answered (h : Custody moment) (hmem : record ∈ moment.history.foregrounds)
    {answer : Except ShellError Outcome} (hanswer : record.answer = some answer) :
    ∃ termination, record.Awaited termination ∧
      answer = .ok (Outcome.ofTermination termination) := by
  have hcompleted : record.Completed := by
    rcases h.tracked.settled_or_own with hsettled | ⟨own, past, hsplit, hnone, hpast⟩
    · exact hsettled record hmem
    · rw [hsplit] at hmem
      rcases List.mem_cons.1 hmem with rfl | hmem
      · rw [hnone] at hanswer
        cases hanswer
      · exact hpast record hmem
  obtain ⟨termination, hawaited, hown⟩ := hcompleted
  refine ⟨termination, hawaited, ?_⟩
  rw [hown] at hanswer
  exact (Option.some.inj hanswer).symm

theorem length_unanswered_le (h : Custody moment) : moment.history.unanswered.length ≤ 1 := by
  rcases h.tracked.settled_or_own with hsettled | ⟨own, past, hsplit, hnone, hpast⟩
  · simp [History.unanswered, hsettled.filter_unanswered]
  · simp [History.unanswered, hsplit, hnone, hpast.filter_unanswered]

theorem unanswered_of_idle (h : Custody moment) (hidle : moment.activity = .idle) :
    moment.history.unanswered = [] := by
  have htracked := h.tracked
  rw [hidle] at htracked
  exact htracked.2.filter_unanswered

/-- Custody is what keeps the children in the foreground for their calls. -/
theorem keeps (h : Custody moment) (hallowed : ∃ conditions, allowed conditions)
    (hcarries : Carries (· <+: ·) moment.history.reports moment.history.written) :
    Keeps host allowed moment where
  unreported record hmem := h.unreported hmem
  written := ⟨hcarries, h.reports_perm⟩
  publishes later hstep := hstep.publishes fun conditions _ => conditions.bring_prefix
  kept := by
    intro record hmem hwaits
    exact h.accounts.entry_mem (List.mem_filter.1 hmem).1
      (isLive_iff.2 ⟨h.unreported hmem, hwaits⟩)
  collected := by
    intro record hmem hwaits
    rcases h.sound_of_foreground hmem with hlive | hawaited
    · exact absurd (isLive_iff.1 hlive).2 hwaits
    · exact hawaited
  answered record hmem answer hanswer := h.answered hmem hanswer
  returned := ⟨h.length_unanswered_le, h.unanswered_of_idle⟩
  progress := by
    intro hopen
    obtain ⟨record, hmem⟩ := List.exists_mem_of_ne_nil _ hopen
    obtain ⟨hrecord, hnone⟩ := List.mem_filter.1 hmem
    exact h.advances hallowed ⟨record, hrecord, by simpa using hnone⟩
  covers := h.covers

end Custody

/-! ### A reaper that holds back -/

/-- A shell with a reaper, on a system that counts its processes from 5 on. -/
def sampleShell (children : Children) (pending : Bool) (foreground : Option Pid)
    (mask : SignalSet) : Supervisor Nat (Stream × Bytes) Unit where
  attributes := { descriptors := .startedWith [1], mask, dispositions := .ofShell, place := () }
  children
  pending
  foreground
  reaperInstalled := true
  world := 5 + children.length

/-- The process that is made that shell. -/
def sampleProcess : Supervisor Nat (Stream × Bytes) Unit where
  attributes := { descriptors := .startedWith [1], dispositions := .atStart, place := () }
  world := 5

theorem prepare_sampleProcess :
    sampleProcess.prepare = .ok (sampleShell [] false none .empty) :=
  rfl

/-- A command without redirections. -/
def sampleCommand : Command := { arguments := ["true"] }

/-- What the supervisor of that command will put back. -/
def sampleGuard : Registration := ⟨.interrupt, .ignore⟩

/-- The mask while the signal for ended children is blocked. -/
def sampleMask : SignalSet := MaskChange.block.apply (.bit .child) .empty

/-- A job in the background. -/
def sampleJob : ChildRecord := { pid := ⟨5⟩, mode := .background }

/-- The child of a command in the foreground. -/
def sampleOwn : ChildRecord := { pid := ⟨6⟩, mode := .foreground }

/-- The records after both have ended. -/
def sampleRecords : List ChildRecord :=
  [{ sampleOwn with ended := some (.ofExit 3) }, { sampleJob with ended := some (.ofExit 4) }]

/-- The table after both have ended, if the kernel offers the child in the foreground first. -/
def sampleTable : Children := [⟨⟨6⟩, some (.ofExit 3)⟩, ⟨⟨5⟩, some (.ofExit 4)⟩]

/-- A job is launched, and then a command that the shell will wait for. -/
theorem sample_launched (allowed : ReapConditions → Prop) :
    Reachable Host.granting allowed (sampleShell [] false none .empty)
      ⟨.supervising sampleCommand (.launched sampleGuard .empty ⟨6⟩),
        sampleShell [⟨⟨5⟩, none⟩, ⟨⟨6⟩, none⟩] false none sampleMask,
        { records := [sampleOwn, sampleJob] }⟩ := by
  have start : Reachable Host.granting allowed (sampleShell [] false none .empty)
      ⟨.idle, sampleShell [] false none .empty, {}⟩ := .refl
  have created := start.tail (.launched
    (rfl : Supervisor.launch Host.granting sampleCommand .background _ = (.ok ⟨5⟩, _))
    ⟨by decide, by simp [sampleShell]⟩)
  have launched : Reachable Host.granting allowed (sampleShell [] false none .empty)
      ⟨.idle, sampleShell [⟨⟨5⟩, none⟩] false none .empty, { records := [sampleJob] }⟩ :=
    created.tail (.elsewhere ⟨rfl, rfl, rfl, rfl, rfl, rfl⟩)
  have called := launched.tail (.called : Step _ _ _ ⟨.supervising sampleCommand .entering, _, _⟩)
  have guarded : Reachable Host.granting allowed (sampleShell [] false none .empty)
      ⟨.supervising sampleCommand (.guarded sampleGuard),
        sampleShell [⟨⟨5⟩, none⟩] false none .empty, { records := [sampleJob] }⟩ :=
    .then called (.quiet rfl trivial) ⟨rfl, rfl, rfl, rfl, rfl, rfl⟩
  have blocked : Reachable Host.granting allowed (sampleShell [] false none .empty)
      ⟨.supervising sampleCommand (.blocked sampleGuard .empty),
        sampleShell [⟨⟨5⟩, none⟩] false none sampleMask, { records := [sampleJob] }⟩ :=
    guarded.then (.quiet rfl trivial) ⟨rfl, rfl, rfl, rfl, rfl, rfl⟩
  exact blocked.then (.forked rfl ⟨by decide, by decide⟩) ⟨rfl, rfl, rfl, rfl, rfl, rfl⟩

/-- Both children end before the reaper knows the one in the foreground. -/
theorem sample_ended (allowed : ReapConditions → Prop) :
    Reachable Host.granting allowed (sampleShell [] false none .empty)
      ⟨.supervising sampleCommand (.waiting sampleGuard ⟨6⟩),
        sampleShell sampleTable true (some ⟨6⟩) .empty, { records := sampleRecords }⟩ := by
  have ownEnds := (sample_launched allowed).tail
    (.ends (.tail _ (.head _)) (rfl : (WaitStatus.ofExit 3).termination?.isSome))
  have jobEnds := ownEnds.tail
    (.ends (.head _) (rfl : (WaitStatus.ofExit 4).termination?.isSome))
  have registered := jobEnds.tail (.quiet rfl trivial)
  have waiting : Reachable Host.granting allowed (sampleShell [] false none .empty)
      ⟨.supervising sampleCommand (.waiting sampleGuard ⟨6⟩),
        sampleShell [⟨⟨5⟩, some (.ofExit 4)⟩, ⟨⟨6⟩, some (.ofExit 3)⟩] true (some ⟨6⟩) .empty,
        { records := sampleRecords }⟩ :=
    .then registered (.quiet rfl trivial) ⟨rfl, rfl, rfl, rfl, rfl, rfl⟩
  exact waiting.tail (.offered (.swap _ _ _))

/-- The reaper runs and holds back at the child in the foreground. -/
theorem sample_held {allowed : ReapConditions → Prop} (h : allowed {}) :
    Reachable Host.granting allowed (sampleShell [] false none .empty)
      ⟨.supervising sampleCommand (.waiting sampleGuard ⟨6⟩),
        sampleShell sampleTable false (some ⟨6⟩) .empty, { records := sampleRecords }⟩ := by
  have hrun : Reaper.run (some ⟨6⟩) {} .success sampleTable = Reaper.stop sampleTable .success := by
    rw [Reaper.run, Reaper.reap]
    · rfl
    · simp
    · simp
  have handled := (sample_ended allowed).tail (.handled rfl rfl rfl h)
  have hswept : History.swept (Reaper.run (some ⟨6⟩) {} .success sampleTable)
      { records := sampleRecords } = { records := sampleRecords } := by
    rw [hrun]
    rfl
  have hchildren : sampleTable = (Reaper.run (some ⟨6⟩) {} .success sampleTable).children := by
    rw [hrun]
    rfl
  rw [← hswept]
  exact handled.tail (.elsewhere ⟨hchildren, rfl, rfl, rfl, rfl, rfl⟩)

/-! ### The promise kept -/

/-- The reaper never steals a child in the foreground: whatever happens and in whichever order,
every call that launches a child collects that child, once, and returns its outcome. -/
theorem foreground_child_is_never_stolen (host : Host World File Place)
    {shell : Supervisor World File Place} {moment : Moment World File Place}
    (hstarts : shell.Starts) (h : Reachable host (fun _ => True) shell moment) :
    Keeps host (fun _ => True) moment := by
  have hcustody := Custody.of_reachable hstarts h
  have hcarries := carries_of_reachable (fun conditions _ => conditions.bring_prefix) h
  exact hcustody.keeps ⟨{}, trivial⟩ hcarries

/-- The reaper has run after both children ended, and the one in the foreground is still there. -/
theorem foreground_child_survives_reaper :
    ∃ shell moment, sampleProcess.prepare = .ok shell ∧ shell.Starts ∧
      Reachable Host.granting (fun _ => True) shell moment ∧
      moment.shell.children = sampleTable ∧ Keeps Host.granting (fun _ => True) moment :=
  have hstarts := Supervisor.starts_of_prepare rfl rfl prepare_sampleProcess
  have hreachable := sample_held trivial
  ⟨_, _, prepare_sampleProcess, hstarts, hreachable, rfl,
    foreground_child_is_never_stolen Host.granting hstarts hreachable⟩

end Moment

end JobShell
