import JobShell.Command.Basic
import JobShell.Proofs.Child.Drain
import JobShell.Shell.Error
import Mathlib.Data.List.Nodup
import Mathlib.Tactic.Tauto

/-!
# JobShell.Proofs.Supervisor.History — what has become of every child

A `History` is what an observer of the shell writes down: one `ChildRecord` for every child that was
ever created, and what the reaper reported and wrote. The shell does not read it. Process numbers
are used again, so whatever happens to a number happens to the youngest child that had it.

`Accounts` compares a history with the table of children: the entries of the table are the children
that nobody has collected, every other child was collected once, and the reports are the notices of
the records. Each operation of a history keeps the accounts when the table changes with it.
-/

namespace JobShell

namespace Children

theorem terminate_perm (pid : Pid) (status : WaitStatus) {children others : Children}
    (h : children.Perm others) :
    (children.terminate pid status).Perm (others.terminate pid status) :=
  h.map _

theorem terminate_append (pid : Pid) (status : WaitStatus) (before after : Children) :
    terminate pid status (before ++ after) =
      before.terminate pid status ++ after.terminate pid status := by
  simp [terminate]

theorem terminate_running (pid : Pid) (status : WaitStatus) (children : Children) :
    terminate pid status (⟨pid, none⟩ :: children) =
      ⟨pid, some status⟩ :: children.terminate pid status := by
  simp [terminate, Child.hasEnded]

end Children

/-- What has happened to one child. -/
structure ChildRecord where
  pid : Pid
  mode : Mode
  /-- How it ended. -/
  ended : Option WaitStatus := none
  /-- What the reaper's notices about it say. -/
  notices : List Termination := []
  /-- What waiting for it brought. -/
  waits : List WaitStatus := []
  /-- What the call returned that ran it in the foreground. -/
  answer : Option (Except ShellError Outcome) := none

namespace ChildRecord

/-- Nobody has collected the child. -/
def isLive (record : ChildRecord) : Bool :=
  record.notices.isEmpty && record.waits.isEmpty

/-- The child's entry in the table, as long as there is one. -/
def entry (record : ChildRecord) : Child :=
  ⟨record.pid, record.ended⟩

/-- The child was collected once, by the reaper, with a notice of how it ended. -/
def Reported (record : ChildRecord) : Prop :=
  record.waits = [] ∧ ∃ status termination, record.ended = some status ∧
    status.termination? = some termination ∧ record.notices = [termination]

/-- The child was collected once, by waiting for it, which brought how it ended. -/
def Awaited (record : ChildRecord) (termination : Termination) : Prop :=
  record.notices = [] ∧ ∃ status, record.ended = some status ∧
    status.termination? = some termination ∧ record.waits = [status]

/-- The record makes sense: the child is as the kernel guarantees, and it was collected at most
once, in the way of its mode. -/
structure Sound (record : ChildRecord) : Prop where
  proper : record.entry.Proper
  collected : record.isLive = true ∨ (record.mode = .background ∧ record.Reported) ∨
    (record.mode = .foreground ∧ ∃ termination, record.Awaited termination)

theorem isLive_iff {record : ChildRecord} :
    record.isLive = true ↔ record.notices = [] ∧ record.waits = [] := by
  simp [isLive]

theorem Reported.not_isLive {record : ChildRecord} (h : record.Reported) :
    record.isLive = false := by
  obtain ⟨-, status, termination, -, -, hnotices⟩ := h
  simp [isLive, hnotices]

theorem Awaited.not_isLive {record : ChildRecord} {termination : Termination}
    (h : record.Awaited termination) : record.isLive = false := by
  obtain ⟨-, status, -, -, hwaits⟩ := h
  simp [isLive, hwaits]

/-- The entries of the children that nobody has collected. -/
def entries (records : List ChildRecord) : Children :=
  (records.filter isLive).map entry

@[simp] theorem entries_append (before after : List ChildRecord) :
    entries (before ++ after) = entries before ++ entries after := by
  simp [entries]

theorem entries_cons_of_live {record : ChildRecord} (records : List ChildRecord)
    (h : record.isLive = true) : entries (record :: records) = record.entry :: entries records := by
  simp [entries, h]

theorem entries_cons_of_collected {record : ChildRecord} (records : List ChildRecord)
    (h : record.isLive = false) : entries (record :: records) = entries records := by
  simp [entries, h]

theorem mem_entries {records : List ChildRecord} {child : Child} :
    child ∈ entries records ↔
      ∃ record ∈ records, record.isLive = true ∧ record.entry = child := by
  simp [entries, and_assoc]

/-- The end of a child leaves the entries of children with other numbers alone. -/
theorem terminate_entries {records : List ChildRecord} {pid : Pid} (status : WaitStatus)
    (h : ∀ record ∈ records, record.isLive = true → record.pid ≠ pid) :
    (entries records).terminate pid status = entries records := by
  rw [entries, Children.terminate, List.map_map]
  refine List.map_congr_left ?_
  intro record hmem
  obtain ⟨hmem, hlive⟩ := List.mem_filter.1 hmem
  simp [entry, h record hmem hlive]

/-- The record after the call that runs a command in the foreground has returned. It answers for
the child that it launched, the one in the foreground that nobody has answered for. -/
def answered (result : Except ShellError Outcome) (record : ChildRecord) : ChildRecord :=
  { record with
    answer :=
      if record.mode = .foreground ∧ record.answer = none then some result else record.answer }

theorem answered_of_some {record : ChildRecord} {answer : Except ShellError Outcome}
    (h : record.answer = some answer) (result : Except ShellError Outcome) :
    record.answered result = record := by
  have hanswered : ¬(record.mode = .foreground ∧ record.answer = none) := by simp [h]
  rw [answered, if_neg hanswered]

theorem answered_of_none {record : ChildRecord} (hmode : record.mode = .foreground)
    (h : record.answer = none) (result : Except ShellError Outcome) :
    record.answered result = { record with answer := some result } := by
  rw [answered, if_pos ⟨hmode, h⟩]

theorem entries_map_answered (result : Except ShellError Outcome) (records : List ChildRecord) :
    entries (records.map (·.answered result)) = entries records := by
  induction records with
  | nil => rfl
  | cons record records ih =>
    cases hlive : record.isLive with
    | true =>
      have hanswered : (record.answered result).isLive = true := hlive
      rw [List.map_cons, entries_cons_of_live _ hanswered, entries_cons_of_live _ hlive, ih]
      rfl
    | false =>
      have hanswered : (record.answered result).isLive = false := hlive
      rw [List.map_cons, entries_cons_of_collected _ hanswered, entries_cons_of_collected _ hlive,
        ih]

/-- Changes the first record with a number. -/
def amend (pid : Pid) (change : ChildRecord → ChildRecord) : List ChildRecord → List ChildRecord
  | [] => []
  | record :: records =>
    if record.pid = pid then change record :: records else record :: amend pid change records

/-- Changes a child with a number that nobody has collected. -/
def changeLive (pid : Pid) (change : ChildRecord → ChildRecord) (record : ChildRecord) :
    ChildRecord :=
  if record.isLive = true ∧ record.pid = pid then change record else record

theorem amend_of_split {pid : Pid} {change : ChildRecord → ChildRecord}
    {before after : List ChildRecord} {record : ChildRecord}
    (hbefore : ∀ other ∈ before, other.pid ≠ pid) (hpid : record.pid = pid) :
    amend pid change (before ++ record :: after) = before ++ change record :: after := by
  induction before with
  | nil => simp [amend, hpid]
  | cons first before ih =>
    have hfirst : first.pid ≠ pid := hbefore first (by simp)
    have hrest := ih fun other hmem => hbefore other (by simp [hmem])
    simp [amend, hfirst, hrest]

/-- Amending changes nothing that the change does not touch. -/
theorem flatMap_amend {α : Type} {f : ChildRecord → List α} {change : ChildRecord → ChildRecord}
    (h : ∀ record, f (change record) = f record) (pid : Pid) (records : List ChildRecord) :
    (amend pid change records).flatMap f = records.flatMap f := by
  induction records with
  | nil => rfl
  | cons record records ih =>
    rw [amend]
    split
    · rw [List.flatMap_cons, h, List.flatMap_cons]
    · rw [List.flatMap_cons, ih, List.flatMap_cons]

/-- The record of a child with a notice more. -/
def noticed (termination : Termination) (record : ChildRecord) : ChildRecord :=
  { record with notices := record.notices ++ [termination] }

/-- The record of a child that waiting has brought once more. -/
def waited (status : WaitStatus) (record : ChildRecord) : ChildRecord :=
  { record with waits := record.waits ++ [status] }

variable {record : ChildRecord} {status : WaitStatus} {termination : Termination}

theorem not_isLive_noticed (termination : Termination) (record : ChildRecord) :
    (record.noticed termination).isLive = false := by
  simp [noticed, isLive]

theorem not_isLive_waited (status : WaitStatus) (record : ChildRecord) :
    (record.waited status).isLive = false := by
  simp [waited, isLive]

theorem reported_noticed (hlive : record.isLive = true) (hended : record.ended = some status)
    (hdecoded : status.termination? = some termination) :
    (record.noticed termination).Reported := by
  obtain ⟨hnotices, hwaits⟩ := isLive_iff.1 hlive
  exact ⟨hwaits, status, termination, hended, hdecoded, by simp [noticed, hnotices]⟩

theorem awaited_waited (hlive : record.isLive = true) (hended : record.ended = some status)
    (hdecoded : status.termination? = some termination) :
    (record.waited status).Awaited termination := by
  obtain ⟨hnotices, hwaits⟩ := isLive_iff.1 hlive
  exact ⟨hnotices, status, hended, hdecoded, by simp [waited, hwaits]⟩

end ChildRecord

/-- Everything that was observed. -/
structure History where
  /-- What has happened to each child, the youngest first. -/
  records : List ChildRecord := []
  /-- Whom the reaper reported, in order. -/
  reports : List (Pid × Termination) := []
  /-- The bytes of its notices that arrived. -/
  written : Bytes := []

namespace History

/-- The children that were launched in the foreground, the youngest first. -/
def foregrounds (history : History) : List ChildRecord :=
  history.records.filter (·.mode = .foreground)

/-- Those of them that no call has answered for. -/
def unanswered (history : History) : List ChildRecord :=
  history.foregrounds.filter (·.answer = none)

/-- A child was created. -/
def created (pid : Pid) (mode : Mode) (history : History) : History :=
  { history with records := { pid := pid, mode := mode } :: history.records }

@[simp] theorem foregrounds_created_background (pid : Pid) (history : History) :
    (history.created pid .background).foregrounds = history.foregrounds := by
  simp [created, foregrounds]

@[simp] theorem foregrounds_created_foreground (pid : Pid) (history : History) :
    (history.created pid .foreground).foregrounds =
      { pid := pid, mode := .foreground } :: history.foregrounds := by
  simp [created, foregrounds]

/-- A child ended. -/
def ended (pid : Pid) (status : WaitStatus) (history : History) : History :=
  { history with
    records := ChildRecord.amend pid (fun r => { r with ended := some status }) history.records }

/-- The reaper collected a child and laid out a notice. -/
def reported (pid : Pid) (termination : Termination) (history : History) : History :=
  { history with
    records := ChildRecord.amend pid (ChildRecord.noticed termination) history.records
    reports := history.reports ++ [(pid, termination)] }

/-- Waiting for a child brought its status. -/
def awaited (pid : Pid) (status : WaitStatus) (history : History) : History :=
  { history with records := ChildRecord.amend pid (ChildRecord.waited status) history.records }

/-- The call that runs a command in the foreground returned. -/
def returned (result : Except ShellError Outcome) (history : History) : History :=
  { history with
    records := history.records.map (·.answered result) }

theorem foregrounds_returned (result : Except ShellError Outcome) (history : History) :
    (history.returned result).foregrounds = history.foregrounds.map (·.answered result) := by
  rw [foregrounds, returned, List.filter_map]
  rfl

/-- The reaper reported several children. -/
def reportedAll (reports : List (Pid × Termination)) (history : History) : History :=
  reports.foldl (fun history report => history.reported report.1 report.2) history

@[simp] theorem reports_reportedAll (reports : List (Pid × Termination)) (history : History) :
    (history.reportedAll reports).reports = history.reports ++ reports := by
  induction reports generalizing history with
  | nil => simp [reportedAll]
  | cons report reports ih => simpa [reportedAll, reported] using ih (history.reported _ _)

/-- The reaper ran. -/
def swept (reaping : Reaping) (history : History) : History :=
  { history.reportedAll reaping.collected with written := history.written ++ reaping.delivered }

end History

/-! ## The register -/

/-- The table of children agrees with the records of all children. -/
structure Register (children : Children) (records : List ChildRecord) : Prop where
  /-- The table lists the children that nobody has collected. -/
  table : children.Perm (ChildRecord.entries records)
  /-- A child that nobody has collected is the youngest with its number. -/
  youngest : records.Pairwise fun younger older =>
    older.isLive = true → younger.pid ≠ older.pid
  /-- Every child is as the kernel guarantees. -/
  proper : ∀ record ∈ records, record.entry.Proper

namespace Register

open ChildRecord

variable {children rest : Children} {records : List ChildRecord} {child : Child}
  {change : ChildRecord → ChildRecord}

theorem empty : Register [] [] where
  table := .nil
  youngest := .nil
  proper := by simp

/-- Every entry of the table is that of a record. -/
theorem exists_record (h : Register children records) (hmem : child ∈ children) :
    ∃ record ∈ records, record.isLive = true ∧ record.entry = child :=
  mem_entries.1 (h.table.mem_iff.1 hmem)

/-- A child that nobody has collected has its entry in the table. -/
theorem entry_mem (h : Register children records) {record : ChildRecord}
    (hmem : record ∈ records) (hlive : record.isLive = true) : record.entry ∈ children :=
  h.table.mem_iff.2 (mem_entries.2 ⟨record, hmem, hlive, rfl⟩)

theorem proper_child (h : Register children records) : ∀ child ∈ children, child.Proper := by
  intro child hmem
  obtain ⟨record, hrecord, -, rfl⟩ := h.exists_record hmem
  exact h.proper record hrecord

/-- No two children that nobody has collected share a number. -/
theorem nodup (h : Register children records) :
    ((records.filter isLive).map ChildRecord.pid).Nodup := by
  rw [List.Nodup, List.pairwise_map]
  refine List.Pairwise.imp_of_mem ?_ (h.youngest.filter ChildRecord.isLive)
  intro younger older _ hmem hne
  exact hne (List.mem_filter.1 hmem).2

/-- A child that nobody has collected is known by its number. -/
theorem record_eq (h : Register children records) {record other : ChildRecord}
    (hrecord : record ∈ records) (hlive : record.isLive = true) (hother : other ∈ records)
    (hotherLive : other.isLive = true) (hpid : record.pid = other.pid) : record = other :=
  List.inj_on_of_nodup_map h.nodup (List.mem_filter.2 ⟨hrecord, hlive⟩)
    (List.mem_filter.2 ⟨hother, hotherLive⟩) hpid

/-- The record of an entry in the table, and what amending by its number does. -/
theorem locate (h : Register children records) (hmem : child ∈ children) :
    ∃ before record after, records = before ++ record :: after ∧
      record.isLive = true ∧ record.entry = child ∧
      ∀ change, amend child.pid change records = before ++ change record :: after := by
  obtain ⟨record, hrecord, hlive, rfl⟩ := h.exists_record hmem
  obtain ⟨before, after, hsplit⟩ := List.append_of_mem hrecord
  refine ⟨before, record, after, hsplit, hlive, rfl, fun change => ?_⟩
  rw [hsplit]
  refine amend_of_split ?_ rfl
  intro younger hyounger
  have hpairs := h.youngest
  rw [hsplit, List.pairwise_append] at hpairs
  exact hpairs.2.2 younger hyounger record (by simp) hlive

/-- The other children that nobody has collected have other numbers. -/
theorem pid_ne (h : Register children records) {before after : List ChildRecord}
    {record : ChildRecord} (hsplit : records = before ++ record :: after)
    (hlive : record.isLive = true) :
    ∀ other ∈ before ++ after, other.isLive = true → other.pid ≠ record.pid := by
  have hpairs := h.youngest
  rw [hsplit, List.pairwise_append, List.pairwise_cons] at hpairs
  obtain ⟨-, ⟨hafter, -⟩, hbefore⟩ := hpairs
  intro other hmem hother
  rcases List.mem_append.1 hmem with hmem | hmem
  · exact hbefore other hmem record (by simp) hlive
  · exact (hafter other hmem hother).symm

/-- The order of the table does not matter. -/
theorem perm (h : Register children records) (hperm : rest.Perm children) :
    Register rest records :=
  ⟨hperm.trans h.table, h.youngest, h.proper⟩

/-- What all records have, they still have when one of a child in the table was amended. -/
theorem forall_amend (h : Register children records) (hmem : child ∈ children)
    {P : ChildRecord → Prop} (hall : ∀ record ∈ records, P record)
    (hchange : ∀ record ∈ records, record.isLive = true → record.entry = child →
      P (change record)) :
    ∀ record ∈ amend child.pid change records, P record := by
  obtain ⟨before, record, after, rfl, hlive, hentry, hamend⟩ := h.locate hmem
  rw [hamend]
  intro other hother
  rcases List.mem_append.1 hother with hbefore | hother
  · exact hall other (by simp [hbefore])
  · rcases List.mem_cons.1 hother with rfl | hafter
    · exact hchange record (by simp) hlive hentry
    · exact hall other (by simp [hafter])

/-- What is listed of the records grows by what comes in with a child in the table, of which nothing
was listed before. -/
theorem perm_flatMap_amend {α : Type} {f : ChildRecord → List α} {item : α}
    (h : Register children records) (hmem : child ∈ children)
    (hnone : ∀ record, record.isLive = true → f record = [])
    (hone : ∀ record, record.isLive = true → record.entry = child → f (change record) = [item]) :
    ((amend child.pid change records).flatMap f).Perm (records.flatMap f ++ [item]) := by
  obtain ⟨before, record, after, rfl, hlive, hentry, hamend⟩ := h.locate hmem
  rw [hamend, List.flatMap_append, List.flatMap_append, List.flatMap_cons, List.flatMap_cons,
    hnone record hlive, hone record hlive hentry, List.nil_append, List.append_assoc]
  exact (List.perm_append_comm).append_left _

/-- The table and the records with one record replaced. -/
theorem replace {before after : List ChildRecord} {record changed : ChildRecord}
    (h : Register children (before ++ record :: after)) (hlive : record.isLive = true)
    (hpid : changed.pid = record.pid) (hproper : changed.entry.Proper)
    (htable : rest.Perm (entries (before ++ changed :: after))) :
    Register rest (before ++ changed :: after) where
  table := htable
  youngest := by
    have hpairs := h.youngest
    rw [List.pairwise_append, List.pairwise_cons] at hpairs
    obtain ⟨hbefore, ⟨hrecord, hafter⟩, hacross⟩ := hpairs
    rw [List.pairwise_append, List.pairwise_cons]
    refine ⟨hbefore, ⟨?_, hafter⟩, ?_⟩
    · intro older hmem
      rw [hpid]
      exact hrecord older hmem
    · intro younger hyounger older holder
      rcases List.mem_cons.1 holder with rfl | hmem
      · intro _
        rw [hpid]
        exact hacross younger hyounger record (by simp) hlive
      · exact hacross younger hyounger older (by simp [hmem])
  proper := by
    intro other hother
    rcases List.mem_append.1 hother with hmem | hmem
    · exact h.proper other (by simp [hmem])
    · rcases List.mem_cons.1 hmem with rfl | hmem
      · exact hproper
      · exact h.proper other (by simp [hmem])

/-- A new child has an entry and a record, if its number is free. -/
theorem created (h : Register children records) {pid : Pid} (mode : Mode)
    (hpositive : 0 < pid.number) (hfresh : ∀ child ∈ children, child.pid ≠ pid) :
    Register (children ++ [⟨pid, none⟩]) ({ pid, mode } :: records) where
  table := (List.perm_append_singleton _ children).trans (h.table.cons _)
  youngest := by
    refine List.Pairwise.cons ?_ h.youngest
    intro older hmem hlive hsame
    exact hfresh older.entry (h.entry_mem hmem hlive) hsame.symm
  proper := by
    intro record hmem
    rcases List.mem_cons.1 hmem with rfl | hmem
    · refine ⟨hpositive, ?_⟩
      intro status hstatus
      cases hstatus
    · exact h.proper record hmem

/-- The end of a child goes into its entry and into its record. -/
theorem ended (h : Register children records) {pid : Pid} {status : WaitStatus}
    (hrunning : ⟨pid, none⟩ ∈ children) (hfinal : status.termination?.isSome) :
    Register (children.terminate pid status)
      (amend pid (fun record => { record with ended := some status }) records) := by
  obtain ⟨before, record, after, rfl, hlive, hentry, hamend⟩ := h.locate hrunning
  obtain ⟨hpid, hnone⟩ : record.pid = pid ∧ record.ended = none := by
    simpa [entry] using hentry
  rw [hamend]
  refine h.replace hlive rfl ⟨(h.proper record (by simp)).positive, ?_⟩ ?_
  · intro own hown
    cases hown
    exact hfinal
  · have hothers := h.pid_ne rfl hlive
    rw [hpid] at hothers
    have hbefore := terminate_entries status fun other hmem =>
      hothers other (List.mem_append_left after hmem)
    have hafter := terminate_entries status fun other hmem =>
      hothers other (List.mem_append_right before hmem)
    have hperm := Children.terminate_perm pid status h.table
    rw [entries_append, entries_cons_of_live after hlive, hentry, Children.terminate_append,
      Children.terminate_running, hbefore, hafter] at hperm
    have hchanged : ({ record with ended := some status } : ChildRecord).isLive = true := hlive
    rw [entries_append, entries_cons_of_live after hchanged, entry, hpid]
    exact hperm

/-- A child that is taken out of the table when its record shows that it was collected. -/
theorem collected (h : Register children records) (hperm : children.Perm (child :: rest))
    (hentry : ∀ record, (change record).entry = record.entry)
    (hcollected : ∀ record, (change record).isLive = false) :
    Register rest (amend child.pid change records) := by
  have hmem : child ∈ children := hperm.mem_iff.2 (by simp)
  obtain ⟨before, record, after, rfl, hlive, hown, hamend⟩ := h.locate hmem
  have hproper := h.proper record (by simp)
  rw [← hentry record] at hproper
  rw [hamend]
  refine h.replace hlive (congrArg Child.pid (hentry record)) hproper ?_
  -- without the entry of the child, the table lists the others
  have htable := h.table
  rw [entries_append, entries_cons_of_live after hlive, hown] at htable
  have hcons := (hperm.symm.trans htable).trans List.perm_middle
  rw [entries_append, entries_cons_of_collected after (hcollected record)]
  exact hcons.cons_inv

/-- A child that the reaper has taken out of the table. -/
theorem reported (h : Register children records) (hperm : children.Perm (child :: rest))
    (termination : Termination) : Register rest (amend child.pid (noticed termination) records) :=
  h.collected hperm (fun _ => rfl) (not_isLive_noticed termination)

/-- A child that waiting has taken out of the table. -/
theorem awaited (h : Register children records) (hperm : children.Perm (child :: rest))
    (status : WaitStatus) : Register rest (amend child.pid (waited status) records) :=
  h.collected hperm (fun _ => rfl) (not_isLive_waited status)

/-- The notice about a child in the table is one more. -/
theorem perm_notices (h : Register children records) (hmem : child ∈ children)
    (termination : Termination) :
    ((amend child.pid (noticed termination) records).flatMap fun record =>
        record.notices.map (record.pid, ·)).Perm
      ((records.flatMap fun record => record.notices.map (record.pid, ·)) ++
        [(child.pid, termination)]) := by
  refine h.perm_flatMap_amend hmem ?_ ?_
  · intro record hlive
    simp [(isLive_iff.1 hlive).1]
  · rintro record hlive rfl
    simp [noticed, entry, (isLive_iff.1 hlive).1]

/-- What waiting brings about a child in the table is one more. -/
theorem perm_waits (h : Register children records) (hmem : child ∈ children)
    (status : WaitStatus) :
    ((amend child.pid (waited status) records).flatMap fun record =>
        record.waits.map (record.pid, ·)).Perm
      ((records.flatMap fun record => record.waits.map (record.pid, ·)) ++
        [(child.pid, status)]) := by
  refine h.perm_flatMap_amend hmem ?_ ?_
  · intro record hlive
    simp [(isLive_iff.1 hlive).2]
  · rintro record hlive rfl
    simp [waited, entry, (isLive_iff.1 hlive).2]

end Register

/-! ## The accounts -/

/-- The history agrees with the table of children. -/
structure Accounts (children : Children) (history : History) : Prop where
  /-- The table lists the children that nobody has collected. -/
  table : children.Perm (ChildRecord.entries history.records)
  /-- A child that nobody has collected is the youngest with its number. -/
  youngest : history.records.Pairwise fun younger older =>
    older.isLive = true → younger.pid ≠ older.pid
  sound : ∀ record ∈ history.records, record.Sound
  /-- The reports are the notices of the records. -/
  listed : history.reports.Perm
    (history.records.flatMap fun record => record.notices.map (record.pid, ·))

namespace Accounts

open ChildRecord

variable {children rest : Children} {history : History} {child : Child}

theorem empty : Accounts [] {} where
  table := .nil
  youngest := .nil
  sound := by simp
  listed := .nil

theorem register (h : Accounts children history) : Register children history.records :=
  ⟨h.table, h.youngest, fun record hmem => (h.sound record hmem).proper⟩

theorem of_register (h : Register children history.records)
    (sound : ∀ record ∈ history.records, record.Sound)
    (listed : history.reports.Perm
      (history.records.flatMap fun record => record.notices.map (record.pid, ·))) :
    Accounts children history :=
  ⟨h.table, h.youngest, sound, listed⟩

/-- Every entry of the table is that of a record. -/
theorem exists_record (h : Accounts children history) (hmem : child ∈ children) :
    ∃ record ∈ history.records, record.isLive = true ∧ record.entry = child :=
  h.register.exists_record hmem

/-- A child that nobody has collected has its entry in the table. -/
theorem entry_mem (h : Accounts children history) {record : ChildRecord}
    (hmem : record ∈ history.records) (hlive : record.isLive = true) : record.entry ∈ children :=
  h.register.entry_mem hmem hlive

theorem proper (h : Accounts children history) : ∀ child ∈ children, child.Proper :=
  h.register.proper_child

/-- A record of a child that nobody has collected goes with the entry that has its number. -/
theorem entry_eq (h : Accounts children history) {record : ChildRecord}
    (hrecord : record ∈ history.records) (hlive : record.isLive = true) (hmem : child ∈ children)
    (hpid : record.pid = child.pid) : record.entry = child := by
  obtain ⟨own, hown, hownLive, rfl⟩ := h.exists_record hmem
  rw [h.register.record_eq hrecord hlive hown hownLive hpid]

/-- The order of the table does not matter. -/
theorem perm (h : Accounts children history) (hperm : rest.Perm children) :
    Accounts rest history :=
  .of_register (h.register.perm hperm) h.sound h.listed

/-! ### Children appear and end -/

/-- A new child has an entry and a record, if its number is free. -/
theorem created (h : Accounts children history) {pid : Pid} (mode : Mode)
    (hpositive : 0 < pid.number) (hfresh : ∀ child ∈ children, child.pid ≠ pid) :
    Accounts (children ++ [⟨pid, none⟩]) (history.created pid mode) := by
  have hregister := h.register.created mode hpositive hfresh
  refine .of_register hregister ?_ h.listed
  intro record hmem
  refine ⟨hregister.proper record hmem, ?_⟩
  rcases List.mem_cons.1 hmem with rfl | hmem
  · exact .inl rfl
  · exact (h.sound record hmem).collected

/-- The end of a child goes into its entry and into its record. -/
theorem ended (h : Accounts children history) {pid : Pid} {status : WaitStatus}
    (hrunning : ⟨pid, none⟩ ∈ children) (hfinal : status.termination?.isSome) :
    Accounts (children.terminate pid status) (history.ended pid status) := by
  refine .of_register (h.register.ended hrunning hfinal) ?_ ?_
  · refine h.register.forall_amend hrunning h.sound ?_
    intro record hmem hlive hentry
    refine ⟨⟨(h.sound record hmem).proper.positive, ?_⟩, .inl hlive⟩
    intro own hown
    cases hown
    exact hfinal
  · rw [History.ended, flatMap_amend]
    · exact h.listed
    · intro record
      rfl

/-! ### Children are collected -/

/-- The reaper collects a child that ended, which is one from the background. -/
theorem reported (h : Accounts children history) (hperm : children.Perm (child :: rest))
    {status : WaitStatus} {termination : Termination} (hstatus : child.status = some status)
    (hdecoded : status.termination? = some termination)
    (hother : ∀ record ∈ history.foregrounds, record.isLive = true → record.pid ≠ child.pid) :
    Accounts rest (history.reported child.pid termination) := by
  have hmem : child ∈ children := hperm.mem_iff.2 (by simp)
  refine .of_register (h.register.reported hperm termination) ?_ ?_
  · refine h.register.forall_amend hmem h.sound ?_
    rintro record hrecord hlive rfl
    have hbackground : record.mode = .background := by
      cases hmode : record.mode with
      | background => rfl
      | foreground =>
        exact absurd rfl (hother record (List.mem_filter.2 ⟨hrecord, by simp [hmode]⟩) hlive)
    exact ⟨(h.sound record hrecord).proper,
      .inr (.inl ⟨hbackground, reported_noticed hlive hstatus hdecoded⟩)⟩
  · exact (h.listed.append_right _).trans (h.register.perm_notices hmem termination).symm

/-- Waiting for a child that was launched in the foreground collects it. -/
theorem awaited (h : Accounts children history) (hperm : children.Perm (child :: rest))
    {status : WaitStatus} (hstatus : child.status = some status)
    (hown : ∃ own ∈ history.foregrounds, own.isLive = true ∧ own.pid = child.pid) :
    Accounts rest (history.awaited child.pid status) := by
  have hmem : child ∈ children := hperm.mem_iff.2 (by simp)
  refine .of_register (h.register.awaited hperm status) ?_ ?_
  · refine h.register.forall_amend hmem h.sound ?_
    rintro record hrecord hlive rfl
    have hforeground : record.mode = .foreground := by
      obtain ⟨own, hown, hownLive, hpid⟩ := hown
      obtain ⟨hown, hmode⟩ := List.mem_filter.1 hown
      -- nobody else that was not collected has the number
      rw [← h.register.record_eq hown hownLive hrecord hlive hpid]
      simpa using hmode
    have hproper := (h.sound record hrecord).proper
    obtain ⟨termination, hdecoded⟩ := Option.isSome_iff_exists.1 (hproper.decodes status hstatus)
    exact ⟨hproper, .inr (.inr ⟨hforeground, termination,
      awaited_waited hlive hstatus hdecoded⟩)⟩
  · rw [History.awaited, flatMap_amend]
    · exact h.listed
    · intro record
      rfl

/-- An answer changes nothing that the table or the reports show. -/
theorem returned (h : Accounts children history) (result : Except ShellError Outcome) :
    Accounts children (history.returned result) where
  table := by
    rw [History.returned, entries_map_answered]
    exact h.table
  youngest := by
    rw [History.returned, List.pairwise_map]
    exact h.youngest
  sound := by
    intro record hmem
    obtain ⟨original, horiginal, rfl⟩ := List.mem_map.1 hmem
    have hsound := h.sound original horiginal
    exact ⟨hsound.proper, hsound.collected⟩
  listed := by
    rw [History.returned, List.flatMap_map]
    exact h.listed

/-! ### What happens to the children in the foreground -/

/-- Amending changes the one child with that number that nobody has collected. -/
theorem amend_eq_map (h : Accounts children history) (hmem : child ∈ children)
    (change : ChildRecord → ChildRecord) :
    amend child.pid change history.records =
      history.records.map (changeLive child.pid change) := by
  obtain ⟨before, record, after, hsplit, hlive, rfl, hamend⟩ := h.register.locate hmem
  have hothers := h.register.pid_ne hsplit hlive
  have hkeep : ∀ others : List ChildRecord, (∀ other ∈ others, other ∈ before ++ after) →
      others.map (changeLive record.pid change) = others := by
    intro others hsub
    refine (List.map_congr_left fun other hother => ?_).trans (List.map_id others)
    rw [changeLive, if_neg, id]
    rintro ⟨hlive, hpid⟩
    exact hothers other (hsub other hother) hlive hpid
  have hchanged : changeLive record.pid change record = change record := by
    simp [changeLive, hlive]
  have hbefore := hkeep before fun other hmem => List.mem_append_left after hmem
  have hafter := hkeep after fun other hmem => List.mem_append_right before hmem
  rw [hamend, hsplit, List.map_append, List.map_cons, entry, hbefore, hafter, hchanged]

theorem foregrounds_amend (h : Accounts children history) (hmem : child ∈ children)
    (change : ChildRecord → ChildRecord) (hmode : ∀ record, (change record).mode = record.mode) :
    (amend child.pid change history.records).filter (·.mode = .foreground) =
      history.foregrounds.map (changeLive child.pid change) := by
  rw [h.amend_eq_map hmem, List.filter_map, History.foregrounds]
  congr 1
  refine List.filter_congr ?_
  intro record _
  simp only [Function.comp, changeLive]
  split <;> simp [hmode]

theorem foregrounds_ended (h : Accounts children history) {pid : Pid} (status : WaitStatus)
    (hrunning : ⟨pid, none⟩ ∈ children) :
    (history.ended pid status).foregrounds =
      history.foregrounds.map (changeLive pid fun record => { record with ended := some status }) :=
  h.foregrounds_amend hrunning _ fun _ => rfl

theorem foregrounds_awaited (h : Accounts children history) (hmem : child ∈ children)
    (status : WaitStatus) :
    (history.awaited child.pid status).foregrounds =
      history.foregrounds.map (changeLive child.pid (waited status)) :=
  h.foregrounds_amend hmem _ fun _ => rfl

/-- A report about a child from the background says nothing about those in the foreground. -/
theorem foregrounds_reported (h : Accounts children history) (hmem : child ∈ children)
    (termination : Termination)
    (hother : ∀ record ∈ history.foregrounds, record.isLive = true → record.pid ≠ child.pid) :
    (history.reported child.pid termination).foregrounds = history.foregrounds := by
  have hamend := h.foregrounds_amend hmem (noticed termination) fun _ => rfl
  refine hamend.trans ((List.map_congr_left fun record hrecord => ?_).trans (List.map_id _))
  rw [changeLive, if_neg, id]
  rintro ⟨hlive, hpid⟩
  exact hother record hrecord hlive hpid

/-! ### A whole run of the reaper -/

/-- The reaper keeps the accounts and does not touch the children in the foreground, if it was told
which of them has not been collected. -/
theorem drained {foreground : Option Pid} {collected : List (Pid × Termination)}
    (hdrains : Children.Drains foreground children collected rest)
    (h : Accounts children history)
    (hown : ∀ record ∈ history.foregrounds, record.isLive = true → foreground = some record.pid) :
    Accounts rest (history.reportedAll collected) ∧
      (history.reportedAll collected).foregrounds = history.foregrounds := by
  induction hdrains generalizing history with
  | dry => exact ⟨h, rfl⟩
  | held => exact ⟨h, rfl⟩
  | @take before child after status termination collected rest _ hstatus hdecoded hforeground _
      ih =>
    have hother : ∀ record ∈ history.foregrounds, record.isLive = true →
        record.pid ≠ child.pid := by
      intro record hrecord hlive hpid
      rw [hown record hrecord hlive, hpid] at hforeground
      exact hforeground rfl
    have hone := h.reported List.perm_middle hstatus hdecoded hother
    have hsame := h.foregrounds_reported (by simp) termination hother
    rw [← hsame] at hown
    obtain ⟨hrest, hforegrounds⟩ := ih hone hown
    exact ⟨hrest, hforegrounds.trans hsame⟩

end Accounts

end JobShell
