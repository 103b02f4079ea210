import JobShell.Child.Parent
import JobShell.Proofs.Child.Looking
import JobShell.Proofs.Child.Wording

/-!
# JobShell.Proofs.Child.Rounds — one run of the reaper, round by round

The reaper is a loop without a counter: it looks, it collects, it writes, and it begins again, also
when a call was interrupted. `Loop.round` is one round of it, with every answer that a call can
give.

* `Loop.round_of_taken` and the lemmas before it are the kinds of rounds. `Loop.EndsAs.stop`,
  `Loop.EndsAs.again` and `Loop.EndsAs.take` put a round in front of those that follow.
* `endsAs_of_reap`: a run is the loop, and the loop ends, on every table. Each round but the last
  one uses up an interruption or takes a child, so interruptions and children bound the rounds;
  `rounds_of_reap` counts reports instead of children.
* `Parent.reap_collects_reached`: what a run collects, counts, writes and leaves.
-/

namespace JobShell

namespace Reaper

/-- Where the loop stands between two rounds. -/
structure Loop where
  /-- Whether the next calls are interrupted. -/
  interruptions : List Bool
  /-- The results of the next writes. -/
  writes : List (List WriteResult)
  errno : Errno
  children : Children
  /-- How many notices have been written. -/
  count : Nat := 0
  /-- What arrived of them. -/
  delivered : Bytes := []

namespace Loop

/-- The call that looks which child has ended. -/
def look (loop : Loop) : Except WaitError Pid × Loop :=
  (if loop.interruptions.headD false then .error (.failed .interrupted) else loop.children.peek,
    { loop with interruptions := loop.interruptions.tail })

/-- The call that collects a child, without waiting for it. -/
def collect (pid : Pid) (loop : Loop) : Except WaitError (Pid × WaitStatus) × Loop :=
  let (answer, children) :=
    if loop.interruptions.headD false then (some (.error (.failed .interrupted)), loop.children)
    else loop.children.wait (.child pid) true
  (answer.getD (.error .notReady),
    { loop with interruptions := loop.interruptions.tail, children })

/-- Writes and counts a notice. -/
def notify (pid : Pid) (termination : Termination) (loop : Loop) : Loop :=
  let delivery := deliver loop.errno (loop.writes.headD []) (Notice.of pid termination)
  { loop with
    writes := loop.writes.tail
    errno := delivery.errno
    count := loop.count + 1
    delivered := loop.delivered ++ delivery.delivered }

/-- A call has failed: the loop begins again if it was interrupted, and ends if not. -/
def fail (reason : WaitError) (loop : Loop) : Bool × Loop :=
  (reason.isInterrupted, { loop with errno := errnoAfter loop.errno reason })

/-- One round, and whether another one follows. -/
def round (foreground : Option Pid) (loop : Loop) : Bool × Loop :=
  match loop.look with
  | (.error reason, loop) => loop.fail reason
  | (.ok pid, loop) =>
    if foreground = some pid then (false, loop)
    else
      match loop.collect pid with
      | (.error reason, loop) => loop.fail reason
      | (.ok (pid, status), loop) =>
        match status.termination? with
        | some termination => (true, loop.notify pid termination)
        | none => (true, loop)

/-- Where the loop ends, if it does so within so many rounds. -/
def rounds (foreground : Option Pid) : Nat → Loop → Option Loop
  | 0, _ => none
  | count + 1, loop =>
    match loop.round foreground with
    | (true, loop) => rounds foreground count loop
    | (false, loop) => some loop

/-- The loop has done what a run does. -/
structure Matches (start last : Loop) (reaping : Reaping) : Prop where
  count : last.count = start.count + reaping.collected.length
  delivered : last.delivered = start.delivered ++ reaping.delivered
  children : last.children = reaping.children
  errno : last.errno = reaping.errno

/-- The loop ends within so many rounds and has done by then what a run does. -/
def EndsAs (foreground : Option Pid) (count : Nat) (start : Loop) (reaping : Reaping) : Prop :=
  ∃ last, rounds foreground count start = some last ∧ start.Matches last reaping

end Loop

end Reaper

/-- No look is interrupted by itself. -/
theorem Children.isInterrupted_of_peek {children : Children} {reason : WaitError}
    (h : children.peek = .error reason) : reason.isInterrupted = false := by
  rw [peek, peekCall] at h
  cases hempty : children.isEmpty with
  | true =>
    simp only [hempty, if_true] at h
    cases h
    rfl
  | false =>
    simp only [hempty, Bool.false_eq_true, if_false] at h
    split at h
    · cases h
      rfl
    · cases h

namespace Reaper

namespace Loop

variable {foreground : Option Pid} {loop : Loop}

theorem rounds_of_again {next : Loop} {count : Nat} (h : loop.round foreground = (true, next)) :
    rounds foreground (count + 1) loop = rounds foreground count next := by
  rw [rounds, h]

theorem rounds_of_end {last : Loop} {count : Nat} (h : loop.round foreground = (false, last)) :
    rounds foreground (count + 1) loop = some last := by
  rw [rounds, h]

theorem look_of_passed (h : loop.interruptions.headD false = false) :
    loop.look = (loop.children.peek, { loop with interruptions := loop.interruptions.tail }) := by
  rw [look, h]
  rfl

/-- Collecting after a look, if neither of them is interrupted. -/
theorem collect_of_passed {pid : Pid} {answer : Except WaitError (Pid × WaitStatus)}
    {rest : Children} (h : loop.interruptions.tail.headD false = false)
    (hwait : loop.children.wait (.child pid) true = (some answer, rest)) :
    collect pid { loop with interruptions := loop.interruptions.tail } =
      (answer, { loop with interruptions := loop.interruptions.drop 2, children := rest }) := by
  have hdrop : loop.interruptions.tail.tail = loop.interruptions.drop 2 := by
    rw [← List.drop_one, ← List.drop_one, List.drop_drop]
  simp only [collect, h, if_neg Bool.false_ne_true, hwait, hdrop]
  rfl

/-- Once the loop has ended, more rounds change nothing. -/
theorem rounds_mono {last : Loop} {count more : Nat}
    (h : rounds foreground count loop = some last) (hle : count ≤ more) :
    rounds foreground more loop = some last := by
  induction count generalizing loop more with
  | zero => cases h
  | succ count ih =>
    obtain ⟨more, rfl⟩ : ∃ before, more = before + 1 := ⟨more - 1, by omega⟩
    rcases hround : loop.round foreground with ⟨_ | _, next⟩
    · rw [rounds_of_end hround] at h ⊢
      exact h
    · rw [rounds_of_again hround] at h ⊢
      exact ih h (by omega)

/-- An interrupted look is repeated. -/
theorem round_of_look_interrupted (h : loop.interruptions.headD false = true) :
    loop.round foreground =
      (true, { loop with interruptions := loop.interruptions.tail, errno := .interrupted }) := by
  rw [round, look, h]
  rfl

/-- If the look fails, nobody is left. -/
theorem round_of_peek_error {reason : WaitError} (h : loop.interruptions.headD false = false)
    (hpeek : loop.children.peek = .error reason) :
    loop.round foreground =
      (false, { loop with
        interruptions := loop.interruptions.tail
        errno := errnoAfter loop.errno reason }) := by
  rw [round, look_of_passed h, hpeek]
  simp only [fail, Children.isInterrupted_of_peek hpeek]

/-- The loop ends at the foreground child. -/
theorem round_of_own {pid : Pid} (h : loop.interruptions.headD false = false)
    (hpeek : loop.children.peek = .ok pid) (hown : foreground = some pid) :
    loop.round foreground =
      (false, { loop with interruptions := loop.interruptions.tail }) := by
  rw [round, look_of_passed h, hpeek]
  exact if_pos hown

/-- If collecting was interrupted, the loop begins again with a look. -/
theorem round_of_collect_interrupted {pid : Pid} (h : loop.interruptions.headD false = false)
    (hpeek : loop.children.peek = .ok pid) (hother : foreground ≠ some pid)
    (hcollect : loop.interruptions.tail.headD false = true) :
    loop.round foreground =
      (true, { loop with
        interruptions := loop.interruptions.tail.tail
        errno := .interrupted }) := by
  rw [round, look_of_passed h, hpeek]
  simp only [if_neg hother, collect, hcollect, if_true]
  rfl

/-- A child that was collected is reported, and the loop begins again. -/
theorem round_of_taken {pid found : Pid} {status : WaitStatus} {termination : Termination}
    {rest : Children} (h : loop.interruptions.headD false = false)
    (hpeek : loop.children.peek = .ok pid) (hother : foreground ≠ some pid)
    (hcollect : loop.interruptions.tail.headD false = false)
    (hwait : loop.children.wait (.child pid) true = (some (.ok (found, status)), rest))
    (hdecoded : status.termination? = some termination) :
    loop.round foreground =
      (true, { loop with
        interruptions := loop.interruptions.drop 2
        children := rest }.notify found termination) := by
  rw [round, look_of_passed h, hpeek]
  simp only [if_neg hother, collect_of_passed hcollect hwait, hdecoded]

/-- A child whose status does not tell how it ended is taken without a report. -/
theorem round_of_untold {pid found : Pid} {status : WaitStatus} {rest : Children}
    (h : loop.interruptions.headD false = false) (hpeek : loop.children.peek = .ok pid)
    (hother : foreground ≠ some pid) (hcollect : loop.interruptions.tail.headD false = false)
    (hwait : loop.children.wait (.child pid) true = (some (.ok (found, status)), rest))
    (hundecoded : status.termination? = none) :
    loop.round foreground =
      (true, { loop with interruptions := loop.interruptions.drop 2, children := rest }) := by
  rw [round, look_of_passed h, hpeek]
  simp only [if_neg hother, collect_of_passed hcollect hwait, hundecoded]

/-- A round that ends the loop collects nothing. -/
theorem EndsAs.stop {interruptions : List Bool} {errno : Errno} (count : Nat)
    (h : loop.round foreground = (false, { loop with interruptions, errno })) :
    loop.EndsAs foreground (count + 1) (Reaper.stop loop.children errno) := by
  refine ⟨_, rounds_of_end h, ?_⟩
  exact ⟨rfl, (List.append_nil _).symm, rfl, rfl⟩

/-- A round without a report leaves everything to the later ones. -/
theorem EndsAs.again {interruptions : List Bool} {errno : Errno} {children : Children} {count : Nat}
    {reaping : Reaping}
    (h : loop.round foreground = (true, { loop with interruptions, errno, children }))
    (hlater : EndsAs foreground count { loop with interruptions, errno, children } reaping) :
    loop.EndsAs foreground (count + 1) reaping := by
  obtain ⟨last, hlast, hmatches⟩ := hlater
  refine ⟨last, (rounds_of_again h).trans hlast, ?_⟩
  exact ⟨hmatches.count, hmatches.delivered, hmatches.children, hmatches.errno⟩

/-- A round that takes a child adds its report in front of the later ones. -/
theorem EndsAs.take {pid : Pid} {termination : Termination} {interruptions : List Bool}
    {children : Children} {count : Nat} {later : Reaping}
    (h : loop.round foreground =
      (true, { loop with interruptions, children }.notify pid termination))
    (hlater : EndsAs foreground count ({ loop with interruptions, children }.notify pid termination)
      later) :
    loop.EndsAs foreground (count + 1)
      { later with
        collected := (pid, termination) :: later.collected
        delivered := (deliver loop.errno (loop.writes.headD [])
          (Notice.of pid termination)).delivered ++ later.delivered } := by
  obtain ⟨last, hlast, hmatches⟩ := hlater
  refine ⟨last, (rounds_of_again h).trans hlast, ?_, ?_, hmatches.children, hmatches.errno⟩
  · have hcount : last.count = loop.count + 1 + later.collected.length := hmatches.count
    rw [hcount, List.length_cons]
    omega
  · rw [hmatches.delivered]
    exact List.append_assoc _ _ _

end Loop

open Children

theorem headD_of_passed {interruptions : List Bool}
    (h : ∀ later, interruptions = true :: later → False) : interruptions.headD false = false := by
  rcases interruptions with _ | ⟨_ | _, later⟩
  · rfl
  · rfl
  · exact (h later rfl).elim

theorem headD_tail_of_passed {interruptions : List Bool}
    (h : interruptions.headD false = false)
    (htail : ∀ later, interruptions = false :: true :: later → False) :
    interruptions.tail.headD false = false := by
  rcases interruptions with _ | ⟨_ | _, later⟩
  · rfl
  · refine headD_of_passed fun rest hlater => htail rest ?_
    exact congrArg _ hlater
  · cases h

/-- A run takes children out of the table and puts none in. -/
theorem length_reap_le (foreground : Option Pid) (interruptions : List Bool)
    (writes : List (List WriteResult)) (errno : Errno) (children : Children) :
    (reap foreground interruptions writes errno children).children.length ≤ children.length := by
  fun_induction reap foreground interruptions writes errno children with
  | case1 _ _ _ _ ih => exact ih
  | case4 _ _ _ _ _ _ _ ih => exact ih
  | case7 _ _ _ _ _ _ _ _ _ _ _ _ hwait _ _ _ _ ih =>
    exact Nat.le_trans ih (Nat.le_of_lt (Children.length_wait_lt hwait))
  | case8 _ _ _ _ _ _ _ _ _ _ _ _ hwait _ ih =>
    exact Nat.le_trans ih (Nat.le_of_lt (Children.length_wait_lt hwait))
  | case9 _ _ _ _ _ _ _ hpeek _ _ _ hwait =>
    obtain ⟨_, ⟨⟩⟩ := ok_of_peek_ok hpeek hwait
  | case10 _ _ _ _ _ _ _ hpeek _ _ hwait =>
    obtain ⟨_, ⟨⟩⟩ := ok_of_peek_ok hpeek hwait
  | _ => exact Nat.le_refl _

/-- A run is the loop, which ends within a bounded number of rounds: each of them but the last one
uses up an interruption or takes a child. -/
theorem endsAs_of_reap {foreground : Option Pid} (interruptions : List Bool)
    (writes : List (List WriteResult)) (errno : Errno) (children : Children) (count : Nat)
    (delivered : Bytes) {fuel : Nat}
    (hfuel : interruptions.count true + children.length ≤
      fuel + (reap foreground interruptions writes errno children).children.length) :
    Loop.EndsAs foreground (fuel + 1)
      { interruptions, writes, errno, children, count, delivered }
      (reap foreground interruptions writes errno children) := by
  -- the measure of the rounds that may come: interruptions, and children that will be taken
  have hleft := length_reap_le foreground interruptions writes errno children
  fun_induction reap foreground interruptions writes errno children
    generalizing count delivered fuel with
  | case1 writes errno children interruptions ih =>
    rw [List.count_cons_self] at hfuel
    obtain ⟨fuel, rfl⟩ : ∃ before, fuel = before + 1 := ⟨fuel - 1, by omega⟩
    exact .again (Loop.round_of_look_interrupted rfl) (ih count delivered (by omega) hleft)
  | case2 _ _ _ _ _ hpeek => exact .stop fuel (Loop.round_of_peek_error rfl hpeek)
  | case3 _ _ _ _ _ hpeek hown => exact .stop fuel (Loop.round_of_own rfl hpeek hown)
  | case4 _ _ _ interruptions _ hpeek hother ih =>
    rw [List.count_cons_of_ne (by decide), List.count_cons_self] at hfuel
    obtain ⟨fuel, rfl⟩ : ∃ before, fuel = before + 1 := ⟨fuel - 1, by omega⟩
    exact .again (Loop.round_of_collect_interrupted rfl hpeek hother rfl)
      (ih count delivered (by omega) hleft)
  | case5 _ _ _ _ hlook _ _ hpeek =>
    exact .stop fuel (Loop.round_of_peek_error (headD_of_passed hlook) hpeek)
  | case6 _ _ _ _ hlook _ _ hpeek hown =>
    exact .stop fuel (Loop.round_of_own (headD_of_passed hlook) hpeek hown)
  | case7 writes errno _ interruptions hlook hcollect pid hpeek hother _ _ rest hwait _ hdecoded
      delivery later ih =>
    have hused := (List.drop_sublist 2 interruptions).count_le true
    have hshorter := length_wait_lt hwait
    have hrest : later.children.length ≤ rest.length := length_reap_le ..
    replace hfuel : _ ≤ fuel + later.children.length := hfuel
    obtain ⟨fuel, rfl⟩ : ∃ before, fuel = before + 1 := ⟨fuel - 1, by omega⟩
    have hlater : (interruptions.drop 2).count true + rest.length ≤
        fuel + later.children.length := by omega
    have hlook := headD_of_passed hlook
    exact .take
      (Loop.round_of_taken hlook hpeek hother (headD_tail_of_passed hlook hcollect) hwait hdecoded)
      (ih (count + 1) (delivered ++ delivery.delivered) hlater hrest)
  | case8 writes errno _ interruptions hlook hcollect pid hpeek hother _ _ rest hwait hundecoded
      ih =>
    have hused := (List.drop_sublist 2 interruptions).count_le true
    have hshorter := length_wait_lt hwait
    have hrest := length_reap_le foreground (interruptions.drop 2) writes errno rest
    obtain ⟨fuel, rfl⟩ : ∃ before, fuel = before + 1 := ⟨fuel - 1, by omega⟩
    have hlook := headD_of_passed hlook
    exact .again
      (Loop.round_of_untold hlook hpeek hother (headD_tail_of_passed hlook hcollect) hwait
        hundecoded)
      (ih count delivered (by omega) hrest)
  | case9 _ _ _ _ _ _ _ hpeek _ _ _ hwait =>
    obtain ⟨_, ⟨⟩⟩ := ok_of_peek_ok hpeek hwait
  | case10 _ _ _ _ _ _ _ hpeek _ _ hwait =>
    obtain ⟨_, ⟨⟩⟩ := ok_of_peek_ok hpeek hwait

/-- On a proper table each report is one child. -/
theorem rounds_of_reap {foreground : Option Pid} (interruptions : List Bool)
    (writes : List (List WriteResult)) (errno : Errno) {children : Children}
    (hproper : ∀ child ∈ children, child.Proper) (count : Nat) (delivered : Bytes) {fuel : Nat}
    (hfuel : interruptions.count true +
      (reap foreground interruptions writes errno children).collected.length ≤ fuel) :
    Loop.EndsAs foreground (fuel + 1)
      { interruptions, writes, errno, children, count, delivered }
      (reap foreground interruptions writes errno children) := by
  have hdrains : Drains foreground children _ _ := reap_drains interruptions writes errno hproper
  have htaken := hdrains.length_eq
  exact endsAs_of_reap interruptions writes errno children count delivered (by omega)

end Reaper

namespace Parent

open Children

/-- The reaper's loop before its first round. -/
def loop (parent : Parent) (conditions : ReapConditions) : Reaper.Loop where
  interruptions := conditions.interruptions
  writes := conditions.writes
  errno := .success
  children := parent.children

/-- One run of the reaper collects the children of these reports, in this order. -/
structure Collects (parent : Parent) (conditions : ReapConditions)
    (reports : List (Pid × Termination)) : Prop where
  /-- The loop ends, after no more rounds than there are interruptions and reports and one, with
  what the run answers. -/
  ends : ∃ last,
    (∀ rounds, conditions.interruptions.count true + reports.length < rounds →
      Reaper.Loop.rounds parent.foreground rounds (parent.loop conditions) = some last) ∧
    parent.reap conditions =
      (last.count,
        { parent with children := last.children, output := parent.output ++ last.delivered })
  /-- The run answers their number. -/
  counts : (parent.reap conditions).1 = reports.length
  /-- Unless the foreground child has ended, all that have ended are collected, and the others stay
  as they are. -/
  all : (∀ child ∈ parent.children, child.hasEnded = true → parent.foreground ≠ some child.pid) →
    reports = parent.children.filterMap report? ∧
      (parent.reap conditions).2.children =
        parent.children.filter fun child => !child.hasEnded
  /-- If the foreground child has ended, those before it that have ended are collected. It stays as
  it is, and so does every child behind it. -/
  earlier : ∀ before own after, parent.children = before ++ own :: after →
    own.hasEnded = true → parent.foreground = some own.pid →
    (∀ child ∈ before, child.hasEnded = true → child.pid ≠ own.pid) →
    reports = before.filterMap report? ∧
      (parent.reap conditions).2.children =
        before.filter (fun child => !child.hasEnded) ++ own :: after
  /-- For each of them one notice is written, in their order, as far as the writes succeed. -/
  notices : ∃ pieces,
    List.Forall₂ (fun piece report => piece <+: Text.utf8 (Notice.text report.1 report.2))
      pieces reports ∧
    (parent.reap conditions).2.output = parent.output ++ pieces.flatten
  /-- Whole notices are written if every write succeeds. -/
  whole : conditions.Complete → (parent.reap conditions).2.output =
    parent.output ++ reports.flatMap fun report => Text.utf8 (Notice.text report.1 report.2)

/-- **One run of the reaper ends, collects every child that it reaches and leaves the others**,
whichever children have ended, whichever is in the foreground and whatever is interrupted. -/
theorem reap_collects_reached (parent : Parent) (conditions : ReapConditions)
    (hproper : ∀ child ∈ parent.children, child.Proper) :
    ∃ reports, parent.Collects conditions reports := by
  have hdrains := Reaper.run_drains parent.foreground conditions .success hproper
  have hcarries {Arrives} (h : conditions.Bring Arrives) :=
    Reaper.run_carries parent.foreground .success parent.children h
  refine ⟨(Reaper.run parent.foreground conditions .success parent.children).collected, ?_⟩
  refine
    { ends := ?ends
      counts := rfl
      all := hdrains.eq_of_not_held
      earlier := ?earlier
      notices := ?notices
      whole := ?whole }
  case ends =>
    obtain ⟨last, hlast, hmatches⟩ := Reaper.rounds_of_reap conditions.interruptions
      conditions.writes .success hproper 0 [] (Nat.le_refl _)
    refine ⟨last, fun rounds hrounds => Reaper.Loop.rounds_mono hlast hrounds, ?_⟩
    rw [hmatches.count, hmatches.delivered, hmatches.children, Nat.zero_add, List.nil_append]
    rfl
  case earlier =>
    intro before own after hchildren hended hown hfirst
    rw [hchildren] at hdrains
    have hfree : ∀ child ∈ before, child.hasEnded = true → parent.foreground ≠ some child.pid := by
      intro child hmem hchild hforeground
      rw [hown] at hforeground
      exact hfirst child hmem hchild (Option.some.inj hforeground).symm
    have hheld : ∀ child ∈ (own :: after).head?,
        child.hasEnded = true ∧ parent.foreground = some child.pid := by
      rintro child ⟨⟩
      exact ⟨hended, hown⟩
    have hreached := hdrains.eq_of_append hfree hheld
    rw [← hchildren] at hreached
    exact hreached
  case notices =>
    obtain ⟨pieces, hpieces, hwritten⟩ := hcarries conditions.bring_prefix
    simp only [Notice.of_eq_text] at hpieces
    exact ⟨pieces, hpieces, congrArg (parent.output ++ ·) hwritten⟩
  case whole =>
    intro hcomplete
    have hwritten := (hcarries hcomplete.bring_eq).eq_flatMap
    simp only [Notice.of_eq_text] at hwritten
    exact congrArg (parent.output ++ ·) hwritten

/-- Jobs have ended before and after the foreground child, which has ended too. -/
def endedAround : Parent where
  children := [⟨⟨5⟩, some (.ofExit 4)⟩, ⟨⟨6⟩, none⟩, ⟨⟨7⟩, some (.ofExit 0)⟩,
    ⟨⟨8⟩, some (.ofSignal ⟨15⟩)⟩]
  foreground := some ⟨7⟩

theorem proper_endedAround : ∀ child ∈ endedAround.children, child.Proper := by
  have hpositive : ∀ child ∈ endedAround.children, 0 < child.pid.number := by decide
  have hdecodes : ∀ child ∈ endedAround.children, ∀ status ∈ child.status,
      status.termination?.isSome := by decide
  exact fun child hmem => ⟨hpositive child hmem, hdecodes child hmem⟩

/-- Looking is interrupted, and so is collecting. -/
theorem reap_collects_earlier_job :
    ∃ parent, endedAround.reap { interruptions := [true, false, true] } = (1, parent) ∧
      parent.children = endedAround.children.tail ∧
      parent.output = Text.utf8 "\nbackground pid 5 is done: exit value 4\n" := by
  obtain ⟨reports, hcollects⟩ := reap_collects_reached endedAround
    { interruptions := [true, false, true] } proper_endedAround
  obtain ⟨rfl, hchildren⟩ := hcollects.earlier [⟨⟨5⟩, some (.ofExit 4)⟩, ⟨⟨6⟩, none⟩]
    ⟨⟨7⟩, some (.ofExit 0)⟩ [⟨⟨8⟩, some (.ofSignal ⟨15⟩)⟩] rfl rfl rfl (by decide)
  have hcomplete : ({ interruptions := [true, false, true] } : ReapConditions).Complete := by
    simp [ReapConditions.Complete]
  have hreports : List.filterMap report? [⟨⟨5⟩, some (.ofExit 4)⟩, ⟨⟨6⟩, none⟩] =
      [(⟨5⟩, .exited 4)] := by
    decide
  have htext : Notice.text ⟨5⟩ (.exited 4) = "\nbackground pid 5 is done: exit value 4\n" := by
    decide +kernel
  have houtput := hcollects.whole hcomplete
  rw [hreports, List.flatMap_singleton, htext] at houtput
  exact ⟨_, Prod.ext hcollects.counts rfl, hchildren, houtput⟩

end Parent

end JobShell
