import JobShell.Proofs.Signal.Actions
import JobShell.Signal.Scopes
import Mathlib.Data.List.Induction

/-!
# JobShell.Proofs.Signal.Scoping — registrations that are dropped in reverse order

A registration remembers nothing but the action that it has replaced. When it is dropped, that
action is set again, whatever has happened in between; so it matters in which order registrations
of one signal are dropped, and those of different signals have nothing to do with each other.

* `Handlers` is a program with its registrations, each with the whole action that it replaced, and
  `Handlers.perform` what it does with them. By `Handlers.Settable.run` this is what `Scopes` does,
  where only dispositions are known.
* `Handlers.record` is the history: who registered what, and what has become of it. It knows nothing
  of what was replaced.
* `Linked` is the invariant. Read from the first registration on, every one that is still held has
  replaced what the ones before it have left. `Linked.drop` is the step that needs the order, and
  `Handlers.Upheld` carries both through a run.
* `Handlers.undropped_stand`: at every point, the action of a signal is the one that was registered
  last and not dropped.
-/

namespace JobShell

/-! ## A program and its history -/

/-- The place of a registration. -/
structure HandlerSlot where
  signal : Signal
  /-- The action that it has replaced, until it is dropped or forgotten. -/
  saved : Option SignalAction
deriving DecidableEq, Repr

/-- What a program does with registrations, by the number of their places. -/
inductive HandlerStep where
  | register (signal : Signal) (behavior : Disposition)
  | drop (slot : Nat)
  | forget (slot : Nat)
deriving DecidableEq, Repr

/-- What has become of a registration. -/
inductive HandlerState where
  | held
  | forgotten
  | dropped
deriving DecidableEq, Repr

/-- A registration that was made. -/
structure HandlerEntry where
  signal : Signal
  behavior : Disposition
  state : HandlerState := .held
deriving DecidableEq, Repr

/-- A program with its registrations. -/
structure Handlers where
  actions : SignalActions
  /-- The registrations in the order in which they were made. -/
  slots : List HandlerSlot := []

def HandlerSlot.emptied (slot : HandlerSlot) : HandlerSlot :=
  { slot with saved := none }

namespace HandlerEntry

def drop (entry : HandlerEntry) : HandlerEntry :=
  if entry.state = .held then { entry with state := .dropped } else entry

def forget (entry : HandlerEntry) : HandlerEntry :=
  if entry.state = .held then { entry with state := .forgotten } else entry

/-- The action that the registration has set, as the kernel keeps it. -/
def action (entry : HandlerEntry) : SignalAction :=
  (SignalAction.ofBehavior entry.behavior).kept

/-- The actions with this registration, unless it was dropped. -/
def upon (entry : HandlerEntry) (before : Signal → SignalAction) : Signal → SignalAction :=
  if entry.state = .dropped then before else Function.update before entry.signal entry.action

variable (entry : HandlerEntry)

@[simp] theorem signal_drop : entry.drop.signal = entry.signal := by
  unfold drop
  split <;> rfl

@[simp] theorem signal_forget : entry.forget.signal = entry.signal := by
  unfold forget
  split <;> rfl

theorem state_drop_ne_held : entry.drop.state ≠ .held := by
  unfold drop
  split
  · nofun
  · assumption

theorem state_forget_ne_held : entry.forget.state ≠ .held := by
  unfold forget
  split
  · nofun
  · assumption

theorem upon_of_dropped (h : entry.state = .dropped) (before : Signal → SignalAction) :
    entry.upon before = before :=
  if_pos h

theorem upon_of_ne_dropped (h : entry.state ≠ .dropped) (before : Signal → SignalAction) :
    entry.upon before = Function.update before entry.signal entry.action :=
  if_neg h

theorem upon_drop_of_held {entry : HandlerEntry} (h : entry.state = .held)
    (before : Signal → SignalAction) : entry.drop.upon before = before := by
  unfold drop
  rw [if_pos h]
  exact if_pos rfl

/-- A registration that is forgotten goes on as if it were held. -/
theorem upon_forget (before : Signal → SignalAction) :
    entry.forget.upon before = entry.upon before := by
  unfold forget
  split
  · next h =>
    unfold upon
    have hforgotten : HandlerState.forgotten ≠ .dropped := nofun
    have hheld : entry.state ≠ .dropped := h ▸ nofun
    rw [if_neg hheld, if_neg hforgotten]
    rfl
  · rfl

/-- Only a registration that is held can be dropped. -/
theorem modify_drop_eq_self {entries : List HandlerEntry} {number : Nat}
    (h : ∀ entry, entries[number]? = some entry → entry.state ≠ .held) :
    entries.modify number drop = entries := by
  apply List.ext_getElem?
  intro other
  rw [List.getElem?_modify]
  cases hentry : entries[other]? with
  | none => rfl
  | some entry =>
    apply congrArg some
    split
    · next hother =>
      subst hother
      exact if_neg (h entry hentry)
    · rfl

theorem isMask_upon {before : Signal → SignalAction} (h : ∀ signal, (before signal).held.IsMask)
    (signal : Signal) : (entry.upon before signal).held.IsMask := by
  unfold upon
  split
  · exact h signal
  · by_cases hsignal : signal = entry.signal
    · rw [hsignal, Function.update_self]
      exact SignalSet.isMask_sdiff _
    · rw [Function.update_of_ne hsignal]
      exact h signal

end HandlerEntry

namespace Handlers

def perform (handlers : Handlers) : HandlerStep → Handlers
  | .register signal behavior =>
    match handlers.actions.register signal behavior with
    | (.ok handler, actions) => ⟨actions, handlers.slots ++ [⟨signal, some handler.original⟩]⟩
    | (.error _, actions) => ⟨actions, handlers.slots⟩
  | .drop slot =>
    match handlers.slots[slot]? with
    | some ⟨signal, some original⟩ =>
      ⟨handlers.actions.drop ⟨signal, original⟩, handlers.slots.modify slot HandlerSlot.emptied⟩
    | _ => handlers
  | .forget slot => ⟨handlers.actions, handlers.slots.modify slot HandlerSlot.emptied⟩

/-- The program after some steps. -/
def run (handlers : Handlers) (steps : List HandlerStep) : Handlers :=
  steps.foldl perform handlers

/-- The history after one more step. A registration that fails leaves no trace. -/
def record (entries : List HandlerEntry) : HandlerStep → List HandlerEntry
  | .register signal behavior =>
    if signal.IsSettable then entries ++ [⟨signal, behavior, .held⟩] else entries
  | .drop slot => entries.modify slot HandlerEntry.drop
  | .forget slot => entries.modify slot HandlerEntry.forget

def history (steps : List HandlerStep) : List HandlerEntry :=
  steps.foldl record []

/-- The most recent registration for a signal that was not dropped. -/
def latest? (entries : List HandlerEntry) (signal : Signal) : Option HandlerEntry :=
  (entries.filter fun entry => entry.signal = signal ∧ entry.state ≠ .dropped).getLast?

/-- A registration is dropped only when all later ones for its signal have been dropped. -/
def InOrder (entries : List HandlerEntry) : HandlerStep → Prop
  | .drop slot => ∀ entry ∈ entries[slot]?, entry.state = .held →
      ∀ later ∈ entries.drop (slot + 1), later.signal = entry.signal → later.state = .dropped
  | .register .. | .forget _ => True

instance (entries : List HandlerEntry) : (step : HandlerStep) → Decidable (InOrder entries step)
  | .drop slot => inferInstanceAs (Decidable (∀ entry ∈ entries[slot]?, _))
  | .register .. => isTrue trivial
  | .forget _ => isTrue trivial

/-- Every step keeps to the order. -/
def Ordered (steps : List HandlerStep) : Prop :=
  ∀ past step, past ++ [step] <+: steps → InOrder (history past) step

/-- The actions that are left by registrations over the ones that were there before. -/
def standing (before : Signal → SignalAction) (entries : List HandlerEntry) :
    Signal → SignalAction :=
  entries.foldl (fun actions entry => entry.upon actions) before

theorem run_concat (handlers : Handlers) (steps : List HandlerStep) (step : HandlerStep) :
    handlers.run (steps ++ [step]) = (handlers.run steps).perform step := by
  unfold run
  rw [List.foldl_append]
  rfl

theorem history_concat (steps : List HandlerStep) (step : HandlerStep) :
    history (steps ++ [step]) = record (history steps) step := by
  unfold history
  rw [List.foldl_append]
  rfl

theorem Ordered.earlier {past steps : List HandlerStep} (h : Ordered steps)
    (hpast : past <+: steps) : Ordered past :=
  fun earlier step hearlier => h earlier step (hearlier.trans hpast)

theorem ordered_concat {steps : List HandlerStep} {step : HandlerStep} :
    Ordered (steps ++ [step]) ↔ Ordered steps ∧ InOrder (history steps) step := by
  constructor
  · intro h
    constructor
    · exact h.earlier (List.prefix_append steps [step])
    · exact h steps step List.prefix_rfl
  · rintro ⟨hsteps, hstep⟩ past next hpast
    -- What has been done ends with the new step, or before it.
    rcases List.prefix_concat_iff.1 hpast with hall | hbefore
    · rcases List.append_inj' hall rfl with ⟨rfl, hnext⟩
      cases hnext
      exact hstep
    · exact hsteps past next hbefore

/-- A check of every step, by the number of those before it. -/
theorem ordered_iff {steps : List HandlerStep} :
    Ordered steps ↔ ∀ number < steps.length, ∀ step ∈ steps[number]?,
      InOrder (history (steps.take number)) step := by
  constructor
  · intro h number _ step hstep
    apply h
    have htake : steps.take (number + 1) = steps.take number ++ [step] := by
      rw [List.take_add_one, hstep]
      rfl
    rw [← htake]
    exact steps.take_prefix (number + 1)
  · rintro h past step ⟨rest, rfl⟩
    have hinOrder := h past.length (by simp) step (by simp)
    simpa using hinOrder

instance (steps : List HandlerStep) : Decidable (Ordered steps) :=
  decidable_of_iff _ ordered_iff.symm

theorem latest?_append (entries others : List HandlerEntry) (signal : Signal) :
    latest? (entries ++ others) signal = (latest? others signal).or (latest? entries signal) := by
  unfold latest?
  rw [List.filter_append, List.getLast?_append]

theorem standing_concat (before : Signal → SignalAction) (entries : List HandlerEntry)
    (entry : HandlerEntry) :
    standing before (entries ++ [entry]) = entry.upon (standing before entries) := by
  unfold standing
  rw [List.foldl_append]
  rfl

/-- What stands is what the most recent registration has set that was not dropped. -/
theorem standing_eq (before : Signal → SignalAction) (entries : List HandlerEntry)
    (signal : Signal) :
    standing before entries signal =
      ((latest? entries signal).map HandlerEntry.action).getD (before signal) := by
  -- From the back: the last registration counts if it is one for the signal and was not dropped.
  induction entries using List.reverseRecOn with
  | nil => rfl
  | append_singleton entries entry ih =>
    rw [standing_concat, latest?_append]
    by_cases hdropped : entry.state = .dropped
    · have hnone : latest? [entry] signal = none := by simp [latest?, hdropped]
      rw [entry.upon_of_dropped hdropped, hnone, Option.none_or, ih]
    · rw [entry.upon_of_ne_dropped hdropped]
      by_cases hsignal : signal = entry.signal
      · have hsome : latest? [entry] signal = some entry := by simp [latest?, hdropped, hsignal]
        rw [hsome, Option.some_or, hsignal, Function.update_self]
        rfl
      · have hnone : latest? [entry] signal = none := by simp [latest?, Ne.symm hsignal]
        rw [hnone, Option.none_or, Function.update_of_ne hsignal, ih]

/-- What was there before stands where all registrations for a signal have been dropped. -/
theorem standing_update {before : Signal → SignalAction} {entries : List HandlerEntry}
    {signal : Signal} (hlast : ∀ later ∈ entries, later.signal = signal → later.state = .dropped)
    (action : SignalAction) :
    standing (Function.update before signal action) entries =
      Function.update (standing before entries) signal action := by
  induction entries generalizing before with
  | nil => rfl
  | cons entry entries ih =>
    have hupon : entry.upon (Function.update before signal action) =
        Function.update (entry.upon before) signal action := by
      unfold HandlerEntry.upon
      split
      · rfl
      · next hdropped =>
        have hne : entry.signal ≠ signal := by
          intro hsame
          exact hdropped (hlast entry List.mem_cons_self hsame)
        exact Function.update_comm hne.symm _ _ _
    change standing (entry.upon (Function.update before signal action)) entries =
      Function.update (standing (entry.upon before) entries) signal action
    rw [hupon]
    exact ih fun later hlater => hlast later (List.mem_cons_of_mem entry hlater)

end Handlers

/-! ## The chain of saved actions -/

/-- Read from the first registration on, every one that is held has saved what was there before it,
and all others have saved nothing. -/
inductive Linked : (Signal → SignalAction) → List HandlerEntry → List HandlerSlot → Prop
  | nil (before : Signal → SignalAction) : Linked before [] []
  | cons {before : Signal → SignalAction} {entry : HandlerEntry} {entries : List HandlerEntry}
      {slot : HandlerSlot} {slots : List HandlerSlot} (isSettable : entry.signal.IsSettable)
      (signal : slot.signal = entry.signal)
      (held : entry.state = .held → slot.saved = some (before entry.signal))
      (notHeld : entry.state ≠ .held → slot.saved = none)
      (rest : Linked (entry.upon before) entries slots) :
      Linked before (entry :: entries) (slot :: slots)

namespace Linked

open Handlers

variable {before other : Signal → SignalAction} {entries : List HandlerEntry}
  {slots : List HandlerSlot}

/-- Only the signals whose registrations are held tie the chain to what was there before. -/
theorem congr (h : Linked before entries slots)
    (hsame : ∀ entry ∈ entries, entry.state = .held → other entry.signal = before entry.signal) :
    Linked other entries slots := by
  induction h generalizing other with
  | nil => exact .nil other
  | @cons before entry entries slot slots isSettable signal held notHeld _ ih =>
    refine .cons isSettable signal ?_ notHeld (ih ?_)
    · intro hheld
      rw [hsame entry List.mem_cons_self hheld]
      exact held hheld
    · intro later hlater hheld
      have hbefore := hsame later (List.mem_cons_of_mem entry hlater) hheld
      unfold HandlerEntry.upon
      split
      · exact hbefore
      · -- For its own signal, the registration leaves the same whatever was there before.
        by_cases hsignal : later.signal = entry.signal
        · rw [hsignal, Function.update_self, Function.update_self]
        · rw [Function.update_of_ne hsignal, Function.update_of_ne hsignal, hbefore]

/-- A new registration saves what stands. -/
theorem register (h : Linked before entries slots) {signal : Signal}
    (isSettable : signal.IsSettable) (behavior : Disposition) :
    Linked before (entries ++ [⟨signal, behavior, .held⟩])
      (slots ++ [⟨signal, some (standing before entries signal)⟩]) := by
  induction h with
  | nil before => exact .cons isSettable rfl (fun _ => rfl) (fun hne => absurd rfl hne) (.nil _)
  | cons isSettable signal held notHeld _ ih => exact .cons isSettable signal held notHeld ih

/-- A registration that is forgotten stays in force. -/
theorem forget (h : Linked before entries slots) (slot : Nat) :
    standing before (entries.modify slot HandlerEntry.forget) = standing before entries ∧
      Linked before (entries.modify slot HandlerEntry.forget)
        (slots.modify slot HandlerSlot.emptied) := by
  induction h generalizing slot with
  | nil before =>
    cases slot with
    | zero => exact ⟨rfl, .nil before⟩
    | succ slot => exact ⟨rfl, .nil before⟩
  | @cons before entry entries _ slots isSettable signal held notHeld rest ih =>
    cases slot with
    | zero =>
      have hupon := entry.upon_forget before
      constructor
      · change standing (entry.forget.upon before) entries = standing (entry.upon before) entries
        rw [hupon]
      · refine .cons ?_ ?_ (fun h => absurd h entry.state_forget_ne_held) (fun _ => rfl) ?_
        · rwa [entry.signal_forget]
        · rwa [entry.signal_forget]
        · rwa [hupon]
    | succ slot =>
      rcases ih slot with ⟨hstanding, hlinked⟩
      exact ⟨hstanding, .cons isSettable signal held notHeld hlinked⟩

/-- Dropping a registration that is the most recent one of its signal sets the action again that
stood before it was made. -/
theorem drop (h : Linked before entries slots) (hmask : ∀ signal, (before signal).held.IsMask)
    {slot : Nat} {entry : HandlerEntry} (hentry : entries[slot]? = some entry)
    (hheld : entry.state = .held)
    (hlast : ∀ later ∈ entries.drop (slot + 1),
      later.signal = entry.signal → later.state = .dropped) :
    ∃ original, entry.signal.IsSettable ∧
      slots[slot]? = some ⟨entry.signal, some original⟩ ∧ original.held.IsMask ∧
      standing before (entries.modify slot HandlerEntry.drop) =
        Function.update (standing before entries) entry.signal original ∧
      Linked before (entries.modify slot HandlerEntry.drop)
        (slots.modify slot HandlerSlot.emptied) := by
  -- The induction goes to the place of the registration. Behind it, the chain holds for the actions
  -- that it has left, and has to be shown for those from before it.
  induction h generalizing slot with
  | nil => cases hentry
  | @cons before first entries saved slots isSettable signal held notHeld rest ih =>
    cases slot with
    | zero =>
      obtain rfl : first = entry := Option.some.inj hentry
      have hlast : ∀ later ∈ entries, later.signal = first.signal → later.state = .dropped := hlast
      have hupon := HandlerEntry.upon_drop_of_held hheld before
      refine ⟨before first.signal, isSettable, ?_, hmask first.signal, ?_, ?_⟩
      · obtain ⟨signal', saved⟩ := saved
        obtain rfl : signal' = first.signal := signal
        exact congrArg (fun saved => some (HandlerSlot.mk first.signal saved)) (held hheld)
      · have hset := first.upon_of_ne_dropped (hheld ▸ nofun) before
        -- The later registrations leave this signal alone, so both sides can be set before them.
        change standing (first.drop.upon before) entries =
          Function.update (standing (first.upon before) entries) first.signal (before first.signal)
        rw [hupon, hset, standing_update hlast, Function.update_idem, ← standing_update hlast,
          Function.update_eq_self]
      · refine .cons ?_ ?_ (fun h => absurd h first.state_drop_ne_held) (fun _ => rfl) ?_
        · rwa [first.signal_drop]
        · rwa [first.signal_drop]
        · rw [hupon]
          -- The two differ for the signal of the registration only, and no later one of it is held.
          apply rest.congr
          intro later hlater hlater'
          have hne : later.signal ≠ first.signal := by
            intro hsame
            rw [hlast later hlater hsame] at hlater'
            cases hlater'
          unfold HandlerEntry.upon
          split
          · rfl
          · exact (Function.update_of_ne hne _ _).symm
    | succ slot =>
      rcases ih (first.isMask_upon hmask) hentry hlast with
        ⟨original, hsettable, hslot, hmask', hstanding, hlinked⟩
      exact ⟨original, hsettable, hslot, hmask', hstanding,
        .cons isSettable signal held notHeld hlinked⟩

/-- Every place belongs to a registration, and what has been dropped or forgotten saves nothing. -/
theorem getElem?_slots (h : Linked before entries slots) (number : Nat) :
    (entries[number]? = none ∧ slots[number]? = none) ∨
      ∃ entry slot, entries[number]? = some entry ∧ slots[number]? = some slot ∧
        entry.signal.IsSettable ∧ slot.signal = entry.signal ∧
        (entry.state ≠ .held → slot.saved = none) := by
  induction h generalizing number with
  | nil => exact .inl ⟨rfl, rfl⟩
  | @cons _ entry _ slot _ isSettable signal _ notHeld _ ih =>
    cases number with
    | zero => exact .inr ⟨entry, slot, rfl, rfl, isSettable, signal, notHeld⟩
    | succ number => exact ih number

end Linked

/-! ## Steps and runs -/

namespace Handlers

/-- The actions are those that the history leaves, and the registrations are linked to it. -/
structure Upheld (start : SignalActions) (entries : List HandlerEntry) (handlers : Handlers) :
    Prop where
  stands : handlers.actions.get = standing start.get entries
  linked : Linked start.get entries handlers.slots

variable {start : SignalActions} {entries : List HandlerEntry} {handlers : Handlers}

theorem perform_register_of_settable (handlers : Handlers) {signal : Signal}
    (h : signal.IsSettable) (behavior : Disposition) :
    handlers.perform (.register signal behavior) =
      ⟨handlers.actions.set signal (.ofBehavior behavior),
        handlers.slots ++ [⟨signal, some (handlers.actions.get signal)⟩]⟩ := by
  rw [perform, handlers.actions.register_of_settable behavior h]

theorem perform_register_of_not_settable (handlers : Handlers) {signal : Signal}
    (h : ¬signal.IsSettable) (behavior : Disposition) :
    handlers.perform (.register signal behavior) = handlers := by
  rw [perform, handlers.actions.register_of_not_settable behavior h]

theorem perform_drop_of_saved (handlers : Handlers) {number : Nat} {signal : Signal}
    {original : SignalAction} (h : handlers.slots[number]? = some ⟨signal, some original⟩) :
    handlers.perform (.drop number) =
      ⟨handlers.actions.drop ⟨signal, original⟩,
        handlers.slots.modify number HandlerSlot.emptied⟩ := by
  rw [perform, h]

theorem perform_drop_of_not_saved (handlers : Handlers) {number : Nat}
    (h : ∀ slot, handlers.slots[number]? = some slot → slot.saved = none) :
    handlers.perform (.drop number) = handlers := by
  rw [perform]
  split
  · next hslot => cases h _ hslot
  · rfl

/-- Either there is nothing to be set again, or what there is belongs to a signal. -/
theorem saved_cases (handlers : Handlers) (number : Nat) :
    (∀ slot, handlers.slots[number]? = some slot → slot.saved = none) ∨
      ∃ signal original, handlers.slots[number]? = some ⟨signal, some original⟩ := by
  match hslot : handlers.slots[number]? with
  | none => exact .inl nofun
  | some ⟨_, none⟩ =>
    left
    intro slot h
    cases h
    rfl
  | some ⟨signal, some original⟩ => exact .inr ⟨signal, original, rfl⟩

theorem Upheld.register (h : Upheld start entries handlers) (signal : Signal)
    (behavior : Disposition) :
    Upheld start (record entries (.register signal behavior))
      (handlers.perform (.register signal behavior)) := by
  rw [record]
  by_cases isSettable : signal.IsSettable
  · rw [if_pos isSettable, handlers.perform_register_of_settable isSettable]
    constructor
    · have hheld : HandlerState.held ≠ .dropped := nofun
      rw [standing_concat, ← h.stands, HandlerEntry.upon_of_ne_dropped _ hheld]
      rfl
    · have hlinked := h.linked.register isSettable behavior
      rw [← h.stands] at hlinked
      exact hlinked
  · rw [if_neg isSettable, handlers.perform_register_of_not_settable isSettable]
    exact h

theorem Upheld.drop (h : Upheld start entries handlers) {number : Nat}
    (hinOrder : InOrder entries (.drop number)) :
    Upheld start (record entries (.drop number)) (handlers.perform (.drop number)) := by
  rw [record]
  by_cases hheld : ∃ entry, entries[number]? = some entry ∧ entry.state = .held
  · rcases hheld with ⟨entry, hentry, hheld⟩
    rcases h.linked.drop start.isMask hentry hheld (hinOrder entry hentry hheld) with
      ⟨original, isSettable, hslot, hmask, hstanding, hlinked⟩
    rw [handlers.perform_drop_of_saved hslot]
    refine ⟨?_, hlinked⟩
    change (handlers.actions.drop ⟨entry.signal, original⟩).get = _
    rw [handlers.actions.get_drop isSettable hmask, hstanding, ← h.stands]
  · -- Nothing is dropped: the registration is not there, or it is not held any more.
    have hsame : entries.modify number HandlerEntry.drop = entries :=
      HandlerEntry.modify_drop_eq_self fun entry hentry h => hheld ⟨entry, hentry, h⟩
    rw [hsame, handlers.perform_drop_of_not_saved]
    · exact h
    · intro slot hslot
      rcases h.linked.getElem?_slots number with
        ⟨_, hnone⟩ | ⟨entry, slot', hentry, hslot', _, _, hnotHeld⟩
      · rw [hnone] at hslot
        cases hslot
      · obtain rfl : slot' = slot := Option.some.inj (hslot'.symm.trans hslot)
        exact hnotHeld fun h => hheld ⟨entry, hentry, h⟩

/-- The step lemma: whatever is done in order, the history tells what stands. -/
theorem Upheld.step (h : Upheld start entries handlers) {step : HandlerStep}
    (hinOrder : InOrder entries step) :
    Upheld start (record entries step) (handlers.perform step) := by
  cases step with
  | register signal behavior => exact h.register signal behavior
  | drop number => exact h.drop hinOrder
  | forget number =>
    rcases h.linked.forget number with ⟨hstanding, hlinked⟩
    exact ⟨h.stands.trans hstanding.symm, hlinked⟩

/-- The run lemma, by induction from the last step. -/
theorem Upheld.run (start : SignalActions) {steps : List HandlerStep} (hordered : Ordered steps) :
    Upheld start (history steps) (({ actions := start } : Handlers).run steps) := by
  induction steps using List.reverseRecOn with
  | nil => exact ⟨rfl, .nil start.get⟩
  | append_singleton steps step ih =>
    rcases ordered_concat.1 hordered with ⟨hbefore, hinOrder⟩
    rw [history_concat, run_concat]
    exact (ih hbefore).step hinOrder

end Handlers

/-! ## Dispositions -/

namespace Scopes

def perform (scopes : Scopes) : HandlerStep → Scopes
  | .register signal behavior =>
    match scopes.register signal behavior with
    | .ok scopes => scopes
    | .error _ => scopes
  | .drop slot => scopes.drop slot
  | .forget slot => scopes.forget slot

def run (scopes : Scopes) (steps : List HandlerStep) : Scopes :=
  steps.foldl perform scopes

/-- The signal that a step is about. -/
def about? (scopes : Scopes) : HandlerStep → Option Signal
  | .register signal _ => some signal
  | .drop slot | .forget slot => scopes.signal? slot

end Scopes

/-- What a registration remembers of an action, if only dispositions are known. -/
def HandlerSlot.slot (slot : HandlerSlot) : Slot :=
  ⟨slot.signal, slot.saved.map fun original => ⟨slot.signal, original.disposition⟩⟩

namespace Handlers

/-- The program as it is seen by one that knows of dispositions only. -/
def scopes (handlers : Handlers) : Scopes where
  dispositions := handlers.actions.dispositions
  slots := handlers.slots.map HandlerSlot.slot

/-- Only signals whose action can be changed have registrations. -/
def Settable (handlers : Handlers) : Prop :=
  ∀ slot ∈ handlers.slots, slot.signal.IsSettable

variable {handlers : Handlers}

theorem map_slot_modify (slots : List HandlerSlot) (number : Nat) :
    (slots.modify number HandlerSlot.emptied).map HandlerSlot.slot =
      (slots.map HandlerSlot.slot).modify number fun slot => { slot with held := none } := by
  apply List.ext_getElem?
  intro other
  rw [List.getElem?_map, List.getElem?_modify, List.getElem?_modify, List.getElem?_map]
  cases slots[other]? with
  | none => rfl
  | some slot =>
    apply congrArg some
    split <;> rfl

theorem scopes_modify (actions : SignalActions) (slots : List HandlerSlot) (number : Nat) :
    scopes ⟨actions, slots.modify number HandlerSlot.emptied⟩ =
      (scopes ⟨actions, slots⟩).forget number := by
  unfold scopes Scopes.forget
  rw [map_slot_modify]

theorem settable_modify (h : handlers.Settable) (actions : SignalActions) (number : Nat) :
    Settable ⟨actions, handlers.slots.modify number HandlerSlot.emptied⟩ := by
  intro slot hslot
  obtain ⟨other, hother⟩ := List.getElem?_of_mem hslot
  rw [List.getElem?_modify] at hother
  obtain ⟨before, hbefore, rfl⟩ := Option.map_eq_some_iff.1 hother
  have isSettable := h before (List.mem_of_getElem? hbefore)
  split
  · exact isSettable
  · exact isSettable

theorem Settable.register (h : handlers.Settable) (signal : Signal) (behavior : Disposition) :
    (handlers.perform (.register signal behavior)).Settable ∧
      (handlers.perform (.register signal behavior)).scopes =
        handlers.scopes.perform (.register signal behavior) := by
  have hregister : Registration.register handlers.scopes.dispositions signal behavior = _ :=
    handlers.actions.register_dispositions behavior signal
  rw [Scopes.perform, Scopes.register, hregister]
  by_cases isSettable : signal.IsSettable
  · rw [handlers.perform_register_of_settable isSettable,
      handlers.actions.register_of_settable behavior isSettable]
    constructor
    · intro slot hslot
      rcases List.mem_append.1 hslot with hold | hnew
      · exact h slot hold
      · rw [List.mem_singleton.1 hnew]
        exact isSettable
    · change Scopes.mk _ (List.map _ _) _ = Scopes.mk _ _ _
      rw [List.map_append]
      rfl
  · rw [handlers.perform_register_of_not_settable isSettable,
      handlers.actions.register_of_not_settable behavior isSettable]
    exact ⟨h, rfl⟩

theorem Settable.drop (h : handlers.Settable) (number : Nat) :
    (handlers.perform (.drop number)).Settable ∧
      (handlers.perform (.drop number)).scopes = handlers.scopes.perform (.drop number) := by
  have hregistration : handlers.scopes.registration? number =
      handlers.slots[number]?.bind fun slot => slot.slot.held := by
    unfold Scopes.registration? scopes
    rw [List.getElem?_map]
    cases handlers.slots[number]? with
    | none => rfl
    | some slot => rfl
  rw [Scopes.perform, Scopes.drop, hregistration]
  -- Both look into the same slot, and find a registration there or not.
  rcases handlers.saved_cases number with hnone | ⟨signal, original, hslot⟩
  · have hempty : (handlers.slots[number]?.bind fun slot => slot.slot.held) = none := by
      apply Option.bind_eq_none_iff.2
      intro slot hslot
      unfold HandlerSlot.slot
      rw [hnone slot hslot]
      rfl
    rw [handlers.perform_drop_of_not_saved hnone, hempty]
    exact ⟨h, rfl⟩
  · have isSettable : signal.IsSettable := h ⟨signal, some original⟩ (List.mem_of_getElem? hslot)
    rw [handlers.perform_drop_of_saved hslot, hslot]
    refine ⟨settable_modify h _ number, ?_⟩
    rw [scopes_modify]
    change Scopes.mk (handlers.actions.drop ⟨signal, original⟩).dispositions _ _ = _
    rw [handlers.actions.drop_dispositions isSettable]
    rfl

/-- What is known of the actions beside the dispositions makes no difference to these. -/
theorem Settable.perform (h : handlers.Settable) (step : HandlerStep) :
    (handlers.perform step).Settable ∧
      (handlers.perform step).scopes = handlers.scopes.perform step := by
  cases step with
  | register signal behavior => exact h.register signal behavior
  | drop number => exact h.drop number
  | forget number =>
    exact ⟨settable_modify h _ number, scopes_modify _ _ number⟩

theorem Settable.run (h : handlers.Settable) (steps : List HandlerStep) :
    (handlers.run steps).Settable ∧ (handlers.run steps).scopes = handlers.scopes.run steps := by
  induction steps generalizing handlers with
  | nil => exact ⟨h, rfl⟩
  | cons step steps ih =>
    rcases h.perform step with ⟨hsettable, hscopes⟩
    rcases ih hsettable with ⟨hsettable', hscopes'⟩
    constructor
    · exact hsettable'
    · rw [hscopes] at hscopes'
      exact hscopes'

/-- A program that has not registered anything yet. -/
theorem run_scopes (start : SignalActions) (steps : List HandlerStep) :
    (({ actions := start } : Handlers).run steps).Settable ∧
      (({ actions := start } : Handlers).run steps).scopes =
        ({ dispositions := start.dispositions } : Scopes).run steps := by
  have h : Settable { actions := start } := nofun
  exact h.run steps

/-- A step for one signal leaves the actions of all others alone. -/
theorem get_perform_of_about (handlers : Handlers) {step : HandlerStep} {other : Signal}
    (h : handlers.scopes.about? step ≠ some other) :
    (handlers.perform step).actions.get other = handlers.actions.get other := by
  cases step with
  | register signal behavior =>
    have hne : other ≠ signal := fun hsame => h (congrArg some hsame.symm)
    by_cases isSettable : signal.IsSettable
    · rw [handlers.perform_register_of_settable isSettable]
      exact handlers.actions.get_set_of_ne hne _
    · rw [handlers.perform_register_of_not_settable isSettable]
  | drop number =>
    rcases handlers.saved_cases number with hnone | ⟨signal, original, hslot⟩
    · rw [handlers.perform_drop_of_not_saved hnone]
    · have habout : handlers.scopes.about? (.drop number) = some signal := by
        change (handlers.slots.map HandlerSlot.slot)[number]?.map _ = some signal
        rw [List.getElem?_map, hslot]
        rfl
      have hne : other ≠ signal := fun hsame => h (hsame ▸ habout)
      rw [handlers.perform_drop_of_saved hslot]
      exact handlers.actions.get_call_of_ne hne original
  | forget number => rfl

/-- What holds of registrations that are dropped in their order. -/
structure Restores (steps : List HandlerStep) : Prop where
  /-- At every point, the action of a signal is the one that its most recent registration has set
  that was not dropped, or the one at the start. -/
  actions : ∀ (start : SignalActions) past, past <+: steps → ∀ signal,
    (({ actions := start } : Handlers).run past).actions.get signal =
      ((latest? (history past) signal).map HandlerEntry.action).getD (start.get signal)
  /-- So is its disposition. -/
  dispositions : ∀ (start : Dispositions) past, past <+: steps → ∀ signal,
    (({ dispositions := start } : Scopes).run past).dispositions.get signal =
      ((latest? (history past) signal).map HandlerEntry.behavior).getD (start.get signal)
  /-- A registration succeeds if the action of its signal can be changed, -/
  registers : ∀ dispositions signal behavior,
    (∃ made, Registration.register dispositions signal behavior = .ok made) ↔ signal.IsSettable
  /-- must not be tried for two signals, -/
  forbids : ∀ dispositions signal behavior other,
    Registration.register dispositions signal behavior = .error (.forbidden other) ↔
      other = signal ∧ (signal = .kill ∨ signal = .stop)
  /-- and has changed nothing if it fails for whatever reason. -/
  fails : ∀ (handlers : Handlers) signal behavior error,
    (handlers.actions.register signal behavior).1 = .error error →
      handlers.perform (.register signal behavior) = handlers
  fails_dispositions : ∀ (scopes : Scopes) signal behavior error,
    Registration.register scopes.dispositions signal behavior = .error error →
      scopes.perform (.register signal behavior) = scopes
  /-- No step of any program, in order or not, changes the action of a signal that it is not
  about, -/
  separates : ∀ (handlers : Handlers) step other, handlers.scopes.about? step ≠ some other →
    (handlers.perform step).actions.get other = handlers.actions.get other
  /-- or its disposition. -/
  separates_dispositions : ∀ (start : Dispositions) past step other,
    let scopes := ({ dispositions := start } : Scopes).run past
    scopes.about? step ≠ some other →
      (scopes.perform step).dispositions.get other = scopes.dispositions.get other

/-- **The action of a signal is that of its most recent registration that was not dropped.** This
holds at every point of a program that drops its registrations in their order, signal by signal, and
forgets some of them. -/
theorem undropped_stand {steps : List HandlerStep} (hordered : Ordered steps) :
    Restores steps where
  actions := by
    intro start past hpast signal
    have hupheld := Upheld.run start (hordered.earlier hpast)
    rw [hupheld.stands, standing_eq]
  dispositions := by
    intro start past hpast signal
    have hupheld := Upheld.run (.ofDispositions start) (hordered.earlier hpast)
    have hscopes := (run_scopes (.ofDispositions start) past).2
    have hseen := congrArg (fun scopes => scopes.dispositions.get signal) hscopes
    have hstands := congrFun hupheld.stands signal
    rw [standing_eq] at hstands
    -- The flags and the mask of the action are of no account here.
    refine hseen.symm.trans ((congrArg SignalAction.disposition hstands).trans ?_)
    cases latest? (history past) signal with
    | none => rfl
    | some entry => rfl
  registers := fun dispositions _ behavior =>
    Registration.exists_register_eq_ok_iff dispositions behavior
  forbids := fun dispositions _ behavior _ =>
    Registration.register_eq_forbidden_iff dispositions behavior
  fails := by
    intro handlers signal behavior error h
    by_cases isSettable : signal.IsSettable
    · rw [handlers.actions.register_of_settable behavior isSettable] at h
      cases h
    · exact handlers.perform_register_of_not_settable isSettable behavior
  fails_dispositions := by
    intro scopes signal behavior error h
    rw [Scopes.perform, Scopes.register, h]
    rfl
  separates := fun handlers _ _ h => handlers.get_perform_of_about h
  separates_dispositions := by
    intro start past step other scopes h
    rcases run_scopes (.ofDispositions start) past with ⟨hsettable, hscopes⟩
    change _ = scopes at hscopes
    rw [← hscopes] at h ⊢
    rw [← (hsettable.perform step).2]
    exact congrArg SignalAction.disposition (get_perform_of_about _ h)

/-- Two registrations for an interrupt around one for the end of a child that is forgotten; one
that must not be tried; and one for the end of a child that is dropped last. -/
def sampleRegistrations : List HandlerStep :=
  [.register .interrupt .ignore, .register .child (.handle .reaper),
    .register .interrupt (.handle (.custom 1)), .register .kill .ignore, .forget 1,
    .register .child .ignore, .drop 2, .drop 0, .drop 3]

/-- Before the last step, the interrupt has its disposition back, and the end of a child is ignored;
after it, the registration stands that was forgotten. -/
theorem undropped_stand_sample :
    Ordered sampleRegistrations ∧
      (({ dispositions := .atStart } : Scopes).run
        (sampleRegistrations.take 8)).dispositions.get .interrupt = .default ∧
      (({ dispositions := .atStart } : Scopes).run
        (sampleRegistrations.take 8)).dispositions.get .child = .ignore ∧
      (({ dispositions := .atStart } : Scopes).run
        sampleRegistrations).dispositions.get .child = .handle .reaper := by
  have hordered : Ordered sampleRegistrations := by decide
  have hstands := (undropped_stand hordered).dispositions .atStart
  refine ⟨hordered, ?_, ?_, ?_⟩
  · exact (hstands _ (List.take_prefix 8 _) .interrupt).trans (by decide)
  · exact (hstands _ (List.take_prefix 8 _) .child).trans (by decide)
  · exact (hstands _ List.prefix_rfl .child).trans (by decide)

end Handlers

end JobShell
