import JobShell.Log.Router
import Mathlib.Data.List.Basic

/-!
# JobShell.Proofs.Log.Routing — which loggers a record reaches

A logger is added for a heading, with or without its final colons. Every record is compared with the
heading twice: with the heading cut by two bytes, and with the whole of it.

* `root` is a heading without its final colons. A channel keeps it with these (`closeHeading_eq`),
  so the cut is always its root (`takeBytes?_closeHeading`): it never fails.
* `Covers` says which targets are a heading's, without colons being put on or cut off, and
  `Channel.accepts_iff` that a channel for the heading accepts exactly these.
* `Router.take_channels` is the step and `Router.run_channels` the run: every channel goes its own
  way. With `Channel.isTold_iff` this is `Router.routes_to_covered`, for any list of headings.
-/

namespace JobShell.Log

/-! ## Headings and targets -/

/-- A heading without its final colons, if it has them; only one pair of them is taken off. -/
def root (heading : List Char) : List Char :=
  if [':', ':'] <:+ heading then heading.take (heading.length - 2) else heading

/-- A target is a heading's if it is the heading itself or lies below it. -/
def Covers (heading target : String) : Prop :=
  target.toList = root heading.toList ∨ root heading.toList ++ [':', ':'] <+: target.toList

instance (heading target : String) : Decidable (Covers heading target) :=
  inferInstanceAs (Decidable (_ ∨ _))

theorem root_append (heading : List Char) : root (heading ++ [':', ':']) = heading := by
  have hclosed : [':', ':'] <:+ heading ++ [':', ':'] := List.suffix_append heading _
  unfold root
  rw [if_pos hclosed]
  simp

theorem root_of_open {heading : List Char} (h : ¬[':', ':'] <:+ heading) : root heading = heading :=
  if_neg h

/-- A channel keeps the root with one pair of colons. -/
theorem closeHeading_eq (heading : List Char) :
    closeHeading heading = root heading ++ [':', ':'] := by
  unfold closeHeading
  split
  · next h =>
    rcases h with ⟨front, rfl⟩
    rw [root_append]
  · next h => rw [root_of_open h]

/-! ## Cuts -/

theorem foldl_utf8Size (text : List Char) (size : Nat) :
    text.foldl (fun size c => size + c.utf8Size) size = size + byteSize text := by
  unfold byteSize
  induction text generalizing size with
  | nil => rfl
  | cons c text ih =>
    rw [List.foldl_cons, List.foldl_cons, ih (size + c.utf8Size), ih (0 + c.utf8Size)]
    omega

theorem byteSize_cons (c : Char) (text : List Char) :
    byteSize (c :: text) = c.utf8Size + byteSize text := by
  rw [byteSize, List.foldl_cons, foldl_utf8Size, Nat.zero_add]

theorem byteSize_append (text other : List Char) :
    byteSize (text ++ other) = byteSize text + byteSize other := by
  have h := foldl_utf8Size other (byteSize text)
  rwa [byteSize, ← List.foldl_append] at h

/-- A cut behind the last byte of a text falls between two characters. -/
theorem takeBytes?_append (text other : List Char) :
    takeBytes? (byteSize text) (text ++ other) = some text := by
  induction text with
  | nil => exact takeBytes?.eq_1 other
  | cons c text ih =>
    -- There is at least one byte to be taken, so the cut looks at the first character.
    have hpos := c.utf8Size_pos
    obtain ⟨count, hcount⟩ : ∃ count, c.utf8Size + byteSize text = count + 1 :=
      Nat.exists_eq_add_of_le' (by omega)
    have hfits : c.utf8Size ≤ count + 1 := by omega
    have hrest : count + 1 - c.utf8Size = byteSize text := by omega
    rw [byteSize_cons, hcount, List.cons_append, takeBytes?, if_pos hfits, hrest, ih]
    rfl

theorem byteSize_closeHeading (heading : List Char) :
    byteSize (closeHeading heading) = byteSize (root heading) + 2 := by
  rw [closeHeading_eq, byteSize_append]
  rfl

/-- The two bytes that are cut off are the final colons. -/
theorem takeBytes?_closeHeading (heading : List Char) :
    takeBytes? (byteSize (closeHeading heading) - 2) (closeHeading heading) =
      some (root heading) := by
  rw [byteSize_closeHeading, Nat.add_sub_cancel, closeHeading_eq, takeBytes?_append]

theorem Channel.accepts_iff {channel : Channel} {heading : String}
    (h : channel.heading = closeHeading heading.toList) (target : String) :
    channel.accepts target = true ↔ Covers heading target := by
  unfold Channel.accepts Covers
  rw [h, takeBytes?_closeHeading, Bool.or_eq_true, beq_iff_eq, List.isPrefixOf_iff_prefix,
    closeHeading_eq, Option.some_inj, eq_comm]

/-! ## Targets -/

/-- What lies below a target of a heading is a target of this heading. -/
theorem Covers.below {heading target : String} (h : Covers heading target) (rest : String) :
    Covers heading (target ++ "::" ++ rest) := by
  have htext : (target ++ "::" ++ rest).toList = target.toList ++ ([':', ':'] ++ rest.toList) := by
    rw [String.toList_append, String.toList_append, List.append_assoc]
    rfl
  -- A target of the heading begins with its root, and has colons or nothing behind it.
  right
  rw [htext]
  rcases h with hself | ⟨below, hbelow⟩
  · rw [hself, ← List.append_assoc]
    exact List.prefix_append _ rest.toList
  · rw [← hbelow, List.append_assoc]
    exact List.prefix_append _ _

/-- A longer name is another name. -/
theorem not_covers_longer {heading : String} {c : Char} (h : c ≠ ':') (rest : List Char) :
    ¬Covers heading (String.ofList (root heading.toList ++ c :: rest)) := by
  unfold Covers
  rw [String.toList_ofList, List.prefix_append_right_inj]
  rintro (hself | hbelow)
  · simp at hself
  · exact h (List.cons_prefix_cons.1 hbelow).1.symm

/-! ## Steps and runs -/

/-- Whether a channel is told of an event. -/
def Channel.isTold (channel : Channel) : Event → Bool
  | .record record => channel.accepts record.target
  | .flush => true

/-- The channel after some events. -/
def Channel.after (channel : Channel) (events : List Event) : Channel :=
  { channel with received := channel.received ++ events.filter channel.isTold }

theorem Channel.after_nil (channel : Channel) : channel.after [] = channel := by
  unfold after
  rw [List.filter_nil, List.append_nil]

/-- What a channel has been told makes no difference to what it is told next. -/
theorem Channel.after_cons (channel : Channel) (event : Event) (events : List Event) :
    channel.after (event :: events) = (channel.after [event]).after events := by
  have hreceived : channel.received ++ (event :: events).filter channel.isTold =
      channel.received ++ [event].filter channel.isTold ++ events.filter channel.isTold := by
    rw [List.append_assoc, ← List.filter_append]
    rfl
  exact congrArg (Channel.mk channel.heading) hreceived

namespace Router

/-- A router with loggers for some headings, in the order in which they were added. -/
def ofHeadings (headings : List String) : Router :=
  headings.foldl add {}

def take (router : Router) : Event → Router
  | .record record => router.log record
  | .flush => router.flush

def run (router : Router) (events : List Event) : Router :=
  events.foldl take router

theorem channels_foldl_add (headings : List String) (router : Router) :
    (headings.foldl add router).channels =
      router.channels ++
        headings.map fun heading => { heading := closeHeading heading.toList } := by
  induction headings generalizing router with
  | nil => exact (List.append_nil _).symm
  | cons heading headings ih =>
    rw [List.foldl_cons, ih, add, List.append_assoc]
    rfl

/-- The step lemma: every channel goes its own way. -/
theorem take_channels (router : Router) (event : Event) :
    (router.take event).channels = router.channels.map fun channel => channel.after [event] := by
  cases event with
  | record record =>
    apply List.map_congr_left
    intro channel _
    unfold Channel.after
    by_cases haccepts : channel.accepts record.target = true
    · have htold : channel.isTold (.record record) = true := haccepts
      rw [if_pos haccepts, List.filter_cons_of_pos htold]
      rfl
    · have htold : ¬channel.isTold (.record record) = true := haccepts
      rw [if_neg haccepts, List.filter_cons_of_neg htold, List.filter_nil, List.append_nil]
  | flush => rfl

theorem run_channels (router : Router) (events : List Event) :
    (router.run events).channels = router.channels.map fun channel => channel.after events := by
  induction events generalizing router with
  | nil =>
    have hsame : (fun channel : Channel => channel.after []) = id := funext Channel.after_nil
    rw [hsame, List.map_id]
    rfl
  | cons event events ih =>
    rw [run, List.foldl_cons]
    -- The rest of the run begins where every channel has been told the first event.
    change ((router.take event).run events).channels = _
    rw [ih, take_channels, List.map_map]
    apply List.map_congr_left
    intro channel _
    exact (channel.after_cons event events).symm

end Router

/-- Whether an event is one for the logger of a heading. -/
def Event.Concerns (heading : String) : Event → Prop
  | .record sent => Covers heading sent.target
  | .flush => True

instance (heading : String) : (event : Event) → Decidable (event.Concerns heading)
  | .record sent => inferInstanceAs (Decidable (Covers heading sent.target))
  | .flush => isTrue trivial

theorem Channel.isTold_iff {channel : Channel} {heading : String}
    (h : channel.heading = closeHeading heading.toList) (event : Event) :
    channel.isTold event = true ↔ event.Concerns heading := by
  cases event with
  | record sent => exact channel.accepts_iff h sent.target
  | flush => exact iff_of_true rfl trivial

namespace Router

variable (headings : List String) (events : List Event)

theorem run_ofHeadings :
    ((ofHeadings headings).run events).channels = headings.map fun heading =>
      ⟨closeHeading heading.toList, events.filter fun event => event.Concerns heading⟩ := by
  rw [run_channels, ofHeadings, channels_foldl_add, List.nil_append, List.map_map]
  apply List.map_congr_left
  intro heading _
  apply congrArg (Channel.mk (closeHeading heading.toList))
  apply List.filter_congr
  intro event _
  rw [Bool.eq_iff_iff, decide_eq_true_iff]
  exact Channel.isTold_iff rfl event

/-- What holds of loggers that were added for some headings, after some records and flushes. -/
structure Routes : Prop where
  /-- A logger has received what concerns its heading, once and in order, whichever others there
  are. -/
  receives : ((ofHeadings headings).run events).channels.map Channel.received =
    headings.map fun heading => events.filter fun event => event.Concerns heading
  /-- So it was flushed as often as all were. -/
  flushes : ∀ channel ∈ ((ofHeadings headings).run events).channels,
    channel.received.count .flush = events.count .flush
  /-- Headings are long enough to be cut, and no cut falls inside a character. -/
  cuts : ∀ channel ∈ ((ofHeadings headings).run events).channels, 2 ≤ byteSize channel.heading ∧
    (takeBytes? (byteSize channel.heading - 2) channel.heading).isSome = true
  /-- Final colons can be left out. -/
  closes : ∀ (router : Router) (heading : String), ¬[':', ':'] <:+ heading.toList →
    router.add (heading ++ "::") = router.add heading
  below : ∀ heading target : String, Covers heading target →
    ∀ rest, Covers heading (target ++ "::" ++ rest)
  /-- A longer name is another name. -/
  longer : ∀ (heading : String) c, c ≠ ':' →
    ∀ rest, ¬Covers heading (String.ofList (root heading.toList ++ c :: rest))

/-- **A record reaches exactly the loggers of its target.** -/
theorem routes_to_covered : Routes headings events where
  receives := by
    rw [run_ofHeadings, List.map_map]
    rfl
  flushes := by
    intro channel hchannel
    rw [run_ofHeadings] at hchannel
    rcases List.mem_map.1 hchannel with ⟨heading, _, rfl⟩
    exact List.count_filter (decide_eq_true trivial)
  cuts := by
    intro channel hchannel
    rw [run_ofHeadings] at hchannel
    rcases List.mem_map.1 hchannel with ⟨heading, _, rfl⟩
    constructor
    · change 2 ≤ byteSize (closeHeading heading.toList)
      rw [byteSize_closeHeading]
      exact Nat.le_add_left 2 _
    · exact Option.isSome_of_eq_some (takeBytes?_closeHeading heading.toList)
  closes := by
    intro router heading hopen
    have htext : (heading ++ "::").toList = heading.toList ++ [':', ':'] := String.toList_append
    unfold add
    rw [closeHeading_eq, closeHeading_eq, htext, root_append, root_of_open hopen]
  below := fun _ _ h rest => h.below rest
  longer := fun _ _ h rest => not_covers_longer h rest

/-- One pair of colons is taken off, and only one. -/
example : Covers ":::" ":" ∧ Covers ":::" ":::é" ∧ ¬Covers ":::" "::" ∧ Covers "" "::é" := by
  decide

end Router

end JobShell.Log
