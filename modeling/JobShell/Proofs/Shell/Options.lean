import Mathlib.Data.List.Forall2
import Mathlib.Logic.Relation
import JobShell.Shell.Options

/-!
# JobShell.Proofs.Shell.Options — which command lines the shell takes

An element of a command line either spells flags or offends, and what it spells or how it offends
has nothing to do with the elements around it. So a command line is taken if all of its elements
spell flags, the last of these decides, and otherwise the first element that offends does.

* `Spells` and `Offends` say which elements do what, and `spells_or_offends` that there is nothing
  else: it splits on what an element begins with.
* `Action.readElement_of_spells` and `Action.readElement_of_offends` are the steps, and
  `Action.readElements_of_spells` and `Action.readElements_of_offends` the runs.
* `Respells` are the other ways to spell the same flags, and `Respells.readElements_eq` says that
  they are read alike, even where the command line is refused.
* `Action.ofArguments_grammar` puts this together.
-/

namespace JobShell

/-! ## The grammar -/

/-- A letter that stands for a flag. -/
inductive Flag : Char → Action → Prop
  | help : Flag 'h' .help
  | version : Flag 'V' .version

/-- An element of a command line that stands for some flags, in the order in which they are read. -/
inductive Spells : String → List Action → Prop
  | help : Spells "--help" [.help]
  | version : Spells "--version" [.version]
  | group {letters : List Char} {flags : List Action} (nonempty : letters ≠ [])
      (good : List.Forall₂ Flag letters flags) : Spells (String.ofList ('-' :: letters)) flags

/-- An element that does not stand for flags, and the text that says why. -/
inductive Offends : String → String → Prop
  | unrecognized {element : String} (long : ['-', '-'] <+: element.toList)
      (notHelp : element ≠ "--help") (notVersion : element ≠ "--version") :
      Offends element ("unrecognized option '" ++ element ++ "'")
  | invalid {before after : List Char} {flags : List Action} {letter : Char}
      (short : (before ++ letter :: after).head? ≠ some '-') (good : List.Forall₂ Flag before flags)
      (bad : ∀ action, ¬Flag letter action) :
      Offends (String.ofList ('-' :: (before ++ letter :: after)))
        ("invalid option -- '" ++ String.ofList [letter] ++ "'")
  | unexpected {element : String} (argument : element = "-" ∨ ¬['-'] <+: element.toList) :
      Offends element ("unexpected argument '" ++ element ++ "'")

/-- A command line that is written in another way. -/
inductive Respells : List String → List String → Prop
  | splits (before after : List String) {front back : List Char} (front_ne : front ≠ [])
      (back_ne : back ≠ []) (front_short : front.head? ≠ some '-')
      (back_short : back.head? ≠ some '-') :
      Respells (before ++ String.ofList ('-' :: (front ++ back)) :: after)
        (before ++ String.ofList ('-' :: front) :: String.ofList ('-' :: back) :: after)
  | help (before after : List String) :
      Respells (before ++ "-h" :: after) (before ++ "--help" :: after)
  | version (before after : List String) :
      Respells (before ++ "-V" :: after) (before ++ "--version" :: after)

theorem Flag.exists_iff {letter : Char} :
    (∃ action, Flag letter action) ↔ letter = 'h' ∨ letter = 'V' := by
  constructor
  · rintro ⟨_, hflag⟩
    cases hflag with
    | help => exact .inl rfl
    | version => exact .inr rfl
  · rintro (rfl | rfl)
    · exact ⟨_, .help⟩
    · exact ⟨_, .version⟩

/-- No group of flags begins with a second dash. -/
theorem head?_ne_dash {letters : List Char} {flags : List Action}
    (h : List.Forall₂ Flag letters flags) : letters.head? ≠ some '-' := by
  cases h with
  | nil => nofun
  | cons hfirst _ =>
    cases hfirst with
    | help => simp
    | version => simp

/-- A list is related to another one, or there is a first member that is not related to anything. -/
theorem forall₂_or_first {α β : Type} (R : α → β → Prop) (members : List α) :
    (∃ others, List.Forall₂ R members others) ∨
      ∃ before others member after, members = before ++ member :: after ∧
        List.Forall₂ R before others ∧ ∀ other, ¬R member other := by
  induction members with
  | nil => exact .inl ⟨[], .nil⟩
  | cons member members ih =>
    by_cases hmember : ∃ other, R member other
    · obtain ⟨other, hother⟩ := hmember
      -- What is found in the rest stays the first one with this member in front.
      rcases ih with ⟨others, hothers⟩ | ⟨before, others, first, after, rfl, hothers, hfirst⟩
      · exact .inl ⟨other :: others, .cons hother hothers⟩
      · exact .inr ⟨member :: before, other :: others, first, after, rfl, .cons hother hothers,
          hfirst⟩
    · exact .inr ⟨[], [], member, members, rfl, .nil, not_exists.1 hmember⟩

theorem exists_forall₂_iff {α β : Type} {R : α → β → Prop} {members : List α} :
    (∃ others, List.Forall₂ R members others) ↔ ∀ member ∈ members, ∃ other, R member other := by
  constructor
  · rintro ⟨others, hothers⟩
    have hboth := hothers.imp fun member other h => And.intro (Exists.intro other h) h
    exact ((List.forall₂_and_left members others).1 hboth).1
  · intro h
    rcases forall₂_or_first R members with hall | ⟨before, _, first, after, rfl, _, hfirst⟩
    · exact hall
    · obtain ⟨other, hother⟩ := h first (List.mem_append_right before List.mem_cons_self)
      exact absurd hother (hfirst other)

/-- Every element spells flags or offends: it is empty, or begins with something else than a dash,
with two dashes, or with one, which can be all there is. -/
theorem spells_or_offends (element : String) :
    (∃ flags, Spells element flags) ∨ ∃ text, Offends element text := by
  cases helement : element.toList with
  | nil => exact .inr ⟨_, .unexpected (.inr (by simp [helement]))⟩
  | cons first rest =>
    by_cases hfirst : first = '-'
    · subst hfirst
      by_cases hlong : rest.head? = some '-'
      · -- Two dashes: a long form, or none that exists.
        by_cases hhelp : element = "--help"
        · subst hhelp
          exact .inl ⟨_, .help⟩
        by_cases hversion : element = "--version"
        · subst hversion
          exact .inl ⟨_, .version⟩
        rcases List.head?_eq_some_iff.1 hlong with ⟨name, rfl⟩
        exact .inr ⟨_, .unrecognized ⟨name, helement.symm⟩ hhelp hversion⟩
      · -- One dash: the first letter that is no flag decides, and if there is none, all are flags
        -- or there are no letters.
        obtain rfl : element = String.ofList ('-' :: rest) := by
          rw [← helement, String.ofList_toList]
        rcases forall₂_or_first Flag rest with
          ⟨flags, hflags⟩ | ⟨before, flags, bad, after, rfl, hflags, hbad⟩
        · by_cases hrest : rest = []
          · subst hrest
            exact .inr ⟨_, .unexpected (.inl rfl)⟩
          · exact .inl ⟨flags, .group hrest hflags⟩
        · exact .inr ⟨_, .invalid hlong hflags hbad⟩
    · exact .inr ⟨_, .unexpected (.inr (by simp [helement, Ne.symm hfirst]))⟩

namespace Action

/-! ## Letters -/

theorem ofLetter?_of_flag {letter : Char} {action : Action} (h : Flag letter action) :
    ofLetter? letter = some action := by
  cases h with
  | help => rfl
  | version => rfl

theorem ofLetter?_eq_none {letter : Char} (h : ∀ action, ¬Flag letter action) :
    ofLetter? letter = none := by
  unfold ofLetter?
  split
  · exact absurd .help (h _)
  · exact absurd .version (h _)
  · rfl

theorem readLetters_append (action : Action) (before after : List Char) :
    readLetters action (before ++ after) =
      (readLetters action before).bind fun chosen => readLetters chosen after := by
  induction before generalizing action with
  | nil => rfl
  | cons letter before ih =>
    rw [List.cons_append, readLetters, readLetters]
    cases ofLetter? letter with
    | none => rfl
    | some chosen => exact ih chosen

theorem readLetters_of_flags {letters : List Char} {flags : List Action}
    (h : List.Forall₂ Flag letters flags) (action : Action) :
    readLetters action letters = .ok (flags.getLastD action) := by
  induction h generalizing action with
  | nil => rfl
  | @cons letter chosen letters flags hflag _ ih =>
    rw [readLetters, ofLetter?_of_flag hflag, List.getLastD_cons]
    exact ih chosen

theorem readLetters_of_invalid {before : List Char} {flags : List Action}
    (good : List.Forall₂ Flag before flags) {letter : Char} (bad : ∀ action, ¬Flag letter action)
    (action : Action) (after : List Char) :
    readLetters action (before ++ letter :: after) = .error (.invalid letter) := by
  rw [readLetters_append, readLetters_of_flags good]
  change readLetters (flags.getLastD action) (letter :: after) = _
  rw [readLetters, ofLetter?_eq_none bad]

/-! ## Elements -/

theorem readElement_long {element : String} {name : List Char}
    (h : element.toList = '-' :: '-' :: name) (action : Action) :
    readElement action element =
      match ofName? name with
      | some chosen => .ok chosen
      | none => .error (.unrecognized element) := by
  unfold readElement
  rw [h]
  rfl

theorem readElement_group {letters : List Char} (nonempty : letters ≠ [])
    (short : letters.head? ≠ some '-') (action : Action) :
    readElement action (String.ofList ('-' :: letters)) = readLetters action letters := by
  unfold readElement
  rw [String.toList_ofList]
  split
  · next heq =>
    cases heq
    exact absurd rfl short
  · next heq =>
    cases heq
    rfl
  · next hother =>
    cases letters with
    | nil => exact absurd rfl nonempty
    | cons letter letters => exact absurd rfl (hother letter letters)

theorem readElement_of_spells {element : String} {flags : List Action} (h : Spells element flags)
    (action : Action) : readElement action element = .ok (flags.getLastD action) := by
  cases h with
  | help => rfl
  | version => rfl
  | group nonempty good =>
    rw [readElement_group nonempty (head?_ne_dash good)]
    exact readLetters_of_flags good action

/-- How an element offends does not depend on what was read before. -/
theorem readElement_of_offends {element text : String} (h : Offends element text) :
    ∃ error : OptionError, error.message = text ∧
      ∀ action, readElement action element = .error error := by
  cases h with
  | unrecognized long notHelp notVersion =>
    refine ⟨.unrecognized element, rfl, ?_⟩
    intro action
    obtain ⟨name, hname⟩ := long
    have hlong : element.toList = '-' :: '-' :: name := hname.symm
    have hofName : ofName? name = none := by
      unfold ofName?
      rw [if_neg, if_neg]
      · rintro rfl
        exact notVersion (String.toList_injective hlong)
      · rintro rfl
        exact notHelp (String.toList_injective hlong)
    rw [readElement_long hlong, hofName]
  | @invalid before after _ letter short good bad =>
    refine ⟨.invalid letter, rfl, ?_⟩
    intro action
    rw [readElement_group (List.append_ne_nil_of_right_ne_nil _ (List.cons_ne_nil _ _)) short]
    exact readLetters_of_invalid good bad action after
  | unexpected argument =>
    refine ⟨.unexpected element, rfl, ?_⟩
    intro action
    rcases argument with rfl | hdash
    · rfl
    · unfold readElement
      split
      · next heq => exact absurd (by simp [heq]) hdash
      · next heq => exact absurd (by simp [heq]) hdash
      · rfl

/-- There is only one thing to say about an element. -/
theorem offends_unique {element text other : String} (h : Offends element text)
    (hother : Offends element other) : text = other := by
  rcases readElement_of_offends h with ⟨error, rfl, hread⟩
  rcases readElement_of_offends hother with ⟨error', rfl, hread'⟩
  cases (hread .run).symm.trans (hread' .run)
  rfl

/-! ## Command lines -/

theorem readElements_cons (action : Action) (element : String) (elements : List String) :
    readElements action (element :: elements) =
      (readElement action element).bind fun chosen => readElements chosen elements := by
  rw [readElements]
  cases readElement action element with
  | ok _ => rfl
  | error _ => rfl

theorem readElements_append (action : Action) (before after : List String) :
    readElements action (before ++ after) =
      (readElements action before).bind fun chosen => readElements chosen after := by
  induction before generalizing action with
  | nil => rfl
  | cons element before ih =>
    rw [List.cons_append, readElements_cons, readElements_cons]
    cases readElement action element with
    | ok chosen => exact ih chosen
    | error _ => rfl

theorem getLastD_append (flags others : List Action) (action : Action) :
    (flags ++ others).getLastD action = others.getLastD (flags.getLastD action) := by
  induction flags generalizing action with
  | nil => rfl
  | cons flag flags ih =>
    rw [List.cons_append, List.getLastD_cons, List.getLastD_cons]
    exact ih flag

/-- The last flag decides. -/
theorem readElements_of_spells {elements : List String} {flags : List (List Action)}
    (h : List.Forall₂ Spells elements flags) (action : Action) :
    readElements action elements = .ok (flags.flatten.getLastD action) := by
  induction h generalizing action with
  | nil => rfl
  | @cons element spelled elements flags hspells _ ih =>
    rw [readElements_cons, readElement_of_spells hspells, List.flatten_cons, getLastD_append]
    exact ih _

/-- The first element that offends decides, whatever stands before or after it. -/
theorem readElements_of_offends {before : List String} {flags : List (List Action)}
    (hbefore : List.Forall₂ Spells before flags) {element text : String} (h : Offends element text)
    (action : Action) (after : List String) :
    (readElements action (before ++ element :: after)).mapError OptionError.message =
      .error text := by
  obtain ⟨error, hmessage, hread⟩ := readElement_of_offends h
  rw [readElements_append, readElements_of_spells hbefore]
  change (readElements _ (element :: after)).mapError _ = _
  rw [readElements_cons, hread]
  exact congrArg Except.error hmessage

end Action

/-! ## Other ways to spell the same flags -/

theorem Respells.readElements_eq {elements others : List String} (h : Respells elements others)
    (action : Action) :
    Action.readElements action elements = Action.readElements action others := by
  cases h with
  | @splits before after front back front_ne back_ne front_short back_short =>
    have hshort : (front ++ back).head? ≠ some '-' := by
      rwa [List.head?_append_of_ne_nil front front_ne]
    rw [Action.readElements_append, Action.readElements_append]
    -- Behind the same elements, both ways begin with the same action.
    apply congrArg (Except.bind _)
    funext chosen
    rw [Action.readElements_cons, Action.readElements_cons,
      Action.readElement_group (List.append_ne_nil_of_left_ne_nil front_ne back) hshort,
      Action.readElement_group front_ne front_short, Action.readLetters_append]
    cases Action.readLetters chosen front with
    | error _ => rfl
    | ok next =>
      change _ = Action.readElements next (String.ofList ('-' :: back) :: after)
      rw [Action.readElements_cons, Action.readElement_group back_ne back_short]
      rfl
  | help before after =>
    rw [Action.readElements_append, Action.readElements_append]
    rfl
  | version before after =>
    rw [Action.readElements_append, Action.readElements_append]
    rfl

/-- Nor does it matter how often a command line is written in another way, and back. -/
theorem readElements_eq_of_respells {elements others : List String}
    (h : Relation.EqvGen Respells elements others) (action : Action) :
    Action.readElements action elements = Action.readElements action others := by
  induction h with
  | rel _ _ h => exact h.readElements_eq action
  | refl _ => rfl
  | symm _ _ _ ih => exact ih.symm
  | trans _ _ _ _ _ ih ih' => exact ih.trans ih'

/-! ## What is taken, and what is refused -/

theorem exists_spells_iff {element : String} :
    (∃ flags, Spells element flags) ↔ element = "--help" ∨ element = "--version" ∨
      ∃ letters, letters ≠ [] ∧ (∀ letter ∈ letters, letter = 'h' ∨ letter = 'V') ∧
        element = String.ofList ('-' :: letters) := by
  constructor
  · rintro ⟨flags, hspells⟩
    cases hspells with
    | help => exact .inl rfl
    | version => exact .inr (.inl rfl)
    | @group letters _ nonempty good =>
      refine .inr (.inr ⟨letters, nonempty, ?_, rfl⟩)
      intro letter hletter
      exact Flag.exists_iff.1 (exists_forall₂_iff.1 ⟨_, good⟩ letter hletter)
  · rintro (rfl | rfl | ⟨letters, nonempty, hletters, rfl⟩)
    · exact ⟨_, .help⟩
    · exact ⟨_, .version⟩
    · obtain ⟨flags, hflags⟩ := exists_forall₂_iff.2 fun letter hletter =>
        Flag.exists_iff.2 (hletters letter hletter)
      exact ⟨flags, .group nonempty hflags⟩

namespace Action

/-- The result of a command line, with an error in words. -/
def parsed (arguments : List String) : Except String Action :=
  (ofArguments arguments).mapError OptionError.message

theorem parsed_of_spells {arguments : List String} {flags : List (List Action)}
    (h : List.Forall₂ Spells arguments.tail flags) :
    parsed arguments = .ok (flags.flatten.getLastD .run) := by
  unfold parsed ofArguments
  rw [readElements_of_spells h]
  rfl

theorem parsed_of_offends {arguments before : List String} {flags : List (List Action)}
    (hbefore : List.Forall₂ Spells before flags) {element text : String} (h : Offends element text)
    {after : List String} (htail : arguments.tail = before ++ element :: after) :
    parsed arguments = .error text := by
  unfold parsed ofArguments
  rw [htail]
  exact readElements_of_offends hbefore h .run after

/-- A command line is taken, or there is a first element that offends. -/
theorem parsed_cases (arguments : List String) :
    (∃ flags, List.Forall₂ Spells arguments.tail flags) ∨
      ∃ before flags element text after, arguments.tail = before ++ element :: after ∧
        List.Forall₂ Spells before flags ∧ Offends element text := by
  rcases forall₂_or_first Spells arguments.tail with
    hall | ⟨before, flags, element, after, htail, hbefore, helement⟩
  · exact .inl hall
  · rcases spells_or_offends element with ⟨spelled, hspells⟩ | ⟨text, hoffends⟩
    · exact absurd hspells (helement spelled)
    · exact .inr ⟨before, flags, element, text, after, htail, hbefore, hoffends⟩

theorem parsed_eq_ok_iff {arguments : List String} {action : Action} :
    parsed arguments = .ok action ↔
      ∃ flags, List.Forall₂ Spells arguments.tail flags ∧
        action = flags.flatten.getLastD .run := by
  constructor
  · intro h
    rcases parsed_cases arguments with
      ⟨flags, hflags⟩ | ⟨before, flags, element, text, after, htail, hbefore, hoffends⟩
    · refine ⟨flags, hflags, ?_⟩
      rw [parsed_of_spells hflags] at h
      exact (Except.ok.inj h).symm
    · rw [parsed_of_offends hbefore hoffends htail] at h
      cases h
  · rintro ⟨flags, hflags, rfl⟩
    exact parsed_of_spells hflags

theorem parsed_eq_error_iff {arguments : List String} {text : String} :
    parsed arguments = .error text ↔
      ∃ before element after, arguments.tail = before ++ element :: after ∧
        (∀ earlier ∈ before, ∃ flags, Spells earlier flags) ∧ Offends element text := by
  constructor
  · intro h
    rcases parsed_cases arguments with
      ⟨flags, hflags⟩ | ⟨before, flags, element, said, after, htail, hbefore, hoffends⟩
    · rw [parsed_of_spells hflags] at h
      cases h
    · rw [parsed_of_offends hbefore hoffends htail] at h
      obtain rfl := Except.error.inj h
      exact ⟨before, element, after, htail, exists_forall₂_iff.1 ⟨flags, hbefore⟩, hoffends⟩
  · rintro ⟨before, element, after, htail, hbefore, hoffends⟩
    obtain ⟨flags, hflags⟩ := exists_forall₂_iff.2 hbefore
    exact parsed_of_offends hflags hoffends htail

/-- What holds of a command line with the program's name in front. -/
structure Grammar (arguments : List String) : Prop where
  /-- The name is ignored, and may be missing. -/
  ignores : ∀ others : List String, others.tail = arguments.tail → parsed others = parsed arguments
  /-- The command line is taken if every other element is a flag's long form or a group of
  letters. -/
  accepts : (∃ action, parsed arguments = .ok action) ↔
    ∀ element ∈ arguments.tail, element = "--help" ∨ element = "--version" ∨
      ∃ letters, letters ≠ [] ∧ (∀ letter ∈ letters, letter = 'h' ∨ letter = 'V') ∧
        element = String.ofList ('-' :: letters)
  /-- Then the last flag in reading order decides, and the shell runs if there is none. -/
  decides : ∀ action, parsed arguments = .ok action ↔
    ∃ flags, List.Forall₂ Spells arguments.tail flags ∧ action = flags.flatten.getLastD .run
  /-- Else the first element that offends does. -/
  refuses : ∀ text, parsed arguments = .error text ↔
    ∃ before element after, arguments.tail = before ++ element :: after ∧
      (∀ earlier ∈ before, ∃ flags, Spells earlier flags) ∧ Offends element text
  /-- Every element offends that does not spell flags, and in one way only. -/
  offends : ∀ element, (¬∃ flags, Spells element flags) ↔ ∃! text, Offends element text
  /-- It does not matter how the flags are spelled. -/
  respells : ∀ others, Relation.EqvGen Respells arguments.tail others →
    ∀ name, parsed (name :: others) = parsed arguments

/-- **A command line is taken exactly if it keeps to the grammar.** Its last flag decides what is
done, however the flags are spelled, and what is said about a command line that is refused depends
on the first element that offends and on nothing else. -/
theorem ofArguments_grammar (arguments : List String) : Grammar arguments where
  ignores := by
    intro others htail
    unfold parsed ofArguments
    rw [htail]
  accepts := by
    have htaken : (∃ action, parsed arguments = .ok action) ↔
        ∃ flags, List.Forall₂ Spells arguments.tail flags := by
      simp [parsed_eq_ok_iff]
    simpa only [exists_forall₂_iff, exists_spells_iff] using htaken
  decides := fun _ => parsed_eq_ok_iff
  refuses := fun _ => parsed_eq_error_iff
  offends := by
    intro element
    constructor
    · intro h
      rcases spells_or_offends element with hspells | ⟨text, hoffends⟩
      · exact absurd hspells h
      · exact ⟨text, hoffends, fun other hother => offends_unique hother hoffends⟩
    · rintro ⟨text, hoffends, _⟩ ⟨flags, hspells⟩
      rcases readElement_of_offends hoffends with ⟨error, _, hread⟩
      cases (readElement_of_spells hspells .run).symm.trans (hread .run)
  respells := by
    intro others hrespells name
    unfold parsed ofArguments
    rw [readElements_eq_of_respells hrespells]
    rfl

/-- Where a letter is a dash, a group cannot be split before it. -/
example : parsed ["sh", "-h-"] = .error "invalid option -- '-'" ∧
    parsed ["sh", "-h", "--"] = .error "unrecognized option '--'" :=
  ⟨rfl, rfl⟩

end Action

end JobShell
