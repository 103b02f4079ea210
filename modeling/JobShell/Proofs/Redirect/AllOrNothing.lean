import JobShell.Proofs.Redirect.Install

/-!
# JobShell.Proofs.Redirect.AllOrNothing — files that cannot be opened stop everything

Binding the streams goes over the bindings twice. The first pass only looks for a file that could
not be opened, and the second one binds stream after stream. So a file that could not be opened is
reported before anything has changed, whatever the other binding is.

* `Descriptors.installInPasses` is the two passes over any number of bindings, and
  `Redirections.install_eq_passes` says that they are what binding both streams comes to.
* `installInPasses_of_failed`: the first pass stops everything.
* `Binding.install_opened` is one step of the second pass and `Descriptors.Valid.result_bindAll` is
  all of it: with files that are open, each under a number of its own, a stream is bound unless the
  process may not have a file under its number.
-/

namespace JobShell

variable {File : Type}

/-! ## Two passes -/

namespace Descriptors

/-- Binds one stream after the other, up to one that cannot be bound. -/
def bindAll (table : Descriptors File) :
    List (Binding × Stream) → Except String Unit × Descriptors File
  | [] => (.ok (), table)
  | (binding, stream) :: rest =>
    match binding.install stream table with
    | .error message => (.error message, table)
    | .ok bound => bound.bindAll rest

/-- Looks for a file that could not be opened, and binds all streams if there is none. -/
def installInPasses (table : Descriptors File) (bindings : List (Binding × Stream)) :
    Except String Unit × Descriptors File :=
  match bindings.findSome? (·.1.failure?) with
  | some message => (.error message, table)
  | none => table.bindAll bindings

/-- The first file that could not be opened is reported, and the table stays as it is. -/
theorem installInPasses_of_failed (table : Descriptors File)
    {before after : List (Binding × Stream)} {message : String} (stream : Stream)
    (hbefore : ∀ entry ∈ before, entry.1.failure? = none) :
    table.installInPasses (before ++ (.failed message, stream) :: after) =
      (.error message, table) := by
  have hfirst : before.findSome? (·.1.failure?) = none := List.findSome?_eq_none_iff.2 hbefore
  have hfound : (before ++ (Binding.failed message, stream) :: after).findSome? (·.1.failure?) =
      some message := by
    rw [List.findSome?_append, hfirst, Option.none_or, List.findSome?_cons]
    rfl
  rw [installInPasses, hfound]

/-- If all files could be opened, it is the second pass that counts. -/
theorem installInPasses_of_ready (table : Descriptors File) {bindings : List (Binding × Stream)}
    (hready : ∀ entry ∈ bindings, entry.1.failure? = none) :
    table.installInPasses bindings = table.bindAll bindings := by
  rw [installInPasses, List.findSome?_eq_none_iff.2 hready]

end Descriptors

namespace Redirections

/-- The bindings with their streams, in the order in which they are gone through. -/
def bindings (redirections : Redirections) : List (Binding × Stream) :=
  [(redirections.output, .output), (redirections.input, .input)]

theorem install_eq_passes (redirections : Redirections) (table : Descriptors File) :
    redirections.install table = table.installInPasses redirections.bindings := by
  have hfound : redirections.bindings.findSome? (·.1.failure?) = redirections.failure? := by
    rw [bindings, failure?, List.findSome?_cons]
    cases redirections.output.failure? with
    | some message => rfl
    | none => cases hinput : redirections.input.failure? <;> simp [hinput]
  rw [install, Descriptors.installInPasses, hfound]
  cases redirections.failure? with
  | some message => rfl
  | none =>
    cases houtput : redirections.output.install .output table with
    | error message => simp [bindings, Descriptors.bindAll, houtput]
    | ok bound =>
      cases hinput : redirections.input.install .input bound <;>
        simp [bindings, Descriptors.bindAll, houtput, hinput]

end Redirections

/-! ## One stream -/

namespace Binding

/-- The number that a file was opened under, if there is a file. -/
def number? : Binding → Option Nat
  | .opened number => some number
  | _ => none

/-- Whether a stream can have the file of a binding, if there is one: the file has the stream's
number already, or the number is one of those that may be given out. -/
def Fits (stream : Stream) (limit : Nat) : Binding → Prop
  | .opened number => number = stream.number ∨ stream.number < limit
  | _ => True

instance (stream : Stream) (limit : Nat) (binding : Binding) :
    Decidable (binding.Fits stream limit) := by
  cases binding <;> unfold Fits <;> infer_instance

end Binding

section

variable {binding : Binding} {stream : Stream} {table bound : Descriptors File}

/-- All that binding a stream to an open file can come to. -/
theorem Binding.install_opened {number : Nat} {entry : Descriptor File}
    (hentry : table.get number = some entry) :
    (Binding.opened number).install stream table =
      if number = stream.number then
        .ok (table.set number (some { entry with closeOnExec := false }))
      else if table.limit ≤ stream.number then .error stream.bindFailure
      else .ok ((table.set stream.number (some ⟨entry.file, false⟩)).set number none) := by
  rw [install]
  split
  · rw [Descriptors.clearCloseOnExec, hentry]
    rfl
  · next hown =>
    rw [Descriptors.duplicate, hentry]
    simp only [if_neg hown]
    split <;> rfl

/-- A file that does not fit its stream is refused. -/
theorem Binding.install_eq_error (hopen : ∀ number ∈ binding.number?, table.get number ≠ none)
    (hfits : ¬binding.Fits stream table.limit) :
    binding.install stream table = .error stream.bindFailure := by
  cases binding with
  | inherit => exact absurd trivial hfits
  | failed message => exact absurd trivial hfits
  | opened number =>
    obtain ⟨entry, hentry⟩ := Option.ne_none_iff_exists'.1 (hopen number rfl)
    obtain ⟨hown, hlimit⟩ : number ≠ stream.number ∧ table.limit ≤ stream.number := by
      simpa [Fits] using hfits
    rw [install_opened hentry, if_neg hown, if_pos hlimit]

/-- A file that fits its stream is bound to it. This frees no number but that of the file. -/
theorem Binding.exists_install (hopen : ∀ number ∈ binding.number?, table.get number ≠ none)
    (hfits : binding.Fits stream table.limit) :
    ∃ bound, binding.install stream table = .ok bound ∧ bound.limit = table.limit ∧
      ∀ other ∉ binding.number?, table.get other ≠ none → bound.get other ≠ none := by
  cases binding with
  | inherit => exact ⟨table, rfl, rfl, fun _ _ hother => hother⟩
  | failed message => exact ⟨table, rfl, rfl, fun _ _ hother => hother⟩
  | opened number =>
    obtain ⟨entry, hentry⟩ := Option.ne_none_iff_exists'.1 (hopen number rfl)
    rw [install_opened hentry]
    by_cases hown : number = stream.number
    · rw [if_pos hown]
      refine ⟨_, rfl, rfl, ?_⟩
      intro other _ hother
      rw [Descriptors.get_set]
      split
      · simp
      · exact hother
    · have hroom : ¬table.limit ≤ stream.number := by
        have hlower := hfits.resolve_left hown
        omega
      rw [if_neg hown, if_neg hroom]
      refine ⟨_, rfl, rfl, ?_⟩
      intro other hne hother
      have hnumber : other ≠ number := by
        rintro rfl
        exact hne rfl
      rw [Descriptors.get_set_of_ne _ _ hnumber, Descriptors.get_set]
      split
      · simp
      · exact hother

end

/-! ## All streams -/

namespace Descriptors

variable {table bound : Descriptors File} {binding : Binding} {stream : Stream}
  {bindings : List (Binding × Stream)}

/-- Files have been opened for these bindings: they are open, each under a number of its own. -/
structure Valid (table : Descriptors File) (bindings : List (Binding × Stream)) : Prop where
  isOpen : ∀ number ∈ bindings.filterMap (·.1.number?), table.get number ≠ none
  apart : (bindings.filterMap (·.1.number?)).Nodup

theorem Valid.head (h : table.Valid ((binding, stream) :: bindings)) :
    ∀ number ∈ binding.number?, table.get number ≠ none := by
  intro number hnumber
  exact h.isOpen number (List.mem_filterMap.2 ⟨_, List.mem_cons_self, hnumber⟩)

/-- The files of the other bindings are still there when one stream has been bound. -/
theorem Valid.tail (h : table.Valid ((binding, stream) :: bindings))
    (hstays : ∀ other ∉ binding.number?, table.get other ≠ none → bound.get other ≠ none) :
    bound.Valid bindings := by
  have hapart := h.apart
  cases hnumber : binding.number? with
  | none =>
    have hnumbers : ((binding, stream) :: bindings).filterMap (·.1.number?) =
        bindings.filterMap (·.1.number?) := List.filterMap_cons_none hnumber
    rw [hnumbers] at hapart
    refine ⟨?_, hapart⟩
    intro other hother
    refine hstays other (by simp [hnumber]) (h.isOpen other ?_)
    rwa [hnumbers]
  | some number =>
    have hnumbers : ((binding, stream) :: bindings).filterMap (·.1.number?) =
        number :: bindings.filterMap (·.1.number?) := List.filterMap_cons_some hnumber
    rw [hnumbers, List.nodup_cons] at hapart
    refine ⟨?_, hapart.2⟩
    intro other hother
    refine hstays other ?_ (h.isOpen other ?_)
    · rw [hnumber]
      rintro ⟨⟩
      exact hapart.1 hother
    · rw [hnumbers]
      exact List.mem_cons_of_mem _ hother

/-- The streams are bound one after the other up to the first one that its file does not fit. -/
theorem Valid.result_bindAll (h : table.Valid bindings) :
    (table.bindAll bindings).1 =
      match bindings.find? fun entry => ¬entry.1.Fits entry.2 table.limit with
      | some (_, stream) => .error stream.bindFailure
      | none => .ok () := by
  induction bindings generalizing table with
  | nil => rfl
  | cons entry rest ih =>
    obtain ⟨binding, stream⟩ := entry
    by_cases hfits : binding.Fits stream table.limit
    · obtain ⟨bound, hbound, hlimit, hstays⟩ := Binding.exists_install h.head hfits
      have hrest := ih (h.tail hstays)
      rw [hlimit] at hrest
      rw [bindAll, hbound, List.find?_cons_of_neg (by simpa using hfits)]
      exact hrest
    · have hrefused := Binding.install_eq_error h.head hfits
      rw [bindAll, hrefused, List.find?_cons_of_pos (by simpa using hfits)]

end Descriptors

/-- **Files that cannot be opened stop everything, and nothing else does but the limit of the
process.** Take any two bindings and any table of open files.

* If the output file could not be opened, its message is the answer, and the table stays as it is,
  even if an input file has been opened.
* Otherwise, if the input file could not be opened, its message is the answer, and again the table
  stays as it is, even if an output file has been opened.
* Otherwise, if the files that were opened are open, each under a number of its own, both streams
  are bound, unless a stream needs a number from beyond the limit: then the answer is that the first
  such stream cannot be bound. -/
theorem Redirections.install_all_or_nothing (redirections : Redirections)
    (table : Descriptors File) :
    (∀ message, redirections.output = .failed message →
      redirections.install table = (.error message, table)) ∧
    (∀ message, (∀ other, redirections.output ≠ .failed other) →
      redirections.input = .failed message →
      redirections.install table = (.error message, table)) ∧
    ((∀ message, redirections.output ≠ .failed message ∧ redirections.input ≠ .failed message) →
      table.Valid redirections.bindings →
      (redirections.install table).1 =
        if ¬redirections.output.Fits .output table.limit then .error Stream.output.bindFailure
        else if ¬redirections.input.Fits .input table.limit then .error Stream.input.bindFailure
        else .ok ()) := by
  obtain ⟨input, output⟩ := redirections
  have hready {binding : Binding} (h : ∀ message, binding ≠ .failed message) :
      binding.failure? = none := by
    cases binding with
    | failed message => exact absurd rfl (h message)
    | _ => rfl
  refine ⟨?_, ?_, ?_⟩
  · rintro message rfl
    rw [install_eq_passes]
    have hnone : ∀ entry ∈ ([] : List (Binding × Stream)), entry.1.failure? = none := by simp
    exact Descriptors.installInPasses_of_failed table .output hnone
  · rintro message houtput rfl
    rw [install_eq_passes]
    have hbefore : ∀ entry ∈ [(output, Stream.output)], entry.1.failure? = none := by
      simpa using hready houtput
    exact Descriptors.installInPasses_of_failed table .input hbefore
  · intro hboth hvalid
    have hall : ∀ entry ∈ bindings ⟨input, output⟩, entry.1.failure? = none := by
      simpa [bindings] using
        ⟨hready fun message => (hboth message).1, hready fun message => (hboth message).2⟩
    rw [install_eq_passes, Descriptors.installInPasses_of_ready table hall, hvalid.result_bindAll]
    by_cases houtput : output.Fits .output table.limit <;>
      by_cases hinput : input.Fits .input table.limit <;>
      simp [bindings, houtput, hinput]

/-- The input file was opened under the number of its stream, and the output file as number 3. If
both could be opened, both streams are bound; if one could not, the other one stays where it is. -/
theorem Redirections.opened_file_waits_for_other :
    let table : Descriptors (Stream × Bytes) :=
      ((Descriptors.startedWith [1, 2]).set 0 (some ⟨(.input, Text.utf8 "in"), true⟩)).set 3
        (some ⟨(.output, Text.utf8 "out"), true⟩)
    (Redirections.install ⟨.opened 0, .opened 3⟩ table).1 = .ok () ∧
      Redirections.install ⟨.opened 0, .failed (Stream.output.openFailure "d")⟩ table =
        (.error "smallsh: cannot open d for output\n", table) ∧
      Redirections.install ⟨.failed (Stream.input.openFailure "in"), .opened 3⟩ table =
        (.error "smallsh: cannot open in for input\n", table) := by
  intro table
  refine ⟨?_, ?_, ?_⟩
  · obtain ⟨-, -, hboth⟩ := install_all_or_nothing ⟨.opened 0, .opened 3⟩ table
    exact hboth (by simp) ⟨by decide, by decide⟩
  · exact (install_all_or_nothing _ table).1 _ rfl
  · exact (install_all_or_nothing _ table).2.1 _ (by simp) rfl

/-- The output file of a command is open and valid, but the process may no longer have a file under
the number of standard output: the stream is refused. -/
theorem Redirections.opened_output_is_refused :
    ∃ redirections opened,
      Host.granting.redirect { arguments := ["cat"], output := some "out" } .foreground ()
          (.startedWith [0, 1, 2]) 0 = (redirections, opened, 0) ∧
        (∀ message, redirections.output ≠ .failed message ∧
          redirections.input ≠ .failed message) ∧
        Descriptors.Valid { opened with limit := 1 } redirections.bindings ∧
        (redirections.install { opened with limit := 1 }).1 =
          .error "smallsh: cannot redirect standard output\n" := by
  refine ⟨⟨.inherit, .opened 3⟩, _, rfl, by simp, ⟨by decide, by decide⟩, by decide⟩

end JobShell
