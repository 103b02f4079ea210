import JobShell.Proofs.Child.Drain
import JobShell.Proofs.System.Calls
import JobShell.System.RawWrite
import Mathlib.Data.Set.Card

/-!
# JobShell.Proofs.System.Writing — a buffer is written until it is gone or a call fails

`deliver` writes a buffer against a list of results, and it never slices beyond the end. Here the
same is code that makes one call after the other (`Writing.routine`): it looks at the value, at the
number left behind if the value is negative, and it cuts off what was taken, where an index can be
out of range. The results of the calls are an endless sequence, so the code need not come to an end.

* `taken` counts the bytes that the first calls take, and `Finished` says that nothing is left to
  do.
* `Stands` is the invariant: each call offers what those before it have left, nothing is skipped and
  nothing comes twice, and `deliver` does the same. `Stands.step` is its step, `exists_stands` the
  run.
* `finished_of_finite`: if calls are interrupted only finitely often, writing comes to an end.
* `Writing.delivers_beginning` puts this together.
-/

namespace JobShell

instance : DecidablePred WriteResult.Succeeds
  | .accepted count => inferInstanceAs (Decidable (0 < count))
  | .failed errno => inferInstanceAs (Decidable (errno = .interrupted))

namespace WriteResult

/-- How many bytes were taken. -/
def count : WriteResult → Nat
  | .accepted count => count
  | .failed _ => 0

/-- What the call hands back. -/
def reply : WriteResult → Reply Unit
  | .accepted count => { value := count, record := () }
  | .failed errno => { value := -1, record := (), errno }

end WriteResult

/-- Where writing a buffer stands. -/
inductive Writing where
  /-- The next call offers these bytes, if there are any. -/
  | offering (rest : Bytes)
  /-- A call failed or took nothing. -/
  | stopped
  /-- A call took more than it was offered, so there is no rest. -/
  | outOfRange
deriving DecidableEq, Repr

namespace Writing

/-- How writing goes on after a call. -/
def resume (offered : Bytes) (value : Int) (found : Errno) : Writing :=
  if value < 0 then if found = .interrupted then .offering offered else .stopped
  else if value = 0 then .stopped
  else if value.toNat ≤ offered.length then .offering (offered.drop value.toNat)
  else .outOfRange

/-- Writing a buffer, call by call. -/
def routine : Routine Bytes Unit Writing
  | .offering [] => .ends
  | .offering (byte :: rest) => .calls (byte :: rest) fun value _ found =>
    resume (byte :: rest) value found
  | .stopped => .ends
  | .outOfRange => .ends

/-- Writing a buffer after so many calls, if these are their results. -/
def after (errno : Errno) (bytes : Bytes) (results : Nat → WriteResult) :
    Nat → Progress Bytes Writing × Errno :=
  routine.after (fun i => (results i).reply) (.offering bytes) errno

/-- What the calls have taken, each from the beginning of what it was offered. -/
def arrived (results : Nat → WriteResult) (requests : List Bytes) : Bytes :=
  requests.zipIdx.flatMap fun (offered, i) => offered.take (results i).count

/-- How many bytes the first calls take. -/
def taken (results : Nat → WriteResult) : Nat → Nat
  | 0 => 0
  | n + 1 => taken results n + (results n).count

/-- After so many calls nothing is left to do: everything was taken, or a call took nothing or
failed, and not because it was interrupted. -/
def Finished (bytes : Bytes) (results : Nat → WriteResult) (n : Nat) : Prop :=
  bytes.length ≤ taken results n ∨ ∃ i < n, ¬(results i).Succeeds

instance (bytes : Bytes) (results : Nat → WriteResult) (n : Nat) :
    Decidable (Finished bytes results n) :=
  inferInstanceAs (Decidable (bytes.length ≤ taken results n ∨ ∃ i < n, ¬(results i).Succeeds))

/-- No call takes more than it is offered. -/
def Honest (bytes : Bytes) (results : Nat → WriteResult) : Prop :=
  ∀ n, ¬Finished bytes results n → (results n).count ≤ bytes.length - taken results n

/-! ## One call -/

end Writing

theorem WriteResult.leaves_accepted (count : Nat) (before : Errno) :
    (accepted count).reply.leaves before = before := by
  have hcount : (count : Int) ≠ -1 := by omega
  exact if_neg hcount

/-- What was delivered, with other bytes in front of it. -/
def Delivery.behind (front : Bytes) (delivery : Delivery) : Delivery :=
  { delivery with delivered := front ++ delivery.delivered }

theorem Delivery.behind_behind (front middle : Bytes) (delivery : Delivery) :
    (delivery.behind middle).behind front = delivery.behind (front ++ middle) := by
  simp [behind]

/-- The first result decides whether the rest is written. -/
theorem deliver_cons (errno : Errno) (result : WriteResult) (results : List WriteResult)
    {bytes : Bytes} (hne : bytes ≠ []) :
    deliver errno (result :: results) bytes =
      if result.Succeeds then
        (deliver (result.reply.leaves errno) results (bytes.drop result.count)).behind
          (bytes.take result.count)
      else ⟨[], results, result.reply.leaves errno⟩ := by
  obtain ⟨byte, rest, rfl⟩ := List.exists_cons_of_ne_nil hne
  cases result with
  | accepted count =>
    rw [WriteResult.leaves_accepted]
    cases count with
    | zero => rfl
    | succ count => exact (if_pos (Nat.succ_pos count)).symm
  | failed reason =>
    by_cases hreason : reason = .interrupted
    · subst hreason
      rfl
    · exact (if_neg hreason).trans (if_neg hreason).symm

namespace Writing

/-- Where writing goes on after a call that took no more than it was offered. -/
theorem resume_reply {offered : Bytes} {result : WriteResult}
    (hfits : result.count ≤ offered.length) (before : Errno) :
    resume offered result.reply.value (result.reply.leaves before) =
      if result.Succeeds then .offering (offered.drop result.count) else .stopped := by
  cases result with
  | accepted count =>
    have hcount : ¬(count : Int) < 0 := by omega
    cases count with
    | zero => rfl
    | succ count =>
      have hzero : ((count + 1 : Nat) : Int) ≠ 0 := by omega
      have hsucceeds : (WriteResult.accepted (count + 1)).Succeeds := Nat.succ_pos count
      rw [if_pos hsucceeds]
      exact (if_neg hcount).trans ((if_neg hzero).trans (if_pos hfits))
  | failed reason => rfl

/-! ## The invariant -/

/-- Where writing stands when so many calls have been made. -/
structure Stands (errno : Errno) (bytes : Bytes) (results : Nat → WriteResult) (calls : Nat)
    (spot : Progress Bytes Writing × Errno) : Prop where
  /-- Before each of them there was something left to do. -/
  needed : ∀ i < calls, ¬Finished bytes results i
  fits : taken results calls ≤ bytes.length
  /-- Each of them offered what those before it had left. -/
  requests : spot.1.requests = (List.range calls).map fun i => bytes.drop (taken results i)
  /-- What they took is the beginning of the buffer. -/
  arrived : arrived results spot.1.requests = bytes.take (taken results calls)
  /-- If all of them went well, the rest is offered next, and `deliver` stands at the same place. -/
  goesOn : (∀ i < calls, (results i).Succeeds) →
    spot.1.state = .offering (bytes.drop (taken results calls)) ∧
    ∀ later, deliver errno ((List.range calls).map results ++ later) bytes =
      (deliver spot.2 later (bytes.drop (taken results calls))).behind
        (bytes.take (taken results calls))
  /-- If not, writing has stopped, and `deliver` is done. -/
  stops : (∃ i < calls, ¬(results i).Succeeds) → spot.1.state = .stopped ∧
    ∀ later, deliver errno ((List.range calls).map results ++ later) bytes =
      ⟨bytes.take (taken results calls), later, spot.2⟩

variable {errno : Errno} {bytes : Bytes} {results : Nat → WriteResult} {calls : Nat}
  {spot : Progress Bytes Writing × Errno}

theorem stands_zero : Stands errno bytes results 0 (⟨.offering bytes, []⟩, errno) where
  needed := by simp
  fits := Nat.zero_le _
  requests := rfl
  arrived := rfl
  goesOn := fun _ => ⟨rfl, fun _ => rfl⟩
  stops := by simp

theorem arrived_append (requests : List Bytes) (offered : Bytes) :
    Writing.arrived results (requests ++ [offered]) =
      Writing.arrived results requests ++ offered.take (results requests.length).count := by
  simp [Writing.arrived, List.zipIdx_append]

theorem not_finished_iff :
    ¬Finished bytes results calls ↔
      taken results calls < bytes.length ∧ ∀ i < calls, (results i).Succeeds := by
  simp [Finished]

theorem routine_of_ne_nil {rest : Bytes} (h : rest ≠ []) :
    routine (.offering rest) = .calls rest fun value _ found => resume rest value found := by
  obtain ⟨byte, rest, rfl⟩ := List.exists_cons_of_ne_nil h
  rfl

theorem count_of_not_succeeds {result : WriteResult} (h : ¬result.Succeeds) : result.count = 0 := by
  cases result with
  | accepted count => exact Nat.eq_zero_of_not_pos h
  | failed reason => rfl

/-- As long as there is something left to do, one more call keeps the invariant. -/
theorem Stands.step (h : Stands errno bytes results calls spot)
    (hhonest : Honest bytes results) (hneeded : ¬Finished bytes results calls) :
    Stands errno bytes results (calls + 1) (routine.turn (results calls).reply spot) := by
  obtain ⟨⟨state, requests⟩, found⟩ := spot
  obtain ⟨hleft, hsucceeded⟩ := not_finished_iff.1 hneeded
  obtain ⟨hstate, hdeliver⟩ := h.goesOn hsucceeded
  have hhonest := hhonest calls hneeded
  have hne : bytes.drop (taken results calls) ≠ [] := by
    rw [List.ne_nil_iff_length_pos, List.length_drop]
    omega
  have hfits : (results calls).count ≤ (bytes.drop (taken results calls)).length := by
    rw [List.length_drop]
    exact hhonest
  obtain rfl : state = .offering (bytes.drop (taken results calls)) := hstate
  have hlength : requests.length = calls := by
    have hrequests := congrArg List.length h.requests
    rwa [List.length_map, List.length_range] at hrequests
  have htaken : taken results (calls + 1) = taken results calls + (results calls).count := rfl
  rw [Routine.turn_of_calls (routine_of_ne_nil hne), resume_reply hfits]
  refine ⟨?needed, ?fits, ?requests, ?arrived, ?goesOn, ?stops⟩
  case needed =>
    intro i hi
    rcases Nat.lt_succ_iff_lt_or_eq.1 hi with hi | rfl
    · exact h.needed i hi
    · exact hneeded
  case fits =>
    rw [htaken]
    omega
  case requests =>
    have hrequests : requests = (List.range calls).map fun i => bytes.drop (taken results i) :=
      h.requests
    change requests ++ [_] = _
    rw [hrequests, List.range_succ, List.map_append]
    rfl
  case arrived =>
    have harrived : Writing.arrived results requests = bytes.take (taken results calls) := h.arrived
    change Writing.arrived results (requests ++ [_]) = _
    rw [arrived_append, hlength, harrived, htaken, List.take_add]
  case goesOn =>
    intro hall
    have hlast : (results calls).Succeeds := hall calls (Nat.lt_succ_self calls)
    refine ⟨?_, fun later => ?_⟩
    · change (if (results calls).Succeeds then _ else _) = _
      rw [if_pos hlast, List.drop_drop, htaken]
    · rw [List.range_succ, List.map_append, List.append_assoc]
      change deliver errno (_ ++ results calls :: later) bytes = _
      rw [hdeliver, deliver_cons _ _ _ hne, if_pos hlast, Delivery.behind_behind, List.drop_drop,
        htaken, List.take_add]
  case stops =>
    rintro ⟨i, hi, hfailed⟩
    have hlast : ¬(results calls).Succeeds := by
      rcases Nat.lt_succ_iff_lt_or_eq.1 hi with hi | rfl
      · exact absurd (hsucceeded i hi) hfailed
      · exact hfailed
    refine ⟨if_neg hlast, fun later => ?_⟩
    rw [List.range_succ, List.map_append, List.append_assoc]
    change deliver errno (_ ++ results calls :: later) bytes = _
    rw [hdeliver, deliver_cons _ _ _ hne, if_neg hlast, htaken, count_of_not_succeeds hlast]
    simp [Delivery.behind]

/-- Writing is over exactly when there is nothing left to do. -/
theorem Stands.isOver_iff (h : Stands errno bytes results calls spot) :
    routine.IsOver spot.1 ↔ Finished bytes results calls := by
  rw [Routine.IsOver]
  by_cases hall : ∀ i < calls, (results i).Succeeds
  · rw [(h.goesOn hall).1]
    by_cases hleft : bytes.length ≤ taken results calls
    · rw [List.drop_of_length_le hleft]
      exact iff_of_true rfl (.inl hleft)
    · have hne : bytes.drop (taken results calls) ≠ [] := by
        rw [List.ne_nil_iff_length_pos, List.length_drop]
        omega
      rw [routine_of_ne_nil hne]
      refine iff_of_false nofun (not_finished_iff.2 ⟨by omega, hall⟩)
  · have hstopped : ∃ i < calls, ¬(results i).Succeeds := by simpa using hall
    rw [(h.stops hstopped).1]
    exact iff_of_true rfl (.inr hstopped)

theorem after_succ (errno : Errno) (bytes : Bytes) (results : Nat → WriteResult) (n : Nat) :
    after errno bytes results (n + 1) =
      routine.turn (results n).reply (after errno bytes results n) :=
  rfl

/-- After any number of turns, so many calls have been made. -/
theorem exists_stands (errno : Errno) (hhonest : Honest bytes results) (n : Nat) :
    ∃ calls ≤ n, (calls < n → Finished bytes results calls) ∧
      Stands errno bytes results calls (after errno bytes results n) := by
  induction n with
  | zero => exact ⟨0, Nat.le_refl 0, fun h => absurd h (Nat.lt_irrefl 0), stands_zero⟩
  | succ n ih =>
    obtain ⟨calls, hcalls, hfinished, hstands⟩ := ih
    by_cases hover : Finished bytes results calls
    · -- nothing is done any more
      refine ⟨calls, by omega, fun _ => hover, ?_⟩
      rw [after_succ, Routine.turn_of_isOver (hstands.isOver_iff.2 hover)]
      exact hstands
    · obtain rfl : calls = n := by
        by_contra hne
        exact hover (hfinished (by omega))
      exact ⟨calls + 1, Nat.le_refl _, fun h => absurd h (Nat.lt_irrefl _),
        hstands.step hhonest hover⟩

/-! ## The end -/

/-- Every call that gets on takes a byte or was interrupted. -/
theorem le_taken_add_interrupted {n : Nat} (h : ∀ i < n, (results i).Succeeds) :
    n ≤ taken results n +
      ((Finset.range n).filter fun i => results i = .failed .interrupted).card := by
  induction n with
  | zero => exact Nat.zero_le _
  | succ n ih =>
    have hbefore := ih fun i hi => h i (Nat.lt_succ_of_lt hi)
    have hlast := h n (Nat.lt_succ_self n)
    rw [taken, Finset.range_add_one, Finset.filter_insert]
    cases hresult : results n with
    | accepted count =>
      rw [hresult] at hlast
      have hcount : 0 < count := hlast
      simp only [reduceCtorEq, if_false, WriteResult.count]
      omega
    | failed reason =>
      rw [hresult] at hlast
      obtain rfl : reason = .interrupted := hlast
      rw [if_pos rfl, Finset.card_insert_of_notMem (by simp)]
      omega

/-- If calls are interrupted only finitely often, there is nothing left to do at some time. -/
theorem finished_of_finite (bytes : Bytes)
    (hfinite : {i | results i = .failed .interrupted}.Finite) :
    ∃ calls ≤ bytes.length + {i | results i = .failed .interrupted}.ncard,
      Finished bytes results calls := by
  refine ⟨_, Nat.le_refl _, ?_⟩
  by_contra hunfinished
  obtain ⟨hleft, hsucceeded⟩ := not_finished_iff.1 hunfinished
  have hcalls := le_taken_add_interrupted hsucceeded
  have hinterrupted :
      ((Finset.range (bytes.length + {i | results i = .failed .interrupted}.ncard)).filter
        fun i => results i = .failed .interrupted).card ≤
        {i | results i = .failed .interrupted}.ncard := by
    rw [← Set.ncard_coe_finset]
    refine Set.ncard_le_ncard (fun i hi => ?_) hfinite
    simpa using (Finset.mem_filter.1 (Finset.mem_coe.1 hi)).2
  omega

/-- What is true of writing a buffer after `n` turns of the loop, with so many calls made. -/
structure Reached (errno : Errno) (bytes : Bytes) (results : Nat → WriteResult) (n calls : Nat) :
    Prop where
  /-- No call is made when there is nothing left to do, -/
  needed : ∀ i < calls, ¬Finished bytes results i
  /-- and no turn passes without a call before that. -/
  going : calls < n → Finished bytes results calls
  over_iff : routine.IsOver (after errno bytes results n).1 ↔ Finished bytes results calls
  /-- No rest is sliced off behind the end. -/
  inRange : (after errno bytes results n).1.state ≠ .outOfRange
  /-- Each call offers what those before it have left of the buffer, -/
  offers : (after errno bytes results n).1.requests =
    (List.range calls).map fun i => bytes.drop (taken results i)
  /-- so what they take is its beginning, in order. -/
  arrives : arrived results (after errno bytes results n).1.requests =
    bytes.take (taken results calls)
  /-- `deliver` comes to the same end and asks for no more results. -/
  delivers : Finished bytes results calls → ∀ later,
    deliver errno ((List.range calls).map results ++ later) bytes =
      ⟨bytes.take (taken results calls), later, (after errno bytes results n).2⟩

theorem Stands.reached {n : Nat}
    (h : Stands errno bytes results calls (after errno bytes results n))
    (hgoing : calls < n → Finished bytes results calls) :
    Reached errno bytes results n calls where
  needed := h.needed
  going := hgoing
  over_iff := h.isOver_iff
  inRange := by
    by_cases hall : ∀ i < calls, (results i).Succeeds
    · rw [(h.goesOn hall).1]
      nofun
    · rw [(h.stops (by simpa using hall)).1]
      nofun
  offers := h.requests
  arrives := h.arrived
  delivers := by
    rintro hfinished later
    by_cases hall : ∀ i < calls, (results i).Succeeds
    · have hleft : bytes.length ≤ taken results calls := by
        by_contra hleft
        exact not_finished_iff.2 ⟨by omega, hall⟩ hfinished
      rw [(h.goesOn hall).2, List.drop_of_length_le hleft]
      simp [deliver, Delivery.behind]
    · exact (h.stops (by simpa using hall)).2 later

/-- When writing is over, `deliver` has done the same with the results that were asked for. -/
theorem deliver_of_isOver (hhonest : Honest bytes results) {n : Nat}
    (hover : routine.IsOver (after errno bytes results n).1) (later : List WriteResult) :
    deliver errno
        ((List.range (after errno bytes results n).1.requests.length).map results ++ later) bytes =
      ⟨arrived results (after errno bytes results n).1.requests, later,
        (after errno bytes results n).2⟩ := by
  obtain ⟨calls, -, hgoing, hstands⟩ := exists_stands errno hhonest n
  have h := hstands.reached hgoing
  have hcalls : (after errno bytes results n).1.requests.length = calls := by
    rw [h.offers, List.length_map, List.length_range]
  rw [hcalls, h.arrives]
  exact h.delivers (h.over_iff.1 hover) later

/-- **What arrives of a buffer is its beginning, and all of it unless a call fails.** Whatever the
calls answer, if none takes more than it is offered: every call offers exactly what was not taken
before, the calls go on through partial writes and interruptions until there is nothing left to do
and then stop, and no rest is sliced off behind the end. If only finitely many calls are
interrupted, writing comes to an end, after no more calls than there are bytes and interruptions. -/
theorem delivers_beginning (errno : Errno) (bytes : Bytes) (results : Nat → WriteResult)
    (hhonest : Honest bytes results) :
    (∀ n, ∃ calls ≤ n, Reached errno bytes results n calls) ∧
    ({i | results i = .failed .interrupted}.Finite →
      ∃ n ≤ bytes.length + {i | results i = .failed .interrupted}.ncard,
        routine.IsOver (after errno bytes results n).1) := by
  refine ⟨fun n => ?_, fun hfinite => ?_⟩
  · obtain ⟨calls, hcalls, hgoing, hstands⟩ := exists_stands errno hhonest n
    exact ⟨calls, hcalls, hstands.reached hgoing⟩
  · obtain ⟨n, hn, hfinished⟩ := finished_of_finite bytes hfinite
    obtain ⟨calls, hcalls, hgoing, hstands⟩ := exists_stands errno hhonest n
    refine ⟨n, hn, hstands.isOver_iff.2 ?_⟩
    rcases Nat.lt_or_eq_of_le hcalls with hlt | rfl
    · exact hgoing hlt
    · exact hfinished

/-- A short write, an interruption, another short write, and then the disk is full. -/
def fillingUp : Nat → WriteResult
  | 0 => .accepted 1
  | 1 => .failed .interrupted
  | 2 => .accepted 2
  | _ => .failed .noSpace

theorem honest_fillingUp : Honest [1, 2, 3, 4, 5] fillingUp
  | 0, _ | 1, _ | 2, _ => by decide
  | _ + 3, _ => Nat.zero_le _

theorem interrupted_fillingUp : {i | fillingUp i = .failed .interrupted} = {1} := by
  have hfull : Errno.noSpace ≠ Errno.interrupted := by decide
  ext i
  match i with
  | 0 | 1 | 2 | i + 3 => simp [fillingUp, hfull]

/-- Three bytes of five arrive, and the calls come to an end. -/
theorem delivers_beginning_until_full :
    Honest [1, 2, 3, 4, 5] fillingUp ∧
    {i | fillingUp i = .failed .interrupted}.Finite ∧
    (∃ n ≤ 6, routine.IsOver (after .success [1, 2, 3, 4, 5] fillingUp n).1) ∧
    arrived fillingUp (after .success [1, 2, 3, 4, 5] fillingUp 9).1.requests = [1, 2, 3] ∧
    deliver .success [.accepted 1, .failed .interrupted, .accepted 2, .failed .noSpace]
      [1, 2, 3, 4, 5] = ⟨[1, 2, 3], [], .noSpace⟩ := by
  have hfinite : {i | fillingUp i = .failed .interrupted}.Finite := by
    rw [interrupted_fillingUp]
    exact Set.finite_singleton 1
  obtain ⟨hreached, hends⟩ :=
    delivers_beginning .success [1, 2, 3, 4, 5] fillingUp honest_fillingUp
  have hbound := hends hfinite
  rw [interrupted_fillingUp, Set.ncard_singleton] at hbound
  obtain ⟨calls, hcalls, h⟩ := hreached 9
  -- the fourth call is the first one after which nothing is left to do
  obtain rfl : calls = 4 := by
    have hmost : calls ≤ 4 := by
      by_contra hmore
      exact h.needed 4 (by omega) (by decide)
    have hleft : ∀ i < 4, ¬Finished [1, 2, 3, 4, 5] fillingUp i := by decide
    by_contra hne
    exact hleft calls (by omega) (h.going (by omega))
  exact ⟨honest_fillingUp, hfinite, hbound, h.arrives, h.delivers (by decide) []⟩

end Writing

end JobShell
