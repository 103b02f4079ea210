import JobShell.Proofs.System.Calls
import Mathlib.Logic.Relation

/-!
# JobShell.Proofs.System.Interruption — code and the signal handlers that cut into it

A process has one number for the reasons of failures, and a signal handler uses the same one. It can
begin at any time, so also when a call of the code has failed and the code has not looked yet why.
That is why a handler keeps the number that it finds and puts it back before it returns.

* `Instant` is a process with such a handler at one instant, and `Instant.Step` is what can happen
  next. A handler is not cut into by another one, since the signal is blocked while it runs.
* `Instant.shown` is the number that the code will find. While a handler runs, this is the one that
  the handler keeps.
* `Instant.Unaware` is the invariant, `Instant.Unaware.step` its step, and
  `Instant.unaware_of_reachable` the run: the code makes the calls that it makes without handlers
  and comes to the same places.
-/

namespace JobShell

/-- A handler that has begun and not returned. -/
structure Handling (Kind Call Stage : Type) where
  kind : Kind
  /-- The number that it has found. -/
  kept : Errno
  /-- How far it has come. -/
  progress : Progress Call Stage

/-- A process at one instant. -/
structure Instant (Request Record State Kind Call Stage : Type) where
  /-- How far the code has come, apart from the handlers. -/
  progress : Progress Request State
  /-- What its last call has handed back, if it has not looked at that yet. -/
  unread : Option (Reply Record) := none
  /-- The number for the reason of a failure. -/
  errno : Errno
  /-- The handler that has cut in. -/
  handling : Option (Handling Kind Call Stage) := none

namespace Instant

variable {Request Record State Kind Call Answer Stage : Type}

/-- The number that the code will find when no handler runs any more. -/
def shown (instant : Instant Request Record State Kind Call Stage) : Errno :=
  instant.handling.elim instant.errno Handling.kept

variable (code : Routine Request Record State) (replies : Nat → Reply Record)
  (handlers : Kind → Routine Call Answer Stage) (first : Stage)

/-- What can happen next, if these are the replies to the calls of the code. -/
inductive Step : Instant Request Record State Kind Call Stage →
    Instant Request Record State Kind Call Stage → Prop
  /-- The code makes its next call. -/
  | calls {state requests errno request resume} (asks : code state = .calls request resume) :
      Step ⟨⟨state, requests⟩, none, errno, none⟩
        ⟨⟨state, requests ++ [request]⟩, some (replies requests.length),
          (replies requests.length).leaves errno, none⟩
  /-- The code looks at the reply, and at the number for the reason. -/
  | looks {state requests reply errno request resume} (asks : code state = .calls request resume) :
      Step ⟨⟨state, requests⟩, some reply, errno, none⟩
        ⟨⟨resume reply.value reply.record errno, requests⟩, none, errno, none⟩
  /-- A handler begins. -/
  | begins {progress unread errno} (kind : Kind) :
      Step ⟨progress, unread, errno, none⟩
        ⟨progress, unread, errno, some ⟨kind, errno, ⟨first, []⟩⟩⟩
  /-- It makes a call, which can be answered in any way. -/
  | handles {progress unread errno kind kept inner} (reply : Reply Answer) :
      Step ⟨progress, unread, errno, some ⟨kind, kept, inner⟩⟩
        ⟨progress, unread, ((handlers kind).turn reply (inner, errno)).2,
          some ⟨kind, kept, ((handlers kind).turn reply (inner, errno)).1⟩⟩
  /-- It puts the number back. -/
  | returns {progress unread errno kind kept inner} (isOver : (handlers kind).IsOver inner) :
      Step ⟨progress, unread, errno, some ⟨kind, kept, inner⟩⟩ ⟨progress, unread, kept, none⟩

/-- The instants that the process can come to from a place of the code. -/
def Reachable (start : State) (errno : Errno) :
    Instant Request Record State Kind Call Stage → Prop :=
  Relation.ReflTransGen (Step code replies handlers first) ⟨⟨start, []⟩, none, errno, none⟩

/-- The code is where as many calls bring it without handlers. -/
structure Unaware (start : State) (errno : Errno)
    (instant : Instant Request Record State Kind Call Stage) : Prop where
  /-- It has made the same calls, stands at the same place and will find the same number. -/
  settled : instant.unread = none →
    code.after replies start errno instant.progress.requests.length =
      (instant.progress, instant.shown)
  /-- If it has not looked at a reply yet, it will come to that place when it does, and the number
  is the one that this call has left behind. -/
  pending : ∀ reply, instant.unread = some reply →
    ∃ request resume, code instant.progress.state = .calls request resume ∧
      code.after replies start errno instant.progress.requests.length =
        (⟨resume reply.value reply.record instant.shown, instant.progress.requests⟩,
          instant.shown) ∧
      ∃ before, instant.shown = reply.leaves before

variable {code replies handlers first} {start : State} {errno : Errno}
  {instant next : Instant Request Record State Kind Call Stage}

/-- A handler that is not done makes its next call. -/
theorem Step.of_calls {progress : Progress Request State} {unread : Option (Reply Record)}
    {found kept : Errno} {kind : Kind} {stage : Stage} {made : List Call} {request : Call}
    {resume : Int → Answer → Errno → Stage} (reply : Reply Answer)
    (asks : handlers kind stage = .calls request resume) :
    Step code replies handlers first
      ⟨progress, unread, found, some ⟨kind, kept, ⟨stage, made⟩⟩⟩
      ⟨progress, unread, reply.leaves found, some ⟨kind, kept,
        ⟨resume reply.value reply.record (reply.leaves found), made ++ [request]⟩⟩⟩ := by
  have hstep : Step code replies handlers first
      ⟨progress, unread, found, some ⟨kind, kept, ⟨stage, made⟩⟩⟩ _ := .handles reply
  rwa [Routine.turn_of_calls asks] at hstep

/-- A handler that begins keeps the number that it finds. -/
theorem Step.kept_of_begins {handling : Handling Kind Call Stage}
    (h : Step code replies handlers first instant next) (hidle : instant.handling = none)
    (hbegins : next.handling = some handling) : handling.kept = instant.errno := by
  cases h with
  | calls => cases hbegins
  | looks => cases hbegins
  | begins => rw [← Option.some.inj hbegins]
  | handles => cases hidle
  | returns => cases hidle

/-- A handler that returns puts back the number that it has kept. -/
theorem Step.errno_of_returns {handling : Handling Kind Call Stage}
    (h : Step code replies handlers first instant next)
    (hhandling : instant.handling = some handling)
    (hreturns : next.handling = none) : next.errno = handling.kept := by
  cases h with
  | calls => cases hhandling
  | looks => cases hhandling
  | begins => cases hhandling
  | handles => cases hreturns
  | returns => rw [← Option.some.inj hhandling]

/-- Nothing that can happen next makes the code aware of a handler. -/
theorem Unaware.step (h : Unaware code replies start errno instant)
    (hstep : Step code replies handlers first instant next) :
    Unaware code replies start errno next := by
  cases hstep with
  | @calls state requests found request resume asks =>
    -- without handlers the look comes with the call, so that run is one place ahead
    have hbefore : code.after replies start errno requests.length = (⟨state, requests⟩, found) :=
      h.settled rfl
    refine ⟨nofun, ?_⟩
    rintro reply ⟨⟩
    refine ⟨request, resume, asks, ?_, found, rfl⟩
    change code.after replies start errno (requests ++ [request]).length = _
    rw [List.length_append, List.length_singleton, Routine.after, hbefore,
      Routine.turn_of_calls asks]
    rfl
  | @looks state requests reply found request resume asks =>
    obtain ⟨asked, resumed, hasks, hafter, -⟩ := h.pending reply rfl
    obtain ⟨rfl, rfl⟩ : asked = request ∧ resumed = resume := by simpa using hasks.symm.trans asks
    exact ⟨fun _ => hafter, nofun⟩
  -- what the code will find is the number itself, or the one that the handler keeps
  | begins kind => exact ⟨h.settled, h.pending⟩
  | handles reply => exact ⟨h.settled, h.pending⟩
  | returns => exact ⟨h.settled, h.pending⟩

/-- A look at a reply finds the number of the call that was answered. -/
theorem Unaware.leaves_of_unread (h : Unaware code replies start errno instant)
    {reply : Reply Record} (hunread : instant.unread = some reply)
    (hidle : instant.handling = none) : ∃ before, instant.errno = reply.leaves before := by
  obtain ⟨_, _, _, _, before, hshown⟩ := h.pending reply hunread
  refine ⟨before, ?_⟩
  rwa [shown, hidle] at hshown

/-- The code is not aware of the handlers at any instant. -/
theorem unaware_of_reachable (h : Reachable code replies handlers first start errno instant) :
    Unaware code replies start errno instant := by
  induction h with
  | refl => exact ⟨fun _ => rfl, nofun⟩
  | tail _ hstep ih => exact ih.step hstep

end Instant

end JobShell
