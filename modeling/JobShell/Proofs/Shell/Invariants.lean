import JobShell.Shell.Loop

/-!
# JobShell.Proofs.Shell.Invariants — what the services of a shell preserve

A shell touches the state of its services only through its services and its reader. So whatever all
of these preserve holds after every line, and at the end of every session.
-/

namespace JobShell

variable {Reader State : Type}

/-- Every service leaves a state with the property when it finds one. -/
structure Services.Preserves (services : Services State) (P : State → Prop) : Prop where
  launchBackground {state : State} (command : Command) :
    P state → P (services.launchBackground command state).2
  runForeground {state : State} (command : Command) :
    P state → P (services.runForeground command state).2
  changeDirectory {state : State} (path : Bytes) :
    P state → P (services.changeDirectory path state).2
  say {state : State} (text : String) : P state → P (services.say text state)
  complain {state : State} (text : String) : P state → P (services.complain text state)

namespace Shell

variable {services : Services State} {P : State → Prop}

theorem changeDirectory_preserves (h : services.Preserves P) (target : Option String)
    {shell : Shell State} (hstate : P shell.state) :
    P (shell.changeDirectory services target).state := by
  unfold changeDirectory
  dsimp only
  split
  · exact h.complain _ hstate
  · next directory _ =>
    split
    · exact h.complain _ hstate
    · have hchanged := h.changeDirectory directory hstate
      split
      · next hresult => rwa [hresult] at hchanged
      · next hresult =>
        rw [hresult] at hchanged
        exact h.complain _ hchanged

theorem background_preserves (h : services.Preserves P) (command : Command)
    {shell : Shell State} (hstate : P shell.state) :
    P (shell.background services command).state := by
  have hlaunched := h.launchBackground command hstate
  unfold background
  split
  · next hresult =>
    rw [hresult] at hlaunched
    exact h.say _ hlaunched
  · next hresult =>
    rw [hresult] at hlaunched
    exact h.complain _ hlaunched

theorem foreground_preserves (h : services.Preserves P) (command : Command)
    {shell : Shell State} (hstate : P shell.state) :
    P (shell.foreground services command).state := by
  have hran := h.runForeground command hstate
  unfold foreground
  split
  · next hresult =>
    rw [hresult] at hran
    dsimp only
    split
    · exact h.say _ hran
    · exact hran
  · next hresult =>
    rw [hresult] at hran
    exact h.complain _ hran

/-- Whatever the services preserve, carrying out a line preserves. -/
theorem execute_preserves (h : services.Preserves P) (line : String) {shell : Shell State}
    (hstate : P shell.state) : P (shell.execute services line).2.state := by
  unfold execute
  dsimp only
  split
  · exact hstate
  · split
    · next builtin _ =>
      cases builtin with
      | exit => exact hstate
      | changeDirectory target => exact changeDirectory_preserves h target hstate
      | status => exact h.say _ hstate
    · split
      · exact background_preserves h _ hstate
      · exact foreground_preserves h _ hstate

/-- Whatever the services and the reader preserve, a whole session preserves. -/
theorem run_preserves (h : services.Preserves P) {readLine : LineReader Reader State}
    (hread : ∀ {state} reader, P state → P (readLine reader state).2.2) (lines : Nat)
    (reader : Reader) {shell : Shell State} (hstate : P shell.state) :
    P (shell.run services readLine lines reader).2.state := by
  induction lines generalizing reader shell with
  | zero => exact hstate
  | succ lines ih =>
    have hline := hread reader (h.say Help.prompt hstate)
    rw [run]
    dsimp only
    split
    · next hresult => rwa [hresult] at hline
    · next line next state hresult =>
      rw [hresult] at hline
      have hexecuted : P (({ shell with state } : Shell State).execute services line).2.state :=
        execute_preserves h line hline
      split
      · next hflow => rwa [hflow] at hexecuted
      · next hflow =>
        rw [hflow] at hexecuted
        exact ih next hexecuted
    · next failure next state hresult =>
      rw [hresult] at hline
      split
      · exact ih next (h.complain _ hline)
      · exact hline

end Shell

end JobShell
