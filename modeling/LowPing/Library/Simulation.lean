import LowPing.Library.Machine

/-!
# Simulation

A machine refines a second one if whatever it does at once the second can do in a few actions, as
far as both show what they do. A relation between their states carries this from step to step, and
then every run of the first is a run of the second (`Simulation.run`). The relation need only be
kept where an invariant of the first machine holds.
-/

namespace LowPing.Library.Machine

variable {σ ε τ α ω : Type*}

/-- The machine `step` refines `act`. `shown` is what a state has shown so far, `shows` what an
action shows; `link` relates an action to the event it is taken for. -/
structure Simulation (step : σ → ε → Option σ) (act : τ → α → Option τ) (invariant : σ → Prop)
    (represents : τ → σ → Prop) (shown : σ → List ω) (shows : α → Option ω)
    (link : ε → α → Prop) : Prop where
  /-- The invariant is one. -/
  kept : ∀ state event next, invariant state → step state event = some next → invariant next
  /-- Each step is followed by actions that show the same. -/
  follows : ∀ state event next abstract, invariant state → represents abstract state →
    step state event = some next → ∃ actions after, run act abstract actions = some after ∧
      represents after next ∧ shown next = shown state ++ actions.filterMap shows ∧
      ∀ action ∈ actions, link event action

variable {step : σ → ε → Option σ} {act : τ → α → Option τ} {invariant : σ → Prop}
  {represents : τ → σ → Prop} {shown : σ → List ω} {shows : α → Option ω} {link : ε → α → Prop}

/-- Each run of the first machine is one of the second, which shows the same. -/
theorem Simulation.run
    (simulation : Simulation step act invariant represents shown shows link)
    {start final : σ} {abstract : τ} {events : List ε} (held : invariant start)
    (represented : represents abstract start)
    (reached : Machine.run step start events = some final) :
    ∃ actions last, Machine.run act abstract actions = some last ∧ represents last final ∧
      shown final = shown start ++ actions.filterMap shows ∧
      ∀ action ∈ actions, ∃ event ∈ events, link event action := by
  induction events generalizing start abstract with
  | nil =>
    obtain rfl := Option.some.inj reached
    exact ⟨[], abstract, rfl, represented, by simp, nofun⟩
  | cons event events ih =>
    cases taken : step start event with
    | none => simp [Machine.run, taken] at reached
    | some next =>
      have rest : Machine.run step next events = some final :=
        (run_cons taken events).symm.trans reached
      obtain ⟨first, middle, done, represented, shownFirst, linked⟩ :=
        simulation.follows start event next abstract held represented taken
      obtain ⟨later, last, went, ends, shownLater, linkedLater⟩ :=
        ih (simulation.kept start event next held taken) represented rest
      refine ⟨first ++ later, last, ?_, ends, ?_, fun action member => ?_⟩
      · rw [run_append, done]
        exact went
      · rw [shownLater, shownFirst, List.filterMap_append, List.append_assoc]
      · rcases List.mem_append.mp member with early | late
        · exact ⟨event, List.mem_cons_self, linked action early⟩
        · obtain ⟨cause, among, linked⟩ := linkedLater action late
          exact ⟨cause, List.mem_cons_of_mem event among, linked⟩

end LowPing.Library.Machine
