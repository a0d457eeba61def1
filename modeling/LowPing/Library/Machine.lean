import Mathlib.Data.List.Induction
import Mathlib.Logic.Basic

/-!
# Runs of a partial step function

A machine is a function `step` that refuses an event by returning `none`. A schedule is the list
of events taken, so a statement about every schedule is a statement about every list. `run`
executes a schedule; `Along` says that a condition on a state and its next event holds at each
step of it. An invariant kept by every step that meets a condition holds after every run that
meets it (`run_invariant`), and turns one condition along a run into another
(`along_of_invariant`). An invariant may also speak of the events taken (`run_history_invariant`).
-/

namespace LowPing.Library.Machine

variable {σ ε : Type*} (step : σ → ε → Option σ)

/-- Execute a schedule; one refused event refuses the whole run. -/
def run : σ → List ε → Option σ
  | state, [] => some state
  | state, event :: events => (step state event).bind fun next => run next events

/-- A condition on the state before each step and the event taken there. -/
def Along (condition : σ → ε → Prop) : σ → List ε → Prop
  | _, [] => True
  | state, event :: events =>
    condition state event ∧ ∀ next, step state event = some next → Along condition next events

instance decidableAlong (condition : σ → ε → Prop)
    [decision : ∀ state event, Decidable (condition state event)] :
    ∀ state events, Decidable (Along step condition state events)
  | _, [] => isTrue trivial
  | state, event :: events =>
    match taken : step state event with
    | none => decidable_of_iff (condition state event)
        ⟨fun met => ⟨met, fun next found => by simp [taken] at found⟩, fun met => met.1⟩
    | some next =>
      have := decidableAlong condition next events
      decidable_of_iff (condition state event ∧ Along step condition next events)
        ⟨fun met => ⟨met.1, fun other found => by
          obtain rfl := Option.some.inj (taken.symm.trans found)
          exact met.2⟩, fun met => ⟨met.1, met.2 next taken⟩⟩

variable {step}

/-- A run goes on from where its first event leads. -/
theorem run_cons {state next : σ} {event : ε} (taken : step state event = some next)
    (events : List ε) : run step state (event :: events) = run step next events := by
  rw [run, taken]
  rfl

/-- A run of two schedules in sequence stops at the state between them. -/
theorem run_append (state : σ) (first second : List ε) :
    run step state (first ++ second) = (run step state first).bind (run step · second) := by
  induction first generalizing state with
  | nil => rfl
  | cons event events ih =>
    cases taken : step state event with
    | none => simp [run, taken]
    | some next => simp [run, taken, ih]

/-- The last event of a run is taken from where the others lead. -/
theorem run_concat (state : σ) (events : List ε) (event : ε) :
    run step state (events ++ [event]) = (run step state events).bind (step · event) := by
  rw [run_append]
  congr 1
  funext middle
  cases taken : step middle event <;> simp [run, taken]

/-- A condition along a run implies a weaker one. -/
theorem along_imp {condition consequence : σ → ε → Prop}
    (implied : ∀ state event, condition state event → consequence state event) {state : σ}
    {events : List ε} (met : Along step condition state events) :
    Along step consequence state events := by
  induction events generalizing state with
  | nil => trivial
  | cons event events ih =>
    exact ⟨implied state event met.1, fun next taken => ih (met.2 next taken)⟩

/-- Two conditions along a run hold together at each step. -/
theorem along_and {left right : σ → ε → Prop} {state : σ} {events : List ε}
    (first : Along step left state events) (second : Along step right state events) :
    Along step (fun state event => left state event ∧ right state event) state events := by
  induction events generalizing state with
  | nil => trivial
  | cons event events ih =>
    exact ⟨⟨first.1, second.1⟩, fun next taken => ih (first.2 next taken) (second.2 next taken)⟩

/-- A condition along two schedules in sequence holds along each. -/
theorem along_append {condition : σ → ε → Prop} {state : σ} {first second : List ε}
    (met : Along step condition state (first ++ second)) :
    Along step condition state first ∧
      ∀ middle, run step state first = some middle → Along step condition middle second := by
  induction first generalizing state with
  | nil =>
    refine ⟨trivial, fun middle reached => ?_⟩
    obtain rfl := Option.some.inj reached
    exact met
  | cons event events ih =>
    refine ⟨⟨met.1, fun next taken => (ih (met.2 next taken)).1⟩, fun middle reached => ?_⟩
    cases taken : step state event with
    | none => simp [run, taken] at reached
    | some next =>
      have rest : run step next events = some middle := (run_cons taken events).symm.trans reached
      exact (ih (met.2 next taken)).2 middle rest

/-- What every step that meets the condition keeps is kept by every run that meets it. -/
theorem run_invariant {condition : σ → ε → Prop} {invariant : σ → Prop}
    (kept : ∀ state event next, invariant state → condition state event →
      step state event = some next → invariant next)
    {state final : σ} {events : List ε} (initially : invariant state)
    (met : Along step condition state events) (reached : run step state events = some final) :
    invariant final := by
  induction events generalizing state with
  | nil =>
    obtain rfl := Option.some.inj reached
    exact initially
  | cons event events ih =>
    cases taken : step state event with
    | none => simp [run, taken] at reached
    | some next =>
      have rest : run step next events = some final := (run_cons taken events).symm.trans reached
      exact ih (kept state event next initially met.1 taken) (met.2 next taken) rest

/-- Every run meets the trivial condition. -/
theorem along_trivial (state : σ) (events : List ε) :
    Along step (fun _ _ => True) state events := by
  induction events generalizing state with
  | nil => trivial
  | cons event events ih => exact ⟨trivial, fun next _ => ih next⟩

/-- What every step keeps is kept by every run. -/
theorem run_invariant_always {invariant : σ → Prop}
    (kept : ∀ state event next, invariant state → step state event = some next → invariant next)
    {state final : σ} {events : List ε} (initially : invariant state)
    (reached : run step state events = some final) : invariant final :=
  run_invariant (fun state event next held _ => kept state event next held) initially
    (along_trivial state events) reached

/-- What every step keeps, of the events taken so far and the state they lead to, holds of every
run. -/
theorem run_history_invariant {invariant : List ε → σ → Prop}
    (kept : ∀ past state event next, invariant past state → step state event = some next →
      invariant (past ++ [event]) next)
    {start final : σ} {events : List ε} (initially : invariant [] start)
    (reached : run step start events = some final) : invariant events final := by
  induction events using List.reverseRecOn generalizing final with
  | nil =>
    obtain rfl := Option.some.inj reached
    exact initially
  | append_singleton past event ih =>
    rw [run_concat] at reached
    obtain ⟨state, before, taken⟩ := Option.bind_eq_some_iff.mp reached
    exact kept past state event final (ih before) taken

/-- Where a condition on a step says exactly when the step keeps a property, it holds along a run
just when every state on the way has the property. -/
theorem along_iff_reached {condition : σ → ε → Prop} {invariant property : σ → Prop}
    (kept : ∀ state event next, invariant state → step state event = some next → invariant next)
    (exact : ∀ state event next, invariant state → property state →
      step state event = some next → (condition state event ↔ property next))
    {start final : σ} {events : List ε} (held : invariant start) (initially : property start)
    (reached : run step start events = some final) :
    Along step condition start events ↔
      ∀ past middle, past <+: events → run step start past = some middle → property middle := by
  induction events generalizing start with
  | nil =>
    refine ⟨fun _ past middle early way => ?_, fun _ => trivial⟩
    rw [List.prefix_nil] at early
    subst early
    obtain rfl := Option.some.inj way
    exact initially
  | cons event events ih =>
    cases taken : step start event with
    | none => simp [run, taken] at reached
    | some next =>
      have rest : run step next events = some final := (run_cons taken events).symm.trans reached
      have heldNext : invariant next := kept start event next held taken
      have decides := exact start event next held initially taken
      constructor
      · intro met past middle early way
        have afterwards := (ih heldNext (decides.mp met.1) rest).mp (met.2 next taken)
        cases past with
        | nil =>
          obtain rfl := Option.some.inj way
          exact initially
        | cons first past =>
          obtain ⟨rfl, shorter⟩ := List.cons_prefix_cons.mp early
          exact afterwards past middle shorter (by simpa [run, taken] using way)
      · intro always
        have first : [event] <+: event :: events := List.cons_prefix_cons.mpr ⟨rfl, List.nil_prefix⟩
        have good : property next := always [event] next first (by simp [run, taken])
        refine ⟨decides.mpr good, fun other found => ?_⟩
        obtain rfl := Option.some.inj (taken.symm.trans found)
        refine (ih heldNext good rest).mpr fun past middle early way => ?_
        exact always (event :: past) middle (List.cons_prefix_cons.mpr ⟨rfl, early⟩)
          (by simpa [run, taken] using way)

end LowPing.Library.Machine
