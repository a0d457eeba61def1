import Mathlib.Algebra.GroupWithZero.Nat
import LowPing.Library.Machine

/-!
# Machines that settle

Some events of a machine come from outside and some are its own: they finish what others began. If
each of its own events lowers a measure, the machine comes to rest by itself after no more of them
than the measure says. If it also has an own event to take wherever it is not settled, it comes to
rest nowhere else, so nothing in it waits for ever for something else in it.
-/

namespace LowPing.Library.Machine

variable {σ ε : Type*}

/-- A machine whose own events lower a measure, and which can go on with favourable ones until it is
settled. -/
structure Settles (step : σ → ε → Option σ) (invariant settled : σ → Prop)
    (own favourable : ε → Bool) (measure : σ → Nat) : Prop where
  /-- Its own events keep the invariant. -/
  kept : ∀ state event next, invariant state → own event = true → step state event = some next →
    invariant next
  /-- Favourable events are events of its own. -/
  included : ∀ event, favourable event = true → own event = true
  /-- Its own events lower the measure. -/
  lowers : ∀ state event next, invariant state → own event = true →
    step state event = some next → measure next < measure state
  /-- Outside a settled state there is a favourable one. -/
  continues : ∀ state, invariant state → ¬ settled state →
    ∃ event next, favourable event = true ∧ step state event = some next
  /-- In a settled state there is none. -/
  rests : ∀ state event, invariant state → settled state → own event = true →
    step state event = none

variable {step : σ → ε → Option σ} {invariant settled : σ → Prop} {own favourable : ε → Bool}
  {measure : σ → Nat}

/-- A schedule of own events is no longer than the measure falls. -/
theorem Settles.length_le (settles : Settles step invariant settled own favourable measure)
    {state final : σ} {schedule : List ε} (held : invariant state)
    (belong : ∀ event ∈ schedule, own event = true)
    (reached : run step state schedule = some final) :
    schedule.length + measure final ≤ measure state := by
  induction schedule generalizing state with
  | nil =>
    obtain rfl := Option.some.inj reached
    exact Nat.le_of_eq (Nat.zero_add _)
  | cons event later ih =>
    cases taken : step state event with
    | none => simp [run, taken] at reached
    | some next =>
      have rest : run step next later = some final := (run_cons taken later).symm.trans reached
      have mine := belong event List.mem_cons_self
      have fell := settles.lowers state event next held mine taken
      have bound := ih (settles.kept state event next held mine taken)
        (fun one member => belong one (List.mem_cons_of_mem event member)) rest
      rw [List.length_cons]
      omega

/-- From anywhere a schedule of favourable events settles the machine. -/
theorem Settles.completes (settles : Settles step invariant settled own favourable measure)
    {state : σ} (held : invariant state) :
    ∃ schedule final, (∀ event ∈ schedule, favourable event = true) ∧
      run step state schedule = some final ∧ settled final := by
  induction work : measure state using Nat.strongRecOn generalizing state with
  | ind bound ih =>
    by_cases done : settled state
    · exact ⟨[], state, nofun, rfl, done⟩
    · obtain ⟨event, next, good, taken⟩ := settles.continues state held done
      have mine := settles.included event good
      have fell := settles.lowers state event next held mine taken
      rw [work] at fell
      obtain ⟨later, final, favoured, reached, rest⟩ :=
        ih (measure next) fell (settles.kept state event next held mine taken) rfl
      refine ⟨event :: later, final, fun one member => ?_, (run_cons taken later).trans reached,
        rest⟩
      rcases List.mem_cons.mp member with rfl | old
      · exact good
      · exact favoured one old

/-- A machine is settled exactly where it has no event of its own to take. -/
theorem Settles.settled_iff (settles : Settles step invariant settled own favourable measure)
    {state : σ} (held : invariant state) :
    settled state ↔ ∀ event, own event = true → step state event = none := by
  refine ⟨fun done event belongs => settles.rests state event held done belongs, fun stuck => ?_⟩
  by_contra busy
  obtain ⟨event, next, good, taken⟩ := settles.continues state held busy
  rw [stuck event (settles.included event good)] at taken
  contradiction

/-- A condition on events holds along every run that takes no others. -/
theorem along_of_forall {schedule : List ε} (belong : ∀ event ∈ schedule, own event = true)
    (state : σ) : Along step (fun _ event => own event = true) state schedule := by
  induction schedule generalizing state with
  | nil => trivial
  | cons event later ih =>
    exact ⟨belong event List.mem_cons_self,
      fun next _ => ih (fun one member => belong one (List.mem_cons_of_mem event member)) next⟩

/-- A machine left to itself: its own events come to an end, wherever they end it is settled, and
each schedule of them can be completed with favourable ones. -/
theorem Settles.left_alone (settles : Settles step invariant settled own favourable measure)
    {state final : σ} {schedule : List ε} (held : invariant state)
    (belong : ∀ event ∈ schedule, own event = true)
    (reached : run step state schedule = some final) :
    schedule.length + measure final ≤ measure state ∧
      (settled final ↔ ∀ event, own event = true → step final event = none) ∧
      ∃ rest last, (∀ event ∈ rest, favourable event = true) ∧
        run step state (schedule ++ rest) = some last ∧ settled last := by
  have still : invariant final :=
    run_invariant settles.kept held (along_of_forall belong state) reached
  obtain ⟨rest, last, good, onward, done⟩ := settles.completes still
  refine ⟨settles.length_le held belong reached, settles.settled_iff still, rest, last, good, ?_,
    done⟩
  rw [run_append, reached]
  exact onward

/-! ## Work of many tasks -/

/-- If each counted task has at most so much work and the others none, this bounds the sum. -/
theorem sum_map_le_countP {τ : Type*} {work : τ → Nat} {counted : τ → Bool} {most : Nat}
    (bound : ∀ task, work task ≤ most * (counted task).toNat) (tasks : List τ) :
    (tasks.map work).sum ≤ most * tasks.countP counted := by
  induction tasks with
  | nil => exact Nat.zero_le _
  | cons first rest ih =>
    have head := bound first
    rw [List.map_cons, List.sum_cons, List.countP_cons]
    cases side : counted first with
    | true =>
      rw [side, Bool.toNat_true] at head
      rw [if_pos rfl, Nat.mul_add]
      omega
    | false =>
      rw [side, Bool.toNat_false] at head
      rw [if_neg Bool.false_ne_true, Nat.add_zero]
      omega

/-- When one of many tasks moves, the sum of their work changes by what it exchanges. -/
theorem sum_map_set_add {τ : Type*} (work : τ → Nat) {tasks : List τ} {position : Nat} {before : τ}
    (present : tasks[position]? = some before) (after : τ) :
    ((tasks.set position after).map work).sum + work before =
      (tasks.map work).sum + work after := by
  induction tasks generalizing position with
  | nil => simp at present
  | cons first rest ih =>
    cases position with
    | zero =>
      obtain rfl : first = before := by simpa using present
      simp only [List.set_cons_zero, List.map_cons, List.sum_cons]
      omega
    | succ position =>
      have later : rest[position]? = some before := by simpa using present
      have tail := ih later
      simp only [List.set_cons_succ, List.map_cons, List.sum_cons]
      omega

end LowPing.Library.Machine
