import LowPing.Library.Checked
import LowPing.Capture.Control
import LowPing.Capture.Rewriting

/-!
# Reaping idle flows

`reap_flows` with the check of its subtraction, and the turn of the capture loop that calls it. An
instant is the time since the clock's origin and an instant minus a duration panics when the result
would lie before the origin. From where the cutoff is an instant, comparing stamps with it is
comparing ages with the idle period.
-/

namespace LowPing.Capture

open Library (Checked)
open Library.Checked (sub)

/-- Whether what was stamped at an instant is older than the idle period at a reading of the clock.
-/
def overdue (idle now stamp : Nat) : Bool := decide (idle < now - stamp)

/-- Stamps before the cutoff are those of ages over the idle period. -/
theorem lt_cutoff_iff {idle now : Nat} (late : idle ≤ now) (stamp : Nat) :
    stamp < now - idle ↔ overdue idle now stamp = true := by
  rw [overdue, decide_eq_true_iff]
  omega

/-- An entry that is not overdue was stamped within the idle period. -/
theorem not_overdue_iff {idle now stamp : Nat} :
    overdue idle now stamp = false ↔ now ≤ stamp + idle := by
  rw [overdue, decide_eq_false_iff_not]
  omega

/-- `reap_flows`, with the number of flows it dropped. -/
def reapFlowsChecked (flows : FlowTable) (idle : Nat) (now : Instant) :
    Checked (FlowTable × Nat) := do
  let cutoff ← sub now idle
  let before := flows.entries.length
  let kept := Library.Table.retain (fun _ entry => decide (entry.lastSeen ≥ cutoff)) flows
  let dropped ← sub before kept.entries.length
  pure (kept, dropped)

/-- `reap_flows` does not panic and removes exactly the flows whose age exceeds the idle period. -/
def FlowsReaped (flows : FlowTable) (idle : Nat) (now : Instant) : Prop :=
  ∃ kept dropped, reapFlowsChecked flows idle now = .ok (kept, dropped) ∧
    ∀ port entry, kept.lookup port = some entry ↔
      flows.lookup port = some entry ∧ overdue idle now entry.lastSeen = false

/-- Whether the capture loop reaps at a turn. -/
def reapDue (lastReap now : Instant) : Bool := decide (now - lastReap > 15 * 1000000000)

/-- A turn of the capture loop does not panic and removes exactly the flows it is to remove. -/
def Control.TurnReaped (control : Control) (thread : Nat) (lastReap now : Instant) : Prop :=
  ∃ next stage, control.turn thread now = some next ∧ next.threads[thread]? = some stage ∧
    stage.alive = true ∧ ∀ port entry, next.flows.lookup port = some entry ↔
      control.flows.lookup port = some entry ∧
        (reapDue lastReap now && overdue flowIdle now entry.lastSeen) = false

section

variable {flows : FlowTable} {idle : Nat} {now lastReap : Instant}

/-- Only the subtraction of the idle period can fail. -/
theorem reapFlowsChecked_eq (flows : FlowTable) (idle now : Nat) :
    reapFlowsChecked flows idle now = if idle ≤ now then
      let kept := Library.Table.retain (fun _ entry => decide (now - idle ≤ entry.lastSeen)) flows
      .ok (kept, flows.entries.length - kept.entries.length)
    else .error (.overflow now idle) := by
  unfold reapFlowsChecked
  by_cases late : idle ≤ now
  · have fewer : (Library.Table.retain
        (fun _ entry => decide (now - idle ≤ entry.lastSeen)) flows).entries.length ≤
        flows.entries.length := List.length_filter_le _ _
    rw [if_pos late, Checked.sub_eq late]
    simp only [bind, Except.bind, ge_iff_le, Checked.sub_eq fewer]
    rfl
  · rw [if_neg late, sub, if_neg late]
    rfl

/-- The reaping panics exactly when the cutoff lies before the clock's origin. -/
theorem reapFlows_none_iff : reapFlows flows idle now = none ↔ now < idle := by
  rw [reapFlows, ite_eq_left_iff]
  simp

/-- The checked reaping is the reaping. -/
theorem toOption_reapFlowsChecked (flows : FlowTable) (idle now : Nat) :
    (reapFlowsChecked flows idle now).toOption.map Prod.fst = reapFlows flows idle now := by
  rw [reapFlowsChecked_eq, reapFlows]
  by_cases late : idle ≤ now
  · rw [if_pos late, if_neg (Nat.not_lt.mpr late)]
    rfl
  · rw [if_neg late, if_pos (Nat.lt_of_not_le late)]
    rfl

/-- What is kept is what is not overdue. -/
theorem lookup_reaped_iff {kept : FlowTable} (reaped : reapFlows flows idle now = some kept)
    (port : UInt16) (entry : FlowEntry) : kept.lookup port = some entry ↔
      flows.lookup port = some entry ∧ overdue idle now entry.lastSeen = false := by
  rw [lookup_reaped reaped, not_overdue_iff]

/-- `reap_flows` does what it is for exactly when the clock has run for the idle period. -/
theorem flowsReaped_iff : FlowsReaped flows idle now ↔ idle ≤ now := by
  constructor
  · rintro ⟨kept, dropped, reaped, _⟩
    by_contra early
    rw [reapFlowsChecked_eq, if_neg early] at reaped
    contradiction
  · intro late
    have reaped := reapFlowsChecked_eq flows idle now
    rw [if_pos late] at reaped
    have plain := toOption_reapFlowsChecked flows idle now
    rw [reaped] at plain
    exact ⟨_, _, reaped, lookup_reaped_iff plain.symm⟩

/-- A turn of the capture loop does exactly when no reaping is due or the clock has run for the
idle period. -/
theorem turnReaped_iff {control : Control} {thread : Nat}
    (point : control.threads[thread]? = some (.looping lastReap)) (set : control.running = true) :
    control.TurnReaped thread lastReap now ↔
      (reapDue lastReap now = true → flowIdle ≤ now) := by
  have bound := (List.getElem?_eq_some_iff.mp point).1
  have here (stage : ThreadStage) :
      (control.setThread thread stage).threads[thread]? = some stage :=
    List.getElem?_set_self bound
  unfold Control.TurnReaped Control.turn
  rw [point]
  simp only [set, ↓reduceIte]
  by_cases due : now - lastReap > 15 * 1000000000
  · have reaps : reapDue lastReap now = true := decide_eq_true due
    simp only [if_pos due, reaps, Bool.true_and, forall_const]
    cases reaped : reapFlows control.flows flowIdle now with
    | none =>
      have early : ¬ flowIdle ≤ now := Nat.not_le.mpr (reapFlows_none_iff.mp reaped)
      refine ⟨?_, fun late => absurd late early⟩
      rintro ⟨next, stage, ended, present, alive, _⟩
      obtain rfl := Option.some.inj ended
      obtain rfl := Option.some.inj (present.symm.trans (here .exited))
      contradiction
    | some kept =>
      have late : flowIdle ≤ now := by
        by_contra early
        rw [reapFlows_none_iff.mpr (Nat.lt_of_not_le early)] at reaped
        contradiction
      refine ⟨fun _ => late, fun _ => ?_⟩
      exact ⟨_, .receiving now, rfl, here _, rfl, lookup_reaped_iff reaped⟩
  · have keeps : reapDue lastReap now = false := decide_eq_false due
    simp only [if_neg due, keeps, Bool.false_and, and_true, Bool.false_eq_true, false_implies,
      iff_true]
    exact ⟨_, .receiving lastReap, rfl, here _, rfl, fun _ _ => Iff.rfl⟩

end

end LowPing.Capture
