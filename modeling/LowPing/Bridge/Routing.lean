import LowPing.Library.Update
import LowPing.Bridge.Footprint

/-!
# What is on its way downstream

A drain task and the packets before their lookup name a session key, and each belongs to the
session its drain task was spawned for. Where a packet is carried and which pairs of key and session
are named, before and after one step.
-/

namespace LowPing.Bridge

open Library

variable {env : BridgeEnv} {state next : BridgeState} {event : Event}

/-- The packet in the sender's hands. -/
def SenderTask.packet : SenderTask → Option Queued
  | .receiving => none
  | .looking queued => some queued
  | .locking queued _ => some queued
  | .sending queued _ _ => some queued

/-- A packet is in the channel or in the sender's hands. -/
def BridgeState.carries (state : BridgeState) (queued : Queued) : Prop :=
  queued ∈ state.downstream ∨ state.sender.packet = some queued

/-- A running drain task or a packet before its lookup names a key on behalf of a session. -/
inductive BridgeState.names (state : BridgeState) (key : SessionKey) (origin : SessionId) :
    Prop where
  /-- A running drain task. -/
  | drain (task : DrainTask) (member : task ∈ state.drains) (running : task.active = true)
      (keyed : task.key = key) (spawned : task.session = origin)
  /-- A packet in the channel. -/
  | queued (queued : Queued) (member : queued ∈ state.downstream)
      (keyed : queued.packet.sessionKey = key) (read : queued.origin = origin)
  /-- A packet about to be looked up. -/
  | looking (queued : Queued) (point : state.sender = .looking queued)
      (keyed : queued.packet.sessionKey = key) (read : queued.origin = origin)

/-- A packet that is carried after a step was carried before it or has just been read. -/
theorem carries_step {queued : Queued} (taken : step env state event = some next)
    (carried : next.carries queued) :
    state.carries queued ∨ ∃ task bytes reader, event = .drain task bytes ∧
      state.drains[task]? = some ⟨queued.packet.sessionKey, queued.origin, reader, true⟩ ∧
      readInto reader bytes = some queued.packet.payload ∧
      next.trace = state.trace ++ [.read queued.origin queued.packet.payload] := by
  have footprint := (step_footprint taken).downstream
  unfold BridgeState.carries at carried
  generalize next.drains = drains at footprint
  generalize channel : next.downstream = downstream at footprint carried
  generalize next.sender = sender at footprint carried
  cases footprint with
  | kept => exact .inl carried
  | spawned => exact .inl carried
  | ended => exact .inl carried
  | queued task bytes key session reader payload running =>
    rcases carried with member | held
    · rcases List.mem_append.mp member with before | added
      · exact .inl (.inl before)
      · obtain rfl := List.mem_singleton.mp added
        obtain ⟨other, target, source, filled, point, into, rfl⟩ := drain_ok taken
        have same := Option.some.inj (running.symm.trans point)
        simp only [DrainTask.mk.injEq, and_true] at same
        obtain ⟨rfl, rfl, rfl⟩ := same
        have payloads := List.append_cancel_left channel
        simp only [List.cons.injEq, Queued.mk.injEq, DownstreamPacket.mk.injEq, and_true,
          true_and] at payloads
        subst payloads
        exact .inr ⟨task, bytes, reader, rfl, running, into, rfl⟩
    · exact .inl (.inr held)
  | received head later idle first =>
    rcases carried with member | held
    · exact .inl (.inl (first ▸ List.mem_cons_of_mem head member))
    · obtain rfl := Option.some.inj held
      exact .inl (.inl (first ▸ List.mem_cons_self))
  | found held session point live =>
    rcases carried with member | here
    · exact .inl (.inl member)
    · refine .inl (.inr ?_)
      rw [point]
      exact here
  | encrypted held session wire point =>
    rcases carried with member | here
    · exact .inl (.inl member)
    · refine .inl (.inr ?_)
      rw [point]
      exact here
  | finished =>
    rcases carried with member | none
    · exact .inl (.inl member)
    · contradiction

/-- A pair that is named after a step was named before it or belongs to a session just inserted. -/
theorem names_step {key : SessionKey} {origin : SessionId}
    (taken : step env state event = some next) (named : next.names key origin) :
    state.names key origin ∨ ∃ task created, event = .insert task ∧
      state.tasks[task]? = some (.inserting key created) ∧ origin = state.cells.length := by
  have footprint := (step_footprint taken).downstream
  rcases named with ⟨drain, member, running, rfl, rfl⟩ | ⟨queued, member, rfl, rfl⟩ |
    ⟨queued, point, rfl, rfl⟩
  · generalize next.drains = drains at footprint member
    generalize next.downstream = downstream at footprint
    generalize next.sender = sender at footprint
    cases footprint with
    | spawned task key created present =>
      rcases List.mem_append.mp member with before | added
      · exact .inl (.drain drain before running rfl rfl)
      · obtain rfl := List.mem_singleton.mp added
        exact .inr ⟨task, created, rfl, present, rfl⟩
    | ended task key session reader ended =>
      rcases List.mem_or_eq_of_mem_set member with before | rfl
      · exact .inl (.drain drain before running rfl rfl)
      · contradiction
    | _ => exact .inl (.drain drain member running rfl rfl)
  · generalize next.drains = drains at footprint
    generalize next.downstream = downstream at footprint member
    generalize next.sender = sender at footprint
    cases footprint with
    | queued task bytes key session reader payload source =>
      rcases List.mem_append.mp member with before | added
      · exact .inl (.queued queued before rfl rfl)
      · obtain rfl := List.mem_singleton.mp added
        exact .inl (.drain _ (List.mem_of_getElem? source) rfl rfl rfl)
    | received head later idle first =>
      exact .inl (.queued queued (first ▸ List.mem_cons_of_mem head member) rfl rfl)
    | _ => exact .inl (.queued queued member rfl rfl)
  · generalize next.drains = drains at footprint
    generalize next.downstream = downstream at footprint
    generalize next.sender = sender at footprint point
    cases footprint with
    | received head later idle first =>
      obtain rfl := SenderTask.looking.inj point
      exact .inl (.queued head (first ▸ List.mem_cons_self) rfl rfl)
    | found => contradiction
    | encrypted => contradiction
    | finished => contradiction
    | _ => exact .inl (.looking queued point rfl rfl)

end LowPing.Bridge
