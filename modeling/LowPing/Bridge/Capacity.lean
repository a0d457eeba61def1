import LowPing.Library.Machine
import LowPing.Library.Table
import LowPing.Library.Update
import LowPing.Bridge.Footprint
import LowPing.Tunnel.Handshake

/-!
# The session cap

`accept_new_session` compares the table's size with `max_sessions` before it awaits the
destination and inserts afterwards without looking again. What bounds the table is therefore the
number of entries plus the number of accepts still under way: a run stays within the cap when every
SYN is admitted only while that sum leaves room.
-/

namespace LowPing.Bridge

open Library Library.Machine LowPing.Tunnel

variable {env : BridgeEnv} {state next : BridgeState} {event : Event}

/-- Whether a task is an accept whose session is not in the table yet. -/
def PacketTask.accepting (point : PacketTask) : Bool := point.acceptKey.isSome

/-- Number of accepts between the table check and the insert. -/
def BridgeState.pendingAccepts (state : BridgeState) : Nat :=
  state.tasks.countP PacketTask.accepting

/-- Entries and pending accepts together leave room for one more session. -/
def BridgeState.hasRoom (env : BridgeEnv) (state : BridgeState) : Bool :=
  decide (state.sessionCount + state.pendingAccepts < env.config.maxSessions)

/-- At the first poll of an admissible SYN, either the table is full already or the pending accepts
leave room too. -/
def admitsWithRoom (env : BridgeEnv) (state : BridgeState) : Event → Bool
  | .poll task nowUnix =>
    match state.tasks[task]? with
    | some (.spawned _ pkt) => !admissible env nowUnix pkt ||
        decide (env.config.maxSessions ≤ state.sessionCount) || state.hasRoom env
    | _ => true
  | _ => true

/-- The cap together with everything that may still be inserted. -/
def WithinCap (env : BridgeEnv) (state : BridgeState) : Prop :=
  state.sessionCount + state.pendingAccepts ≤ env.config.maxSessions

/-- Only an insert lengthens the table. -/
theorem sessionCount_step (taken : step env state event = some next) :
    (∃ task, event = .insert task) ∨ next.sessionCount ≤ state.sessionCount := by
  have after := (step_footprint taken).sessions
  unfold BridgeState.sessionCount
  generalize next.sessions = sessions at after ⊢
  cases after with
  | kept => exact .inr (Nat.le_refl _)
  | inserted task key session present => exact .inl ⟨task, rfl⟩
  | removed toDrop listed => exact .inr (Table.length_eraseAll_le state.sessions toDrop)

/-- Only an admitted SYN adds a pending accept. -/
theorem accepting_move {task : Nat} {before after : PacketTask}
    (move : TaskMove env state task event before after) :
    after.accepting.toNat ≤ before.accepting.toNat ∨
      ∃ nowUnix peer pkt, event = .poll task nowUnix ∧ before = .spawned peer pkt ∧
        admissible env nowUnix pkt = true ∧ state.sessionCount < env.config.maxSessions := by
  cases accepts : after.acceptKey with
  | none =>
    left
    simp only [PacketTask.accepting, accepts, Option.isSome_none, Bool.toNat_false]
    exact Nat.zero_le _
  | some key =>
    rcases acceptKey_move move accepts with same | ⟨nowUnix, pkt, _, polled, spawned, _, _, passes,
      fits⟩
    · left
      simp only [PacketTask.accepting, accepts, same]
      exact Nat.le_refl _
    · exact .inr ⟨nowUnix, key.clientAddr, pkt, polled, spawned, passes, fits⟩

/-- A step that admits only with room keeps entries and pending accepts within the cap. -/
theorem withinCap_step (held : WithinCap env state) (room : admitsWithRoom env state event = true)
    (taken : step env state event = some next) : WithinCap env next := by
  unfold WithinCap at held ⊢
  rcases sessionCount_step taken with ⟨task, rfl⟩ | shrunk
  · obtain ⟨key, session, point, _, rfl⟩ := insert_ok taken
    have inserted := Table.length_insert_le state.sessions key state.cells.length
    have counted := Update.countP_set_add PacketTask.accepting point (.returned none)
    simp only [BridgeState.sessionCount, BridgeState.pendingAccepts] at held ⊢
    simp only [PacketTask.accepting, PacketTask.acceptKey, Option.isSome_some, Option.isSome_none,
      Bool.toNat_true, Bool.toNat_false] at counted
    omega
  · have after := (step_footprint taken).tasks
    have pending : next.pendingAccepts = next.tasks.countP PacketTask.accepting := rfl
    generalize next.tasks = tasks at after pending
    cases after with
    | kept =>
      have same : next.pendingAccepts = state.pendingAccepts := pending
      omega
    | arrived peer pkt =>
      have same : next.pendingAccepts = state.pendingAccepts := by
        rw [pending, List.countP_append]
        rfl
      omega
    | moved event task before after present move =>
      have counted := Update.countP_set_add PacketTask.accepting present after
      rw [← pending] at counted
      have counter : state.pendingAccepts = state.tasks.countP PacketTask.accepting := rfl
      rcases accepting_move move with ended | ⟨nowUnix, peer, pkt, rfl, rfl, passes, fits⟩
      · omega
      · have roomy : state.sessionCount + state.pendingAccepts < env.config.maxSessions := by
          simpa [admitsWithRoom, present, passes, Nat.not_le.mpr fits, BridgeState.hasRoom]
            using room
        have one : after.accepting.toNat ≤ 1 := Bool.toNat_le _
        omega

/-- In every run that admits SYNs only while entries and pending accepts leave room, the session
table never exceeds `max_sessions`. -/
theorem sessions_within_cap {clock : Instant} {events : List Event} {final : BridgeState}
    (room : Along (step env) (fun state event => admitsWithRoom env state event = true)
      (.start clock) events)
    (reached : run (step env) (.start clock) events = some final) :
    final.sessionCount ≤ env.config.maxSessions := by
  have initially : WithinCap env (.start clock) := Nat.zero_le _
  have held : WithinCap env final :=
    run_invariant (fun state event next held room taken => withinCap_step held room taken)
      initially room reached
  unfold WithinCap at held
  omega

/-- Two SYNs from two clients, the second polled after the first is in the table. -/
def separateAccepts : List Event :=
  let syn := (sampleTunnel 1 .udp 5).2
  sampleAccept 0 (samplePeer 1) syn ++ [.receive (samplePeer 2) syn, .poll 1 1000]

/-- A full table refuses the second SYN. -/
theorem separateAccepts_within_cap :
    ∃ final, run (step (sampleEnv 1)) (.start 0) separateAccepts = some final ∧
      final.sessionCount ≤ 1 := by
  have sample : (run (step (sampleEnv 1)) (.start 0) separateAccepts).isSome = true ∧
      Along (step (sampleEnv 1))
        (fun state event => admitsWithRoom (sampleEnv 1) state event = true) (.start 0)
        separateAccepts := by
    simp only [separateAccepts, sampleTunnel_eq]
    decide +kernel
  obtain ⟨final, reached⟩ := Option.isSome_iff_exists.mp sample.1
  exact ⟨final, reached, sessions_within_cap sample.2 reached⟩

/-- Two SYNs, both polled before either destination is open. -/
def concurrentAccepts : List Event :=
  let syn := (sampleTunnel 1 .udp 5).2
  [.receive (samplePeer 1) syn, .receive (samplePeer 2) syn, .poll 0 1000, .poll 1 1000,
    .connected 0, .connected 1, .insert 0, .insert 1]

/-- Some run takes the table over the cap. -/
theorem sessions_exceed_cap : ¬ ∀ (env : BridgeEnv) (clock : Instant) (events : List Event)
    (final : BridgeState), run (step env) (.start clock) events = some final →
      final.sessionCount ≤ env.config.maxSessions := by
  intro capped
  have overfull : ((run (step (sampleEnv 1)) (.start 0) concurrentAccepts).map
      BridgeState.sessionCount) = some 2 := by
    simp only [concurrentAccepts, sampleTunnel_eq]
    decide +kernel
  obtain ⟨final, reached, count⟩ := Option.map_eq_some_iff.mp overfull
  have bound := capped (sampleEnv 1) 0 concurrentAccepts final reached
  rw [count] at bound
  exact absurd bound (by decide)

end LowPing.Bridge
