import LowPing.Library.Machine
import LowPing.Library.Table
import LowPing.Library.Update
import LowPing.Bridge.Routing
import LowPing.Tunnel.Handshake

/-!
# Downstream isolation

A drain task and the packets it queues name their session by key alone, and `downstream_sender`
encrypts for whatever session the key holds when it looks. Every payload goes out under the session
it was read for as long as a session is inserted only under a key that no running drain task and
no waiting packet still names.
-/

namespace LowPing.Bridge

open Library Library.Machine LowPing.Tunnel

variable {env : BridgeEnv} {state next : BridgeState} {event : Event}

/-- No running drain task and no packet before its lookup names a key. -/
def BridgeState.quietKey (state : BridgeState) (key : SessionKey) : Bool :=
  (state.drains.all fun drain => !drain.active || decide (drain.key ≠ key)) &&
    (state.downstream.all fun queued => decide (queued.packet.sessionKey ≠ key)) &&
    match state.sender with
    | .looking queued => decide (queued.packet.sessionKey ≠ key)
    | _ => true

/-- A session is inserted only under a quiet key. -/
def insertsQuietKey (state : BridgeState) : Event → Bool
  | .insert task =>
    match state.tasks[task]? with
    | some (.inserting key _) => state.quietKey key
    | _ => true
  | _ => true

/-- A payload of one session was encrypted or sent for that session, under the key that session was
accepted with. -/
def Output.isolated (trace : List Output) : Output → Prop
  | .encrypted queued session _ _ =>
    queued.origin = session ∧ .accepted queued.packet.sessionKey session ∈ trace
  | .sent queued session _ _ =>
    queued.origin = session ∧ .accepted queued.packet.sessionKey session ∈ trace
  | _ => True

/-- A session was accepted under a key, and no other session is live there now. -/
def BridgeState.owns (state : BridgeState) (key : SessionKey) (session : SessionId) : Prop :=
  .accepted key session ∈ state.trace ∧
    ∀ live, state.sessions.lookup key = some live → live = session

/-- Where the sender is, it works for the session its packet was read for. -/
def SenderTask.isolated (state : BridgeState) : SenderTask → Prop
  | .receiving => True
  | .looking queued => state.owns queued.packet.sessionKey queued.origin
  | .locking queued session =>
    queued.origin = session ∧ .accepted queued.packet.sessionKey session ∈ state.trace
  | .sending queued session _ =>
    queued.origin = session ∧ .accepted queued.packet.sessionKey session ∈ state.trace

/-- Everything on the way downstream names a key that its session owns. -/
structure Isolated (state : BridgeState) : Prop where
  /-- The running drain tasks. -/
  drains : ∀ drain ∈ state.drains, drain.active = true → state.owns drain.key drain.session
  /-- The channel. -/
  queued : ∀ queued ∈ state.downstream, state.owns queued.packet.sessionKey queued.origin
  /-- The sender. -/
  sender : state.sender.isolated state
  /-- What was encrypted and sent. -/
  trace : ∀ output ∈ state.trace, output.isolated state.trace

/-- Ownership survives every step that does not insert under the key. -/
theorem owns_step {key : SessionKey} {session : SessionId} (held : state.owns key session)
    (taken : step env state event = some next)
    (other : ∀ task created, event = .insert task →
      state.tasks[task]? ≠ some (.inserting key created)) : next.owns key session := by
  have footprint := step_footprint taken
  refine ⟨footprint.trace_grows.subset held.1, fun live found => ?_⟩
  have sessions := footprint.sessions
  generalize next.sessions = table at sessions found
  cases sessions with
  | kept => exact held.2 live found
  | removed toDrop listed => exact held.2 live (Table.lookup_of_lookup_eraseAll found).2
  | inserted task inserted created present =>
    have different : key ≠ inserted := by
      rintro rfl
      exact other task created rfl present
    rw [AList.lookup_insert_ne different] at found
    exact held.2 live found

/-- A quiet key is one that nothing names. -/
theorem quietKey_iff {key : SessionKey} :
    state.quietKey key = true ↔ ∀ origin, ¬ state.names key origin := by
  have parts : state.quietKey key = true ↔
      (∀ drain ∈ state.drains, drain.active = true → drain.key ≠ key) ∧
      (∀ queued ∈ state.downstream, queued.packet.sessionKey ≠ key) ∧
      ∀ queued, state.sender = .looking queued → queued.packet.sessionKey ≠ key := by
    unfold BridgeState.quietKey
    rw [Bool.and_eq_true, Bool.and_eq_true, and_assoc]
    refine and_congr ?_ (and_congr ?_ ?_)
    · simp [List.all_eq_true, or_iff_not_imp_left]
    · simp [List.all_eq_true]
    · cases state.sender <;> simp
  rw [parts]
  constructor
  · rintro ⟨drains, channel, looking⟩ origin (⟨drain, member, running, same, -⟩ |
      ⟨queued, member, same, -⟩ | ⟨queued, point, same, -⟩)
    · exact drains drain member running same
    · exact channel queued member same
    · exact looking queued point same
  · intro unnamed
    refine ⟨fun drain member running same => ?_, fun queued member same => ?_,
      fun queued point same => ?_⟩
    · exact unnamed drain.session (.drain drain member running same rfl)
    · exact unnamed queued.origin (.queued queued member same rfl)
    · exact unnamed queued.origin (.looking queued point same rfl)

/-- A step keeps the ownership of a key that something on the way downstream names. -/
theorem owns_kept {key : SessionKey} {session origin : SessionId} (held : state.owns key session)
    (quiet : insertsQuietKey state event = true) (taken : step env state event = some next)
    (named : state.names key origin) : next.owns key session := by
  refine owns_step held taken fun task created inserting present => ?_
  subst inserting
  have free : state.quietKey key = true := by
    simpa [insertsQuietKey, present] using quiet
  exact quietKey_iff.mp free origin named

/-- The drain task of a new session has a key that the session owns. -/
theorem owns_inserted {task : Nat} {key : SessionKey} {created : Session}
    (present : state.tasks[task]? = some (.inserting key created))
    (taken : step env state (.insert task) = some next) : next.owns key state.cells.length := by
  obtain ⟨other, session, point, _, rfl⟩ := insert_ok taken
  obtain ⟨rfl, rfl⟩ := PacketTask.inserting.inj (Option.some.inj (present.symm.trans point))
  refine ⟨List.mem_append_right _ List.mem_cons_self, fun live found => ?_⟩
  rw [AList.lookup_insert] at found
  exact (Option.some.inj found).symm

/-- Whatever names a key names one that its session owns. -/
theorem Isolated.owns_named {key : SessionKey} {origin : SessionId} (held : Isolated state)
    (named : state.names key origin) : state.owns key origin := by
  cases named with
  | drain drain member running keyed spawned =>
    rw [← keyed, ← spawned]
    exact held.drains drain member running
  | queued queued member keyed read =>
    rw [← keyed, ← read]
    exact held.queued queued member
  | looking queued point keyed read =>
    have before := held.sender
    rw [point] at before
    rw [← keyed, ← read]
    exact before

/-- After a step too, whatever names a key names one that its session owns. -/
theorem owns_named_step {key : SessionKey} {origin : SessionId} (held : Isolated state)
    (quiet : insertsQuietKey state event = true) (taken : step env state event = some next)
    (named : next.names key origin) : next.owns key origin := by
  rcases names_step taken named with before | ⟨task, created, rfl, present, rfl⟩
  · exact owns_kept (held.owns_named before) quiet taken before
  · exact owns_inserted present taken

/-- The sender keeps working for the session its packet was read for. -/
theorem sender_step (held : Isolated state) (quiet : insertsQuietKey state event = true)
    (taken : step env state event = some next) : next.sender.isolated next := by
  have grows := (step_footprint taken).trace_grows
  have footprint := (step_footprint taken).downstream
  have looks : ∀ queued, next.sender = .looking queued →
      next.owns queued.packet.sessionKey queued.origin :=
    fun queued point => owns_named_step held quiet taken (.looking queued point rfl rfl)
  generalize next.drains = drains at footprint
  generalize next.downstream = downstream at footprint
  generalize next.sender = sender at footprint looks ⊢
  have before := held.sender
  have same : (∀ queued, state.sender = .looking queued →
      next.owns queued.packet.sessionKey queued.origin) → state.sender.isolated next := by
    intro looks
    cases point : state.sender with
    | receiving => trivial
    | looking queued => exact looks queued point
    | locking queued session =>
      rw [point] at before
      exact ⟨before.1, grows.subset before.2⟩
    | sending queued session wire =>
      rw [point] at before
      exact ⟨before.1, grows.subset before.2⟩
  cases footprint with
  | received queued later idle channel => exact looks queued rfl
  | found queued session point live =>
    rw [point] at before
    obtain rfl := before.2 session live
    exact ⟨rfl, grows.subset before.1⟩
  | encrypted queued session wire point =>
    rw [point] at before
    exact ⟨before.1, grows.subset before.2⟩
  | finished => trivial
  | _ => exact same looks

/-- A longer history keeps every isolated output isolated. -/
theorem Output.isolated_mono {output : Output} {trace later : List Output}
    (held : output.isolated trace) (grows : trace ⊆ later) : output.isolated later := by
  cases output with
  | encrypted queued session header time => exact ⟨held.1, grows held.2⟩
  | sent queued session wire time => exact ⟨held.1, grows held.2⟩
  | _ => trivial

/-- Every new output is isolated when the sender is. -/
theorem outputs_isolated {outputs : List Output} (held : Isolated state)
    (added : OutputsAfter env state event outputs) :
    ∀ output ∈ outputs, output.isolated state.trace := by
  intro output member
  have before := held.sender
  cases added with
  | none => contradiction
  | encrypted queued session cell point present =>
    obtain rfl := List.mem_singleton.mp member
    rw [point] at before
    exact before
  | sent queued session wire point =>
    obtain rfl := List.mem_singleton.mp member
    rw [point] at before
    exact before
  | reaped toDrop listed =>
    obtain ⟨key, _, session, _, rfl⟩ := mem_reapedOutputs member
    trivial
  | _ =>
    obtain rfl := List.mem_singleton.mp member
    trivial

/-- A step that inserts only under quiet keys keeps the way downstream isolated. -/
theorem isolated_step (held : Isolated state) (quiet : insertsQuietKey state event = true)
    (taken : step env state event = some next) : Isolated next where
  drains drain member running :=
    owns_named_step held quiet taken (.drain drain member running rfl rfl)
  queued queued member := owns_named_step held quiet taken (.queued queued member rfl rfl)
  sender := sender_step held quiet taken
  trace := by
    have grows := (step_footprint taken).trace_grows
    obtain ⟨outputs, grown, added⟩ := (step_footprint taken).trace
    intro output member
    rw [grown] at member
    rcases List.mem_append.mp member with before | new
    · exact Output.isolated_mono (held.trace output before) grows.subset
    · exact Output.isolated_mono (outputs_isolated held added output new) grows.subset

/-- In every run that inserts sessions only under quiet keys, a payload read for one session is
encrypted and sent for that session only, under the key it was accepted with. -/
theorem downstream_isolated {clock : Instant} {events : List Event} {final : BridgeState}
    (quiet : Along (step env) (fun state event => insertsQuietKey state event = true)
      (.start clock) events)
    (reached : run (step env) (.start clock) events = some final) :
    ∀ output ∈ final.trace, output.isolated final.trace := by
  have initially : Isolated (.start clock) :=
    ⟨fun drain member => by contradiction, fun queued member => by contradiction, trivial,
      fun output member => by contradiction⟩
  exact (run_invariant (fun state event next held quiet taken => isolated_step held quiet taken)
    initially quiet reached).trace

/-- The session of the first client is reaped after its drain task ended; the client's next SYN
under the same key is accepted and answered. -/
def reapedThenAnswered : List Event :=
  firstAccept ++ [.drainEnd 0, .advance 301000000000, .reaperTick, .reaperScan sampleKey,
    .reaperScanned, .reaperRemove] ++ sampleAccept 1 (samplePeer 1) (sampleTunnel 2 .udp 5).2 ++
    [.drain 1 [1, 2, 3], .senderReceive, .senderLookup, .senderEncrypt, .senderSend true]

/-- Both payloads of the sample run stay with their sessions. -/
theorem reapedThenAnswered_isolated :
    ∃ final, run (step (sampleEnv 8)) (.start 0) reapedThenAnswered = some final ∧
      ∀ output ∈ final.trace, output.isolated final.trace := by
  have sample : (run (step (sampleEnv 8)) (.start 0) reapedThenAnswered).isSome = true ∧
      Along (step (sampleEnv 8)) (fun state event => insertsQuietKey state event = true)
        (.start 0) reapedThenAnswered := by
    simp only [reapedThenAnswered, firstAccept, sampleTunnel_eq]
    decide +kernel
  obtain ⟨final, reached⟩ := Option.isSome_iff_exists.mp sample.1
  exact ⟨final, reached, downstream_isolated sample.2 reached⟩

/-- The SYN of a live session is replayed, then the first session's destination answers. -/
def answeredAfterReplay : List Event :=
  firstAccept ++ sampleAccept 1 (samplePeer 1) (sampleTunnel 1 .udp 5).2 ++
    [.drain 0 [1, 2, 3], .senderReceive, .senderLookup, .senderEncrypt, .senderSend true]

/-- The session a sent payload was read for, with the session it was sent for. -/
def Output.sentPair : Output → Option (SessionId × SessionId)
  | .sent queued session _ _ => some (queued.origin, session)
  | _ => none

/-- Some run sends a payload of one session as part of another. -/
theorem downstream_crosses_sessions : ¬ ∀ (env : BridgeEnv) (clock : Instant)
    (events : List Event) (final : BridgeState),
    run (step env) (.start clock) events = some final →
      ∀ output ∈ final.trace, output.isolated final.trace := by
  intro isolated
  have crossed : ((run (step (sampleEnv 8)) (.start 0) answeredAfterReplay).map
      fun final => final.trace.filterMap Output.sentPair) = some [(0, 1)] := by
    simp only [answeredAfterReplay, firstAccept, sampleTunnel_eq]
    decide +kernel
  obtain ⟨final, reached, pairs⟩ := Option.map_eq_some_iff.mp crossed
  have member : ((0, 1) : SessionId × SessionId) ∈ final.trace.filterMap Output.sentPair := by
    rw [pairs]
    exact List.mem_cons_self
  obtain ⟨output, recorded, pair⟩ := List.mem_filterMap.mp member
  have held := isolated (sampleEnv 8) 0 answeredAfterReplay final reached output recorded
  cases output with
  | sent queued session wire time =>
    obtain ⟨origin, target⟩ := Prod.mk.inj (Option.some.inj pair)
    have same : queued.origin = session := held.1
    rw [origin, target] at same
    exact absurd same (by decide)
  | _ => simp [Output.sentPair] at pair

end LowPing.Bridge
