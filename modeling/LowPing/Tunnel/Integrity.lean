import LowPing.Bridge.Datagrams
import LowPing.Tunnel.Direction

/-!
# Datagrams through a tunnel

The two ends of UDP tunnels with the buffers their datagrams pass through. The client's listener
reads into 64 KiB, which every datagram fits, and a payload that is too long for a frame is refused
as a whole. The bridge's drain task reads into a buffer of one frame's payload, so what a
destination sends is cut there. Frames of an endpoint opened by itself, and sessions inserted under
a key that is still named for another AEAD key, mix the datagrams of different ends or tunnels.
-/

namespace LowPing.Tunnel

open LowPing.Bridge LowPing.Client Library.Machine

/-- Longest payload of a UDP datagram over IPv4. -/
def maxDatagram : Nat := 65507

/-- Size of the buffer a client listener reads into. -/
def listenerBuffer : Nat := 64 * 1024

/-- `UdpSocket::recv` into a buffer; the bytes that do not fit are discarded. -/
def recvInto (capacity : Nat) (datagram : Bytes) : Bytes := datagram.take capacity

/-- Clients and bridge with what their UDP sockets received. -/
structure UdpTunnels where
  /-- Both ends and the network. -/
  world : World
  /-- History: datagrams client listeners received, by the tunnel of their source. -/
  received : List (Nat × Bytes)
  /-- History: what destinations yielded to running drain tasks, by session. -/
  yielded : List (SessionId × Bytes)

/-- Nothing is open yet. -/
def UdpTunnels.start (clock : Instant) : UdpTunnels := ⟨.start clock, [], []⟩

/-- One step of the tunnels. -/
inductive TunnelEvent where
  /-- A listener receives a datagram from a source that has a tunnel, seals and sends it. -/
  | datagram (tunnel : Nat) (bytes : Bytes)
  /-- Any other step of an endpoint or of the network. -/
  | world (event : WorldEvent)

/-- A step of a tunnel without the listener's buffer. -/
def TunnelEvent.toWorld : TunnelEvent → WorldEvent
  | .datagram tunnel bytes => .clientSend tunnel (recvInto listenerBuffer bytes)
  | .world event => event

/-- What an event makes a destination yield, and the session it belongs to. -/
def World.yields (world : World) : WorldEvent → List (SessionId × Bytes)
  | .bridge (.drain task bytes) =>
    match world.bridge.drains[task]? with
    | some drain => [(drain.session, bytes)]
    | none => []
  | _ => []

/-- One step of the tunnels; a payload reaches `encrypt_frame` through a listener only. -/
def UdpTunnels.step (env : BridgeEnv) (text : TextCodec) (state : UdpTunnels) :
    TunnelEvent → Option UdpTunnels
  | .datagram tunnel bytes =>
    if bytes.length ≤ maxDatagram then
      (state.world.step env text (.clientSend tunnel (recvInto listenerBuffer bytes))).map
        fun world => { state with world, received := state.received ++ [(tunnel, bytes)] }
    else none
  | .world (.clientSend ..) => none
  | .world event => (state.world.step env text event).map fun world =>
      { state with world, yielded := state.yielded ++ state.world.yields event }

/-- A UDP destination yields datagrams of at most one frame's payload to its running drain task. -/
def yieldsFit (state : UdpTunnels) : TunnelEvent → Bool
  | .world (.bridge (.drain task bytes)) =>
    match state.world.bridge.drains[task]? with
    | some ⟨_, _, .udp _, true⟩ => decide (bytes.length ≤ maxPayloadLen)
    | _ => true
  | _ => true

/-- A session is inserted only where what its key names downstream has the same AEAD key. -/
def acceptsSameAead (state : UdpTunnels) : TunnelEvent → Bool
  | .world (.bridge event) => insertsSameAead state.world.bridge event
  | _ => true

/-- Bytes handed to a destination were received as one datagram by a client listener, for a tunnel
with the session's AEAD key. -/
def UdpTunnels.wholeUpstream (state : UdpTunnels) (session : SessionId) (bytes : Bytes) : Prop :=
  ∃ tunnel sender, (tunnel, bytes) ∈ state.received ∧
    state.world.tunnels[tunnel]? = some sender ∧
    state.world.bridge.aeadKeyOf session = some sender.tunnel.aeadKey

/-- Bytes sent to a local source were yielded as one datagram by the destination of a session with
the tunnel's AEAD key. -/
def UdpTunnels.wholeDownstream (state : UdpTunnels) (written : Nat × Bytes) : Prop :=
  ∃ session sender, (session, written.2) ∈ state.yielded ∧
    state.world.tunnels[written.1]? = some sender ∧
    state.world.bridge.aeadKeyOf session = some sender.tunnel.aeadKey

/-- What holds of the tunnels under the conditions. -/
structure Intact (state : UdpTunnels) : Prop where
  /-- Every opened payload was sealed on the other side. -/
  authentic : Authentic state.world
  /-- Packets downstream keep to their AEAD keys. -/
  homed : Homed state.world.bridge
  /-- Writes to UDP destinations are whole. -/
  whole : WholeWrites state.world.bridge
  /-- Every payload sealed upstream is a datagram received. -/
  sealed : ∀ made ∈ state.world.sealed, ∀ tunnel, made.direction = .upstream tunnel →
    (tunnel, made.payload) ∈ state.received
  /-- Every payload read downstream is a datagram yielded. -/
  read : ∀ session payload, .read session payload ∈ state.world.bridge.trace →
    (session, payload) ∈ state.yielded

section

variable {env : BridgeEnv} {text : TextCodec} {state next : UdpTunnels} {event : TunnelEvent}

/-- A step of the tunnels is a step of the world with more history. -/
theorem world_step (taken : state.step env text event = some next) :
    state.world.step env text event.toWorld = some next.world ∧
      state.received ⊆ next.received ∧ state.yielded ⊆ next.yielded := by
  cases event with
  | datagram tunnel bytes =>
    simp only [UdpTunnels.step] at taken
    split at taken
    · obtain ⟨world, stepped, rfl⟩ := Option.map_eq_some_iff.mp taken
      exact ⟨stepped, List.subset_append_left _ _, List.Subset.refl _⟩
    · contradiction
  | world event =>
    cases event with
    | clientSend => contradiction
    | _ =>
      obtain ⟨world, stepped, rfl⟩ := Option.map_eq_some_iff.mp taken
      exact ⟨stepped, List.Subset.refl _, List.subset_append_left _ _⟩

/-- A datagram fits the listener's buffer. -/
theorem recvInto_datagram {bytes : Bytes} (short : bytes.length ≤ maxDatagram) :
    recvInto listenerBuffer bytes = bytes := by
  have fits : maxDatagram ≤ listenerBuffer := by decide
  exact List.take_of_length_le (Nat.le_trans short fits)

/-- What the clients have sealed after a step: a payload sealed for a tunnel was a datagram. -/
theorem sealed_step (held : Intact state) (taken : state.step env text event = some next) :
    ∀ made ∈ next.world.sealed, ∀ tunnel, made.direction = .upstream tunnel →
      (tunnel, made.payload) ∈ next.received := by
  intro made member tunnel direction
  obtain ⟨stepped, received, _⟩ := world_step taken
  have old : made ∈ state.world.sealed → (tunnel, made.payload) ∈ next.received :=
    fun before => received (held.sealed made before tunnel direction)
  cases event with
  | datagram sending bytes =>
    simp only [UdpTunnels.step] at taken
    split at taken
    · rename_i short
      obtain ⟨world, sent, rfl⟩ := Option.map_eq_some_iff.mp taken
      rw [recvInto_datagram short, World.step] at sent
      split at sent
      · contradiction
      · rename_i sender present
        obtain rfl := Option.some.inj sent
        rcases List.mem_append.mp member with before | added
        · exact old before
        · unfold sentSeals at added
          split at added
          · obtain rfl := List.mem_singleton.mp added
            obtain rfl := Direction.upstream.inj direction
            exact List.mem_append_right _ List.mem_cons_self
          · contradiction
    · contradiction
  | world event =>
    generalize same : next.world = world at stepped member
    cases step_after stepped with
    | opened _ added header clientPubkey payload quiet =>
      rcases List.mem_append.mp member with before | new
      · exact old before
      · obtain rfl := List.mem_singleton.mp new
        contradiction
    | sent => contradiction
    | _ => exact old member

/-- One read yields the whole of a TCP chunk, and of a datagram that fits. -/
theorem readInto_whole {reader : DestReader} {bytes payload : Bytes}
    (filled : readInto reader bytes = some payload)
    (fits : ∀ socket, reader = .udp socket → bytes.length ≤ maxPayloadLen) : payload = bytes := by
  cases reader with
  | tcp socket =>
    simp only [readInto] at filled
    split at filled
    · exact (Option.some.inj filled).symm
    · contradiction
  | udp socket =>
    obtain rfl := Option.some.inj filled
    exact List.take_of_length_le (fits socket rfl)

/-- What was read downstream after a step: a payload read for a session was a datagram. -/
theorem read_step (held : Intact state) (fits : yieldsFit state event = true)
    (taken : state.step env text event = some next) :
    ∀ session payload, .read session payload ∈ next.world.bridge.trace →
      (session, payload) ∈ next.yielded := by
  intro session payload member
  obtain ⟨stepped, _, yielded⟩ := world_step taken
  have old : .read session payload ∈ state.world.bridge.trace → (session, payload) ∈ next.yielded :=
    fun before => yielded (held.read session payload before)
  generalize same : next.world = world at stepped member
  generalize inner : event.toWorld = worldEvent at stepped
  cases step_after stepped with
  | stepped bridgeEvent bridge moved =>
    have outer : event = .world (.bridge bridgeEvent) := by
      cases event with
      | datagram => contradiction
      | world event => exact congrArg TunnelEvent.world inner
    subst outer
    obtain ⟨outputs, grown, added⟩ := (step_footprint moved).trace
    rw [grown] at member
    rcases List.mem_append.mp member with before | new
    · exact old before
    · cases added with
      | none => contradiction
      | read task bytes key target reader filled running =>
        obtain ⟨rfl, rfl⟩ := Output.read.inj (List.mem_singleton.mp new)
        obtain ⟨_, _, _, payload, point, filled, rfl⟩ := drain_ok moved
        have drain := DrainTask.mk.inj (Option.some.inj (running.symm.trans point))
        obtain ⟨rfl, rfl, rfl, _⟩ := drain
        obtain ⟨_, rfl⟩ := Output.read.inj (List.cons.inj (List.append_cancel_left grown)).1
        have whole : payload = bytes :=
          readInto_whole filled fun socket udp => by
            subst udp
            simpa [yieldsFit, running] using fits
        obtain ⟨_, _, rfl⟩ := Option.map_eq_some_iff.mp taken
        rw [whole]
        refine List.mem_append_right _ ?_
        simp [World.yields, running]
      | reaped toDrop listed =>
        obtain ⟨key, _, target, _, impossible⟩ := mem_reapedOutputs new
        contradiction
      | _ =>
        have impossible := List.mem_singleton.mp new
        contradiction
  | _ => exact old member

/-- The bridge of the world steps or stays. -/
theorem bridge_after {world later : World} {event : WorldEvent}
    (taken : world.step env text event = some later) : later.bridge = world.bridge ∨
      ∃ inner, event = .bridge inner ∧ Bridge.step env world.bridge inner = some later.bridge := by
  cases step_after taken with
  | stepped inner bridge moved => exact .inr ⟨inner, rfl, moved⟩
  | _ => exact .inl rfl

/-- The tunnels stay intact while the AEAD is ideal, nothing is reflected, sessions keep to their
AEAD keys and datagrams fit. -/
theorem intact_step (laws : CryptoLaws env.crypto) (held : Intact state)
    (ideal : idealOpening env state.world event.toWorld = true)
    (apart : noReflection env state.world event.toWorld = true)
    (same : acceptsSameAead state event = true) (fits : yieldsFit state event = true)
    (taken : state.step env text event = some next) : Intact next := by
  obtain ⟨stepped, _, _⟩ := world_step taken
  have bridge : Homed next.world.bridge ∧ WholeWrites next.world.bridge := by
    rcases bridge_after stepped with kept | ⟨inner, running, moved⟩
    · rw [kept]
      exact ⟨held.homed, held.whole⟩
    · have checked : insertsSameAead state.world.bridge inner = true := by
        cases event with
        | datagram => contradiction
        | world event =>
          obtain rfl : event = .bridge inner := running
          exact same
      exact ⟨homed_step held.homed checked moved, wholeWrites_step held.whole moved⟩
  exact {
    authentic := authentic_step laws held.authentic ideal apart stepped
    homed := bridge.1
    whole := bridge.2
    sealed := sealed_step held taken
    read := read_step held fits taken }

/-- Nothing has been sent at the start. -/
theorem intact_start (clock : Instant) : Intact (.start clock) where
  authentic := ⟨nofun, nofun, nofun⟩
  homed := homed_start clock
  whole := wholeWrites_start clock
  sealed := nofun
  read := nofun

/-- A payload sealed upstream was sealed by a client. -/
theorem sealed_of_upstream {world : World} {made : Seal} {tunnel : Nat}
    (member : made ∈ world.seals) (direction : made.direction = .upstream tunnel) :
    made ∈ world.sealed := by
  rcases List.mem_append.mp member with client | bridge
  · exact client
  · obtain ⟨output, _, sealing⟩ := List.mem_filterMap.mp bridge
    cases output with
    | encrypted queued session header time =>
      obtain ⟨_, _, rfl⟩ := Option.map_eq_some_iff.mp sealing
      contradiction
    | _ => contradiction

/-- A payload sealed downstream was encrypted by the bridge. -/
theorem encrypted_of_downstream {world : World} {made : Seal} {session : SessionId}
    (held : Authentic world) (member : made ∈ world.seals)
    (direction : made.direction = .downstream session) :
    ∃ queued header time, .encrypted queued session header time ∈ world.bridge.trace ∧
      queued.packet.payload = made.payload := by
  rcases List.mem_append.mp member with client | bridge
  · have own := held.own made client
    rw [World.ownSeal, direction] at own
    contradiction
  · obtain ⟨output, recorded, sealing⟩ := List.mem_filterMap.mp bridge
    cases output with
    | encrypted queued target header time =>
      obtain ⟨_, _, rfl⟩ := Option.map_eq_some_iff.mp sealing
      obtain rfl := Direction.downstream.inj direction
      exact ⟨queued, header, time, recorded, rfl⟩
    | _ => contradiction

/-- In every run with an ideal AEAD in which no side opens a frame it sealed itself, sessions are
inserted only where what their key names has the same AEAD key and UDP destinations yield no more
than one frame's payload at a time, every UDP destination is handed whole datagrams of its client
and every local source is sent whole datagrams of its destination. -/
theorem datagrams_whole (laws : CryptoLaws env.crypto) {clock : Instant}
    {events : List TunnelEvent} {final : UdpTunnels}
    (ideal : Along (UdpTunnels.step env text)
      (fun state event => idealOpening env state.world event.toWorld = true) (.start clock) events)
    (apart : Along (UdpTunnels.step env text)
      (fun state event => noReflection env state.world event.toWorld = true) (.start clock) events)
    (same : Along (UdpTunnels.step env text)
      (fun state event => acceptsSameAead state event = true) (.start clock) events)
    (fits : Along (UdpTunnels.step env text)
      (fun state event => yieldsFit state event = true) (.start clock) events)
    (reached : run (UdpTunnels.step env text) (.start clock) events = some final) :
    (∀ session socket bytes time,
      .delivered session socket bytes time ∈ final.world.bridge.trace →
      final.world.bridge.isUdp session = true → final.wholeUpstream session bytes) ∧
    ∀ written ∈ final.world.locals, final.wholeDownstream written := by
  have conditions := along_and (along_and ideal apart) (along_and same fits)
  have held : Intact final := run_invariant (fun _ _ _ held met taken =>
    intact_step laws held met.1.1 met.1.2 met.2.1 met.2.2 taken) (intact_start clock) conditions
    reached
  constructor
  · intro session socket bytes time delivered udp
    obtain ⟨_, whole⟩ := held.whole.delivered session socket bytes time delivered
    obtain ⟨key, header, called, written⟩ := whole udp
    obtain ⟨cell, tunnel, sender, present, opened, shared, made, member, direction, _, rfl⟩ :=
      held.authentic.upstream _ written
    refine ⟨tunnel, sender, ?_, opened, ?_⟩
    · exact held.sealed made (sealed_of_upstream member direction) tunnel direction
    · rw [BridgeState.aeadKeyOf, present, Option.map_some, shared]
  · intro written member
    obtain ⟨cell, session, sender, opened, present, shared, made, sealing, direction, _, payload⟩ :=
      held.authentic.downstream written member
    obtain ⟨queued, header, time, recorded, plain⟩ :=
      encrypted_of_downstream held.authentic sealing direction
    obtain ⟨read, aeadKey, own, target⟩ :=
      held.homed.encrypted queued session header time recorded
    refine ⟨queued.origin, sender, ?_, opened, ?_⟩
    · rw [← payload, ← plain]
      exact held.read queued.origin queued.packet.payload read
    · rw [BridgeState.aeadKeyOf, present, Option.map_some, shared] at target
      rw [own, target]

end

/-! ## Sample runs -/

/-- A tunnel is accepted, a datagram of it goes up and one of its destination comes back. -/
def datagramRoundTrip (yielded : Bytes) : List TunnelEvent :=
  worldAccept.map .world ++ [.datagram 0 [1, 2],
    .world (.bridge (.receive (samplePeer 1) (firstFrame 0 [1, 2]))),
    .world (.bridge (.poll 1 1000)), .world (.bridge (.lock 1)), .world (.bridge (.writeDone 1)),
    .world (.bridge (.drain 0 yielded)), .world (.bridge .senderReceive),
    .world (.bridge .senderLookup), .world (.bridge .senderEncrypt),
    .world (.bridge (.senderSend true)),
    .world (.clientReceive 0 (firstReply (recvInto maxPayloadLen yielded)))]

/-- A datagram of three bytes comes back whole. -/
theorem shortDatagram_whole : ∃ final,
    run (UdpTunnels.step (sampleEnv 8) standardText) (.start 0) (datagramRoundTrip [1, 2, 3]) =
      some final ∧
    (∀ session socket bytes time,
      .delivered session socket bytes time ∈ final.world.bridge.trace →
      final.world.bridge.isUdp session = true → final.wholeUpstream session bytes) ∧
    ∀ written ∈ final.world.locals, final.wholeDownstream written := by
  have sample : (run (UdpTunnels.step (sampleEnv 8) standardText) (.start 0)
        (datagramRoundTrip [1, 2, 3])).isSome = true ∧
      Along (UdpTunnels.step (sampleEnv 8) standardText) (fun state event =>
        (idealOpening (sampleEnv 8) state.world event.toWorld = true ∧
          noReflection (sampleEnv 8) state.world event.toWorld = true) ∧
        acceptsSameAead state event = true ∧ yieldsFit state event = true)
        (.start 0) (datagramRoundTrip [1, 2, 3]) := by
    decide +kernel
  obtain ⟨completes, conditions⟩ := sample
  obtain ⟨final, reached⟩ := Option.isSome_iff_exists.mp completes
  exact ⟨final, reached, datagrams_whole (sampleEnv_laws 8)
    (along_imp (fun _ _ met => met.1.1) conditions) (along_imp (fun _ _ met => met.1.2) conditions)
    (along_imp (fun _ _ met => met.2.1) conditions) (along_imp (fun _ _ met => met.2.2) conditions)
    reached⟩

/-- A datagram one byte longer than a frame's payload. -/
def longDatagram : Bytes := List.replicate 1201 7

/-- Some run under an ideal AEAD sends a local source a datagram that no destination yielded. -/
theorem long_datagram_cut : ¬ ∀ (env : BridgeEnv) (text : TextCodec) (clock : Instant)
    (events : List TunnelEvent) (final : UdpTunnels), CryptoLaws env.crypto →
    Along (UdpTunnels.step env text)
      (fun state event => idealOpening env state.world event.toWorld = true) (.start clock) events →
    run (UdpTunnels.step env text) (.start clock) events = some final →
    (∀ session socket bytes time,
      .delivered session socket bytes time ∈ final.world.bridge.trace →
      final.world.bridge.isUdp session = true → final.wholeUpstream session bytes) ∧
    ∀ written ∈ final.world.locals, final.wholeDownstream written := by
  intro whole
  have sample : ((run (UdpTunnels.step (sampleEnv 8) standardText) (.start 0)
        (datagramRoundTrip longDatagram)).map fun final => (final.world.locals, final.yielded)) =
        some ([(0, List.replicate 1200 7)], [(0, longDatagram)]) ∧
      Along (UdpTunnels.step (sampleEnv 8) standardText) (fun state event =>
        idealOpening (sampleEnv 8) state.world event.toWorld = true) (.start 0)
        (datagramRoundTrip longDatagram) := by
    decide +kernel
  obtain ⟨outcome, ideal⟩ := sample
  obtain ⟨final, reached, records⟩ := Option.map_eq_some_iff.mp outcome
  obtain ⟨locals, yielded⟩ := Prod.mk.inj records
  have written : (0, List.replicate 1200 7) ∈ final.world.locals := by
    rw [locals]
    exact List.mem_cons_self
  obtain ⟨session, _, member, _⟩ := (whole (sampleEnv 8) standardText 0
    (datagramRoundTrip longDatagram) final (sampleEnv_laws 8) ideal reached).2 _ written
  rw [yielded, List.mem_singleton] at member
  have lengths : (List.replicate 1200 7 : Bytes).length = longDatagram.length :=
    congrArg List.length (Prod.mk.inj member).2
  rw [longDatagram, List.length_replicate, List.length_replicate] at lengths
  exact absurd lengths (by decide)

end LowPing.Tunnel
