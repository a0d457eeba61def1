import Mathlib.Data.List.Infix
import LowPing.Library.Machine
import LowPing.Bridge.Conservation
import LowPing.Bridge.Datagrams
import LowPing.Client.TcpRule
import LowPing.Tunnel.Handshake

/-!
# The downstream bytes of a TCP tunnel

A bridge with any number of sessions, one `handle_tcp_local` with its tunnel, and a network that
delivers what the bridge sends to the tunnel's socket once and in sending order. The receive task
ignores the header of what it opens, so the bytes it writes are the session's only because nobody
else's frames open under the tunnel's AEAD key.
-/

namespace LowPing.Tunnel

open LowPing.Bridge LowPing.Client Library.Machine

/-- A datagram of the bridge on its way to the tunnel's socket. -/
structure BridgeDatagram where
  /-- History: the session it was encrypted for. -/
  session : SessionId
  /-- History: the payload encrypted in it. -/
  payload : Bytes
  /-- The datagram. -/
  wire : Bytes
  deriving DecidableEq

/-- A TCP tunnel from the bridge to the local socket. -/
structure ReturnLink where
  /-- The bridge process. -/
  bridge : BridgeState
  /-- The tunnel's connection. -/
  connection : TcpConnection
  /-- Datagrams sent and not yet delivered, oldest first. -/
  inFlight : List BridgeDatagram

/-- The bridge has just started and the tunnel been opened. -/
def ReturnLink.start (clock : Instant) (tunnel : OpenedTunnel) : ReturnLink :=
  ⟨.start clock, tunnel.connection, []⟩

/-- One step of the bridge, the network or the connection. -/
inductive ReturnEvent where
  /-- The bridge takes a step; a `receive` brings any bytes from anywhere. -/
  | bridge (event : Event)
  /-- The oldest datagram arrives. -/
  | deliver
  /-- The connection takes any other step. -/
  | connection (event : ConnectionEvent)

/-- What a send puts on its way to a client address. -/
def emits (peer : SocketAddr) (state : BridgeState) : Event → List BridgeDatagram
  | .senderSend true =>
    match state.sender with
    | .sending queued session wire =>
      if queued.packet.sessionKey.clientAddr = peer then [⟨session, queued.packet.payload, wire⟩]
      else []
    | _ => []
  | _ => []

/-- One step of the link. -/
def ReturnLink.step (env : BridgeEnv) (peer : SocketAddr) (link : ReturnLink) :
    ReturnEvent → Option ReturnLink
  | .bridge event => (Bridge.step env link.bridge event).map fun bridge =>
      { link with bridge, inFlight := link.inFlight ++ emits peer link.bridge event }
  | .deliver =>
    match link.inFlight with
    | [] => none
    | datagram :: later =>
      (link.connection.step env.crypto (.bridgeFrame datagram.wire)).map fun connection =>
        { link with connection, inFlight := later }
  | .connection (.bridgeFrame _) => none
  | .connection event => (link.connection.step env.crypto event).map fun connection =>
      { link with connection }

/-- An ideal AEAD: what opens under the tunnel's key was sealed with it, a frame by a session that
has it, a SYN by the tunnel. -/
def opensOwn (env : BridgeEnv) (tunnel : OpenedTunnel) (syn : Bytes) (link : ReturnLink) :
    ReturnEvent → Bool
  | .deliver =>
    match link.inFlight with
    | [] => true
    | datagram :: _ =>
      match decryptFrame env.crypto tunnel.aeadKey datagram.wire with
      | .ok _ => decide (link.bridge.aeadKeyOf datagram.session = some tunnel.aeadKey)
      | .error _ => true
  | .bridge (.poll task nowUnix) =>
    match link.bridge.tasks[task]? with
    | some (.spawned _ pkt) =>
      match admitSyn env nowUnix pkt with
      | .ok (aeadKey, _) => decide (aeadKey = tunnel.aeadKey → pkt = syn)
      | .error _ => true
    | _ => true
  | _ => true

/-- The bridge accepts one SYN under the tunnel's key. -/
def acceptsTunnelOnce (key : SessionKey) (link : ReturnLink) : ReturnEvent → Bool
  | .bridge event => acceptsOnce key link.bridge event
  | _ => true

/-- Every send of the bridge succeeds. -/
def sendsSucceed : ReturnEvent → Bool
  | .bridge (.senderSend success) => success
  | _ => true

/-- The payload whose frame is being sent for a session. -/
def outgoing (state : BridgeState) (session : SessionId) : List Bytes :=
  match state.sender with
  | .sending queued target _ => if target = session then [queued.packet.payload] else []
  | _ => []

/-- Payloads of datagrams that belong to a session. -/
def payloadsOf (session : SessionId) (datagrams : List BridgeDatagram) : List Bytes :=
  (datagrams.filter fun datagram => decide (datagram.session = session)).map (·.payload)

/-- Payloads encrypted for a session and not yet delivered, oldest first. -/
def ReturnLink.onWay (link : ReturnLink) (session : SessionId) : List Bytes :=
  payloadsOf session link.inFlight ++ outgoing link.bridge session

/-- The tunnel's session: accepted under its session key, with its AEAD key. -/
def ReturnLink.serves (key : SessionKey) (aeadKey : AeadKey) (link : ReturnLink)
    (session : SessionId) : Prop :=
  .accepted key session ∈ link.bridge.trace ∧ link.bridge.aeadKeyOf session = some aeadKey

/-- A frame was encrypted under the AEAD key of its session. -/
def sealedFor (crypto : Crypto) (state : BridgeState) (session : SessionId) (payload wire : Bytes) :
    Prop :=
  ∃ aeadKey header, state.aeadKeyOf session = some aeadKey ∧
    decryptFrame crypto aeadKey wire = .ok (header, payload)

/-- What holds of the link under the conditions. -/
structure Returning (env : BridgeEnv) (peer : SocketAddr) (tunnel : OpenedTunnel)
    (link : ReturnLink) : Prop where
  /-- The tunnel stays. -/
  same : link.connection.sender.tunnel = tunnel
  /-- Whoever works downstream came by the key of its session. -/
  attributed : Attributed link.bridge
  /-- Frames are numbered and fit. -/
  numbered : Numbered link.bridge
  /-- Nothing is lost at the bridge while the tunnel's session is there. -/
  conserved : Conserved link.bridge ⟨peer, tunnel.connectionId⟩
  /-- Whoever has the tunnel's AEAD key was accepted with its connection id. -/
  reserved : AcceptedWith link.bridge fun key aeadKey =>
    aeadKey = tunnel.aeadKey → key.connectionId = tunnel.connectionId
  /-- The frame being sent opens to its payload. -/
  sending : ∀ queued session wire, link.bridge.sender = .sending queued session wire →
    sealedFor env.crypto link.bridge session queued.packet.payload wire
  /-- So does every frame in flight, and it belongs to a session of this address. -/
  inFlight : ∀ datagram ∈ link.inFlight,
    sealedFor env.crypto link.bridge datagram.session datagram.payload datagram.wire ∧
      ∃ key, key.clientAddr = peer ∧ .accepted key datagram.session ∈ link.bridge.trace
  /-- While the receive task runs, what it consumed and what is on its way was encrypted. -/
  arrived : link.connection.receiver.live = true → ∀ session,
    link.serves ⟨peer, tunnel.connectionId⟩ tunnel.aeadKey session →
    link.connection.consumed ++ (link.onWay session).flatten =
      (link.bridge.encrypted session).flatten
  /-- What it consumed at all was encrypted, in order. -/
  consumed : ∀ session, link.serves ⟨peer, tunnel.connectionId⟩ tunnel.aeadKey session →
    link.connection.consumed <+: (link.bridge.encrypted session).flatten
  /-- Without a session of the tunnel it consumed nothing. -/
  idle : (∀ session, ¬ link.serves ⟨peer, tunnel.connectionId⟩ tunnel.aeadKey session) →
    link.connection.consumed = []

section

variable {env : BridgeEnv} {peer : SocketAddr} {tunnel : OpenedTunnel} {syn : Bytes}
  {link next : ReturnLink}

/-- What is encrypted in a step goes out behind what was going out. -/
theorem outgoing_step {state later : BridgeState} {event : Event} (numbered : Numbered state)
    (success : sendsSucceed (.bridge event) = true)
    (taken : Bridge.step env state event = some later) (session : SessionId)
    (addressed : ∀ queued wire, state.sender = .sending queued session wire →
      queued.packet.sessionKey.clientAddr = peer) :
    ∃ added, later.encrypted session = state.encrypted session ++ added ∧
      payloadsOf session (emits peer state event) ++ outgoing later session =
        outgoing state session ++ added := by
  have quiet (other : event ≠ .senderEncrypt) (silent : emits peer state event = [])
      (same : outgoing later session = outgoing state session) :
      ∃ added, later.encrypted session = state.encrypted session ++ added ∧
        payloadsOf session (emits peer state event) ++ outgoing later session =
          outgoing state session ++ added := by
    refine ⟨[], ?_, ?_⟩
    · rw [BridgeState.encrypted, frames_kept taken other, List.append_nil]
      rfl
    · rw [silent, same, List.append_nil]
      rfl
  cases outward : event.outflow with
  | false =>
    obtain ⟨_, sender⟩ := channel_kept taken outward
    apply quiet
    · rintro rfl
      contradiction
    · cases event <;> first | rfl | contradiction
    · rw [outgoing, sender]
      rfl
  | true =>
    cases event with
    | drain =>
      obtain ⟨_, _, _, _, _, _, rfl⟩ := drain_ok taken
      exact quiet (by simp) rfl rfl
    | senderReceive =>
      obtain ⟨_, _, idle, _, rfl⟩ := senderReceive_ok taken
      refine quiet (by simp) rfl ?_
      simp only [outgoing, idle]
    | senderLookup =>
      obtain ⟨_, looking, ⟨_, rfl⟩ | ⟨_, _, rfl⟩⟩ := senderLookup_ok taken
      · exact quiet (by simp) rfl (by simp only [outgoing, looking])
      · exact quiet (by simp) rfl (by simp only [outgoing, looking])
    | senderEncrypt =>
      obtain ⟨queued, target, cell, wire, locking, _, _, rfl⟩ := encrypt_numbered numbered taken
      refine ⟨if target = session then [queued.packet.payload] else [], ?_, ?_⟩
      · rw [BridgeState.encrypted, frames_concat rfl session]
        by_cases same : target = session
        · simp [BridgeState.encrypted, Output.frameFor, same]
        · simp [BridgeState.encrypted, Output.frameFor, same]
      · simp [outgoing, locking, emits, payloadsOf]
    | senderSend sent =>
      obtain rfl : sent = true := success
      obtain ⟨queued, target, wire, sending, rfl⟩ := senderSend_ok taken
      refine ⟨[], ?_, ?_⟩
      · rw [BridgeState.encrypted, frames_kept taken (by simp), List.append_nil]
        rfl
      · by_cases same : target = session
        · subst same
          simp [outgoing, emits, sending, addressed queued wire sending, payloadsOf]
        · by_cases here : queued.packet.sessionKey.clientAddr = peer
          · simp [outgoing, emits, sending, same, here, payloadsOf]
          · simp [outgoing, emits, sending, same, here, payloadsOf]
    | _ => contradiction

/-- A sealed frame stays sealed: sessions keep their AEAD keys. -/
theorem sealedFor_step {state later : BridgeState} {event : Event} {session : SessionId}
    {payload wire : Bytes} (held : sealedFor env.crypto state session payload wire)
    (taken : Bridge.step env state event = some later) :
    sealedFor env.crypto later session payload wire := by
  obtain ⟨aeadKey, header, own, opened⟩ := held
  exact ⟨aeadKey, header, aeadKeyOf_step taken own, opened⟩

/-- The frame being sent after a step opens to its payload. -/
theorem sending_step (laws : CryptoLaws env.crypto) {state later : BridgeState} {event : Event}
    (numbered : Numbered state)
    (held : ∀ queued session wire, state.sender = .sending queued session wire →
      sealedFor env.crypto state session queued.packet.payload wire)
    (taken : Bridge.step env state event = some later) (queued : Queued) (session : SessionId)
    (wire : Bytes) (sending : later.sender = .sending queued session wire) :
    sealedFor env.crypto later session queued.packet.payload wire := by
  cases outward : event.outflow with
  | false =>
    obtain ⟨_, sender⟩ := channel_kept taken outward
    rw [sender] at sending
    exact sealedFor_step (held queued session wire sending) taken
  | true =>
    cases event with
    | drain =>
      have before := held queued session wire (by
        obtain ⟨_, _, _, _, _, _, rfl⟩ := drain_ok taken
        exact sending)
      exact sealedFor_step before taken
    | senderReceive =>
      obtain ⟨_, _, _, _, rfl⟩ := senderReceive_ok taken
      contradiction
    | senderLookup =>
      obtain ⟨_, _, ⟨_, rfl⟩ | ⟨_, _, rfl⟩⟩ := senderLookup_ok taken
      · contradiction
      · contradiction
    | senderEncrypt =>
      have sealing := encrypt_numbered numbered taken
      obtain ⟨packet, target, cell, sealed, _, present, encrypts, rfl⟩ := sealing
      obtain ⟨rfl, rfl, rfl⟩ := SenderTask.sending.inj sending
      have own : state.aeadKeyOf target = some cell.session.aeadKey := by
        rw [BridgeState.aeadKeyOf, present]
        rfl
      exact ⟨cell.session.aeadKey, _, aeadKeyOf_step taken own,
        decryptFrame_encryptFrame laws rfl encrypts⟩
    | senderSend =>
      obtain ⟨_, _, _, _, rfl⟩ := senderSend_ok taken
      contradiction
    | _ => contradiction

/-- What a send puts in flight was sealed for a session of the address. -/
theorem emits_sealed {state : BridgeState} {event : Event} {datagram : BridgeDatagram}
    (attributed : Attributed state)
    (held : ∀ queued session wire, state.sender = .sending queued session wire →
      sealedFor env.crypto state session queued.packet.payload wire)
    (member : datagram ∈ emits peer state event) :
    sealedFor env.crypto state datagram.session datagram.payload datagram.wire ∧
      ∃ key, key.clientAddr = peer ∧ .accepted key datagram.session ∈ state.trace := by
  unfold emits at member
  split at member
  · split at member
    · rename_i queued session wire sending
      split at member
      · rename_i addressed
        obtain rfl := List.mem_singleton.mp member
        exact ⟨held queued session wire sending, _, addressed,
          attributed.sender queued session (.inr ⟨wire, sending⟩)⟩
      · contradiction
    · contradiction
  · contradiction

/-- Payloads of two batches of datagrams. -/
theorem payloadsOf_append (session : SessionId) (left right : List BridgeDatagram) :
    payloadsOf session (left ++ right) = payloadsOf session left ++ payloadsOf session right := by
  rw [payloadsOf, List.filter_append, List.map_append]
  rfl

/-- A session that serves the tunnel after a step of the bridge did before, or it has just been
accepted; then it is the first, and nothing is on the way. -/
theorem served_before (held : Returning env peer tunnel link) {event : Event} {bridge : BridgeState}
    (taken : Bridge.step env link.bridge event = some bridge)
    (conserved : Conserved bridge ⟨peer, tunnel.connectionId⟩) {session : SessionId}
    (serves : ReturnLink.serves ⟨peer, tunnel.connectionId⟩ tunnel.aeadKey { link with
      bridge, inFlight := link.inFlight ++ emits peer link.bridge event } session) :
    link.serves ⟨peer, tunnel.connectionId⟩ tunnel.aeadKey session ∨
      (link.connection.consumed = [] ∧ bridge.encrypted session = [] ∧
        payloadsOf session (link.inFlight ++ emits peer link.bridge event) = [] ∧
        outgoing bridge session = []) := by
  have grows := (step_footprint taken).trace_grows
  rcases accepted_step taken serves.1 with before | ⟨task, created, rfl, point, rfl⟩
  · exact .inl ⟨before, aeadKeyOf_before taken (held.attributed.keyed.bound _ _ before) serves.2⟩
  · right
    have new : ∀ key, .accepted key link.bridge.cells.length ∉ link.bridge.trace :=
      fun key recorded => absurd (held.attributed.keyed.bound key _ recorded) (Nat.lt_irrefl _)
    have unserved : ∀ session,
        ¬ link.serves ⟨peer, tunnel.connectionId⟩ tunnel.aeadKey session := by
      intro session other
      have same := conserved.unique session _ (grows.subset other.1) serves.1
      exact new _ (same ▸ other.1)
    obtain ⟨still, _⟩ := outflow_still taken rfl
    obtain ⟨_, sender⟩ := channel_kept taken rfl
    refine ⟨held.idle unserved, ?_, ?_, ?_⟩
    · rw [(still _).2.1, BridgeState.encrypted, (held.attributed.recorded _ new).2, List.map_nil]
    · have foreign : ∀ datagram ∈ link.inFlight ++ [],
          ¬ decide (datagram.session = link.bridge.cells.length) = true := by
        intro datagram member same
        rw [List.append_nil] at member
        obtain ⟨_, key, _, recorded⟩ := held.inFlight datagram member
        rw [of_decide_eq_true same] at recorded
        exact new key recorded
      have silent : emits peer link.bridge (.insert task) = [] := rfl
      rw [payloadsOf, silent, List.filter_eq_nil_iff.mpr foreign, List.map_nil]
    · unfold outgoing
      rw [sender]
      split
      · rename_i queued target wire sending
        have different : target ≠ link.bridge.cells.length := by
          rintro rfl
          exact new _ (held.attributed.sender queued _ (.inr ⟨wire, sending⟩))
        simp only [different, ↓reduceIte]
      · rfl

/-- For a session that serves the tunnel, what a step of the bridge encrypts joins what is on the
way out. -/
theorem served_carries (held : Returning env peer tunnel link) {event : Event}
    {bridge : BridgeState} (success : sendsSucceed (.bridge event) = true)
    (taken : Bridge.step env link.bridge event = some bridge) {session : SessionId}
    (serves : link.serves ⟨peer, tunnel.connectionId⟩ tunnel.aeadKey session) :
    ∃ added, bridge.encrypted session = link.bridge.encrypted session ++ added ∧
      payloadsOf session (emits peer link.bridge event) ++ outgoing bridge session =
        outgoing link.bridge session ++ added := by
  apply outgoing_step held.numbered success taken session
  intro queued wire sending
  have own := held.attributed.sender queued session (.inr ⟨wire, sending⟩)
  rw [held.attributed.keyed.functional _ _ session own serves.1]

/-- A step of the bridge keeps the link returning. -/
theorem bridge_returning (laws : CryptoLaws env.crypto)
    (front : Header.decode syn = .ok (synHeader tunnel.connectionId))
    (held : Returning env peer tunnel link) {event : Event} {bridge : BridgeState}
    (ideal : opensOwn env tunnel syn link (.bridge event) = true)
    (once : acceptsOnce ⟨peer, tunnel.connectionId⟩ link.bridge event = true)
    (success : sendsSucceed (.bridge event) = true)
    (taken : Bridge.step env link.bridge event = some bridge) :
    Returning env peer tunnel { link with
      bridge, inFlight := link.inFlight ++ emits peer link.bridge event } := by
  have grows := (step_footprint taken).trace_grows
  have conserved := conserved_step held.attributed held.numbered held.conserved once taken
  refine {
    same := held.same
    attributed := attributed_step held.attributed taken
    numbered := numbered_step held.numbered taken
    conserved
    reserved := ?_
    sending := sending_step laws held.numbered held.sending taken
    inFlight := ?_
    arrived := ?_
    consumed := ?_
    idle := ?_ }
  · apply acceptedWith_step held.attributed.keyed held.reserved _ taken
    intro task nowUnix pkt header key aeadKey connect polled point decoded same _ admitted own
    subst polled
    have sealed : pkt = syn := by
      simpa [opensOwn, point, admitted, own] using ideal
    subst sealed
    obtain rfl := Except.ok.inj (decoded.symm.trans front)
    exact same.symm
  · intro datagram member
    have before : sealedFor env.crypto link.bridge datagram.session datagram.payload datagram.wire ∧
        ∃ key, key.clientAddr = peer ∧ .accepted key datagram.session ∈ link.bridge.trace := by
      rcases List.mem_append.mp member with old | sent
      · exact held.inFlight datagram old
      · exact emits_sealed held.attributed held.sending sent
    obtain ⟨sealed, key, addressed, recorded⟩ := before
    exact ⟨sealedFor_step sealed taken, key, addressed, grows.subset recorded⟩
  · intro live session serves
    rcases served_before held taken conserved serves with old | ⟨nothing, encrypted, flying, out⟩
    · obtain ⟨added, encrypted, sent⟩ := served_carries held success taken old
      have arrived := held.arrived live session old
      calc link.connection.consumed ++ (payloadsOf session (link.inFlight ++
              emits peer link.bridge event) ++ outgoing bridge session).flatten
          = link.connection.consumed ++ (payloadsOf session link.inFlight ++
              (outgoing link.bridge session ++ added)).flatten := by
            rw [payloadsOf_append, List.append_assoc, sent]
        _ = link.connection.consumed ++ (link.onWay session).flatten ++ added.flatten := by
            simp only [ReturnLink.onWay, List.flatten_append, List.append_assoc]
        _ = (bridge.encrypted session).flatten := by
            rw [arrived, encrypted, List.flatten_append]
    · simp only [ReturnLink.onWay, flying, out, encrypted, nothing]
      rfl
  · intro session serves
    rcases served_before held taken conserved serves with old | ⟨nothing, _, _, _⟩
    · obtain ⟨added, encrypted, _⟩ := served_carries held success taken old
      rw [encrypted, List.flatten_append]
      exact (held.consumed session old).trans (List.prefix_append _ _)
    · rw [nothing]
      exact List.nil_prefix
  · intro unserved
    apply held.idle
    intro session serves
    exact unserved session ⟨grows.subset serves.1, aeadKeyOf_step taken serves.2⟩

/-- A delivery hands the receive task the next frame of the tunnel's session, or one it drops. -/
theorem deliver_returning (held : Returning env peer tunnel link) {datagram : BridgeDatagram}
    {later : List BridgeDatagram} {connection : TcpConnection}
    (oldest : link.inFlight = datagram :: later)
    (ideal : opensOwn env tunnel syn link .deliver = true)
    (taken : link.connection.step env.crypto (.bridgeFrame datagram.wire) = some connection) :
    Returning env peer tunnel { link with connection, inFlight := later } := by
  obtain ⟨⟨aeadKey, header, own, opened⟩, key, addressed, recorded⟩ :=
    held.inFlight datagram (oldest ▸ List.mem_cons_self)
  have rest : ∀ other ∈ later,
      sealedFor env.crypto link.bridge other.session other.payload other.wire ∧
        ∃ key, key.clientAddr = peer ∧ .accepted key other.session ∈ link.bridge.trace :=
    fun other member => held.inFlight other (oldest ▸ List.mem_cons_of_mem _ member)
  have same : connection.sender.tunnel = tunnel := by
    rw [(TcpConnection.step_sender taken).1, held.same]
  simp only [TcpConnection.step, TcpConnection.bridgeFrame, OpenedTunnel.receive, held.same]
    at taken
  split at taken
  · rename_i receiving
    have consumed : link.connection.consumed = link.connection.written := by
      rw [TcpConnection.consumed, receiving]
    cases decrypted : decryptFrame env.crypto tunnel.aeadKey datagram.wire with
    | error failure =>
      simp only [decrypted] at taken
      obtain rfl := Option.some.inj taken
      refine { held with inFlight := rest, arrived := ?_ }
      intro live session serves
      have foreign : datagram.session ≠ session := by
        rintro rfl
        obtain rfl := Option.some.inj (own.symm.trans serves.2)
        rw [opened] at decrypted
        contradiction
      have arrived := held.arrived live session serves
      simp only [ReturnLink.onWay, oldest, payloadsOf, List.filter_cons, foreign, decide_false,
        Bool.false_eq_true, ↓reduceIte] at arrived
      exact arrived
    | ok frame =>
      simp only [decrypted] at taken
      obtain rfl := Option.some.inj taken
      have sealed : link.bridge.aeadKeyOf datagram.session = some tunnel.aeadKey := by
        simpa [opensOwn, oldest, decrypted] using ideal
      obtain rfl := Option.some.inj (own.symm.trans sealed)
      rw [opened] at decrypted
      obtain rfl := Except.ok.inj decrypted
      have serves : link.serves ⟨peer, tunnel.connectionId⟩ tunnel.aeadKey datagram.session := by
        obtain ⟨cell, present, shared⟩ := Option.map_eq_some_iff.mp own
        have id := held.reserved.cells key datagram.session cell recorded present shared
        obtain ⟨address, connectionId⟩ := key
        obtain rfl : address = peer := addressed
        obtain rfl : connectionId = tunnel.connectionId := id
        exact ⟨recorded, own⟩
      have alive : link.connection.receiver.live = true := by
        rw [receiving]
        rfl
      have arrived {session : SessionId}
          (other : link.serves ⟨peer, tunnel.connectionId⟩ tunnel.aeadKey session) :
          link.connection.written ++ datagram.payload ++ (payloadsOf session later ++
            outgoing link.bridge session).flatten = (link.bridge.encrypted session).flatten := by
        obtain rfl := held.conserved.unique _ session serves.1 other.1
        rw [← held.arrived alive _ other, consumed]
        simp [ReturnLink.onWay, oldest, payloadsOf]
      refine { held with same := same, inFlight := rest, arrived := ?_, consumed := ?_, idle := ?_ }
      · intro _ session other
        exact arrived other
      · intro session other
        exact ⟨_, arrived other⟩
      · intro unserved
        exact absurd serves (unserved datagram.session)
  · contradiction

/-- Any other step of the connection keeps the link returning. -/
theorem connection_returning (held : Returning env peer tunnel link) {event : ConnectionEvent}
    {connection : TcpConnection} (other : ∀ wire, event ≠ .bridgeFrame wire)
    (taken : link.connection.step env.crypto event = some connection) :
    Returning env peer tunnel { link with connection } := by
  obtain ⟨shrunk, running⟩ := TcpConnection.step_consumed taken other
  refine { held with same := ?_, arrived := ?_, consumed := ?_, idle := ?_ }
  · rw [(TcpConnection.step_sender taken).1, held.same]
  · intro live session serves
    obtain ⟨before, same⟩ := running live
    dsimp only
    rw [same]
    exact held.arrived before session serves
  · intro session serves
    exact shrunk.trans (held.consumed session serves)
  · intro unserved
    have nothing := held.idle unserved
    rw [nothing] at shrunk
    exact List.prefix_nil.mp shrunk

/-- Every step under the conditions keeps the link returning. -/
theorem returning_step (laws : CryptoLaws env.crypto)
    (front : Header.decode syn = .ok (synHeader tunnel.connectionId))
    (held : Returning env peer tunnel link) {event : ReturnEvent}
    (ideal : opensOwn env tunnel syn link event = true)
    (once : acceptsTunnelOnce ⟨peer, tunnel.connectionId⟩ link event = true)
    (success : sendsSucceed event = true) (taken : link.step env peer event = some next) :
    Returning env peer tunnel next := by
  cases event with
  | bridge inner =>
    obtain ⟨bridge, moved, rfl⟩ := Option.map_eq_some_iff.mp taken
    exact bridge_returning laws front held ideal once success moved
  | deliver =>
    simp only [ReturnLink.step] at taken
    split at taken
    · contradiction
    · rename_i datagram later oldest
      obtain ⟨connection, moved, rfl⟩ := Option.map_eq_some_iff.mp taken
      exact deliver_returning held oldest ideal moved
  | connection inner =>
    cases inner with
    | bridgeFrame => contradiction
    | _ =>
      obtain ⟨connection, moved, rfl⟩ := Option.map_eq_some_iff.mp taken
      exact connection_returning held (fun _ => ConnectionEvent.noConfusion) moved

/-- A link whose tunnel has just been opened. -/
theorem returning_start (clock : Instant) :
    Returning env peer tunnel (.start clock tunnel) where
  same := rfl
  attributed := attributed_start clock
  numbered := numbered_start clock
  conserved := conserved_start clock _
  reserved := ⟨fun task _ _ _ present => by simp [ReturnLink.start, BridgeState.start] at present,
    fun _ _ _ recorded => by contradiction⟩
  sending _ _ _ sending := by contradiction
  inFlight _ member := by contradiction
  arrived _ session serves := by
    have impossible := serves.1
    contradiction
  consumed session serves := by
    have impossible := serves.1
    contradiction
  idle _ := rfl

/-- In every run of a TCP tunnel over a network that keeps the bridge's datagrams and their order,
with an ideal AEAD, one accept under the tunnel's key and no failing send, what the local socket has
taken is a prefix of what the bridge read from the tunnel's destination. Whatever the bridge carries
downstream fits a frame, so it is never refused by the encryption, and every session's frames have
the sequences 1, 2, 3, ... -/
theorem tcp_downstream_prefix (laws : CryptoLaws env.crypto) {text : TextCodec} {rule : Rule}
    {clientSk : StaticSecret} {connectionId : UInt32} {clock : Instant}
    {events : List ReturnEvent} {final : ReturnLink}
    (opened : rule.openTunnel env.crypto text .tcp clientSk connectionId = .ok (tunnel, syn))
    (ideal : Along (ReturnLink.step env peer)
      (fun link event => opensOwn env tunnel syn link event = true) (.start clock tunnel) events)
    (once : Along (ReturnLink.step env peer)
      (fun link event => acceptsTunnelOnce ⟨peer, connectionId⟩ link event = true)
      (.start clock tunnel) events)
    (success : Along (ReturnLink.step env peer) (fun _ event => sendsSucceed event = true)
      (.start clock tunnel) events)
    (reached : run (ReturnLink.step env peer) (.start clock tunnel) events = some final) :
    (∀ session, .accepted ⟨peer, connectionId⟩ session ∈ final.bridge.trace →
      final.connection.written <+: (final.bridge.chunks session).flatten) ∧
    ((∀ session, .accepted ⟨peer, connectionId⟩ session ∉ final.bridge.trace) →
      final.connection.written = []) ∧
    (∀ queued, final.bridge.carries queued → queued.packet.payload.length ≤ maxPayloadLen) ∧
    (∀ queued session cell, final.bridge.sender = .locking queued session →
      final.bridge.cells[session]? = some cell →
      ∃ wire, (cell.session.encryptDownstream env.crypto queued.packet.sessionKey.connectionId
        queued.packet.payload).2 = .ok wire) ∧
    ∀ session (position : Nat) (frame : Header × Bytes),
      (final.bridge.frames session)[position]? = some frame →
      frame.1.sequence = UInt64.ofNat (position + 1) := by
  have front := openTunnelTo_header laws opened
  obtain ⟨_, _, _, _, shape, _⟩ := openTunnelTo_ok opened
  obtain rfl : tunnel.connectionId = connectionId := by rw [shape]
  have held : Returning env peer tunnel final :=
    run_invariant (fun link event next held met taken =>
      returning_step laws front held met.1.1 met.1.2 met.2 taken) (returning_start clock)
      (along_and (along_and ideal once) success) reached
  refine ⟨fun session accepted => ?_, fun unaccepted => ?_, held.numbered.fits, ?_,
    held.numbered.numbered⟩
  · by_cases own : final.bridge.aeadKeyOf session = some tunnel.aeadKey
    · have settled : final.bridge.encrypted session <+: final.bridge.chunks session :=
        (List.prefix_append _ _).trans (held.conserved.settled session accepted)
      exact (final.connection.written_prefix.trans (held.consumed session ⟨accepted, own⟩)).trans
        settled.flatten
    · have nothing := held.idle fun other serves => by
        obtain rfl := held.conserved.unique session other accepted serves.1
        exact own serves.2
      have written := final.connection.written_prefix
      rw [nothing] at written
      rw [List.prefix_nil.mp written]
      exact List.nil_prefix
  · have nothing := held.idle fun session serves => unaccepted session serves.1
    have written := final.connection.written_prefix
    rw [nothing] at written
    exact List.prefix_nil.mp written
  · intro queued session cell locking present
    apply encryptFrame_fits
    apply held.numbered.fits
    refine .inr ?_
    rw [locking]
    rfl

end

/-- The destination of the first session yields a chunk, and its frame is sent. -/
def returnedChunk (bytes : Bytes) : List ReturnEvent :=
  [.drain 0 bytes, .senderReceive, .senderLookup, .senderEncrypt, .senderSend true].map .bridge

/-- The sample tunnel over TCP is accepted and its destination yields two chunks; the second is
written in pieces, the last of which the local socket has not taken yet. -/
def returnedChunks : List ReturnEvent :=
  (sampleAccept 0 (samplePeer 1) (sampleTunnel 1 .tcp 5).2).map .bridge ++ returnedChunk [1] ++
    [.deliver, .connection (.writeSome 1), .connection .writeDone] ++ returnedChunk [2, 3] ++
    [.deliver, .connection (.writeSome 1)]

/-- The answers of the sample run arrive in order. -/
theorem returnedChunks_prefix : ∃ final,
    run (ReturnLink.step (sampleEnv 8) (samplePeer 1)) (.start 0 (sampleTunnel 1 .tcp 5).1)
      returnedChunks = some final ∧
    .accepted sampleKey 0 ∈ final.bridge.trace ∧ final.connection.written = [1, 2] ∧
      final.connection.written <+: (final.bridge.chunks 0).flatten := by
  have sample : ((run (ReturnLink.step (sampleEnv 8) (samplePeer 1))
        (.start 0 (sampleTunnel 1 .tcp 5).1) returnedChunks).map fun final =>
          (decide (.accepted sampleKey 0 ∈ final.bridge.trace), final.connection.written)) =
        some (true, [1, 2]) ∧
      Along (ReturnLink.step (sampleEnv 8) (samplePeer 1)) (fun link event =>
        opensOwn (sampleEnv 8) (sampleTunnel 1 .tcp 5).1 (sampleTunnel 1 .tcp 5).2 link event =
          true ∧ acceptsTunnelOnce sampleKey link event = true ∧ sendsSucceed event = true)
        (.start 0 (sampleTunnel 1 .tcp 5).1) returnedChunks := by
    simp only [returnedChunks, sampleTunnel_eq]
    decide +kernel
  obtain ⟨outcome, conditions⟩ := sample
  obtain ⟨final, reached, records⟩ := Option.map_eq_some_iff.mp outcome
  obtain ⟨accepted, written⟩ := Prod.mk.inj records
  have recorded := of_decide_eq_true accepted
  obtain ⟨arrived, _⟩ := tcp_downstream_prefix (sampleEnv_laws 8)
    (sampleTunnel_opens 8 1 .tcp 5) (along_imp (fun _ _ met => met.1) conditions)
    (along_imp (fun _ _ met => met.2.1) conditions) (along_imp (fun _ _ met => met.2.2) conditions)
    reached
  exact ⟨final, reached, recorded, written, arrived 0 recorded⟩

end LowPing.Tunnel
