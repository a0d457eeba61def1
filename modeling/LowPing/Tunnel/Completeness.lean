import LowPing.Library.Machine
import LowPing.Bridge.Admission
import LowPing.Bridge.Datagrams
import LowPing.Client.Smart

/-!
# Tunnels that open carry data

A SYN built by either copy of `open_tunnel` with a valid licence passes every check of the bridge,
and from then on each side opens what the other seals. The bridge runs many tasks, so each step is
stated for whatever state the other tasks have left meanwhile.
-/

namespace LowPing.Bridge

open Library Library.Machine

/-- A goal is met whatever the bridge does meanwhile, one packet task apart. -/
def Meanwhile (env : BridgeEnv) (task : Nat) (goal : BridgeState → Prop) (state : BridgeState) :
    Prop :=
  ∀ events later, (∀ event ∈ events, event.runs ≠ some task) →
    run (step env) state events = some later → goal later

variable {env : BridgeEnv} {state next : BridgeState} {event : Event} {task : Nat}

/-- What the other tasks keep is there whenever a task is run next. -/
theorem meanwhile_of_kept {goal : BridgeState → Prop} (kept : BridgeState → Prop)
    (keeps : ∀ state event next, kept state → event.runs ≠ some task →
      step env state event = some next → kept next)
    (implied : ∀ state, kept state → goal state) (held : kept state) :
    Meanwhile env task goal state := by
  intro events later others reached
  apply implied
  induction events generalizing state with
  | nil =>
    obtain rfl := Option.some.inj reached
    exact held
  | cons event events ih =>
    obtain ⟨next, taken, rest⟩ := Option.bind_eq_some_iff.mp reached
    exact ih (keeps state event next held (others event List.mem_cons_self) taken)
      (fun other member => others other (List.mem_cons_of_mem event member)) rest

/-- A task waits at its point while the others run. -/
theorem meanwhile_at {goal : BridgeState → Prop} {point : PacketTask}
    (implied : ∀ later, later.tasks[task]? = some point → goal later)
    (present : state.tasks[task]? = some point) : Meanwhile env task goal state :=
  meanwhile_of_kept (fun later => later.tasks[task]? = some point)
    (fun _ _ _ held other taken => task_kept taken other held) implied present

end LowPing.Bridge

namespace LowPing.Tunnel

open LowPing.Bridge LowPing.Client Library Library.Machine

/-- The session under a key has an AEAD key and writes to a socket opened as requested. -/
def Serves (state : BridgeState) (key : SessionKey) (aeadKey : AeadKey) (connect : ConnectRequest) :
    Prop :=
  ∃ session cell socket, state.sessions.lookup key = some session ∧
    state.cells[session]? = some cell ∧ cell.session.aeadKey = aeadKey ∧
    state.destinations[socket]? = some connect ∧ cell.session.destWriter = openDest connect socket

/-- The bridge accepts a tunnel's SYN, and afterwards each side opens what the other seals. -/
structure Completes (env : BridgeEnv) (nowUnix : Int64) (tunnel : OpenedTunnel) (syn : Bytes)
    (connect : ConnectRequest) : Prop where
  /-- If the table has room at the first poll and the destination is reachable, the SYN's task ends
  in the insertion of a session with the tunnel's AEAD key and destination. -/
  accepted : ∀ (state : BridgeState) (peer : SocketAddr),
    ∃ arrived, step env state (.receive peer syn) = some arrived ∧
    Meanwhile env state.tasks.length (fun polled =>
      polled.sessionCount < env.config.maxSessions →
      ∃ awaiting, step env polled (.poll state.tasks.length nowUnix) = some awaiting ∧
      Meanwhile env state.tasks.length (fun opening =>
        ∃ opened, step env opening (.connected state.tasks.length) = some opened ∧
        Meanwhile env state.tasks.length (fun waiting =>
          waiting.reaper.reading = false →
          ∃ final, step env waiting (.insert state.tasks.length) = some final ∧
            Serves final ⟨peer, tunnel.connectionId⟩ tunnel.aeadKey connect) opened) awaiting)
      arrived
  /-- A data frame of any sequence that finds the session is opened by `forward_data` as soon as it
  has the mutex. -/
  upstream : ∀ (sequence : UInt64) (payload : Bytes), payload.length ≤ maxPayloadLen →
    ∃ frame, (Sender.encryptUpstream env.crypto ⟨tunnel, sequence⟩ payload).2 = .ok frame ∧
    ∀ (state : BridgeState) (task : Nat) (peer : SocketAddr) (session : SessionId) (now : Int64),
      state.tasks[task]? = some (.spawned peer frame) →
      state.sessions.lookup ⟨peer, tunnel.connectionId⟩ = some session →
      state.aeadKeyOf session = some tunnel.aeadKey →
      ∃ routed, step env state (.poll task now) = some routed ∧
      Meanwhile env task (fun ready =>
        (∀ cell, ready.cells[session]? = some cell → cell.locked = false) →
        ∃ written header, step env ready (.lock task) = some written ∧
          written.tasks[task]? =
            some (.writing ⟨peer, tunnel.connectionId⟩ session header payload)) routed
  /-- The frame `downstream_sender` builds for a session of the tunnel is opened by the client. -/
  downstream : ∀ (state : BridgeState) (queued : Queued) (session : SessionId),
    state.sender = .locking queued session →
    queued.packet.payload.length ≤ maxPayloadLen →
    state.aeadKeyOf session = some tunnel.aeadKey →
    (∀ cell, state.cells[session]? = some cell → cell.locked = false) →
    ∃ next frame, step env state .senderEncrypt = some next ∧
      next.sender = .sending queued session frame ∧
      tunnel.receive env.crypto frame = some queued.packet.payload

section

variable {env : BridgeEnv} {nowUnix : Int64} {tunnel : OpenedTunnel} {connect : ConnectRequest}

/-- A sealed SYN with a valid token is admitted. -/
theorem admitSyn_encryptSynFrame (laws : CryptoLaws env.crypto) {clientSk : StaticSecret}
    {connectionId : UInt32} {aeadKey : AeadKey} {token : LicenseToken} {syn : Bytes}
    (derived : aeadKey = bridgeDeriveSessionKey env.crypto env.bridgeSecret
      (env.crypto.publicKey clientSk))
    (valid : token.verify env.crypto env.backendPubkey nowUnix = .ok ())
    (scope : token.payload.scope &&& 1 = 1)
    (sealed : encryptSynFrame env.crypto aeadKey (synHeader connectionId)
      (env.crypto.publicKey clientSk) (synPayload token connect) = .ok syn) :
    admitSyn env nowUnix syn = .ok (aeadKey, connect) := by
  have front := (parseSynFront_encryptSynFrame laws rfl sealed).2
  have opened := decryptSynPayload_encryptSynFrame laws rfl sealed
  have carried : LicenseToken.fromBytes ((synPayload token connect).take tokenLen) = .ok token :=
    token.fromBytes_take connect.encode
  have requested : ConnectRequest.decode ((synPayload token connect).drop tokenLen) =
      .ok connect := by
    rw [synPayload, List.drop_left' token.length_toBytes]
    simpa using connect.decode_encode []
  have long : ¬ (synPayload token connect).length < tokenLen + 4 := by
    have request := connect.length_encode
    rw [synPayload, List.length_append, token.length_toBytes]
    omega
  have granted : ¬ (env.config.allowAnyScope = false ∧ token.payload.scope &&& 1 = 0) := by
    rw [scope]
    simp
  subst derived
  simp only [admitSyn, front, opened, if_neg long, carried, valid, if_neg granted, requested]

/-- A first poll of an admitted SYN with room in the table awaits its destination. -/
theorem handlePacket_syn {state : BridgeState} {peer : SocketAddr} {syn : Bytes} {header : Header}
    {aeadKey : AeadKey} (routed : Header.decode syn = .ok header)
    (current : header.version = protoVersion) (flagged : header.flags.contains Flags.syn = true)
    (room : state.sessionCount < env.config.maxSessions)
    (admitted : admitSyn env nowUnix syn = .ok (aeadKey, connect)) :
    handlePacket env state nowUnix peer syn =
      .connecting ⟨peer, header.connectionId⟩ aeadKey connect := by
  simp [handlePacket, routed, current, flagged, acceptNewSession, Nat.not_le_of_lt room, admitted]

/-- A first poll of a data frame that finds a session waits for its mutex. -/
theorem handlePacket_data {state : BridgeState} {peer : SocketAddr} {frame : Bytes}
    {header : Header} {session : SessionId} (routed : Header.decode frame = .ok header)
    (current : header.version = protoVersion) (unflagged : header.flags.contains Flags.syn = false)
    (found : state.sessions.lookup ⟨peer, header.connectionId⟩ = some session) :
    handlePacket env state nowUnix peer frame =
      .locking ⟨peer, header.connectionId⟩ session frame := by
  simp [handlePacket, routed, current, unflagged, forwardData, found]

/-- A first poll puts its task where `handle_packet` leads. -/
theorem poll_spawned {state : BridgeState} {task : Nat} {peer : SocketAddr} {pkt : Bytes}
    (present : state.tasks[task]? = some (.spawned peer pkt)) :
    ∃ next, step env state (.poll task nowUnix) = some next ∧
      next.tasks[task]? = some (handlePacket env state nowUnix peer pkt) ∧
      next.cells = state.cells := by
  have bound := (List.getElem?_eq_some_iff.mp present).1
  refine ⟨state.setTask task (handlePacket env state nowUnix peer pkt), ?_, ?_, rfl⟩
  · simp only [step, poll, present]
  · exact List.getElem?_set_self bound

/-- A destination that can be reached is opened. -/
theorem connected_connecting {state : BridgeState} {task : Nat} {key : SessionKey}
    {aeadKey : AeadKey} (present : state.tasks[task]? = some (.connecting key aeadKey connect)) :
    ∃ next, step env state (.connected task) = some next ∧
      next.tasks[task]? = some (.inserting key (Session.new aeadKey
        (openDest connect state.destinations.length) state.clock)) ∧
      next.destinations[state.destinations.length]? = some connect := by
  have bound := (List.getElem?_eq_some_iff.mp present).1
  refine ⟨_, by simp only [step, connected, present]; rfl, ?_, ?_⟩
  · exact List.getElem?_set_self bound
  · exact List.getElem?_concat_length

/-- A new session enters the table as soon as the reaper does not read it. -/
theorem insert_inserting {state : BridgeState} {task : Nat} {key : SessionKey} {session : Session}
    (present : state.tasks[task]? = some (.inserting key session))
    (free : state.reaper.reading = false) :
    ∃ next, step env state (.insert task) = some next ∧
      next.sessions.lookup key = some state.cells.length ∧
      next.cells[state.cells.length]? = some ⟨session, false⟩ := by
  refine ⟨_, by simp only [step, Bridge.insert, present, free]; rfl, ?_, ?_⟩
  · exact AList.lookup_insert _
  · exact List.getElem?_concat_length

/-- A socket keeps its destination. -/
theorem destination_kept {state next : BridgeState} {event : Event} {socket : SocketId}
    (taken : step env state event = some next)
    (present : state.destinations[socket]? = some connect) :
    next.destinations[socket]? = some connect := by
  obtain ⟨added, same⟩ := destinations_grow taken
  have bound := (List.getElem?_eq_some_iff.mp present).1
  rw [← same, List.getElem?_append_left bound, present]

/-- An admitted SYN becomes a session. -/
theorem accepted_of_admitSyn {syn : Bytes} {header : Header} {aeadKey : AeadKey}
    (routed : Header.decode syn = .ok header) (current : header.version = protoVersion)
    (flagged : header.flags.contains Flags.syn = true)
    (admitted : admitSyn env nowUnix syn = .ok (aeadKey, connect)) (state : BridgeState)
    (peer : SocketAddr) :
    ∃ arrived, step env state (.receive peer syn) = some arrived ∧
    Meanwhile env state.tasks.length (fun polled =>
      polled.sessionCount < env.config.maxSessions →
      ∃ awaiting, step env polled (.poll state.tasks.length nowUnix) = some awaiting ∧
      Meanwhile env state.tasks.length (fun opening =>
        ∃ opened, step env opening (.connected state.tasks.length) = some opened ∧
        Meanwhile env state.tasks.length (fun waiting =>
          waiting.reaper.reading = false →
          ∃ final, step env waiting (.insert state.tasks.length) = some final ∧
            Serves final ⟨peer, header.connectionId⟩ aeadKey connect) opened) awaiting)
      arrived := by
  generalize numbered : state.tasks.length = task
  refine ⟨_, rfl, meanwhile_at ?_ (numbered ▸ List.getElem?_concat_length)⟩
  intro polled present room
  obtain ⟨awaiting, taken, point, _⟩ := poll_spawned present
  rw [handlePacket_syn routed current flagged room admitted] at point
  refine ⟨awaiting, taken, meanwhile_at ?_ point⟩
  intro opening connecting
  obtain ⟨opened, takenOpen, inserting, socket⟩ := connected_connecting connecting
  refine ⟨opened, takenOpen, meanwhile_of_kept
    (fun later => later.tasks[task]? = some (.inserting ⟨peer, header.connectionId⟩
        (Session.new aeadKey (openDest connect opening.destinations.length) opening.clock)) ∧
      later.destinations[opening.destinations.length]? = some connect)
    (fun _ _ _ held other stepped =>
      ⟨task_kept stepped other held.1, destination_kept stepped held.2⟩) ?_ ⟨inserting, socket⟩⟩
  rintro waiting ⟨present, bound⟩ free
  obtain ⟨final, takenInsert, live, created⟩ := insert_inserting present free
  refine ⟨final, takenInsert, waiting.cells.length, _, opening.destinations.length, live, created,
    rfl, ?_, rfl⟩
  exact destination_kept takenInsert bound

/-- With the mutex free, a waiting frame that opens is handed to its destination. -/
theorem lock_locking {state : BridgeState} {task : Nat} {key : SessionKey} {session : SessionId}
    {frame payload : Bytes} {aeadKey : AeadKey} {header : Header}
    (present : state.tasks[task]? = some (.locking key session frame))
    (own : state.aeadKeyOf session = some aeadKey)
    (free : ∀ cell, state.cells[session]? = some cell → cell.locked = false)
    (opened : decryptFrame env.crypto aeadKey frame = .ok (header, payload)) :
    ∃ next, step env state (.lock task) = some next ∧
      next.tasks[task]? = some (.writing key session header payload) := by
  obtain ⟨cell, found, rfl⟩ := Option.map_eq_some_iff.mp own
  have bound := (List.getElem?_eq_some_iff.mp present).1
  exact ⟨_, lock_opens present found (free cell found) opened, List.getElem?_set_self bound⟩

/-- A frame of the client that finds its session is opened. -/
theorem upstream_opened (laws : CryptoLaws env.crypto) (sequence : UInt64) {payload : Bytes}
    (fits : payload.length ≤ maxPayloadLen) :
    ∃ frame, (Sender.encryptUpstream env.crypto ⟨tunnel, sequence⟩ payload).2 = .ok frame ∧
    ∀ (state : BridgeState) (task : Nat) (peer : SocketAddr) (session : SessionId) (now : Int64),
      state.tasks[task]? = some (.spawned peer frame) →
      state.sessions.lookup ⟨peer, tunnel.connectionId⟩ = some session →
      state.aeadKeyOf session = some tunnel.aeadKey →
      ∃ routed, step env state (.poll task now) = some routed ∧
      Meanwhile env task (fun ready =>
        (∀ cell, ready.cells[session]? = some cell → cell.locked = false) →
        ∃ written header, step env ready (.lock task) = some written ∧
          written.tasks[task]? =
            some (.writing ⟨peer, tunnel.connectionId⟩ session header payload)) routed := by
  obtain ⟨frame, sealed⟩ := encryptFrame_fits env.crypto tunnel.aeadKey
    (Sender.nextHeader ⟨tunnel, sequence⟩) fits
  refine ⟨frame, sealed, fun state task peer session now present found own => ?_⟩
  have opened := decryptFrame_encryptFrame laws rfl sealed
  have routes : Header.decode frame = .ok (Sender.nextHeader ⟨tunnel, sequence⟩) := by
    rw [← decode_take]
    exact (decryptFrame_ok opened).2.1
  obtain ⟨routed, taken, point, cells⟩ := poll_spawned present
  rw [handlePacket_data routes rfl empty_contains_syn found] at point
  have same : routed.aeadKeyOf session = some tunnel.aeadKey := aeadKeyOf_step taken own
  refine ⟨routed, taken, meanwhile_of_kept
    (fun later => later.tasks[task]? =
        some (.locking ⟨peer, tunnel.connectionId⟩ session frame) ∧
      later.aeadKeyOf session = some tunnel.aeadKey)
    (fun _ _ _ held other stepped =>
      ⟨task_kept stepped other held.1, aeadKeyOf_step stepped held.2⟩) ?_ ⟨point, same⟩⟩
  rintro ready ⟨waiting, still⟩ free
  obtain ⟨written, takenLock, writing⟩ := lock_locking waiting still free opened
  exact ⟨written, _, takenLock, writing⟩

/-- A frame of the bridge is opened by the client. -/
theorem downstream_opened (laws : CryptoLaws env.crypto) {state : BridgeState} {queued : Queued}
    {session : SessionId} (point : state.sender = .locking queued session)
    (fits : queued.packet.payload.length ≤ maxPayloadLen)
    (own : state.aeadKeyOf session = some tunnel.aeadKey)
    (free : ∀ cell, state.cells[session]? = some cell → cell.locked = false) :
    ∃ next frame, step env state .senderEncrypt = some next ∧
      next.sender = .sending queued session frame ∧
      tunnel.receive env.crypto frame = some queued.packet.payload := by
  obtain ⟨cell, found, same⟩ := Option.map_eq_some_iff.mp own
  have unlocked := free cell found
  obtain ⟨frame, sealed⟩ := encryptFrame_fits env.crypto cell.session.aeadKey
    (cell.session.nextHeader queued.packet.sessionKey.connectionId) fits
  refine ⟨_, frame, by
    simp only [step, senderEncrypt, point, found, unlocked, Session.encryptDownstream, sealed]; rfl,
    rfl, ?_⟩
  rw [same] at sealed
  rw [OpenedTunnel.receive, decryptFrame_encryptFrame laws rfl sealed]

end

/-- The body both copies of `open_tunnel` share opens a tunnel that the bridge completes. -/
theorem openTunnelTo_complete {env : BridgeEnv} {text : TextCodec} (laws : CryptoLaws env.crypto)
    (textLaws : TextLaws text) {signingKey : SigningKey}
    (backend : env.backendPubkey = env.crypto.verifyingKey signingKey) {licence : LicensePayload}
    {nowUnix : Int64} (begun : licence.issuedAt ≤ nowUnix) (unexpired : nowUnix < licence.expiresAt)
    (scope : licence.scope &&& 1 = 1) {bridgePubkeyHex licenseToken : String}
    (published : text.hexDecode bridgePubkeyHex =
      some (env.crypto.publicKey env.bridgeSecret).toList)
    (issued : licenseToken = (LicenseToken.sign env.crypto licence signingKey).toStringB64 text)
    (clientSk : StaticSecret) (connectionId : UInt32) (connect : ConnectRequest) :
    ∃ tunnel syn, openTunnelTo env.crypto text bridgePubkeyHex licenseToken connect clientSk
        connectionId = .ok (tunnel, syn) ∧ tunnel.connectionId = connectionId ∧
      Completes env nowUnix tunnel syn connect := by
  have valid := LicenseToken.verify_sign laws signingKey begun unexpired
  rw [← backend] at valid
  obtain ⟨syn, sealed⟩ := encryptSynFrame_fits env.crypto
    (clientDeriveSessionKey env.crypto clientSk (env.crypto.publicKey env.bridgeSecret))
    (synHeader connectionId) (env.crypto.publicKey clientSk)
    (synPayload_fits (LicenseToken.sign env.crypto licence signingKey) connect)
  have opened := openTunnelTo_sealed published
    (LicenseToken.fromStringB64_toStringB64 textLaws _) sealed
  have derived := (derived_keys_agree laws env.bridgeSecret clientSk).symm
  have admitted := admitSyn_encryptSynFrame laws derived valid scope sealed
  have routed := (parseSynFront_encryptSynFrame laws rfl sealed).1
  refine ⟨_, syn, issued ▸ opened, rfl, ?_⟩
  exact {
    accepted := accepted_of_admitSyn routed rfl syn_contains_syn admitted
    upstream := fun sequence payload fits => upstream_opened laws sequence fits
    downstream := fun state queued session point fits own free =>
      downstream_opened laws point fits own free }

/-- Either copy of `open_tunnel`, given a licence signed by the backend that is valid at the
bridge's time with scope bit 0 and the bridge's public key, opens a tunnel that the bridge
completes. -/
theorem tunnel_complete {env : BridgeEnv} {text : TextCodec} (laws : CryptoLaws env.crypto)
    (textLaws : TextLaws text) {signingKey : SigningKey}
    (backend : env.backendPubkey = env.crypto.verifyingKey signingKey) {licence : LicensePayload}
    {nowUnix : Int64} (begun : licence.issuedAt ≤ nowUnix) (unexpired : nowUnix < licence.expiresAt)
    (scope : licence.scope &&& 1 = 1) {bridgePubkeyHex licenseToken : String}
    (published : text.hexDecode bridgePubkeyHex =
      some (env.crypto.publicKey env.bridgeSecret).toList)
    (issued : licenseToken = (LicenseToken.sign env.crypto licence signingKey).toStringB64 text)
    (clientSk : StaticSecret) (connectionId : UInt32) :
    (∀ (rule : Rule) (transport : TransportProtocol),
      rule.bridgeX25519PubkeyHex = bridgePubkeyHex → rule.licenseToken = licenseToken →
      ∃ tunnel syn, rule.openTunnel env.crypto text transport clientSk connectionId =
          .ok (tunnel, syn) ∧ tunnel.connectionId = connectionId ∧
        Completes env nowUnix tunnel syn ⟨transport, rule.destIp, rule.destPort⟩) ∧
    ∀ (bridge : BridgeEntry) (dest : SocketAddr),
      bridge.bridgeX25519PubkeyHex = bridgePubkeyHex → bridge.licenseToken = licenseToken →
      ∃ tunnel syn, bridge.openTunnel env.crypto text dest clientSk connectionId =
          .ok (tunnel, syn) ∧ tunnel.connectionId = connectionId ∧
        Completes env nowUnix tunnel syn ⟨.udp, dest.ip, dest.port⟩ := by
  have either (connect : ConnectRequest) : ∃ tunnel syn,
      openTunnelTo env.crypto text bridgePubkeyHex licenseToken connect clientSk connectionId =
        .ok (tunnel, syn) ∧ tunnel.connectionId = connectionId ∧
      Completes env nowUnix tunnel syn connect :=
    openTunnelTo_complete laws textLaws backend begun unexpired scope published issued clientSk
      connectionId connect
  constructor
  · rintro rule transport rfl rfl
    exact either _
  · rintro bridge dest rfl rfl
    exact either _

/-- The sample rule, in both transports, and a smart-mode bridge entry with the same key and token
open tunnels that the sample bridge completes. -/
theorem sample_tunnels_complete :
    (∀ transport : TransportProtocol, ∃ tunnel syn,
      sampleRule.openTunnel checksumCrypto standardText transport (List.Vector.replicate 32 1) 5 =
        .ok (tunnel, syn) ∧ tunnel.connectionId = 5 ∧
      Completes (sampleEnv 8) 1000 tunnel syn
        ⟨transport, sampleRule.destIp, sampleRule.destPort⟩) ∧
    ∃ tunnel syn, BridgeEntry.openTunnel checksumCrypto standardText
        ⟨sampleRule.bridge, sampleRule.bridgeX25519PubkeyHex, sampleRule.licenseToken, 51000⟩
        ⟨.v4 (Ipv4Addr.new 18 88 19 234), 9000⟩ (List.Vector.replicate 32 1) 5 =
        .ok (tunnel, syn) ∧ tunnel.connectionId = 5 ∧
      Completes (sampleEnv 8) 1000 tunnel syn ⟨.udp, .v4 (Ipv4Addr.new 18 88 19 234), 9000⟩ := by
  obtain ⟨rules, entries⟩ := tunnel_complete (sampleEnv_laws 8) standardText_laws
    (show (sampleEnv 8).backendPubkey = checksumCrypto.verifyingKey (List.Vector.replicate 32 9)
      from rfl)
    (show (⟨1, 0, 2000000000, 1⟩ : LicensePayload).issuedAt ≤ 1000 by decide) (by decide)
    (by decide) (sampleRule_published 8) rfl (List.Vector.replicate 32 1) 5
  exact ⟨fun transport => rules sampleRule transport rfl rfl, entries _ _ rfl rfl⟩

end LowPing.Tunnel
