import Mathlib.Data.List.Infix
import LowPing.Library.Machine
import LowPing.Bridge.Stream
import LowPing.Tunnel.Handshake

/-!
# The upstream bytes of a TCP tunnel

One `handle_tcp_local` with its tunnel, the bridge, and a network between them that delivers each
datagram of the tunnel once and in sending order. The bridge handles every datagram in a task of
its own and drops those that find no session, so order is only kept while the frames reach the
session's mutex one after the other, none missing, each after the writes before it.
-/

namespace LowPing.Tunnel

open LowPing.Bridge LowPing.Client Library Library.Machine

/-- A TCP tunnel from the local socket to the bridge. -/
structure TcpLink where
  /-- The bridge process. -/
  bridge : BridgeState
  /-- The tunnel and its counter. -/
  sender : Sender
  /-- Whether the read loop still runs. -/
  reading : Bool
  /-- History: what the loop read from the local socket, read by read. -/
  chunks : List Bytes
  /-- History: the frames sealed for them. -/
  frames : List Bytes
  /-- Datagrams sent and not yet delivered, oldest first. -/
  inFlight : List Bytes

/-- The tunnel has just been opened and its SYN sent. -/
def TcpLink.start (clock : Instant) (tunnel : OpenedTunnel) (syn : Bytes) : TcpLink where
  bridge := .start clock
  sender := tunnel.sender
  reading := true
  chunks := []
  frames := []
  inFlight := [syn]

/-- One step of the read loop, the network or the bridge. -/
inductive LinkEvent where
  /-- The loop reads a chunk, seals it and calls `send`. -/
  | read (chunk : Bytes) (success : Bool)
  /-- The local socket is at its end or fails. -/
  | readEnd
  /-- The oldest datagram arrives. -/
  | deliver
  /-- The bridge takes any other step. -/
  | bridge (event : Event)

/-- The key the bridge files the tunnel under. -/
def TcpLink.key (peer : SocketAddr) (link : TcpLink) : SessionKey :=
  ⟨peer, link.sender.tunnel.connectionId⟩

/-- The datagrams of the tunnel come from its own socket only. -/
def TcpLink.foreign (peer : SocketAddr) (link : TcpLink) : Event → Bool
  | .receive source pkt =>
    match Header.decode pkt with
    | .ok header => decide ((⟨source, header.connectionId⟩ : SessionKey) ≠ link.key peer)
    | .error _ => true
  | _ => true

/-- `handle_tcp_local` after a read: seal and send. An error ends the loop. -/
def TcpLink.read (crypto : Crypto) (link : TcpLink) (chunk : Bytes) (success : Bool) :
    Option TcpLink :=
  if link.reading = true ∧ chunk ≠ [] ∧ chunk.length ≤ maxPayloadLen then
    let sent := link.sender.encryptUpstream crypto chunk
    match sent.2 with
    | .error _ =>
      some { link with sender := sent.1, reading := false, chunks := link.chunks ++ [chunk] }
    | .ok wire => some { link with
        sender := sent.1
        reading := success
        chunks := link.chunks ++ [chunk]
        frames := link.frames ++ [wire]
        inFlight := if success then link.inFlight ++ [wire] else link.inFlight }
  else none

/-- One step of the link. -/
def TcpLink.step (env : BridgeEnv) (peer : SocketAddr) (link : TcpLink) :
    LinkEvent → Option TcpLink
  | .read chunk success => link.read env.crypto chunk success
  | .readEnd => if link.reading then some { link with reading := false } else none
  | .deliver =>
    match link.inFlight with
    | [] => none
    | wire :: later => (Bridge.step env link.bridge (.receive peer wire)).map fun bridge =>
        { link with bridge, inFlight := later }
  | .bridge event =>
    if link.foreign peer event then
      (Bridge.step env link.bridge event).map fun bridge => { link with bridge }
    else none

/-- When `forward_data` holds the mutex of a session of the tunnel and its datagram opens, that
datagram is the frame sealed right after those written before, and the socket has taken all the
bytes of those. -/
def writesNext (env : BridgeEnv) (peer : SocketAddr) (link : TcpLink) : LinkEvent → Bool
  | .bridge (.lock task) =>
    match link.bridge.tasks[task]? with
    | some (.locking key session pkt) =>
      match link.bridge.cells[session]? with
      | some cell =>
        match decryptFrame env.crypto cell.session.aeadKey pkt with
        | .ok _ =>
          let written := link.bridge.payloads session
          decide (key = link.key peer →
            link.frames[written.length]? = some pkt ∧ link.bridge.taken session = written.flatten)
        | .error _ => true
      | none => true
    | _ => true
  | _ => true

/-- What the tunnel's datagrams and sessions are under the condition. -/
structure LinkOrdered (env : BridgeEnv) (peer : SocketAddr) (tunnel : OpenedTunnel) (syn : Bytes)
    (link : TcpLink) : Prop where
  /-- The tunnel stays. -/
  same : link.sender.tunnel = tunnel
  /-- Bridge sessions have one key each. -/
  keyed : Keyed link.bridge
  /-- Bridge writers are alone. -/
  owned : Exclusive link.bridge
  /-- The tunnel's sessions have its key. -/
  agreed : Agreed link.bridge (link.key peer) tunnel.aeadKey
  /-- While the loop runs every chunk has its frame. -/
  counted : link.frames.length ≤ link.chunks.length ∧
    (link.reading = true → link.frames.length = link.chunks.length)
  /-- A frame opens to its chunk. -/
  frames : ∀ (position : Nat) (wire : Bytes), link.frames[position]? = some wire →
    ∃ header chunk, link.chunks[position]? = some chunk ∧ Header.decode wire = .ok header ∧
      header.flags = Flags.empty ∧
      decryptFrame env.crypto tunnel.aeadKey wire = .ok (header, chunk)
  /-- Only the SYN and frames are in flight. -/
  inFlight : ∀ wire ∈ link.inFlight, wire = syn ∨ wire ∈ link.frames
  /-- Every SYN of the tunnel at the bridge is the tunnel's own. -/
  arrived : ∀ (task : Nat) (pkt : Bytes) (header : Header),
    link.bridge.tasks[task]? = some (.spawned peer pkt) → Header.decode pkt = .ok header →
    header.connectionId = tunnel.connectionId → header.flags.contains Flags.syn = true → pkt = syn
  /-- Sessions of no other key have an ordered stream of the tunnel's chunks. -/
  ordered : ∀ session, (∀ key, .accepted key session ∈ link.bridge.trace → key = link.key peer) →
    Ordered link.bridge session ∧ link.bridge.payloads session <+: link.chunks

section

variable {env : BridgeEnv} {peer : SocketAddr} {link next : TcpLink} {event : LinkEvent}
  {tunnel : OpenedTunnel} {syn : Bytes}

/-- What one step of the link can do. -/
inductive LinkAfter (env : BridgeEnv) (peer : SocketAddr) (link : TcpLink) :
    LinkEvent → TcpLink → Prop where
  /-- A chunk is read and sealed. -/
  | read (chunk wire : Bytes) (success : Bool) (running : link.reading = true)
      (sealed : encryptFrame env.crypto link.sender.tunnel.aeadKey link.sender.nextHeader chunk =
        .ok wire) :
      LinkAfter env peer link (.read chunk success) { link with
        sender := { link.sender with txSequence := link.sender.txSequence + 1 }
        reading := success
        chunks := link.chunks ++ [chunk]
        frames := link.frames ++ [wire]
        inFlight := if success then link.inFlight ++ [wire] else link.inFlight }
  /-- The loop ends. -/
  | ended : LinkAfter env peer link .readEnd { link with reading := false }
  /-- A datagram arrives. -/
  | delivered (wire : Bytes) (later : List Bytes) (bridge : BridgeState)
      (oldest : link.inFlight = wire :: later)
      (taken : Bridge.step env link.bridge (.receive peer wire) = some bridge) :
      LinkAfter env peer link .deliver { link with bridge, inFlight := later }
  /-- The bridge steps. -/
  | stepped (event : Event) (bridge : BridgeState) (foreign : link.foreign peer event = true)
      (taken : Bridge.step env link.bridge event = some bridge) :
      LinkAfter env peer link (.bridge event) { link with bridge }

/-- Every step of the link is one of these: a chunk always fits a frame. -/
theorem link_step (taken : link.step env peer event = some next) :
    LinkAfter env peer link event next := by
  cases event with
  | read chunk success =>
    simp only [TcpLink.step, TcpLink.read] at taken
    split at taken
    · rename_i guards
      obtain ⟨running, _, fits⟩ := guards
      cases sealed : (link.sender.encryptUpstream env.crypto chunk).2 with
      | error failure =>
        simp [Sender.encryptUpstream, encryptFrame, Nat.not_lt_of_le fits] at sealed
      | ok wire =>
        rw [sealed] at taken
        obtain rfl := Option.some.inj taken
        exact .read chunk wire success running sealed
    · contradiction
  | readEnd =>
    simp only [TcpLink.step] at taken
    split at taken
    · obtain rfl := Option.some.inj taken
      exact .ended
    · contradiction
  | deliver =>
    simp only [TcpLink.step] at taken
    split at taken
    · contradiction
    · rename_i wire later oldest
      obtain ⟨bridge, stepped, rfl⟩ := Option.map_eq_some_iff.mp taken
      exact .delivered wire later bridge oldest stepped
  | bridge inner =>
    simp only [TcpLink.step] at taken
    split at taken
    · rename_i foreign
      obtain ⟨bridge, stepped, rfl⟩ := Option.map_eq_some_iff.mp taken
      exact .stepped inner bridge foreign stepped
    · contradiction

/-- SYNs of the tunnel's key stay the tunnel's SYN, if none but it arrives. -/
theorem arrived_step {inner : Event} {bridge : BridgeState}
    (held : LinkOrdered env peer tunnel syn link)
    (arrival : ∀ pkt header, inner = .receive peer pkt → Header.decode pkt = .ok header →
      header.connectionId = tunnel.connectionId → header.flags.contains Flags.syn = true →
      pkt = syn)
    (taken : Bridge.step env link.bridge inner = some bridge) (task : Nat) (pkt : Bytes)
    (header : Header) (present : bridge.tasks[task]? = some (.spawned peer pkt))
    (front : Header.decode pkt = .ok header) (same : header.connectionId = tunnel.connectionId)
    (flagged : header.flags.contains Flags.syn = true) : pkt = syn := by
  cases task_before taken present with
  | stayed _ _ old => exact held.arrived task pkt header old front same flagged
  | spawned source wire last => exact arrival pkt header rfl front same flagged
  | moved _ before _ point move => cases move

/-- What a session of the tunnel passes on stays a prefix of what was read, while frames are
written in turn. -/
theorem chunks_step {inner : Event} {bridge : BridgeState}
    (held : LinkOrdered env peer tunnel syn link) {session : SessionId}
    (mine : ∀ (task : Nat) (key : SessionKey) (pkt : Bytes),
      link.bridge.tasks[task]? = some (.locking key session pkt) → key = link.key peer)
    (turn : ∀ task pkt cell header payload, inner = .lock task →
      link.bridge.tasks[task]? = some (.locking (link.key peer) session pkt) →
      link.bridge.cells[session]? = some cell →
      decryptFrame env.crypto cell.session.aeadKey pkt = .ok (header, payload) →
      link.frames[(link.bridge.payloads session).length]? = some pkt)
    (chunks : link.bridge.payloads session <+: link.chunks)
    (taken : Bridge.step env link.bridge inner = some bridge) :
    bridge.payloads session <+: link.chunks := by
  have same (payloads : bridge.payloads session = link.bridge.payloads session) :
      bridge.payloads session <+: link.chunks := by
    rw [payloads]
    exact chunks
  cases stream_step taken session with
  | still payloads => exact same payloads
  | took _ _ _ _ _ _ _ payloads => exact same payloads
  | finished _ _ _ _ _ _ _ payloads => exact same payloads
  | called task key pkt cell header payload running point present opened _ payloads _ =>
    obtain rfl := mine task key pkt point
    have sealed := turn task pkt cell header payload running point present opened
    obtain ⟨front, chunk, read, _, _, opens⟩ := held.frames _ pkt sealed
    have shared : cell.session.aeadKey = tunnel.aeadKey := held.agreed.cells session cell
      (held.keyed.serves task _ _ session point rfl) present
    rw [shared, opens] at opened
    obtain ⟨_, rfl⟩ := Prod.mk.inj (Except.ok.inj opened)
    rw [payloads]
    exact Update.prefix_concat chunks read

/-- A step of the bridge keeps the link ordered while the tunnel's SYN is the only one of its key
and its frames are written in turn. -/
theorem bridge_ordered {inner : Event} {bridge : BridgeState}
    (derives : ∀ nowUnix aeadKey connect, admitSyn env nowUnix syn = .ok (aeadKey, connect) →
      aeadKey = tunnel.aeadKey)
    (held : LinkOrdered env peer tunnel syn link)
    (arrival : ∀ pkt header, inner = .receive peer pkt → Header.decode pkt = .ok header →
      header.connectionId = tunnel.connectionId → header.flags.contains Flags.syn = true →
      pkt = syn)
    (turn : ∀ task session pkt cell header payload, inner = .lock task →
      link.bridge.tasks[task]? = some (.locking (link.key peer) session pkt) →
      link.bridge.cells[session]? = some cell →
      decryptFrame env.crypto cell.session.aeadKey pkt = .ok (header, payload) →
      link.frames[(link.bridge.payloads session).length]? = some pkt ∧
        link.bridge.taken session = (link.bridge.payloads session).flatten)
    (taken : Bridge.step env link.bridge inner = some bridge) :
    LinkOrdered env peer tunnel syn { link with bridge } where
  same := held.same
  keyed := keyed_step held.keyed taken
  owned := exclusive_step held.owned taken
  agreed := by
    apply agreed_step held.keyed held.agreed _ taken
    intro task nowUnix pkt header other connect _ point front same flagged admitted
    have id : header.connectionId = tunnel.connectionId := by
      rw [same, ← held.same]
      rfl
    obtain rfl := held.arrived task pkt header point front id flagged
    exact derives nowUnix other connect admitted
  counted := held.counted
  frames := held.frames
  inFlight := held.inFlight
  arrived := arrived_step held arrival taken
  ordered session own := by
    have grows := (step_footprint taken).trace_grows
    have ownBefore : ∀ key, .accepted key session ∈ link.bridge.trace → key = link.key peer :=
      fun key recorded => own key (grows.subset recorded)
    have mine (task : Nat) (key : SessionKey) (pkt : Bytes)
        (point : link.bridge.tasks[task]? = some (.locking key session pkt)) :
        key = link.key peer := ownBefore key (held.keyed.serves task _ key session point rfl)
    obtain ⟨stream, chunks⟩ := held.ordered session ownBefore
    constructor
    · apply ordered_step held.owned stream _ taken
      intro task key pkt cell header payload running point present opened
      obtain rfl := mine task key pkt point
      exact (turn task session pkt cell header payload running point present opened).2
    · refine chunks_step held mine ?_ chunks taken
      intro task pkt cell header payload running point present opened
      exact (turn task session pkt cell header payload running point present opened).1

/-- A read keeps the link ordered. -/
theorem read_ordered (laws : CryptoLaws env.crypto) (held : LinkOrdered env peer tunnel syn link)
    {chunk wire : Bytes} {success : Bool} (running : link.reading = true)
    (sealed : encryptFrame env.crypto link.sender.tunnel.aeadKey link.sender.nextHeader chunk =
      .ok wire) :
    LinkOrdered env peer tunnel syn { link with
      sender := { link.sender with txSequence := link.sender.txSequence + 1 }
      reading := success
      chunks := link.chunks ++ [chunk]
      frames := link.frames ++ [wire]
      inFlight := if success then link.inFlight ++ [wire] else link.inFlight } where
  same := held.same
  keyed := held.keyed
  owned := held.owned
  agreed := held.agreed
  counted := by
    have counted := held.counted.2 running
    simp [counted]
  frames position frame present := by
    have counted := held.counted.2 running
    rcases Update.getElem?_concat_cases present with ⟨rfl, rfl⟩ | old
    · obtain ⟨_, written⟩ := encryptFrame_ok sealed
      have opens := decryptFrame_encryptFrame laws rfl sealed
      rw [held.same] at opens
      refine ⟨link.sender.nextHeader, chunk, ?_, ?_, rfl, opens⟩
      · rw [counted, List.getElem?_concat_length]
      · rw [written]
        exact Header.decode_encode _ rfl _
    · obtain ⟨header, before, read, rest⟩ := held.frames position frame old
      have bound := (List.getElem?_eq_some_iff.mp read).1
      exact ⟨header, before, by rw [List.getElem?_append_left bound, read], rest⟩
  inFlight frame member := by
    have old : frame ∈ link.inFlight → frame = syn ∨ frame ∈ link.frames ++ [wire] := fun before =>
      (held.inFlight frame before).imp_right (List.mem_append_left _)
    cases success with
    | false => exact old member
    | true =>
      rcases List.mem_append.mp member with before | added
      · exact old before
      · exact .inr (List.mem_append_right _ added)
  arrived := held.arrived
  ordered session own := by
    obtain ⟨stream, chunks⟩ := held.ordered session own
    exact ⟨stream, chunks.trans (List.prefix_append _ _)⟩

/-- Every step that writes frames in turn keeps the link ordered. -/
theorem linkOrdered_step (laws : CryptoLaws env.crypto)
    (derives : ∀ nowUnix aeadKey connect, admitSyn env nowUnix syn = .ok (aeadKey, connect) →
      aeadKey = tunnel.aeadKey)
    (held : LinkOrdered env peer tunnel syn link) (turn : writesNext env peer link event = true)
    (taken : link.step env peer event = some next) : LinkOrdered env peer tunnel syn next := by
  cases link_step taken with
  | read chunk wire success running sealed => exact read_ordered laws held running sealed
  | ended =>
    exact { held with counted := ⟨held.counted.1, fun running => by contradiction⟩ }
  | delivered wire later bridge oldest arrives =>
    have sent : wire ∈ link.inFlight := by
      rw [oldest]
      exact List.mem_cons_self
    have kept : LinkOrdered env peer tunnel syn { link with bridge } := by
      apply bridge_ordered derives held _ _ arrives
      · intro pkt header received front _ flagged
        obtain ⟨_, rfl⟩ := Event.receive.inj received
        rcases held.inFlight wire sent with same | framed
        · exact same
        · obtain ⟨position, present⟩ := List.mem_iff_getElem?.mp framed
          obtain ⟨own, _, _, ownFront, plain, _⟩ := held.frames position wire present
          obtain rfl := Except.ok.inj (front.symm.trans ownFront)
          rw [plain, empty_contains_syn] at flagged
          contradiction
      · intro task session pkt cell header payload impossible
        contradiction
    refine { kept with inFlight := fun frame member => held.inFlight frame ?_ }
    rw [oldest]
    exact List.mem_cons_of_mem _ member
  | stepped inner bridge foreign stepped =>
    apply bridge_ordered derives held _ _ stepped
    · intro pkt header received front same flagged
      subst received
      have other : (⟨peer, header.connectionId⟩ : SessionKey) ≠ link.key peer := by
        simpa [TcpLink.foreign, front] using foreign
      rw [same, ← held.same] at other
      exact absurd rfl other
    · intro task session pkt cell header payload running point present opened
      subst running
      simpa [writesNext, point, present, opened] using turn

/-- A link that has just been opened is ordered. -/
theorem linkOrdered_start (clock : Instant) :
    LinkOrdered env peer tunnel syn (.start clock tunnel syn) where
  same := rfl
  keyed := keyed_start clock
  owned := exclusive_start clock
  agreed := agreed_start clock _ _
  counted := ⟨Nat.le_refl _, fun _ => rfl⟩
  frames position wire present := by simp [TcpLink.start] at present
  inFlight wire member := .inl (List.mem_singleton.mp member)
  arrived task pkt header present := by simp [TcpLink.start, BridgeState.start] at present
  ordered session _ := ⟨ordered_start clock session, List.prefix_rfl⟩

/-- In every run of a TCP tunnel, over a network that keeps its datagrams and their order, in which
frames reach the mutex of the tunnel's session one after the other, none missing, each after the
writes before it are through, what the destination socket has taken is a prefix of what was read
from the local socket. -/
theorem tcp_upstream_prefix (laws : CryptoLaws env.crypto) {text : TextCodec} {rule : Rule}
    {clientSk : StaticSecret} {connectionId : UInt32} {clock : Instant} {events : List LinkEvent}
    {final : TcpLink}
    (published : text.hexDecode rule.bridgeX25519PubkeyHex =
      some (env.crypto.publicKey env.bridgeSecret).toList)
    (opened : rule.openTunnel env.crypto text .tcp clientSk connectionId = .ok (tunnel, syn))
    (turn : Along (TcpLink.step env peer) (fun link event => writesNext env peer link event = true)
      (.start clock tunnel syn) events)
    (reached : run (TcpLink.step env peer) (.start clock tunnel syn) events = some final) :
    ∀ session, .accepted (final.key peer) session ∈ final.bridge.trace →
      final.bridge.taken session <+: final.chunks.flatten := by
  intro session recorded
  have held : LinkOrdered env peer tunnel syn final :=
    run_invariant (fun link event next held met taken =>
      linkOrdered_step laws (fun nowUnix aeadKey connect admitted =>
        admitted_key_shared laws published opened admitted) held met taken)
      (linkOrdered_start clock) turn reached
  have own : ∀ key, .accepted key session ∈ final.bridge.trace → key = final.key peer :=
    fun key other => held.keyed.functional key _ session other recorded
  obtain ⟨stream, chunks⟩ := held.ordered session own
  exact stream.taken.trans chunks.flatten

end

/-- The first sample client opens a TCP tunnel, and its SYN arrives and is polled. -/
def tcpOpening : List LinkEvent := [.deliver, .bridge (.poll 0 1000)]

/-- The destination connects. -/
def tcpConnected : List LinkEvent := [.bridge (.connected 0), .bridge (.insert 0)]

/-- A one-byte chunk goes all the way, as the datagram numbered `task`. -/
def tcpChunk (task : Nat) (byte : UInt8) : List LinkEvent :=
  [.read [byte] true, .deliver, .bridge (.poll task 1000), .bridge (.lock task),
    .bridge (.writeSome task 1), .bridge (.writeDone task)]

/-- The sample tunnel over TCP. -/
def sampleLink : TcpLink := .start 0 (sampleTunnel 1 .tcp 5).1 (sampleTunnel 1 .tcp 5).2

/-- Two chunks read after the destination connected. -/
def connectedChunks : List LinkEvent :=
  tcpOpening ++ tcpConnected ++ tcpChunk 1 1 ++ tcpChunk 2 2

/-- The chunks of the sample run arrive in order. -/
theorem connectedChunks_prefix : ∃ final,
    run (TcpLink.step (sampleEnv 8) (samplePeer 1)) sampleLink connectedChunks = some final ∧
    .accepted (final.key (samplePeer 1)) 0 ∈ final.bridge.trace ∧
      final.bridge.taken 0 = [1, 2] ∧ final.bridge.taken 0 <+: final.chunks.flatten := by
  have sample : ((run (TcpLink.step (sampleEnv 8) (samplePeer 1)) sampleLink connectedChunks).map
        fun final => (decide (.accepted (final.key (samplePeer 1)) 0 ∈ final.bridge.trace),
          final.bridge.taken 0)) = some (true, [1, 2]) ∧
      Along (TcpLink.step (sampleEnv 8) (samplePeer 1)) (fun link event =>
        writesNext (sampleEnv 8) (samplePeer 1) link event = true) sampleLink connectedChunks := by
    simp only [sampleLink, sampleTunnel_eq]
    decide +kernel
  obtain ⟨outcome, turn⟩ := sample
  obtain ⟨final, reached, records⟩ := Option.map_eq_some_iff.mp outcome
  obtain ⟨accepted, taken⟩ := Prod.mk.inj records
  have recorded := of_decide_eq_true accepted
  exact ⟨final, reached, recorded, taken, tcp_upstream_prefix (sampleEnv_laws 8)
    (sampleRule_published 8) (sampleTunnel_opens 8 1 .tcp 5) turn reached 0 recorded⟩

/-- A chunk is read, sent and dropped while the destination still connects; the next one arrives. -/
def earlyChunk : List LinkEvent :=
  tcpOpening ++ [.read [1] true, .deliver, .bridge (.poll 1 1000)] ++ tcpConnected ++ tcpChunk 2 2

/-- Some run over an orderly network writes bytes that are no prefix of what was read. -/
theorem early_chunk_lost : ¬ ∀ (env : BridgeEnv) (text : TextCodec) (peer : SocketAddr)
    (rule : Rule) (clientSk : StaticSecret) (connectionId : UInt32) (tunnel : OpenedTunnel)
    (syn : Bytes) (clock : Instant) (events : List LinkEvent) (final : TcpLink),
    CryptoLaws env.crypto →
    text.hexDecode rule.bridgeX25519PubkeyHex =
      some (env.crypto.publicKey env.bridgeSecret).toList →
    rule.openTunnel env.crypto text .tcp clientSk connectionId = .ok (tunnel, syn) →
    run (TcpLink.step env peer) (.start clock tunnel syn) events = some final →
    ∀ session, .accepted (final.key peer) session ∈ final.bridge.trace →
      final.bridge.taken session <+: final.chunks.flatten := by
  intro ordered
  have outcome : ((run (TcpLink.step (sampleEnv 8) (samplePeer 1)) sampleLink earlyChunk).map
      fun final => (decide (.accepted (final.key (samplePeer 1)) 0 ∈ final.bridge.trace),
        final.bridge.taken 0, final.chunks)) = some (true, [2], [[1], [2]]) := by
    simp only [sampleLink, sampleTunnel_eq]
    decide +kernel
  obtain ⟨final, reached, records⟩ := Option.map_eq_some_iff.mp outcome
  obtain ⟨accepted, rest⟩ := Prod.mk.inj records
  obtain ⟨taken, chunks⟩ := Prod.mk.inj rest
  have written := ordered (sampleEnv 8) standardText (samplePeer 1) sampleRule
    (List.Vector.replicate 32 1) 5 (sampleTunnel 1 .tcp 5).1 (sampleTunnel 1 .tcp 5).2 0 earlyChunk
    final (sampleEnv_laws 8) (sampleRule_published 8) (sampleTunnel_opens 8 1 .tcp 5)
    reached 0 (of_decide_eq_true accepted)
  rw [taken, chunks] at written
  revert written
  decide

end LowPing.Tunnel
