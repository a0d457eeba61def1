import LowPing.Capture.Packet
import LowPing.Client.Tunnel

/-!
# Smart mode

The capture loop and the bridge listeners of one client. The loop rewrites outbound packets towards
a listener and records where they were sent; a listener keeps one tunnel for each source port it
has seen and opens it to the destination then on record. The loop runs on a thread of its own, so
it may process packets between any two steps of a listener. How a packet is routed is the
resolver's choice, made anew for each packet.
-/

namespace LowPing.Client

open LowPing.Capture

/-- The fields of a `BridgeEntry` that its listener reads. -/
structure BridgeEntry where
  /-- Where tunnel traffic is sent. -/
  endpoint : SocketAddr
  /-- Hex text of the bridge's public key. -/
  bridgeX25519PubkeyHex : String
  /-- Base64 text of the licence token. -/
  licenseToken : String
  /-- Local port for redirected traffic via this bridge. -/
  listenPort : UInt16

/-- The request `open_tunnel` of smart mode puts into a SYN. -/
def connectTo (dest : SocketAddr) : ConnectRequest := ⟨.udp, dest.ip, dest.port⟩

/-- `open_tunnel` of smart mode. -/
def BridgeEntry.openTunnel (crypto : Crypto) (text : TextCodec) (bridge : BridgeEntry)
    (dest : SocketAddr) (clientSk : StaticSecret) (connectionId : UInt32) :
    Except TunnelError (OpenedTunnel × Bytes) :=
  openTunnelTo crypto text bridge.bridgeX25519PubkeyHex bridge.licenseToken (connectTo dest)
    clientSk connectionId

/-- `UdpSession` of smart mode. -/
structure UdpSession where
  /-- The tunnel and its counter. -/
  sender : Sender
  /-- History: the request in its SYN. -/
  connect : ConnectRequest

/-- A datagram redirected to a listener. -/
structure Redirected where
  /-- As the listener receives it. -/
  datagram : Datagram
  /-- History: its destination before the rewrite. -/
  origin : SocketAddr
  deriving DecidableEq

/-- The port a listener keys its session by. -/
def Redirected.srcPort (arrived : Redirected) : UInt16 := arrived.datagram.src.port

/-- Where `run_bridge_listener` is in its loop. -/
inductive ListenerStage where
  /-- Awaiting a datagram. -/
  | receiving
  /-- Holding a datagram without a session, about to call `flow_origin`. -/
  | looking (arrived : Redirected)
  /-- Awaiting `open_tunnel`. -/
  | opening (arrived : Redirected) (origDest : SocketAddr)

/-- One `run_bridge_listener`. -/
structure Listener where
  /-- Its bridge. -/
  bridge : BridgeEntry
  /-- Sessions by the game's source port; none is ever removed. -/
  sessions : AList fun _ : UInt16 => UdpSession
  /-- Where the loop is. -/
  stage : ListenerStage

/-- The loopback address a listener is bound to. -/
def Listener.listen (listener : Listener) : SocketAddr :=
  ⟨.v4 (Ipv4Addr.new 127 0 0 1), listener.bridge.listenPort⟩

/-- A datagram sent through a session. -/
structure Forwarded where
  /-- Its destination before the rewrite. -/
  origin : SocketAddr
  /-- The request the session was opened with. -/
  connect : ConnectRequest
  /-- The sealed frame. -/
  wire : Bytes

/-- The capture loop, the listeners and the packets between them. -/
structure SmartState where
  /-- NAT table of the capture. -/
  flows : FlowTable
  /-- Redirected datagrams on their way to a listener. -/
  pending : List Redirected
  /-- One for each bridge. -/
  listeners : List Listener
  /-- History: what listeners have forwarded. -/
  forwarded : List Forwarded

/-- Smart mode has just started. -/
def SmartState.start (bridges : List BridgeEntry) : SmartState where
  flows := ∅
  pending := []
  listeners := bridges.map fun bridge => ⟨bridge, ∅, .receiving⟩
  forwarded := []

/-- One step of the capture loop, of the local network or of a listener. -/
inductive SmartEvent where
  /-- The loop processes a packet and, if all goes well, sends what it becomes. -/
  | capture (data : Bytes) (outbound : Bool) (resolver : Resolver) (now : Instant) (sent : Bool)
  /-- The loop reaps idle flows. -/
  | reap (now : Instant)
  /-- A datagram gets lost. -/
  | lose (position : Nat)
  /-- A listener receives a datagram that has a session, or not. -/
  | receive (listener position : Nat)
  /-- It looks up where the datagram was sent. -/
  | lookup (listener : Nat)
  /-- `open_tunnel` returns a tunnel. -/
  | opened (listener : Nat) (clientSk : StaticSecret) (connectionId : UInt32)
  /-- `open_tunnel` fails. -/
  | openFailed (listener : Nat)

/-- One turn of the capture loop. -/
def SmartState.capture (state : SmartState) (data : Bytes) (outbound : Bool) (resolver : Resolver)
    (now : Instant) (sent : Bool) : Option SmartState :=
  match processPacket data outbound resolver state.flows now with
  | none => none
  | some (flows, none) => some { state with flows }
  | some (flows, some out) =>
    let arrived : List Redirected :=
      match udpDatagram out, udpDatagram data with
      | some datagram, some original =>
        if outbound && sent then [⟨datagram, original.dst⟩] else []
      | _, _ => []
    some { state with flows, pending := state.pending ++ arrived }

/-- Replace a listener. -/
def SmartState.setListener (state : SmartState) (index : Nat) (listener : Listener) : SmartState :=
  { state with listeners := state.listeners.set index listener }

/-- The end of a turn of the listener's loop: count, seal and send through a session. -/
def SmartState.forward (crypto : Crypto) (state : SmartState) (index : Nat) (listener : Listener)
    (session : UdpSession) (arrived : Redirected) : SmartState :=
  let sent := session.sender.encryptUpstream crypto arrived.datagram.payload
  let counted := { listener with
    sessions := listener.sessions.insert arrived.srcPort { session with sender := sent.1 }
    stage := .receiving }
  let frames : List Forwarded := match sent.2 with
    | .ok wire => [⟨arrived.origin, session.connect, wire⟩]
    | .error _ => []
  { state.setListener index counted with forwarded := state.forwarded ++ frames }

/-- `recv_from` returns a datagram sent to the listener's address. -/
def SmartState.receive (crypto : Crypto) (state : SmartState) (index position : Nat) :
    Option SmartState :=
  match state.listeners[index]?, state.pending[position]? with
  | some listener, some arrived =>
    match listener.stage with
    | .receiving =>
      if arrived.datagram.dst = listener.listen then
        let taken := { state with pending := state.pending.eraseIdx position }
        match listener.sessions.lookup arrived.srcPort with
        | some session => some (taken.forward crypto index listener session arrived)
        | none => some (taken.setListener index { listener with stage := .looking arrived })
      else none
    | _ => none
  | _, _ => none

/-- `flow_origin` of the datagram's source port; without one the datagram is dropped. -/
def SmartState.lookup (state : SmartState) (index : Nat) : Option SmartState :=
  match state.listeners[index]? with
  | some listener =>
    match listener.stage with
    | .looking arrived =>
      let stage := match flowOrigin state.flows arrived.srcPort with
        | some origDest => ListenerStage.opening arrived origDest
        | none => .receiving
      some (state.setListener index { listener with stage })
    | _ => none
  | none => none

/-- A tunnel has been opened: the session is filed under the source port and used at once. -/
def SmartState.opened (crypto : Crypto) (text : TextCodec) (state : SmartState) (index : Nat)
    (clientSk : StaticSecret) (connectionId : UInt32) : Option SmartState :=
  match state.listeners[index]? with
  | some listener =>
    match listener.stage with
    | .opening arrived origDest =>
      match listener.bridge.openTunnel crypto text origDest clientSk connectionId with
      | .error _ => none
      | .ok (tunnel, _) =>
        some (state.forward crypto index listener ⟨tunnel.sender, connectTo origDest⟩ arrived)
    | _ => none
  | none => none

/-- No tunnel could be opened: the datagram is dropped. -/
def SmartState.openFailed (state : SmartState) (index : Nat) : Option SmartState :=
  match state.listeners[index]? with
  | some listener =>
    match listener.stage with
    | .opening .. => some (state.setListener index { listener with stage := .receiving })
    | _ => none
  | none => none

/-- One step of smart mode. -/
def SmartState.step (crypto : Crypto) (text : TextCodec) (state : SmartState) :
    SmartEvent → Option SmartState
  | .capture data outbound resolver now sent => state.capture data outbound resolver now sent
  | .reap now => (reapFlows state.flows flowIdle now).map fun flows => { state with flows }
  | .lose position =>
    if position < state.pending.length then
      some { state with pending := state.pending.eraseIdx position }
    else none
  | .receive index position => state.receive crypto index position
  | .lookup index => state.lookup index
  | .opened index clientSk connectionId => state.opened crypto text index clientSk connectionId
  | .openFailed index => state.openFailed index

end LowPing.Client
