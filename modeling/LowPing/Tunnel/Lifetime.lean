import LowPing.Library.Machine
import LowPing.Bridge.Lifetime
import LowPing.Client.Destination
import LowPing.Client.TcpRule
import LowPing.Client.UdpRule

/-!
# How long client and bridge keep a tunnel

One client with its rules and its smart mode, one bridge, and a network between them that loses
nothing. The bridge drops a session without upstream traffic for `idle_timeout_secs`; the UDP rules
have a reaper and a timeout of their own, smart mode and TCP connections keep their tunnels. Client
and bridge agree while the bridge spares every tunnel in use.
-/

namespace LowPing.Tunnel

open LowPing.Bridge LowPing.Client Library Library.Machine

/-- What runs in the client: a rule of either transport, or smart mode. -/
inductive Forwarder where
  /-- `run_udp_rule`. -/
  | udp (config : UdpRule) (state : RuleState)
  /-- `run_tcp_rule`. -/
  | tcp (rule : Rule) (connections : List TcpConnection)
  /-- The capture and every `run_bridge_listener`. -/
  | smart (state : SmartState)

/-- A step of one of them. -/
inductive ForwarderEvent where
  /-- Of a UDP rule. -/
  | udp (event : RuleEvent)
  /-- Of a TCP rule. -/
  | tcp (event : TcpRuleEvent)
  /-- Of smart mode. -/
  | smart (event : SmartEvent)

/-- A datagram of a tunnel and the bridge it goes to. -/
structure Outgoing where
  /-- The tunnel. -/
  tunnel : OpenedTunnel
  /-- The bridge the tunnel's socket is connected to. -/
  bridge : SocketAddr
  /-- Its bytes. -/
  wire : Bytes

/-- One step of a forwarder. -/
def Forwarder.step (crypto : Crypto) (text : TextCodec) :
    Forwarder → ForwarderEvent → Option Forwarder
  | .udp config state, .udp event => (state.step crypto text config event).map (.udp config)
  | .tcp rule connections, .tcp event =>
    (rule.tcpStep crypto text connections event).map (.tcp rule)
  | .smart state, .smart event => (state.step crypto text event).map .smart
  | _, _ => none

/-- The SYN of an opened tunnel. -/
def synTo (bridge : SocketAddr) : Except TunnelError (OpenedTunnel × Bytes) → Option Outgoing
  | .ok (tunnel, wire) => some ⟨tunnel, bridge, wire⟩
  | .error _ => none

/-- The next data frame of a send loop. -/
def frameTo (crypto : Crypto) (bridge : SocketAddr) (sender : Sender) (payload : Bytes) :
    List Outgoing :=
  match (sender.encryptUpstream crypto payload).2 with
  | .ok wire => [⟨sender.tunnel, bridge, wire⟩]
  | .error _ => []

/-- The SYN a step sends for a tunnel it opens. -/
def Forwarder.opens (crypto : Crypto) (text : TextCodec) :
    Forwarder → ForwarderEvent → Option Outgoing
  | .udp config _, .udp (.opened clientSk connectionId) =>
    synTo config.rule.bridge (config.rule.openTunnel crypto text .udp clientSk connectionId)
  | .tcp rule _, .tcp (.opened clientSk connectionId) =>
    synTo rule.bridge (rule.openTunnel crypto text .tcp clientSk connectionId)
  | .smart state, .smart (.opened index clientSk connectionId) =>
    match state.listeners[index]? with
    | some ⟨bridge, _, .opening _ origDest⟩ =>
      synTo bridge.endpoint (bridge.openTunnel crypto text origDest clientSk connectionId)
    | _ => none
  | _, _ => none

/-- The data frames a step sends. -/
def Forwarder.frames (crypto : Crypto) (text : TextCodec) :
    Forwarder → ForwarderEvent → List Outgoing
  | .udp config state, .udp (.forward true) =>
    match state.listener with
    | .forwarding session payload =>
      match state.cells[session]? with
      | some cell => frameTo crypto config.rule.bridge cell.sender payload
      | none => []
    | _ => []
  | .tcp rule connections, .tcp (.connection position (.read chunk true)) =>
    match connections[position]? with
    | some connection => frameTo crypto rule.bridge connection.sender chunk
    | none => []
  | .smart state, .smart (.receive index position) =>
    match state.listeners[index]?, state.pending[position]? with
    | some listener, some arrived =>
      match listener.sessions.lookup arrived.srcPort with
      | some session =>
        frameTo crypto listener.bridge.endpoint session.sender arrived.datagram.payload
      | none => []
    | _, _ => []
  | .smart state, .smart (.opened index clientSk connectionId) =>
    match state.listeners[index]? with
    | some ⟨bridge, _, .opening arrived origDest⟩ =>
      match bridge.openTunnel crypto text origDest clientSk connectionId with
      | .ok (tunnel, _) =>
        frameTo crypto bridge.endpoint tunnel.sender arrived.datagram.payload
      | .error _ => []
    | _ => []
  | _, _ => []

/-- The session a rule's listener holds. -/
def RuleStage.session : RuleStage → Option Nat
  | .inserting _ session _ => some session
  | .forwarding session _ => some session
  | _ => none

/-- The sessions of a UDP rule, in its map or in its hands. -/
def usedSessions (state : RuleState) : List Nat :=
  state.sessions.entries.map (·.2) ++ (RuleStage.session state.listener).toList

/-- The tunnels of the sessions a UDP rule uses. -/
def ruleTunnels (state : RuleState) : List OpenedTunnel :=
  (usedSessions state).filterMap fun session => (state.cells[session]?).map (·.sender.tunnel)

/-- The tunnels of a listener's sessions. -/
def listenerTunnels (listener : Listener) : List OpenedTunnel :=
  listener.sessions.entries.map (·.2.sender.tunnel)

/-- The tunnels a forwarder would use for its next outgoing data. -/
def Forwarder.inUse : Forwarder → List OpenedTunnel
  | .udp _ state => ruleTunnels state
  | .tcp _ connections =>
    (connections.filter (·.reading)).map (·.sender.tunnel)
  | .smart state => state.listeners.flatMap listenerTunnels

/-- A forwarder as it is configured. -/
inductive ForwarderConfig where
  /-- A UDP rule, active since a reading of the clock. -/
  | udp (config : UdpRule) (clock : ClientInstant)
  /-- A TCP rule. -/
  | tcp (rule : Rule)
  /-- Smart mode. -/
  | smart (bridges : List BridgeEntry)

/-- A forwarder that has just started. -/
def ForwarderConfig.start : ForwarderConfig → Forwarder
  | .udp config clock => .udp config (.start clock)
  | .tcp rule => .tcp rule []
  | .smart bridges => .smart (.start bridges)

/-- A client, a bridge and the datagrams from one to the other. -/
structure Deployment where
  /-- The bridge process. -/
  bridge : BridgeState
  /-- What runs in the client. -/
  forwarders : List Forwarder
  /-- Datagrams on their way to the bridge, with their source. -/
  inFlight : List (SocketAddr × Bytes)
  /-- History: the tunnels the client has opened. -/
  opened : List OpenedTunnel

/-- Both sides have just started. -/
def Deployment.start (clock : Instant) (configs : List ForwarderConfig) : Deployment where
  bridge := .start clock
  forwarders := configs.map (·.start)
  inFlight := []
  opened := []

/-- One step of the client, the network or the bridge. No step loses a datagram. -/
inductive DeploymentEvent where
  /-- A forwarder steps. -/
  | client (position : Nat) (event : ForwarderEvent)
  /-- A datagram arrives; they may overtake each other. -/
  | deliver (position : Nat)
  /-- The bridge takes any other step. -/
  | bridge (event : Event)

section

variable (env : BridgeEnv) (text : TextCodec) (address : SocketAddr)
  (peerOf : OpenedTunnel → SocketAddr)

/-- The key of a tunnel at the bridge, given the address of its socket. -/
def tunnelKey (tunnel : OpenedTunnel) : SessionKey := ⟨peerOf tunnel, tunnel.connectionId⟩

/-- Datagrams of other clients come from other addresses. -/
def Deployment.foreign (state : Deployment) : Event → Bool
  | .receive source _ => decide (source ∉ state.opened.map peerOf)
  | _ => true

/-- One step of a deployment whose bridge has an address. -/
def Deployment.step (state : Deployment) : DeploymentEvent → Option Deployment
  | .client position event =>
    match state.forwarders[position]? with
    | none => none
    | some forwarder =>
      (forwarder.step env.crypto text event).map fun next =>
        let opened := (forwarder.opens env.crypto text event).toList
        let sent := (opened ++ forwarder.frames env.crypto text event).filter fun sent =>
          sent.bridge = address
        { state with
          forwarders := state.forwarders.set position next
          inFlight := state.inFlight ++ sent.map fun sent => (peerOf sent.tunnel, sent.wire)
          opened := state.opened ++ opened.map (·.tunnel) }
  | .deliver position =>
    match state.inFlight[position]? with
    | none => none
    | some (peer, wire) => (Bridge.step env state.bridge (.receive peer wire)).map fun bridge =>
        { state with bridge, inFlight := state.inFlight.eraseIdx position }
  | .bridge event =>
    if state.foreign peerOf event then
      (Bridge.step env state.bridge event).map fun bridge => { state with bridge }
    else none

/-- The tunnels in use. -/
def Deployment.inUse (state : Deployment) : List OpenedTunnel :=
  state.forwarders.flatMap (·.inUse)

/-- Every tunnel in use that the bridge has accepted has its session in the table. -/
def Deployment.agrees (state : Deployment) : Prop :=
  ∀ tunnel ∈ state.inUse, state.bridge.hasAccepted (tunnelKey peerOf tunnel) tunnel.aeadKey = true →
    state.bridge.serving (tunnelKey peerOf tunnel) tunnel.aeadKey = true

/-- The bridge spares the tunnels in use, and a tunnel is opened with a key and an AEAD key that no
accepted session has. -/
def sparesInUse (state : Deployment) : DeploymentEvent → Bool
  | .client position event =>
    match state.forwarders[position]? with
    | none => true
    | some forwarder => (forwarder.opens env.crypto text event).all fun syn =>
        !state.bridge.hasAccepted (tunnelKey peerOf syn.tunnel) syn.tunnel.aeadKey
  | .deliver _ => true
  | .bridge event => state.inUse.all fun tunnel =>
      spares state.bridge (tunnelKey peerOf tunnel) tunnel.aeadKey event

end

/-! ## A tunnel in use has been opened -/

section

variable {crypto : Crypto} {text : TextCodec}

/-- Where a session in use comes from. -/
theorem mem_usedSessions {state : RuleState} {session : Nat} : session ∈ usedSessions state ↔
    (∃ src, state.sessions.lookup src = some session) ∨
      RuleStage.session state.listener = some session := by
  unfold usedSessions
  rw [List.mem_append, List.mem_map, Option.mem_toList]
  constructor
  · rintro (⟨entry, member, rfl⟩ | held)
    · exact .inl ⟨entry.1, AList.mem_lookup_iff.mpr member⟩
    · exact .inr held
  · rintro (⟨src, live⟩ | held)
    · exact .inl ⟨⟨src, session⟩, AList.mem_lookup_iff.mp live, rfl⟩
    · exact .inr held

/-- A session used after a step was used before or is the one just created. -/
theorem usedSessions_step {config : UdpRule} {state next : RuleState} {event : RuleEvent}
    {session : Nat} (taken : state.step crypto text config event = some next)
    (used : session ∈ usedSessions next) :
    session ∈ usedSessions state ∨ session = state.cells.length := by
  simp only [mem_usedSessions] at used ⊢
  cases rule_step taken with
  | received src payload free =>
    rcases used with live | held
    · exact .inl (.inl live)
    · contradiction
  | found src payload target point live =>
    rcases used with live | held
    · exact .inl (.inl live)
    · obtain rfl := Option.some.inj held
      exact .inl (.inl ⟨src, live⟩)
  | missed src payload point absent =>
    rcases used with live | held
    · exact .inl (.inl live)
    · contradiction
  | opened src payload clientSk connectionId tunnel wire point opens =>
    rcases used with live | held
    · exact .inl (.inl live)
    · exact .inr (Option.some.inj held).symm
  | openFailed src payload point =>
    rcases used with live | held
    · exact .inl (.inl live)
    · contradiction
  | inserted src target payload point free =>
    have hand : RuleStage.session state.listener = some target := by rw [point]; rfl
    rcases used with ⟨other, live⟩ | held
    · by_cases same : other = src
      · rw [same, AList.lookup_insert] at live
        exact .inl (.inr (hand.trans live))
      · rw [AList.lookup_insert_ne same] at live
        exact .inl (.inl ⟨other, live⟩)
    · exact .inl (.inr (hand.trans held))
  | forwarded target payload cell success frames point present sends =>
    rcases used with live | held
    · exact .inl (.inl live)
    · contradiction
  | removed toDrop point =>
    rcases used with ⟨src, live⟩ | held
    · exact .inl (.inl ⟨src, (Table.lookup_of_lookup_eraseAll live).2⟩)
    · exact .inl (.inr held)
  | _ => exact .inl used

/-- The tunnel of a session in use. -/
theorem mem_ruleTunnels {state : RuleState} {tunnel : OpenedTunnel} :
    tunnel ∈ ruleTunnels state ↔ ∃ session ∈ usedSessions state, ∃ cell,
      state.cells[session]? = some cell ∧ cell.sender.tunnel = tunnel := by
  unfold ruleTunnels
  rw [List.mem_filterMap]
  simp only [Option.map_eq_some_iff]

/-- A tunnel a UDP rule uses after a step was used before or has just been opened. -/
theorem ruleTunnels_step {config : UdpRule} {state next : RuleState} {event : RuleEvent}
    {tunnel : OpenedTunnel} (taken : state.step crypto text config event = some next)
    (used : tunnel ∈ ruleTunnels next) : tunnel ∈ ruleTunnels state ∨
      ∃ clientSk connectionId wire, event = .opened clientSk connectionId ∧
        config.rule.openTunnel crypto text .udp clientSk connectionId = .ok (tunnel, wire) := by
  obtain ⟨session, member, last, present, rfl⟩ := mem_ruleTunnels.mp used
  rcases rule_cell_before taken present with ⟨cell, before, same⟩ | opened
  · rcases usedSessions_step taken member with old | rfl
    · exact .inl (mem_ruleTunnels.mpr ⟨session, old, cell, before, same⟩)
    · have bound := (List.getElem?_eq_some_iff.mp before).1
      exact absurd bound (Nat.lt_irrefl _)
  · exact .inr opened

/-- A tunnel a TCP rule uses after a step was used before or has just been opened. -/
theorem connections_step {rule : Rule} {connections next : List TcpConnection}
    {event : TcpRuleEvent} {tunnel : OpenedTunnel}
    (taken : rule.tcpStep crypto text connections event = some next)
    (used : tunnel ∈ (next.filter (·.reading)).map (·.sender.tunnel)) :
    tunnel ∈ (connections.filter (·.reading)).map (·.sender.tunnel) ∨
      ∃ clientSk connectionId wire, event = .opened clientSk connectionId ∧
        rule.openTunnel crypto text .tcp clientSk connectionId = .ok (tunnel, wire) := by
  obtain ⟨connection, chosen, rfl⟩ := List.mem_map.mp used
  obtain ⟨member, reading⟩ := List.mem_filter.mp chosen
  have kept (old : connection ∈ connections) :
      connection.sender.tunnel ∈ (connections.filter (·.reading)).map (·.sender.tunnel) :=
    List.mem_map.mpr ⟨connection, List.mem_filter.mpr ⟨old, reading⟩, rfl⟩
  cases event with
  | opened clientSk connectionId =>
    simp only [Rule.tcpStep] at taken
    split at taken
    · contradiction
    · rename_i tunnel wire opens
      obtain rfl := Option.some.inj taken
      rcases List.mem_append.mp member with old | added
      · exact .inl (kept old)
      · obtain rfl := List.mem_singleton.mp added
        exact .inr ⟨clientSk, connectionId, wire, rfl, opens⟩
  | connection position inner =>
    simp only [Rule.tcpStep] at taken
    split at taken
    · contradiction
    · rename_i before present
      obtain ⟨after, stepped, rfl⟩ := Option.map_eq_some_iff.mp taken
      rcases List.mem_or_eq_of_mem_set member with old | rfl
      · exact .inl (kept old)
      · obtain ⟨same, still⟩ := TcpConnection.step_sender stepped
        refine .inl (List.mem_map.mpr ⟨before, List.mem_filter.mpr ⟨?_, still reading⟩, same.symm⟩)
        exact List.mem_of_getElem? present

/-- A tunnel a listener uses after an insertion is the inserted one or was used before. -/
theorem listenerTunnels_insert {listener : Listener} {port : UInt16} {session : UdpSession}
    {stage : ListenerStage} {tunnel : OpenedTunnel}
    (used : tunnel ∈ listenerTunnels
      { listener with sessions := listener.sessions.insert port session, stage }) :
    tunnel = session.sender.tunnel ∨ tunnel ∈ listenerTunnels listener := by
  obtain ⟨entry, member, rfl⟩ := List.mem_map.mp used
  rw [AList.entries_insert] at member
  rcases List.mem_cons.mp member with rfl | old
  · exact .inl rfl
  · exact .inr (List.mem_map.mpr ⟨entry, (List.kerase_sublist _ _).subset old, rfl⟩)

/-- After a listener is replaced, its tunnels are in use beside those of the others. -/
theorem setListener_inUse {state : SmartState} {index : Nat} {listener : Listener}
    {tunnel : OpenedTunnel}
    (used : tunnel ∈ (Forwarder.smart (state.setListener index listener)).inUse) :
    tunnel ∈ (Forwarder.smart state).inUse ∨ tunnel ∈ listenerTunnels listener := by
  obtain ⟨other, member, inside⟩ := List.mem_flatMap.mp used
  rcases List.mem_or_eq_of_mem_set member with old | rfl
  · exact .inl (List.mem_flatMap.mpr ⟨other, old, inside⟩)
  · exact .inr inside

/-- A listener's tunnels are in use. -/
theorem listenerTunnels_inUse {state : SmartState} {index : Nat} {listener : Listener}
    {tunnel : OpenedTunnel} (present : state.listeners[index]? = some listener)
    (used : tunnel ∈ listenerTunnels listener) : tunnel ∈ (Forwarder.smart state).inUse :=
  List.mem_flatMap.mpr ⟨listener, List.mem_of_getElem? present, used⟩

/-- Forwarding through a session adds at most its tunnel. -/
theorem forward_inUse {state : SmartState} {index : Nat} {listener : Listener}
    {session : UdpSession} {arrived : Redirected} {tunnel : OpenedTunnel}
    (present : state.listeners[index]? = some listener)
    (used : tunnel ∈
      (Forwarder.smart (state.forward crypto index listener session arrived)).inUse) :
    tunnel ∈ (Forwarder.smart state).inUse ∨ tunnel = session.sender.tunnel := by
  have placed : tunnel ∈ (Forwarder.smart state).inUse ∨ tunnel ∈ listenerTunnels _ :=
    setListener_inUse used
  rcases placed with old | inside
  · exact .inl old
  · rcases listenerTunnels_insert inside with rfl | before
    · exact .inr rfl
    · exact .inl (listenerTunnels_inUse present before)

/-- A tunnel smart mode uses after a step was used before or has just been opened. -/
theorem smart_step {state next : SmartState} {event : SmartEvent} {tunnel : OpenedTunnel}
    (taken : state.step crypto text event = some next)
    (used : tunnel ∈ (Forwarder.smart next).inUse) :
    tunnel ∈ (Forwarder.smart state).inUse ∨
      ∃ index clientSk connectionId bridge sessions arrived origDest wire,
        event = .opened index clientSk connectionId ∧
        state.listeners[index]? = some ⟨bridge, sessions, .opening arrived origDest⟩ ∧
        bridge.openTunnel crypto text origDest clientSk connectionId = .ok (tunnel, wire) := by
  cases event with
  | capture data outbound resolver now sent =>
    simp only [SmartState.step, SmartState.capture] at taken
    split at taken
    · contradiction
    · obtain rfl := Option.some.inj taken
      exact .inl used
    · obtain rfl := Option.some.inj taken
      exact .inl used
  | reap now =>
    obtain ⟨later, reaped, rfl⟩ := Option.map_eq_some_iff.mp taken
    exact .inl used
  | lose position =>
    simp only [SmartState.step] at taken
    split at taken
    · obtain rfl := Option.some.inj taken
      exact .inl used
    · contradiction
  | receive index position =>
    simp only [SmartState.step, SmartState.receive] at taken
    split at taken
    · rename_i listener arrived present queued
      split at taken
      · split at taken
        · split at taken
          · rename_i session live
            obtain rfl := Option.some.inj taken
            rcases forward_inUse present used with old | rfl
            · exact .inl old
            · have entry := AList.mem_lookup_iff.mp live
              exact .inl (listenerTunnels_inUse present (List.mem_map.mpr ⟨_, entry, rfl⟩))
          · obtain rfl := Option.some.inj taken
            rcases setListener_inUse used with old | inside
            · exact .inl old
            · exact .inl (listenerTunnels_inUse present inside)
        · contradiction
      · contradiction
    · contradiction
  | lookup index =>
    simp only [SmartState.step, SmartState.lookup] at taken
    split at taken
    · rename_i listener present
      split at taken
      · obtain rfl := Option.some.inj taken
        rcases setListener_inUse used with old | inside
        · exact .inl old
        · exact .inl (listenerTunnels_inUse present inside)
      · contradiction
    · contradiction
  | opened index clientSk connectionId =>
    simp only [SmartState.step, SmartState.opened] at taken
    split at taken
    · rename_i listener present
      split at taken
      · rename_i arrived origDest waits
        split at taken
        · contradiction
        · rename_i created wire opens
          obtain rfl := Option.some.inj taken
          rcases forward_inUse present used with old | rfl
          · exact .inl old
          · obtain ⟨bridge, sessions, stage⟩ := listener
            obtain rfl : stage = .opening arrived origDest := waits
            exact .inr ⟨index, clientSk, connectionId, bridge, sessions, arrived, origDest, wire,
              rfl, present, opens⟩
      · contradiction
    · contradiction
  | openFailed index =>
    simp only [SmartState.step, SmartState.openFailed] at taken
    split at taken
    · rename_i listener present
      split at taken
      · obtain rfl := Option.some.inj taken
        rcases setListener_inUse used with old | inside
        · exact .inl old
        · exact .inl (listenerTunnels_inUse present inside)
      · contradiction
    · contradiction

/-- A tunnel a forwarder uses after a step was used before, or its SYN has just been sent. -/
theorem inUse_step {forwarder next : Forwarder} {event : ForwarderEvent} {tunnel : OpenedTunnel}
    (taken : forwarder.step crypto text event = some next) (used : tunnel ∈ next.inUse) :
    tunnel ∈ forwarder.inUse ∨
      ∃ syn, forwarder.opens crypto text event = some syn ∧ syn.tunnel = tunnel := by
  cases forwarder with
  | udp config state =>
    cases event with
    | udp event =>
      obtain ⟨after, stepped, rfl⟩ := Option.map_eq_some_iff.mp taken
      rcases ruleTunnels_step stepped used with old | ⟨clientSk, connectionId, wire, rfl, opens⟩
      · exact .inl old
      · exact .inr ⟨⟨tunnel, config.rule.bridge, wire⟩,
          by simp [Forwarder.opens, opens, synTo], rfl⟩
    | tcp event => contradiction
    | smart event => contradiction
  | tcp rule connections =>
    cases event with
    | tcp event =>
      obtain ⟨after, stepped, rfl⟩ := Option.map_eq_some_iff.mp taken
      rcases connections_step stepped used with old | ⟨clientSk, connectionId, wire, rfl, opens⟩
      · exact .inl old
      · exact .inr ⟨⟨tunnel, rule.bridge, wire⟩, by simp [Forwarder.opens, opens, synTo], rfl⟩
    | udp event => contradiction
    | smart event => contradiction
  | smart state =>
    cases event with
    | smart event =>
      obtain ⟨after, stepped, rfl⟩ := Option.map_eq_some_iff.mp taken
      rcases smart_step stepped used with old | ⟨index, clientSk, connectionId, bridge, sessions,
        arrived, origDest, wire, rfl, present, opens⟩
      · exact .inl old
      · exact .inr ⟨⟨tunnel, bridge.endpoint, wire⟩,
          by simp [Forwarder.opens, present, opens, synTo], rfl⟩
    | udp event => contradiction
    | tcp event => contradiction

end

/-! ## Agreement -/

section

variable {env : BridgeEnv} {text : TextCodec} {address : SocketAddr}
  {peerOf : OpenedTunnel → SocketAddr} {state next : Deployment} {event : DeploymentEvent}

/-- The bridge keeps every tunnel in use. -/
structure KeepsInUse (peerOf : OpenedTunnel → SocketAddr) (state : Deployment) : Prop where
  /-- Bridge sessions have one key each. -/
  keyed : Keyed state.bridge
  /-- The bridge's reaper scans its live table. -/
  scans : ScansLive state.bridge
  /-- Its sessions of tunnels in use stay. -/
  kept : ∀ tunnel ∈ state.inUse, Kept state.bridge (tunnelKey peerOf tunnel) tunnel.aeadKey

/-- What one step of the deployment can do. -/
inductive DeploymentAfter (env : BridgeEnv) (text : TextCodec) (state : Deployment) :
    DeploymentEvent → Deployment → Prop where
  /-- A forwarder steps. -/
  | client (position : Nat) (event : ForwarderEvent) (before after : Forwarder)
      (inFlight : List (SocketAddr × Bytes)) (opened : List OpenedTunnel)
      (present : state.forwarders[position]? = some before)
      (moved : before.step env.crypto text event = some after) :
      DeploymentAfter env text state (.client position event)
        ⟨state.bridge, state.forwarders.set position after, inFlight, opened⟩
  /-- A datagram reaches the bridge. -/
  | delivered (position : Nat) (peer : SocketAddr) (wire : Bytes) (bridge : BridgeState)
      (moved : Bridge.step env state.bridge (.receive peer wire) = some bridge) :
      DeploymentAfter env text state (.deliver position)
        { state with bridge, inFlight := state.inFlight.eraseIdx position }
  /-- The bridge steps. -/
  | stepped (event : Event) (bridge : BridgeState)
      (moved : Bridge.step env state.bridge event = some bridge) :
      DeploymentAfter env text state (.bridge event) { state with bridge }

/-- Every step of the deployment is one of these. -/
theorem deployment_step (taken : state.step env text address peerOf event = some next) :
    DeploymentAfter env text state event next := by
  cases event with
  | client position event =>
    simp only [Deployment.step] at taken
    split at taken
    · contradiction
    · rename_i before present
      obtain ⟨after, moved, rfl⟩ := Option.map_eq_some_iff.mp taken
      exact .client position event before after _ _ present moved
  | deliver position =>
    simp only [Deployment.step] at taken
    split at taken
    · contradiction
    · rename_i peer wire oldest
      obtain ⟨bridge, moved, rfl⟩ := Option.map_eq_some_iff.mp taken
      exact .delivered position peer wire bridge moved
  | bridge event =>
    simp only [Deployment.step] at taken
    split at taken
    · obtain ⟨bridge, moved, rfl⟩ := Option.map_eq_some_iff.mp taken
      exact .stepped event bridge moved
    · contradiction

/-- A bridge that spares the tunnels in use keeps them. -/
theorem keepsInUse_bridge {inner : Event} {bridge : BridgeState} (held : KeepsInUse peerOf state)
    (spared : ∀ tunnel ∈ state.inUse,
      spares state.bridge (tunnelKey peerOf tunnel) tunnel.aeadKey inner = true)
    (moved : Bridge.step env state.bridge inner = some bridge)
    (inFlight : List (SocketAddr × Bytes)) :
    KeepsInUse peerOf { state with bridge, inFlight } where
  keyed := keyed_step held.keyed moved
  scans := scansLive_step held.scans moved
  kept tunnel used :=
    kept_step held.keyed held.scans (held.kept tunnel used) (spared tunnel used) moved

/-- Every step that meets the condition keeps the tunnels in use. -/
theorem keepsInUse_step (held : KeepsInUse peerOf state)
    (spared : sparesInUse env text peerOf state event = true)
    (taken : state.step env text address peerOf event = some next) : KeepsInUse peerOf next := by
  cases deployment_step taken with
  | client position event before after inFlight opened present moved =>
    refine ⟨held.keyed, held.scans, fun tunnel used => ?_⟩
    obtain ⟨forwarder, member, inside⟩ := List.mem_flatMap.mp used
    rcases List.mem_or_eq_of_mem_set member with old | rfl
    · exact held.kept tunnel (List.mem_flatMap.mpr ⟨forwarder, old, inside⟩)
    · rcases inUse_step moved inside with before | ⟨syn, opens, rfl⟩
      · exact held.kept tunnel (List.mem_flatMap.mpr ⟨_, List.mem_of_getElem? present, before⟩)
      · simp only [sparesInUse, present, opens, Option.all_some, Bool.not_eq_true'] at spared
        exact kept_fresh held.keyed spared
  | delivered position peer wire bridge moved =>
    exact keepsInUse_bridge held (fun _ _ => rfl) moved _
  | stepped inner bridge moved =>
    exact keepsInUse_bridge held (List.all_eq_true.mp spared) moved _

/-- No forwarder uses a tunnel before it has opened one. -/
theorem inUse_start (config : ForwarderConfig) : config.start.inUse = [] := by
  cases config with
  | udp config clock => rfl
  | tcp rule => rfl
  | smart bridges =>
    refine List.flatMap_eq_nil_iff.mpr fun listener member => ?_
    obtain ⟨bridge, _, rfl⟩ := List.mem_map.mp member
    rfl

/-- Nothing is in use at the start. -/
theorem keepsInUse_start (clock : Instant) (configs : List ForwarderConfig) :
    KeepsInUse peerOf (.start clock configs) where
  keyed := keyed_start clock
  scans := nofun
  kept tunnel used := by
    obtain ⟨forwarder, member, inside⟩ := List.mem_flatMap.mp used
    obtain ⟨config, _, rfl⟩ := List.mem_map.mp member
    rw [inUse_start] at inside
    contradiction

/-- In every run in which no scan finds the session of a tunnel in use idle, no tunnel in use loses
its key to another and every tunnel is opened with fresh keys, the bridge has the session of every
tunnel in use it has accepted. -/
theorem tunnels_in_use_served {clock : Instant} {configs : List ForwarderConfig}
    {events : List DeploymentEvent} {final : Deployment}
    (spared : Along (Deployment.step env text address peerOf)
      (fun state event => sparesInUse env text peerOf state event = true)
      (.start clock configs) events)
    (reached : run (Deployment.step env text address peerOf) (.start clock configs) events =
      some final) : final.agrees peerOf := by
  have held : KeepsInUse peerOf final := run_invariant
    (fun _ _ _ held met taken => keepsInUse_step held met taken)
    (keepsInUse_start clock configs) spared reached
  exact fun tunnel used => (held.kept tunnel used).served

end

/-! ## Sample runs -/

/-- The bridge receives the SYN and the first frame of a tunnel, in tasks counted from one. -/
def servedFrom (task : Nat) : List DeploymentEvent :=
  [.deliver 0, .bridge (.poll task 1000), .bridge (.connected task), .bridge (.insert task),
    .deliver 0, .bridge (.poll (task + 1) 1000), .bridge (.lock (task + 1)),
    .bridge (.writeDone (task + 1))]

/-- The bridge is idle for 331 seconds and reaps one session. -/
def bridgeReaps : List DeploymentEvent :=
  [.bridge (.advance 331000000000), .bridge .reaperTick, .bridge (.reaperScan sampleKey),
    .bridge .reaperScanned, .bridge .reaperRemove]

/-- The game whose datagrams the sample rule forwards. -/
def sampleSource : SocketAddr := ⟨.v4 (Ipv4Addr.new 127 0 0 1), 27015⟩

/-- The rule forwards the first datagram of its source through a new tunnel. -/
def ruleOpens (secret : UInt8) (connectionId : UInt32) : List DeploymentEvent :=
  [.receive sampleSource [1], .lookup, .opened (List.Vector.replicate 32 secret) connectionId,
    .insert, .forward true].map fun event => .client 0 (.udp event)

/-- The source of the rule's session is idle for 121 seconds and the rule reaps the session. -/
def ruleReaps : List DeploymentEvent :=
  [.advance 121000000000, .tick, .scan sampleSource, .scanned, .remove].map fun event =>
    .client 0 (.udp event)

/-- A UDP rule that drops its sessions after two minutes: the rule forgets its tunnel before the
bridge does and opens another. -/
def ruleForgetsFirst : List DeploymentEvent :=
  ruleOpens 1 5 ++ servedFrom 0 ++ ruleReaps ++ bridgeReaps ++ ruleOpens 2 6 ++ servedFrom 2

/-- The rule that does so, since its clock read one hour. -/
def sampleForwarder : ForwarderConfig := .udp ⟨sampleRule, 120⟩ 3600000000000

/-- The rule's second tunnel is in use, accepted and served. -/
theorem ruleForgetsFirst_served : ∃ final,
    run (Deployment.step (sampleEnv 8) standardText sampleRule.bridge fun _ => samplePeer 1)
      (.start 0 [sampleForwarder]) ruleForgetsFirst = some final ∧
    final.inUse = [(sampleTunnel 2 .udp 6).1] ∧
    final.bridge.hasAccepted ⟨samplePeer 1, 6⟩ (sampleTunnel 2 .udp 6).1.aeadKey = true ∧
    final.agrees fun _ => samplePeer 1 := by
  have sample : (run (Deployment.step (sampleEnv 8) standardText sampleRule.bridge
        fun _ => samplePeer 1) (.start 0 [sampleForwarder]) ruleForgetsFirst).map (fun final =>
          (final.inUse,
            final.bridge.hasAccepted ⟨samplePeer 1, 6⟩ (sampleTunnel 2 .udp 6).1.aeadKey)) =
        some ([(sampleTunnel 2 .udp 6).1], true) ∧
      Along (Deployment.step (sampleEnv 8) standardText sampleRule.bridge fun _ => samplePeer 1)
        (fun state event => sparesInUse (sampleEnv 8) standardText (fun _ => samplePeer 1) state
          event = true) (.start 0 [sampleForwarder]) ruleForgetsFirst := by
    decide +kernel
  obtain ⟨outcome, spared⟩ := sample
  obtain ⟨final, reached, record⟩ := Option.map_eq_some_iff.mp outcome
  obtain ⟨used, accepted⟩ := Prod.mk.inj record
  exact ⟨final, reached, used, accepted, tunnels_in_use_served spared reached⟩

/-- Smart mode opens a tunnel, uses it once, and the bridge reaps its session. -/
def smartIdle : List DeploymentEvent :=
  (sampleCapture 40000 9000 1 :: openingTurn 5).map (fun event => .client 0 (.smart event)) ++
    servedFrom 0 ++ bridgeReaps

/-- A tunnel is in use that the bridge has accepted and does not serve. -/
def Deployment.forgets (peerOf : OpenedTunnel → SocketAddr) (state : Deployment) : Bool :=
  state.inUse.any fun tunnel =>
    state.bridge.hasAccepted (tunnelKey peerOf tunnel) tunnel.aeadKey &&
      !state.bridge.serving (tunnelKey peerOf tunnel) tunnel.aeadKey

/-- Some run leaves a tunnel in use whose session the bridge has accepted and dropped. -/
theorem smart_tunnel_forgotten : ¬ ∀ (env : BridgeEnv) (text : TextCodec) (address : SocketAddr)
    (peerOf : OpenedTunnel → SocketAddr) (clock : Instant) (configs : List ForwarderConfig)
    (events : List DeploymentEvent) (final : Deployment),
    run (Deployment.step env text address peerOf) (.start clock configs) events = some final →
    final.agrees peerOf := by
  intro agree
  have outcome : (run (Deployment.step (sampleEnv 8) standardText sampleRule.bridge
      fun _ => samplePeer 1) (.start 0 [.smart [sampleBridge]]) smartIdle).map
      (Deployment.forgets fun _ => samplePeer 1) = some true := by
    decide +kernel
  obtain ⟨final, reached, forgets⟩ := Option.map_eq_some_iff.mp outcome
  obtain ⟨tunnel, used, found⟩ := List.any_eq_true.mp forgets
  rw [Bool.and_eq_true, Bool.not_eq_true'] at found
  have served := agree (sampleEnv 8) standardText sampleRule.bridge (fun _ => samplePeer 1) 0
    [.smart [sampleBridge]] smartIdle final reached tunnel used found.1
  rw [found.2] at served
  exact Bool.false_ne_true served

end LowPing.Tunnel
