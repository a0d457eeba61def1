import LowPing.Library.Machine
import LowPing.Client.Smart
import LowPing.Tunnel.Handshake

/-!
# Destinations in smart mode

A game may send from one port to several destinations, but the capture remembers one destination a
port and a listener keeps one tunnel a port. A datagram goes where the game sent it as long as
nothing redirected from its port has another destination while that matters: no tunnel of its
listener for the port leads elsewhere, and no other datagram of the port still waits for a tunnel.
-/

namespace LowPing.Client

open LowPing.Capture Library Library.Machine

/-- Where a request asks the bridge to connect to. -/
def destinationOf (connect : ConnectRequest) : SocketAddr := ⟨connect.destIp, connect.destPort⟩

/-- Where a listener's tunnel for a port leads, or will lead once it is open. -/
def Listener.destinations (listener : Listener) (port : UInt16) : List SocketAddr :=
  ((listener.sessions.lookup port).map fun session => destinationOf session.connect).toList ++
    match listener.stage with
    | .opening arrived origDest => if arrived.srcPort = port then [origDest] else []
    | _ => []

/-- The datagrams of a port that wait for a listener without a session for it. -/
def Listener.waiting (listener : Listener) (pending : List Redirected) (port : UInt16) :
    List Redirected :=
  (match listener.stage with
    | .looking arrived => if arrived.srcPort = port then [arrived] else []
    | _ => []) ++
    if (listener.sessions.lookup port).isNone then
      pending.filter fun arrived =>
        decide (arrived.datagram.dst = listener.listen ∧ arrived.srcPort = port)
    else []

/-- Whether a packet may be redirected from a port of an original destination to a target: the
target's tunnel for the port, if the packet reaches it, leads to that destination, and so does
everything of that port that still waits for a tunnel. -/
def SmartState.agrees (state : SmartState) (port : UInt16) (origin target : SocketAddr)
    (arrives : Bool) : Bool :=
  state.listeners.all fun listener =>
    (!(arrives && decide (listener.listen = target)) ||
      (listener.destinations port).all fun dest => decide (dest = origin)) &&
    (listener.waiting state.pending port).all fun arrived => decide (arrived.origin = origin)

/-- Whenever an outbound packet is redirected, its destination agrees with what its port is used
for. -/
def oneDestination (state : SmartState) : SmartEvent → Bool
  | .capture data true resolver _ sent =>
    match readFields data with
    | some (some fields) =>
      let origin : SocketAddr := ⟨.v4 fields.dstIp, fields.dstPort⟩
      match resolver origin fields.protocol with
      | .rewriteTo target => !target.isIpv4 ||
        state.agrees fields.srcPort origin target (sent && decide (fields.protocol = .udp))
      | .passthrough => true
    | _ => true
  | _ => true

/-- What a listener holds under the condition. -/
structure Listener.Dedicated (flows : FlowTable) (pending : List Redirected)
    (listener : Listener) : Prop where
  /-- A datagram whose destination is looked up has no session. -/
  looking : ∀ arrived, listener.stage = .looking arrived →
    listener.sessions.lookup arrived.srcPort = none
  /-- A tunnel is opened to the destination of the datagram that needs it. -/
  opening : ∀ arrived origDest, listener.stage = .opening arrived origDest →
    arrived.origin = origDest
  /-- A tunnel of a port leads where the datagrams of the port go. -/
  tunnels : ∀ arrived ∈ pending, arrived.datagram.dst = listener.listen →
    ∀ dest ∈ listener.destinations arrived.srcPort, arrived.origin = dest
  /-- While datagrams of a port wait for a tunnel, the flow of the port is theirs. -/
  flow : ∀ port, ∀ arrived ∈ listener.waiting pending port, ∀ dest,
    flowOrigin flows port = some dest → arrived.origin = dest

/-- Every listener is dedicated and everything forwarded went where it was sent. -/
structure Faithful (state : SmartState) : Prop where
  /-- Each listener. -/
  listeners : ∀ listener ∈ state.listeners, listener.Dedicated state.flows state.pending
  /-- Each forwarded datagram. -/
  forwarded : ∀ sent ∈ state.forwarded, destinationOf sent.connect = sent.origin

section

variable {crypto : Crypto} {text : TextCodec} {state next : SmartState} {event : SmartEvent}
  {flows later : FlowTable} {pending rest : List Redirected} {listener : Listener}

/-- A datagram waits for a listener while that looks its destination up, or on its way there. -/
theorem mem_waiting {port : UInt16} {arrived : Redirected} :
    arrived ∈ listener.waiting pending port ↔
      (listener.stage = .looking arrived ∧ arrived.srcPort = port) ∨
      (listener.sessions.lookup port = none ∧ arrived ∈ pending ∧
        arrived.datagram.dst = listener.listen ∧ arrived.srcPort = port) := by
  unfold Listener.waiting
  rw [List.mem_append]
  apply or_congr
  · cases stage : listener.stage with
    | looking held =>
      dsimp only
      by_cases same : held.srcPort = port
      · rw [if_pos same, List.mem_singleton]
        constructor
        · rintro rfl
          exact ⟨rfl, same⟩
        · rintro ⟨held, _⟩
          exact (ListenerStage.looking.inj held).symm
      · rw [if_neg same]
        constructor
        · exact fun member => absurd member (List.not_mem_nil)
        · rintro ⟨held, port⟩
          rw [ListenerStage.looking.inj held] at same
          exact absurd port same
    | _ => simp
  · by_cases absent : listener.sessions.lookup port = none
    · simp [absent]
    · have present : (listener.sessions.lookup port).isNone = false :=
        Option.isNone_eq_false_iff.mpr (Option.isSome_iff_ne_none.mpr absent)
      simp [present, absent]

/-- A listener that waits for less and leads to no other destination stays dedicated. -/
theorem Listener.Dedicated.narrow {after : Listener} (held : listener.Dedicated flows pending)
    (kept : ∀ port dest, flowOrigin later port = some dest → flowOrigin flows port = some dest)
    (fewer : ∀ arrived ∈ rest, arrived ∈ pending) (listen : after.listen = listener.listen)
    (looking : ∀ arrived, after.stage = .looking arrived →
      after.sessions.lookup arrived.srcPort = none)
    (opening : ∀ arrived origDest, after.stage = .opening arrived origDest →
      arrived.origin = origDest)
    (leads : ∀ port, ∀ dest ∈ after.destinations port, dest ∈ listener.destinations port)
    (waits : ∀ port, ∀ arrived ∈ after.waiting rest port,
      arrived ∈ listener.waiting pending port) : after.Dedicated later rest where
  looking := looking
  opening := opening
  tunnels arrived member sent dest leading :=
    held.tunnels arrived (fewer arrived member) (sent.trans listen) dest (leads _ dest leading)
  flow port arrived waiting dest found :=
    held.flow port arrived (waits port arrived waiting) dest (kept port dest found)

/-- Fewer flows and fewer datagrams on their way keep a listener dedicated. -/
theorem Listener.Dedicated.mono (held : listener.Dedicated flows pending)
    (kept : ∀ port dest, flowOrigin later port = some dest → flowOrigin flows port = some dest)
    (fewer : ∀ arrived ∈ rest, arrived ∈ pending) : listener.Dedicated later rest := by
  refine held.narrow kept fewer rfl held.looking held.opening (fun _ _ leading => leading) ?_
  intro port arrived waits
  rw [mem_waiting] at waits ⊢
  rcases waits with looks | ⟨absent, member, sent⟩
  · exact .inl looks
  · exact .inr ⟨absent, fewer arrived member, sent⟩

/-- A destination of a port is that of its session or of the tunnel being opened. -/
theorem mem_destinations {port : UInt16} {dest : SocketAddr} :
    dest ∈ listener.destinations port ↔
      (∃ session, listener.sessions.lookup port = some session ∧
        destinationOf session.connect = dest) ∨
      ∃ arrived, listener.stage = .opening arrived dest ∧ arrived.srcPort = port := by
  unfold Listener.destinations
  rw [List.mem_append, Option.mem_toList, Option.map_eq_some_iff]
  apply or_congr_right
  cases stage : listener.stage with
  | opening held origDest =>
    dsimp only
    by_cases same : held.srcPort = port
    · rw [if_pos same, List.mem_singleton]
      constructor
      · rintro rfl
        exact ⟨held, rfl, same⟩
      · rintro ⟨arrived, opens, _⟩
        exact (ListenerStage.opening.inj opens).2.symm
    · rw [if_neg same]
      constructor
      · exact fun member => absurd member List.not_mem_nil
      · rintro ⟨arrived, opens, port⟩
        rw [(ListenerStage.opening.inj opens).1] at same
        exact absurd port same
  | _ => simp

/-- A redirected packet keeps a listener dedicated that waits for nothing else of its port and, if
the packet reaches it, leads to nothing else. -/
theorem Listener.Dedicated.captured {srcPort : UInt16} {origin : SocketAddr}
    (held : listener.Dedicated flows pending)
    (recorded : ∀ port, flowOrigin later port =
      if port = srcPort then some origin else flowOrigin flows port)
    (waits : ∀ arrived ∈ listener.waiting pending srcPort, arrived.origin = origin)
    (more : ∀ arrived ∈ rest, arrived ∈ pending ∨ arrived.srcPort = srcPort ∧
      arrived.origin = origin ∧ (arrived.datagram.dst = listener.listen →
        ∀ dest ∈ listener.destinations srcPort, dest = origin)) :
    listener.Dedicated later rest where
  looking := held.looking
  opening := held.opening
  tunnels arrived member sent dest leading := by
    rcases more arrived member with old | ⟨port, agreed, leads⟩
    · exact held.tunnels arrived old sent dest leading
    · rw [port] at leading
      rw [agreed, leads sent dest leading]
  flow port arrived waiting dest found := by
    rw [recorded] at found
    have before : arrived ∈ listener.waiting pending port ∨
        port = srcPort ∧ arrived.origin = origin := by
      rcases mem_waiting.mp waiting with looks | ⟨absent, member, sent, keyed⟩
      · exact .inl (mem_waiting.mpr (.inl looks))
      · rcases more arrived member with old | ⟨new, agreed, _⟩
        · exact .inl (mem_waiting.mpr (.inr ⟨absent, old, sent, keyed⟩))
        · exact .inr ⟨keyed.symm.trans new, agreed⟩
    by_cases same : port = srcPort
    · rw [if_pos same] at found
      obtain rfl := Option.some.inj found
      rcases before with old | ⟨_, agreed⟩
      · rw [same] at old
        exact waits arrived old
      · exact agreed
    · rw [if_neg same] at found
      rcases before with old | ⟨new, _⟩
      · exact held.flow port arrived old dest found
      · exact absurd new same

/-- Filing a session that leads nowhere new keeps a listener dedicated. -/
theorem Listener.Dedicated.filed {port : UInt16} {session : UdpSession}
    (held : listener.Dedicated flows pending)
    (leads : destinationOf session.connect ∈ listener.destinations port) :
    Listener.Dedicated flows pending { listener with
      sessions := listener.sessions.insert port session
      stage := .receiving } := by
  refine held.narrow (fun _ _ found => found) (fun _ member => member) rfl nofun nofun ?_ ?_
  · intro other dest leading
    rcases mem_destinations.mp leading with ⟨found, present, rfl⟩ | ⟨_, opens, _⟩
    · dsimp only at present
      by_cases same : other = port
      · rw [same, AList.lookup_insert] at present
        obtain rfl := Option.some.inj present
        rwa [same]
      · rw [AList.lookup_insert_ne same] at present
        exact mem_destinations.mpr (.inl ⟨found, present, rfl⟩)
    · contradiction
  · intro other arrived waits
    rcases mem_waiting.mp waits with ⟨looks, _⟩ | ⟨absent, rest⟩
    · contradiction
    · dsimp only at absent
      by_cases same : other = port
      · rw [same, AList.lookup_insert] at absent
        contradiction
      · rw [AList.lookup_insert_ne same] at absent
        exact mem_waiting.mpr (.inr ⟨absent, rest⟩)

/-- A listener that drops what it holds and goes back to receiving stays dedicated. -/
theorem Listener.Dedicated.dropped (held : listener.Dedicated flows pending) :
    Listener.Dedicated flows pending { listener with stage := .receiving } := by
  refine held.narrow (fun _ _ found => found) (fun _ member => member) rfl nofun nofun ?_ ?_
  · intro port dest leading
    rcases mem_destinations.mp leading with present | ⟨_, opens, _⟩
    · exact mem_destinations.mpr (.inl present)
    · contradiction
  · intro port arrived waits
    rcases mem_waiting.mp waits with ⟨looks, _⟩ | rest
    · contradiction
    · exact mem_waiting.mpr (.inr rest)

/-- A listener that takes a datagram without a session in hand stays dedicated. -/
theorem Listener.Dedicated.looks {arrived : Redirected} (held : listener.Dedicated flows pending)
    (member : arrived ∈ pending) (sent : arrived.datagram.dst = listener.listen)
    (absent : listener.sessions.lookup arrived.srcPort = none)
    (fewer : ∀ arrived ∈ rest, arrived ∈ pending) :
    Listener.Dedicated flows rest { listener with stage := .looking arrived } := by
  refine held.narrow (fun _ _ found => found) fewer rfl ?_ nofun ?_ ?_
  · intro other looks
    obtain rfl := ListenerStage.looking.inj looks
    exact absent
  · intro port dest leading
    rcases mem_destinations.mp leading with present | ⟨_, opens, _⟩
    · exact mem_destinations.mpr (.inl present)
    · contradiction
  · intro port other waits
    rcases mem_waiting.mp waits with ⟨looks, rfl⟩ | ⟨free, inRest, rest⟩
    · obtain rfl := ListenerStage.looking.inj looks
      exact mem_waiting.mpr (.inr ⟨absent, member, sent, rfl⟩)
    · exact mem_waiting.mpr (.inr ⟨free, fewer other inRest, rest⟩)

/-- A listener that finds the flow of the datagram in hand stays dedicated. -/
theorem Listener.Dedicated.opens {arrived : Redirected} {origDest : SocketAddr}
    (held : listener.Dedicated flows pending) (looks : listener.stage = .looking arrived)
    (found : flowOrigin flows arrived.srcPort = some origDest) :
    Listener.Dedicated flows pending { listener with stage := .opening arrived origDest } where
  looking := nofun
  opening other dest opens := by
    obtain ⟨rfl, rfl⟩ := ListenerStage.opening.inj opens
    exact held.flow arrived.srcPort arrived (mem_waiting.mpr (.inl ⟨looks, rfl⟩)) origDest found
  tunnels other member sent dest leading := by
    have absent := held.looking arrived looks
    rcases mem_destinations.mp leading with present | ⟨_, opens, same⟩
    · exact held.tunnels other member sent dest (mem_destinations.mpr (.inl present))
    · obtain ⟨rfl, rfl⟩ := ListenerStage.opening.inj opens
      have waits : other ∈ listener.waiting pending arrived.srcPort := by
        exact mem_waiting.mpr (.inr ⟨absent, member, sent, same.symm⟩)
      exact held.flow arrived.srcPort other waits origDest found
  flow port other waits dest recorded := by
    rcases mem_waiting.mp waits with ⟨looks, _⟩ | rest
    · contradiction
    · exact held.flow port other (mem_waiting.mpr (.inr rest)) dest recorded

/-! ## Steps -/

/-- What a turn of the capture loop does to the flows and the datagrams on their way. -/
inductive Captured (state : SmartState) (data : Bytes) (resolver : Resolver) :
    Bool → Bool → FlowTable → List Redirected → Prop where
  /-- No packet is redirected. -/
  | kept (outbound sent : Bool) (flows : FlowTable)
      (same : ∀ port, flowOrigin flows port = flowOrigin state.flows port) :
      Captured state data resolver outbound sent flows state.pending
  /-- An outbound packet is redirected and, if it is a datagram and gets sent, joins the others. -/
  | redirected (sent : Bool) (fields : Fields) (target : SocketAddr) (flows : FlowTable)
      (arrived : List Redirected) (read : readFields data = some (some fields))
      (resolved : resolver ⟨.v4 fields.dstIp, fields.dstPort⟩ fields.protocol = .rewriteTo target)
      (family : target.isIpv4 = true)
      (recorded : ∀ port, flowOrigin flows port =
        if port = fields.srcPort then some ⟨.v4 fields.dstIp, fields.dstPort⟩
        else flowOrigin state.flows port)
      (joined : ∀ one ∈ arrived, sent = true ∧ fields.protocol = .udp ∧
        one.srcPort = fields.srcPort ∧ one.datagram.dst = target ∧
        one.origin = ⟨.v4 fields.dstIp, fields.dstPort⟩ ∧
        udpDatagram data = some { one.datagram with dst := one.origin }) :
      Captured state data resolver true sent flows (state.pending ++ arrived)

/-- A turn of the capture loop does one of these and nothing else. -/
theorem capture_ok {data : Bytes} {outbound sent : Bool} {resolver : Resolver} {now : Instant}
    (taken : state.capture data outbound resolver now sent = some next) :
    next.listeners = state.listeners ∧ next.forwarded = state.forwarded ∧
      Captured state data resolver outbound sent next.flows next.pending := by
  unfold SmartState.capture at taken
  split at taken
  · contradiction
  · rename_i later processed
    obtain rfl := Option.some.inj taken
    refine ⟨rfl, rfl, ?_⟩
    cases processPacket_ok processed with
    | passed => exact .kept outbound sent state.flows fun _ => rfl
  · rename_i later out processed
    obtain rfl := Option.some.inj taken
    refine ⟨rfl, rfl, ?_⟩
    cases processPacket_ok processed with
    | redirected fields target _ _ has resolved rewritten =>
      obtain ⟨ip, family, _⟩ := rewritten.written
      refine .redirected sent fields target later _ (readFields_iff.mpr has) resolved ?_
        (fun _ => flowOrigin_redirected rewritten) ?_
      · rw [SocketAddr.isIpv4, family]
      · rw [udpDatagram_rewritten has rewritten]
        cases carried : udpDatagram data with
        | none => simp
        | some original =>
          obtain ⟨udp, port, dst⟩ := udpDatagram_ok has carried
          intro one member
          cases sent with
          | false => simp at member
          | true =>
            obtain rfl : one = ⟨{ original with dst := target }, original.dst⟩ := by
              simpa using member
            exact ⟨rfl, udp, port, rfl, dst, rfl⟩
    | attributed fields entry _ has found =>
      dsimp only
      split
      · rw [Bool.false_and, if_neg Bool.false_ne_true, List.append_nil]
        exact .kept false sent _ fun _ => flowOrigin_attributed found
      · rw [List.append_nil]
        exact .kept false sent _ fun _ => flowOrigin_attributed found

/-- A redirection that agrees with every listener keeps the state faithful. -/
theorem Faithful.capture {data : Bytes} {outbound sent : Bool} {resolver : Resolver}
    {now : Instant} (held : Faithful state)
    (agrees : oneDestination state (.capture data outbound resolver now sent) = true)
    (taken : state.capture data outbound resolver now sent = some next) : Faithful next := by
  obtain ⟨listeners, forwarded, captured⟩ := capture_ok taken
  refine ⟨fun listener member => ?_, fun one member => ?_⟩
  · rw [listeners] at member
    have dedicated := held.listeners listener member
    generalize next.flows = flows, next.pending = pending at captured
    cases captured with
    | kept _ _ flows same =>
      exact dedicated.mono (fun port dest found => (same port).symm.trans found) fun _ old => old
    | redirected _ fields target flows arrived read resolved family recorded joined =>
      simp only [oneDestination, read, resolved, family, Bool.not_true, Bool.false_or] at agrees
      obtain ⟨leads, waits⟩ := Bool.and_eq_true_iff.mp (List.all_eq_true.mp agrees listener member)
      refine dedicated.captured recorded ?_ fun one among => ?_
      · intro one waiting
        exact of_decide_eq_true (List.all_eq_true.mp waits one waiting)
      · rcases List.mem_append.mp among with old | new
        · exact .inl old
        · obtain ⟨rfl, udp, port, dst, origin, -⟩ := joined one new
          refine .inr ⟨port, origin, fun reaches dest leading => ?_⟩
          have arrives : listener.listen = target := reaches.symm.trans dst
          simp only [udp, arrives, decide_true, Bool.and_true, Bool.not_true,
            Bool.false_or] at leads
          exact of_decide_eq_true (List.all_eq_true.mp leads dest leading)
  · rw [forwarded] at member
    exact held.forwarded one member

/-- Fewer flows and fewer datagrams on their way keep the state faithful. -/
theorem Faithful.mono (held : Faithful state)
    (kept : ∀ port dest, flowOrigin later port = some dest →
      flowOrigin state.flows port = some dest)
    (fewer : ∀ arrived ∈ rest, arrived ∈ state.pending) :
    Faithful { state with flows := later, pending := rest } where
  listeners listener member := (held.listeners listener member).mono kept fewer
  forwarded := held.forwarded

/-- Replacing a listener by a dedicated one keeps the state faithful. -/
theorem Faithful.setListener (held : Faithful state) (index : Nat)
    (dedicated : listener.Dedicated state.flows state.pending) :
    Faithful (state.setListener index listener) where
  listeners other member := by
    rcases List.mem_or_eq_of_mem_set member with old | rfl
    · exact held.listeners other old
    · exact dedicated
  forwarded := held.forwarded

/-- Forwarding through a session that leads where the datagram was sent keeps the state
faithful. -/
theorem Faithful.forward {index : Nat} {session : UdpSession} {arrived : Redirected}
    (held : Faithful state) (dedicated : listener.Dedicated state.flows state.pending)
    (leads : destinationOf session.connect ∈ listener.destinations arrived.srcPort)
    (right : arrived.origin = destinationOf session.connect) :
    Faithful (state.forward crypto index listener session arrived) where
  listeners other member := by
    have filed : Listener.Dedicated state.flows state.pending { listener with
        sessions := listener.sessions.insert arrived.srcPort { session with
          sender := (session.sender.encryptUpstream crypto arrived.datagram.payload).1 }
        stage := .receiving } := dedicated.filed leads
    exact (held.setListener index filed).listeners other member
  forwarded one member := by
    rcases List.mem_append.mp member with old | new
    · exact held.forwarded one old
    · split at new
      · obtain rfl := List.mem_singleton.mp new
        exact right.symm
      · contradiction

/-- A datagram that is received keeps the state faithful. -/
theorem Faithful.receive {index position : Nat} (held : Faithful state)
    (taken : state.receive crypto index position = some next) : Faithful next := by
  unfold SmartState.receive at taken
  split at taken
  · rename_i listener arrived atIndex atPosition
    have dedicated := held.listeners listener (List.mem_of_getElem? atIndex)
    have member := List.mem_of_getElem? atPosition
    have fewer : ∀ other ∈ state.pending.eraseIdx position, other ∈ state.pending :=
      fun other => List.mem_of_mem_eraseIdx
    have shrunk := held.mono (fun _ _ found => found) fewer
    split at taken
    · split at taken
      · rename_i sent
        split at taken
        · rename_i session present
          obtain rfl := Option.some.inj taken
          have leads : destinationOf session.connect ∈ listener.destinations arrived.srcPort :=
            mem_destinations.mpr (.inl ⟨session, present, rfl⟩)
          exact shrunk.forward (dedicated.mono (fun _ _ found => found) fewer) leads
            (dedicated.tunnels arrived member sent _ leads)
        · rename_i absent
          obtain rfl := Option.some.inj taken
          exact shrunk.setListener index (dedicated.looks member sent absent fewer)
      · contradiction
    · contradiction
  · contradiction

/-- A flow that is looked up keeps the state faithful. -/
theorem Faithful.lookup {index : Nat} (held : Faithful state)
    (taken : state.lookup index = some next) : Faithful next := by
  unfold SmartState.lookup at taken
  split at taken
  · rename_i listener atIndex
    have dedicated := held.listeners listener (List.mem_of_getElem? atIndex)
    split at taken
    · rename_i arrived looks
      obtain rfl := Option.some.inj taken
      apply held.setListener
      cases found : flowOrigin state.flows arrived.srcPort with
      | some origDest => exact dedicated.opens looks found
      | none => exact dedicated.dropped
    · contradiction
  · contradiction

/-- A tunnel that opens keeps the state faithful. -/
theorem Faithful.opened {index : Nat} {clientSk : StaticSecret} {connectionId : UInt32}
    (held : Faithful state)
    (taken : state.opened crypto text index clientSk connectionId = some next) :
    Faithful next := by
  unfold SmartState.opened at taken
  split at taken
  · rename_i listener atIndex
    have dedicated := held.listeners listener (List.mem_of_getElem? atIndex)
    split at taken
    · rename_i arrived origDest opens
      split at taken
      · contradiction
      · obtain rfl := Option.some.inj taken
        refine held.forward dedicated ?_ (dedicated.opening arrived origDest opens)
        exact mem_destinations.mpr (.inr ⟨arrived, opens, rfl⟩)
    · contradiction
  · contradiction

/-- A tunnel that does not open keeps the state faithful. -/
theorem Faithful.openFailed {index : Nat} (held : Faithful state)
    (taken : state.openFailed index = some next) : Faithful next := by
  unfold SmartState.openFailed at taken
  split at taken
  · rename_i listener atIndex
    have dedicated := held.listeners listener (List.mem_of_getElem? atIndex)
    split at taken
    · obtain rfl := Option.some.inj taken
      exact held.setListener index dedicated.dropped
    · contradiction
  · contradiction

/-- Every step that meets the condition keeps the state faithful. -/
theorem faithful_step (held : Faithful state) (agrees : oneDestination state event = true)
    (taken : state.step crypto text event = some next) : Faithful next := by
  cases event with
  | capture data outbound resolver now sent => exact held.capture agrees taken
  | reap now =>
    obtain ⟨later, reaped, rfl⟩ := Option.map_eq_some_iff.mp taken
    exact held.mono (fun _ _ found => flowOrigin_reaped reaped found) fun _ old => old
  | lose position =>
    simp only [SmartState.step] at taken
    split at taken
    · obtain rfl := Option.some.inj taken
      exact held.mono (fun _ _ found => found) fun _ old => List.mem_of_mem_eraseIdx old
    · contradiction
  | receive index position => exact held.receive taken
  | lookup index => exact held.lookup taken
  | opened index clientSk connectionId => exact held.opened taken
  | openFailed index => exact held.openFailed taken

/-- Smart mode starts faithful. -/
theorem faithful_start (bridges : List BridgeEntry) : Faithful (.start bridges) where
  listeners listener member := by
    obtain ⟨bridge, _, rfl⟩ := List.mem_map.mp member
    refine ⟨nofun, nofun, nofun, fun port arrived waits => ?_⟩
    rcases mem_waiting.mp waits with ⟨looks, _⟩ | ⟨_, member, _⟩
    · contradiction
    · contradiction
  forwarded := nofun

end

/-- As long as every redirected packet agrees with what its port is used for, whatever order the
loop, the network and the listeners take their steps in, a forwarded datagram goes through a tunnel
to the destination it had before the rewrite. -/
theorem forwarded_to_destination (crypto : Crypto) (text : TextCodec)
    (bridges : List BridgeEntry) (events : List SmartEvent) (final : SmartState)
    (agrees : Along (SmartState.step crypto text)
      (fun state event => oneDestination state event = true) (.start bridges) events)
    (reached : run (SmartState.step crypto text) (.start bridges) events = some final) :
    ∀ sent ∈ final.forwarded, destinationOf sent.connect = sent.origin :=
  (run_invariant (fun _ _ _ held met taken => faithful_step held met taken)
    (faithful_start bridges) agrees reached).forwarded

/-! ## Sample runs -/

/-- A bridge entry with the key and the token of the sample rule. -/
def sampleBridge : BridgeEntry where
  endpoint := Tunnel.sampleRule.bridge
  bridgeX25519PubkeyHex := Tunnel.sampleRule.bridgeX25519PubkeyHex
  licenseToken := Tunnel.sampleRule.licenseToken
  listenPort := 51000

/-- A resolver that sends everything through the sample bridge. -/
def sampleResolver : Resolver := fun _ _ =>
  .rewriteTo ⟨.v4 (Ipv4Addr.new 127 0 0 1), sampleBridge.listenPort⟩

/-- A game server's address with one of its ports. -/
def sampleServer (port : UInt16) : SocketAddr := ⟨.v4 (Ipv4Addr.new 18 88 19 234), port⟩

/-- The IPv4 packet of a datagram with one byte from a port of the game to a port of the server. -/
def samplePacket (srcPort destPort : UInt16) (byte : UInt8) : Bytes :=
  [0x45, 0, 0, 29, 0, 0, 0, 0, 64, protoUdp, 0, 0, 192, 168, 1, 10] ++
    (Ipv4Addr.new 18 88 19 234).octets.toList ++ beBytes16 srcPort ++ beBytes16 destPort ++
    beBytes16 9 ++ [0, 0, byte]

/-- The loop captures and redirects such a packet. -/
def sampleCapture (srcPort destPort : UInt16) (byte : UInt8) : SmartEvent :=
  .capture (samplePacket srcPort destPort byte) true sampleResolver 1000 true

/-- The listener takes the oldest datagram and opens a tunnel for it. -/
def openingTurn (connectionId : UInt32) : List SmartEvent :=
  [.receive 0 0, .lookup 0, .opened 0 (List.Vector.replicate 32 1) connectionId]

/-- The destinations and origins of what was forwarded. -/
def SmartState.routes (state : SmartState) : List (SocketAddr × SocketAddr) :=
  state.forwarded.map fun sent => (destinationOf sent.connect, sent.origin)

/-- Two ports, each with a destination of its own; the first sends again while the second tunnel is
being opened. -/
def twoPorts : List SmartEvent :=
  [sampleCapture 40000 9000 1, sampleCapture 40001 9001 2] ++ openingTurn 5 ++
    [.receive 0 0, sampleCapture 40000 9000 3, .lookup 0,
      .opened 0 (List.Vector.replicate 32 2) 6, .receive 0 0]

/-- Two ports with a destination each get what they send there. -/
theorem twoPorts_faithful :
    ∃ final, run (SmartState.step checksumCrypto standardText) (.start [sampleBridge]) twoPorts =
      some final ∧ final.forwarded.length = 3 ∧
      ∀ sent ∈ final.forwarded, destinationOf sent.connect = sent.origin := by
  have sample : (run (SmartState.step checksumCrypto standardText) (.start [sampleBridge])
        twoPorts).map (fun final => final.forwarded.length) = some 3 ∧
      Along (SmartState.step checksumCrypto standardText)
        (fun state event => oneDestination state event = true) (.start [sampleBridge])
        twoPorts := by
    decide +kernel
  obtain ⟨outcome, agrees⟩ := sample
  obtain ⟨final, reached, count⟩ := Option.map_eq_some_iff.mp outcome
  exact ⟨final, reached, count, forwarded_to_destination checksumCrypto standardText [sampleBridge]
    twoPorts final agrees reached⟩

/-- One port sends to a second destination once its tunnel is open. -/
def secondDestination : List SmartEvent :=
  sampleCapture 40000 9000 1 :: openingTurn 5 ++ [sampleCapture 40000 9001 2, .receive 0 0]

/-- Some run forwards a datagram through a tunnel to another destination. -/
theorem second_destination_misrouted : ¬ ∀ (crypto : Crypto) (text : TextCodec)
    (bridges : List BridgeEntry) (events : List SmartEvent) (final : SmartState),
    run (SmartState.step crypto text) (.start bridges) events = some final →
    ∀ sent ∈ final.forwarded, destinationOf sent.connect = sent.origin := by
  intro faithful
  have outcome : (run (SmartState.step checksumCrypto standardText) (.start [sampleBridge])
      secondDestination).map SmartState.routes =
      some [(sampleServer 9000, sampleServer 9000), (sampleServer 9000, sampleServer 9001)] := by
    decide +kernel
  obtain ⟨final, reached, routes⟩ := Option.map_eq_some_iff.mp outcome
  have same : ∀ route ∈ final.routes, route.1 = route.2 := by
    intro route member
    obtain ⟨sent, among, rfl⟩ := List.mem_map.mp member
    exact faithful checksumCrypto standardText [sampleBridge] secondDestination final reached sent
      among
  rw [routes] at same
  exact absurd (same _ (List.mem_cons_of_mem _ List.mem_cons_self)) (by decide)

end LowPing.Client
