import LowPing.Client.CaptureSetup
import LowPing.Client.Destination
import LowPing.Client.UdpRule

/-!
# Destinations of fixed rules

The capture of `install_capture` and the UDP rules of one configuration. A rule redirects whatever
is sent to its captured address and range of ports; its listener forwards everything through tunnels
opened to the one destination of the rule, and never asks the capture where a datagram was sent. The
two are configured apart, so a datagram goes where it was sent exactly if they agree. Which packets
the driver hands to the capture is a parameter of which nothing is supposed.
-/

namespace LowPing.Client

open LowPing.Capture Library Library.Machine

/-- A `Rule` of the configuration with the idle time of its sessions. -/
structure ConfiguredRule extends ForwardRule where
  /-- Drop a session after this many seconds idle. -/
  udpIdleSecs : UInt64

/-- What `run_udp_rule` reads of it. -/
def ConfiguredRule.udpRule (rule : ConfiguredRule) : UdpRule := ⟨rule.toRule, rule.udpIdleSecs⟩

/-- Where its tunnels lead. -/
def Rule.destination (rule : Rule) : SocketAddr := ⟨rule.destIp, rule.destPort⟩

/-- The request `open_tunnel` of the rule forwarder puts into a SYN. -/
def Rule.connectRequest (rule : Rule) (transport : TransportProtocol) : ConnectRequest :=
  ⟨transport, rule.destIp, rule.destPort⟩

/-- One `run_udp_rule`. -/
structure RuleTask where
  /-- Its rule. -/
  config : ConfiguredRule
  /-- Its listener, sessions and tasks. -/
  state : RuleState
  /-- History: where the datagram in hand was sent before the rewrite, if it was redirected. -/
  origin : Option SocketAddr
  /-- History: the request in the SYN of each session. -/
  connects : List ConnectRequest

/-- A rule's task that has just become active. -/
def ConfiguredRule.start (clock : ClientInstant) (rule : ConfiguredRule) : RuleTask :=
  ⟨rule, .start clock, none, []⟩

/-- A redirected datagram sent through a session of a rule. -/
structure RuleForwarded where
  /-- Its destination before the rewrite. -/
  origin : SocketAddr
  /-- The request the session was opened with. -/
  connect : Option ConnectRequest
  /-- The sealed frame. -/
  wire : Bytes

/-- The capture loop, the UDP rules and the packets between them. -/
structure LegacyState where
  /-- NAT table of the capture. -/
  flows : FlowTable
  /-- Redirected datagrams on their way to a listener. -/
  pending : List Redirected
  /-- One for each UDP rule. -/
  tasks : List RuleTask
  /-- History: the redirected datagrams the rules have forwarded. -/
  forwarded : List RuleForwarded

/-- The configuration's UDP rules have just become active. -/
def LegacyState.start (rules : List ConfiguredRule) (clock : ClientInstant) : LegacyState where
  flows := ∅
  pending := []
  tasks := (rules.filter fun rule => rule.protocol = "udp").map (·.start clock)
  forwarded := []

/-- One step of the capture loop, of the local network or of a rule. -/
inductive LegacyEvent where
  /-- The loop receives and processes a packet and, if all goes well, sends what it becomes. -/
  | capture (data : Bytes) (outbound : Bool) (now : Instant) (sent : Bool)
  /-- The loop reaps idle flows. -/
  | reap (now : Instant)
  /-- A redirected datagram gets lost. -/
  | lose (position : Nat)
  /-- A rule receives a redirected datagram. -/
  | receive (rule position : Nat)
  /-- A rule steps otherwise; a datagram it receives was sent to it. -/
  | rule (rule : Nat) (event : RuleEvent)

/-- One turn of the capture loop with a packet that the driver hands it, which is a turn of the loop
of smart mode with another resolver. -/
def LegacyState.capture (handed : Bool → Bytes → Bool) (rules : List ConfiguredRule)
    (state : LegacyState) (data : Bytes) (outbound : Bool) (now : Instant) (sent : Bool) :
    Option LegacyState :=
  match installCapture (rules.map (·.toForwardRule)) with
  | none => none
  | some capture =>
    if handed outbound data then
      (SmartState.capture ⟨state.flows, state.pending, [], []⟩ data outbound capture.resolver now
        sent).map fun after => { state with flows := after.flows, pending := after.pending }
    else none

/-- `recv_from` returns a redirected datagram. -/
def LegacyState.receive (crypto : Crypto) (text : TextCodec) (state : LegacyState)
    (rule position : Nat) : Option LegacyState :=
  match state.tasks[rule]?, state.pending[position]? with
  | some task, some arrived =>
    if arrived.datagram.dst = task.config.listen then
      (task.state.step crypto text task.config.udpRule
        (.receive arrived.datagram.src arrived.datagram.payload)).map fun after => { state with
          pending := state.pending.eraseIdx position
          tasks := state.tasks.set rule
            { task with state := after, origin := some arrived.origin } }
    else none
  | _, _ => none

/-- The request of a tunnel a step opens. -/
def RuleTask.requests (task : RuleTask) : RuleEvent → List ConnectRequest
  | .opened .. => [task.config.connectRequest .udp]
  | _ => []

/-- Where the datagram in hand after a step was sent before the rewrite. -/
def RuleTask.handed (task : RuleTask) : RuleEvent → Option SocketAddr
  | .receive .. => none
  | _ => task.origin

/-- The redirected datagram a step sends through its session. -/
def RuleTask.sends (crypto : Crypto) (task : RuleTask) : RuleEvent → Option RuleForwarded
  | .forward true =>
    match task.origin, task.state.listener with
    | some origin, .forwarding session payload =>
      match task.state.cells[session]? with
      | none => none
      | some cell =>
        match (cell.sender.encryptUpstream crypto payload).2 with
        | .error _ => none
        | .ok wire => some ⟨origin, task.connects[session]?, wire⟩
    | _, _ => none
  | _ => none

/-- Any other step of a rule. -/
def LegacyState.ruleStep (crypto : Crypto) (text : TextCodec) (state : LegacyState) (rule : Nat)
    (event : RuleEvent) : Option LegacyState :=
  match state.tasks[rule]? with
  | none => none
  | some task =>
    (task.state.step crypto text task.config.udpRule event).map fun after => { state with
      tasks := state.tasks.set rule { task with
        state := after
        origin := task.handed event
        connects := task.connects ++ task.requests event }
      forwarded := state.forwarded ++ (task.sends crypto event).toList }

/-- One step. -/
def LegacyState.step (crypto : Crypto) (text : TextCodec) (handed : Bool → Bytes → Bool)
    (rules : List ConfiguredRule) (state : LegacyState) : LegacyEvent → Option LegacyState
  | .capture data outbound now sent => state.capture handed rules data outbound now sent
  | .reap now => (reapFlows state.flows flowIdle now).map fun flows => { state with flows }
  | .lose position =>
    if position < state.pending.length then
      some { state with pending := state.pending.eraseIdx position }
    else none
  | .receive rule position => state.receive crypto text rule position
  | .rule rule event => state.ruleStep crypto text rule event

/-- The tunnel of a forwarded datagram was opened for the address and port it was sent to. -/
def RuleForwarded.Faithful (sent : RuleForwarded) : Prop :=
  sent.connect.map destinationOf = some sent.origin

/-- A tunnel of the rule can be opened. -/
def Rule.CanOpen (crypto : Crypto) (text : TextCodec) (rule : Rule) : Prop :=
  ∃ clientSk connectionId opened,
    rule.openTunnel crypto text .udp clientSk connectionId = .ok opened

/-- Every UDP rule that listens on an address and can open tunnels leads to one destination. -/
def Destined (crypto : Crypto) (text : TextCodec) (rules : List ConfiguredRule)
    (target origin : SocketAddr) : Prop :=
  ∀ rule ∈ rules, rule.protocol = "udp" → rule.listen = target →
    rule.CanOpen crypto text → rule.destination = origin

/-- Every datagram that fits a frame, is handed over on its way out and is first covered by a rule
with an IPv4 listener was sent to the destination of the rules that listen there. -/
def RangesMatch (crypto : Crypto) (text : TextCodec) (handed : Bool → Bytes → Bool)
    (rules : List ConfiguredRule) : Prop :=
  ∀ data datagram first, handed true data = true → udpDatagram data = some datagram →
    datagram.payload.length ≤ maxPayloadLen →
    (captureRules (rules.map (·.toForwardRule))).find? (fun redirect =>
      redirect.covers datagram.dst .udp) = some first →
    first.target.isIpv4 = true → Destined crypto text rules first.target datagram.dst

/-- The payload a listener loop has in hand. -/
def RuleStage.inHand : RuleStage → Option Bytes
  | .receiving => none
  | .looking _ payload => some payload
  | .opening _ payload => some payload
  | .inserting _ _ payload => some payload
  | .forwarding _ payload => some payload

/-- What a rule keeps under that condition. -/
structure RuleTask.Faithful (crypto : Crypto) (text : TextCodec) (rules : List ConfiguredRule)
    (task : RuleTask) : Prop where
  /-- It is one of the configuration. -/
  configured : task.config ∈ rules
  /-- It is a UDP rule. -/
  udp : task.config.protocol = "udp"
  /-- There is a request for each session. -/
  aligned : task.connects.length = task.state.cells.length
  /-- Each asks for the destination of the rule. -/
  opened : ∀ connect ∈ task.connects, connect = task.config.connectRequest .udp ∧
    task.config.CanOpen crypto text
  /-- The datagram in hand was sent there, if it fits a frame and a tunnel can be opened for it. -/
  inHand : ∀ origin payload, task.origin = some origin →
    task.state.listener.inHand = some payload → payload.length ≤ maxPayloadLen →
    task.config.CanOpen crypto text → task.config.destination = origin

/-- What the capture, the network and the rules keep. -/
structure LegacyState.Faithful (crypto : Crypto) (text : TextCodec) (rules : List ConfiguredRule)
    (state : LegacyState) : Prop where
  /-- Each datagram on its way. -/
  pending : ∀ arrived ∈ state.pending, arrived.datagram.payload.length ≤ maxPayloadLen →
    Destined crypto text rules arrived.datagram.dst arrived.origin
  /-- Each rule. -/
  tasks : ∀ task ∈ state.tasks, task.Faithful crypto text rules
  /-- Each forwarded datagram. -/
  forwarded : ∀ sent ∈ state.forwarded, sent.Faithful

section

variable {crypto : Crypto} {text : TextCodec} {handed : Bool → Bytes → Bool}
  {rules : List ConfiguredRule} {state next : LegacyState} {task : RuleTask}

/-- A step of a rule adds the sessions whose tunnels it opens. -/
theorem length_cells_step {config : UdpRule} {before after : RuleState} {event : RuleEvent}
    (taken : before.step crypto text config event = some after) :
    after.cells.length = before.cells.length +
      match event with
      | .opened .. => 1
      | _ => 0 := by
  cases rule_step taken with
  | opened src payload clientSk connectionId tunnel wire point opens => exact List.length_append
  | forwarded session payload cell success frames point present sends => exact List.length_set
  | returned _ position session src stage ends point => rcases ends with rfl | rfl <;> rfl
  | answered position session src payload point => exact List.length_modify _ _ _
  | _ => rfl

/-- A redirected datagram was sent where the rules that listen for it lead. -/
theorem redirected_destined (matched : RangesMatch crypto text handed rules) {data : Bytes}
    {datagram : Datagram} {target : SocketAddr} (arrives : handed true data = true)
    (carried : udpDatagram data = some datagram) (fits : datagram.payload.length ≤ maxPayloadLen)
    (resolved : fixedResolver (captureRules (rules.map (·.toForwardRule))) datagram.dst .udp =
      .rewriteTo target)
    (family : target.isIpv4 = true) : Destined crypto text rules target datagram.dst := by
  rw [fixedResolver_eq] at resolved
  cases found : (captureRules (rules.map (·.toForwardRule))).find? fun redirect =>
      redirect.covers datagram.dst .udp with
  | none =>
    rw [found] at resolved
    cases resolved
  | some first =>
    rw [found] at resolved
    obtain rfl := RouteAction.rewriteTo.inj resolved
    exact matched data datagram first arrives carried fits found family

/-- A turn of the capture loop keeps it. -/
theorem LegacyState.Faithful.capture (matched : RangesMatch crypto text handed rules)
    (held : state.Faithful crypto text rules) {data : Bytes} {outbound sent : Bool} {now : Instant}
    (taken : state.capture handed rules data outbound now sent = some next) :
    next.Faithful crypto text rules := by
  unfold LegacyState.capture at taken
  split at taken
  · cases taken
  · rename_i capture installed
    obtain rfl := installCapture_eq installed
    split at taken
    · rename_i arrives
      obtain ⟨after, turned, rfl⟩ := Option.map_eq_some_iff.mp taken
      obtain ⟨-, -, captured⟩ := capture_ok turned
      refine ⟨fun arrived member fits => ?_, held.tasks, held.forwarded⟩
      have member : arrived ∈ after.pending := member
      generalize after.flows = flows, after.pending = pending at captured member
      cases captured with
      | kept _ _ _ same => exact held.pending arrived member fits
      | redirected _ fields target _ added read resolved family recorded joined =>
        rcases List.mem_append.mp member with old | new
        · exact held.pending arrived old fits
        · obtain ⟨-, udp, -, dst, origin, carried⟩ := joined arrived new
          rw [udp, ← origin] at resolved
          rw [dst]
          exact redirected_destined matched arrives carried fits resolved family
    · cases taken

/-- A step of a rule keeps what it keeps. -/
theorem RuleTask.Faithful.step (held : task.Faithful crypto text rules) {event : RuleEvent}
    {after : RuleState} (taken : task.state.step crypto text task.config.udpRule event = some after)
    (origin : Option SocketAddr)
    (inHand : ∀ sent payload, origin = some sent → after.listener.inHand = some payload →
      payload.length ≤ maxPayloadLen → task.config.CanOpen crypto text →
      task.config.destination = sent) :
    RuleTask.Faithful crypto text rules ⟨task.config, after, origin,
      task.connects ++ task.requests event⟩ where
  configured := held.configured
  udp := held.udp
  aligned := by
    show (task.connects ++ task.requests event).length = after.cells.length
    rw [List.length_append, held.aligned, length_cells_step taken]
    cases event <;> rfl
  opened connect member := by
    rcases List.mem_append.mp member with old | new
    · exact held.opened connect old
    · cases rule_step taken with
      | opened src payload clientSk connectionId tunnel wire point opens =>
        exact ⟨List.mem_singleton.mp new, clientSk, connectionId, _, opens⟩
      | returned _ position session src stage ends point =>
        rcases ends with rfl | rfl <;> cases new
      | _ => cases new
  inHand := inHand

/-- What a rule forwards was sent where the rule leads. -/
theorem RuleTask.Faithful.sends (held : task.Faithful crypto text rules) {event : RuleEvent}
    {sent : RuleForwarded} (sends : task.sends crypto event = some sent) : sent.Faithful := by
  unfold RuleTask.sends at sends
  split at sends
  · split at sends
    · rename_i origin session payload received point
      split at sends
      · cases sends
      · rename_i cell present
        split at sends
        · cases sends
        · rename_i wire sealed
          obtain rfl := Option.some.inj sends
          have fits := (encryptFrame_ok sealed).1
          have inHand : task.state.listener.inHand = some payload := by
            rw [point]
            rfl
          have bound : session < task.connects.length := by
            rw [held.aligned]
            exact (List.getElem?_eq_some_iff.mp present).1
          obtain ⟨request, canOpen⟩ := held.opened _ (List.getElem_mem bound)
          show (task.connects[session]?).map destinationOf = some origin
          rw [List.getElem?_eq_getElem bound, request,
            ← held.inHand origin payload received inHand fits canOpen]
          rfl
    · cases sends
  · cases sends

/-- A rule in place of one of the same configuration. -/
theorem LegacyState.Faithful.setTask (held : state.Faithful crypto text rules) {position : Nat}
    (faithful : task.Faithful crypto text rules) (flows : FlowTable) {pending : List Redirected}
    (fewer : ∀ arrived ∈ pending, arrived ∈ state.pending) {forwarded : List RuleForwarded}
    (more : ∀ sent ∈ forwarded, sent ∈ state.forwarded ∨ sent.Faithful) :
    LegacyState.Faithful crypto text rules
      ⟨flows, pending, state.tasks.set position task, forwarded⟩ where
  pending arrived member := held.pending arrived (fewer arrived member)
  tasks other member := by
    rcases List.mem_or_eq_of_mem_set member with old | rfl
    · exact held.tasks other old
    · exact faithful
  forwarded sent member := by
    rcases more sent member with old | new
    · exact held.forwarded sent old
    · exact new

end

end LowPing.Client
