import LowPing.Library.Table
import LowPing.Library.Update
import LowPing.Client.Tunnel

/-!
# UDP rules

`run_udp_rule` of the forwarder: the listener loop with one session for each local source, the idle
reaper and the responder task of each session. The three run on different threads and meet in the
session map and in each session's `last_active`, so a step goes from one use of these to the next.
Sessions live behind an `Arc`: the map holds positions in an append-only list.
-/

namespace LowPing.Client

open Library

/-- A reading of the client's monotonic clock, in nanoseconds since its origin. -/
abbrev ClientInstant := Nat

/-- A UDP forwarding rule. -/
structure UdpRule where
  /-- What its tunnels are opened with. -/
  rule : Rule
  /-- Drop a session after this many seconds idle. -/
  udpIdleSecs : UInt64

/-- `UdpSession` of the rule forwarder. -/
structure RuleSession where
  /-- The tunnel and its counter. -/
  sender : Sender
  /-- Last touched. -/
  lastActive : ClientInstant

/-- Where the listener loop is. -/
inductive RuleStage where
  /-- Awaiting a datagram. -/
  | receiving
  /-- Holding a datagram, about to look its source up. -/
  | looking (src : SocketAddr) (payload : Bytes)
  /-- Awaiting `open_tunnel`. -/
  | opening (src : SocketAddr) (payload : Bytes)
  /-- Holding a new session, waiting for the map's write lock. -/
  | inserting (src : SocketAddr) (session : Nat) (payload : Bytes)
  /-- Holding a session, about to touch it and send. -/
  | forwarding (session : Nat) (payload : Bytes)
  deriving DecidableEq

/-- Where a responder task is. -/
inductive ResponderStage where
  /-- Awaiting a frame of the bridge. -/
  | receiving
  /-- Awaiting `send_to` of an opened payload. -/
  | answering (payload : Bytes)
  /-- Ended by an error. -/
  | returned
  deriving DecidableEq

/-- The responder task of a session. -/
structure Responder where
  /-- Its session. -/
  session : Nat
  /-- The local source it answers. -/
  src : SocketAddr
  /-- Where it is. -/
  stage : ResponderStage
  deriving DecidableEq

/-- Where the rule's reaper is. -/
inductive RuleReaper where
  /-- Awaiting the next tick. -/
  | ticking
  /-- Iterating under the read lock: entries left, sources to drop. -/
  | scanning (cutoff : ClientInstant) (left : List (SocketAddr × Nat)) (toDrop : List SocketAddr)
  /-- About to take the write lock. -/
  | removing (toDrop : List SocketAddr)
  deriving DecidableEq

/-- Whether the reaper holds the map's read lock. -/
def RuleReaper.reading : RuleReaper → Bool
  | .scanning .. => true
  | _ => false

/-- Effects of a rule, in the order they happen. -/
inductive RuleOutput where
  /-- A session's `last_active` was stamped. -/
  | touched (session : Nat) (time : ClientInstant)
  /-- A frame was sent to the bridge. -/
  | sent (session : Nat) (wire : Bytes)
  /-- A payload was sent back to a local source. -/
  | answered (src : SocketAddr) (session : Nat) (payload : Bytes)
  /-- The reaper removed a session. -/
  | reaped (src : SocketAddr) (session : Nat) (time : ClientInstant)
  deriving DecidableEq

/-- One `run_udp_rule`. -/
structure RuleState where
  /-- Monotonic clock. -/
  clock : ClientInstant
  /-- Live sessions by local source. -/
  sessions : AList fun _ : SocketAddr => Nat
  /-- Every session ever created. -/
  cells : List RuleSession
  /-- The listener loop. -/
  listener : RuleStage
  /-- Every responder task ever spawned. -/
  responders : List Responder
  /-- The reaper task. -/
  reaper : RuleReaper
  /-- History of effects. -/
  trace : List RuleOutput

/-- A rule that has just become active. -/
def RuleState.start (clock : ClientInstant) : RuleState where
  clock
  sessions := ∅
  cells := []
  listener := .receiving
  responders := []
  reaper := .ticking
  trace := []

/-- One step of a rule's tasks. -/
inductive RuleEvent where
  /-- The listener receives a datagram. -/
  | receive (src : SocketAddr) (payload : Bytes)
  /-- It looks the source up. -/
  | lookup
  /-- `open_tunnel` returns a tunnel. -/
  | opened (clientSk : StaticSecret) (connectionId : UInt32)
  /-- `open_tunnel` fails. -/
  | openFailed
  /-- The new session enters the map and gets its responder. -/
  | insert
  /-- The session in hand is touched; its datagram is sealed and sent. -/
  | forward (success : Bool)
  /-- A responder receives a datagram from the bridge. -/
  | bridgeFrame (responder : Nat) (wire : Bytes)
  /-- Its `recv` fails. -/
  | bridgeError (responder : Nat)
  /-- Its `send_to` returns. -/
  | answer (responder : Nat) (success : Bool)
  /-- The reaper wakes up and starts its scan. -/
  | tick
  /-- It examines one entry; the map's order is arbitrary. -/
  | scan (src : SocketAddr)
  /-- The scan is over. -/
  | scanned
  /-- It removes what it listed. -/
  | remove
  /-- Time passes. -/
  | advance (nanos : Nat)

/-- Stamp a session. -/
def RuleState.touch (state : RuleState) (session : Nat) : RuleState :=
  { state with
    cells := state.cells.modify session fun cell => { cell with lastActive := state.clock }
    trace := state.trace ++ [.touched session state.clock] }

/-- The listener looks the source of its datagram up. -/
def RuleState.lookup (state : RuleState) : Option RuleState :=
  match state.listener with
  | .looking src payload =>
    some { state with listener := match state.sessions.lookup src with
      | some session => .forwarding session payload
      | none => .opening src payload }
  | _ => none

/-- A tunnel has been opened: its session is created. -/
def RuleState.opened (crypto : Crypto) (text : TextCodec) (config : UdpRule) (state : RuleState)
    (clientSk : StaticSecret) (connectionId : UInt32) : Option RuleState :=
  match state.listener with
  | .opening src payload =>
    match config.rule.openTunnel crypto text .udp clientSk connectionId with
    | .error _ => none
    | .ok (tunnel, _) => some { state with
        cells := state.cells ++ [⟨tunnel.sender, state.clock⟩]
        listener := .inserting src state.cells.length payload }
  | _ => none

/-- No tunnel could be opened: the datagram is dropped. -/
def RuleState.openFailed (state : RuleState) : Option RuleState :=
  match state.listener with
  | .opening .. => some { state with listener := .receiving }
  | _ => none

/-- The new session enters the map under the write lock and its responder is spawned. -/
def RuleState.insert (state : RuleState) : Option RuleState :=
  match state.listener with
  | .inserting src session payload =>
    if state.reaper.reading then none
    else some { state with
      sessions := state.sessions.insert src session
      listener := .forwarding session payload
      responders := state.responders ++ [⟨session, src, .receiving⟩] }
  | _ => none

/-- The end of a turn of the listener loop: touch, count, seal and send. -/
def RuleState.forward (crypto : Crypto) (state : RuleState) (success : Bool) : Option RuleState :=
  match state.listener with
  | .forwarding session payload =>
    match state.cells[session]? with
    | none => none
    | some cell =>
      let sent := cell.sender.encryptUpstream crypto payload
      let touched := (state.touch session).cells.modify session fun cell =>
        { cell with sender := sent.1 }
      let frames : List RuleOutput := match sent.2 with
        | .ok wire => if success then [.sent session wire] else []
        | .error _ => []
      some { state with
        cells := touched
        listener := .receiving
        trace := (state.touch session).trace ++ frames }
  | _ => none

/-- A responder opens a datagram of the bridge; what does not open is dropped. -/
def RuleState.bridgeFrame (crypto : Crypto) (state : RuleState) (responder : Nat) (wire : Bytes) :
    Option RuleState :=
  match state.responders[responder]? with
  | some ⟨session, src, .receiving⟩ =>
    match state.cells[session]? with
    | none => none
    | some cell =>
      match cell.sender.tunnel.receive crypto wire with
      | none => some state
      | some payload => some { state with
          responders := state.responders.set responder ⟨session, src, .answering payload⟩ }
  | _ => none

/-- A responder whose `recv` fails returns. -/
def RuleState.bridgeError (state : RuleState) (responder : Nat) : Option RuleState :=
  match state.responders[responder]? with
  | some ⟨session, src, .receiving⟩ => some { state with
      responders := state.responders.set responder ⟨session, src, .returned⟩ }
  | _ => none

/-- A responder's `send_to` returns: its session is touched, or the task ends. -/
def RuleState.answer (state : RuleState) (responder : Nat) (success : Bool) : Option RuleState :=
  match state.responders[responder]? with
  | some ⟨session, src, .answering payload⟩ =>
    if success then
      let answered : RuleState :=
        { state with trace := state.trace ++ [.answered src session payload] }
      let touched := answered.touch session
      some { touched with
        responders := state.responders.set responder ⟨session, src, .receiving⟩ }
    else some { state with
      responders := state.responders.set responder ⟨session, src, .returned⟩ }
  | _ => none

/-- The reaper wakes: compute the cutoff, take the read lock. Before the clock's origin the
subtraction panics. -/
def RuleState.tick (config : UdpRule) (state : RuleState) : Option RuleState :=
  let idle := config.udpIdleSecs.toNat * 1000000000
  match state.reaper with
  | .ticking =>
    if state.clock < idle then none
    else some { state with
      reaper := .scanning (state.clock - idle)
        (state.sessions.entries.map fun entry => (entry.1, entry.2)) [] }
  | _ => none

/-- Whether a session was last touched before a cutoff. -/
def RuleState.idle (state : RuleState) (cutoff : ClientInstant) (session : Nat) : Bool :=
  match state.cells[session]? with
  | some cell => decide (cell.lastActive < cutoff)
  | none => false

/-- The scan examines one of the entries left. -/
def RuleState.scan (state : RuleState) (src : SocketAddr) : Option RuleState :=
  match state.reaper with
  | .scanning cutoff left toDrop =>
    match left.find? fun entry => entry.1 = src with
    | none => none
    | some entry => some { state with
        reaper := .scanning cutoff (left.erase entry)
          (if state.idle cutoff entry.2 then toDrop ++ [src] else toDrop) }
  | _ => none

/-- The scan is over and the read lock is released. -/
def RuleState.scanned (state : RuleState) : Option RuleState :=
  match state.reaper with
  | .scanning _ [] toDrop =>
    some { state with reaper := if toDrop = [] then .ticking else .removing toDrop }
  | _ => none

/-- The listed sources are removed under the write lock. -/
def RuleState.remove (state : RuleState) : Option RuleState :=
  match state.reaper with
  | .removing toDrop => some { state with
      sessions := toDrop.foldl (fun table src => table.erase src) state.sessions
      reaper := .ticking
      trace := state.trace ++ toDrop.filterMap fun src =>
        (state.sessions.lookup src).map fun session => .reaped src session state.clock }
  | _ => none

/-- One step of a rule. -/
def RuleState.step (crypto : Crypto) (text : TextCodec) (config : UdpRule) (state : RuleState) :
    RuleEvent → Option RuleState
  | .receive src payload =>
    match state.listener with
    | .receiving => some { state with listener := .looking src payload }
    | _ => none
  | .lookup => state.lookup
  | .opened clientSk connectionId => state.opened crypto text config clientSk connectionId
  | .openFailed => state.openFailed
  | .insert => state.insert
  | .forward success => state.forward crypto success
  | .bridgeFrame responder wire => state.bridgeFrame crypto responder wire
  | .bridgeError responder => state.bridgeError responder
  | .answer responder success => state.answer responder success
  | .tick => state.tick config
  | .scan src => state.scan src
  | .scanned => state.scanned
  | .remove => state.remove
  | .advance nanos => some { state with clock := state.clock + nanos }

section

variable {crypto : Crypto} {text : TextCodec} {config : UdpRule} {state next : RuleState}
  {event : RuleEvent}

/-- What one step of a rule can do. -/
inductive RuleAfter (crypto : Crypto) (text : TextCodec) (config : UdpRule) (state : RuleState) :
    RuleEvent → RuleState → Prop where
  /-- A datagram is taken. -/
  | received (src : SocketAddr) (payload : Bytes) (free : state.listener = .receiving) :
      RuleAfter crypto text config state (.receive src payload)
        { state with listener := .looking src payload }
  /-- Its source has a session. -/
  | found (src : SocketAddr) (payload : Bytes) (session : Nat)
      (point : state.listener = .looking src payload)
      (live : state.sessions.lookup src = some session) :
      RuleAfter crypto text config state .lookup
        { state with listener := .forwarding session payload }
  /-- Its source has none. -/
  | missed (src : SocketAddr) (payload : Bytes) (point : state.listener = .looking src payload)
      (absent : state.sessions.lookup src = none) :
      RuleAfter crypto text config state .lookup { state with listener := .opening src payload }
  /-- A tunnel is opened and its session created. -/
  | opened (src : SocketAddr) (payload : Bytes) (clientSk : StaticSecret) (connectionId : UInt32)
      (tunnel : OpenedTunnel) (wire : Bytes) (point : state.listener = .opening src payload)
      (opens : config.rule.openTunnel crypto text .udp clientSk connectionId = .ok (tunnel, wire)) :
      RuleAfter crypto text config state (.opened clientSk connectionId) { state with
        cells := state.cells ++ [⟨tunnel.sender, state.clock⟩]
        listener := .inserting src state.cells.length payload }
  /-- No tunnel is opened. -/
  | openFailed (src : SocketAddr) (payload : Bytes)
      (point : state.listener = .opening src payload) :
      RuleAfter crypto text config state .openFailed { state with listener := .receiving }
  /-- The session enters the map. -/
  | inserted (src : SocketAddr) (session : Nat) (payload : Bytes)
      (point : state.listener = .inserting src session payload)
      (free : state.reaper.reading = false) :
      RuleAfter crypto text config state .insert { state with
        sessions := state.sessions.insert src session
        listener := .forwarding session payload
        responders := state.responders ++ [⟨session, src, .receiving⟩] }
  /-- The session in hand is touched and its counter moves. -/
  | forwarded (session : Nat) (payload : Bytes) (cell : RuleSession) (success : Bool)
      (frames : List RuleOutput) (point : state.listener = .forwarding session payload)
      (present : state.cells[session]? = some cell)
      (sends : ∀ output ∈ frames, ∃ wire, output = .sent session wire) :
      RuleAfter crypto text config state (.forward success) { state with
        cells := state.cells.set session
          ⟨(cell.sender.encryptUpstream crypto payload).1, state.clock⟩
        listener := .receiving
        trace := state.trace ++ [.touched session state.clock] ++ frames }
  /-- A responder drops what does not open. -/
  | dropped (position : Nat) (wire : Bytes) (session : Nat) (src : SocketAddr)
      (point : state.responders[position]? = some ⟨session, src, .receiving⟩) :
      RuleAfter crypto text config state (.bridgeFrame position wire) state
  /-- A responder opens a payload with its session's tunnel. -/
  | answering (position : Nat) (wire payload : Bytes) (session : Nat) (src : SocketAddr)
      (cell : RuleSession) (point : state.responders[position]? = some ⟨session, src, .receiving⟩)
      (present : state.cells[session]? = some cell)
      (opens : cell.sender.tunnel.receive crypto wire = some payload) :
      RuleAfter crypto text config state (.bridgeFrame position wire) { state with
        responders := state.responders.set position ⟨session, src, .answering payload⟩ }
  /-- A responder ends. -/
  | returned (event : RuleEvent) (position : Nat) (session : Nat) (src : SocketAddr)
      (stage : ResponderStage)
      (ends : event = .bridgeError position ∨ event = .answer position false)
      (point : state.responders[position]? = some ⟨session, src, stage⟩) :
      RuleAfter crypto text config state event { state with
        responders := state.responders.set position ⟨session, src, .returned⟩ }
  /-- A responder has answered and touches its session. -/
  | answered (position : Nat) (session : Nat) (src : SocketAddr) (payload : Bytes)
      (point : state.responders[position]? = some ⟨session, src, .answering payload⟩) :
      RuleAfter crypto text config state (.answer position true) { state with
        cells := state.cells.modify session fun cell => { cell with lastActive := state.clock }
        responders := state.responders.set position ⟨session, src, .receiving⟩
        trace := state.trace ++ [.answered src session payload] ++
          [.touched session state.clock] }
  /-- The reaper starts a scan of the whole map. -/
  | ticked (point : state.reaper = .ticking)
      (late : config.udpIdleSecs.toNat * 1000000000 ≤ state.clock) :
      RuleAfter crypto text config state .tick { state with
        reaper := .scanning (state.clock - config.udpIdleSecs.toNat * 1000000000)
          (state.sessions.entries.map fun entry => (entry.1, entry.2)) [] }
  /-- It examines one entry. -/
  | scanned (src : SocketAddr) (cutoff : ClientInstant) (left : List (SocketAddr × Nat))
      (toDrop : List SocketAddr) (session : Nat)
      (point : state.reaper = .scanning cutoff left toDrop)
      (first : left.find? (fun entry => entry.1 = src) = some (src, session)) :
      RuleAfter crypto text config state (.scan src) { state with
        reaper := .scanning cutoff (left.erase (src, session))
          (if state.idle cutoff session then toDrop ++ [src] else toDrop) }
  /-- It has examined every entry. -/
  | finished (cutoff : ClientInstant) (toDrop : List SocketAddr)
      (point : state.reaper = .scanning cutoff [] toDrop) :
      RuleAfter crypto text config state .scanned { state with
        reaper := if toDrop = [] then .ticking else .removing toDrop }
  /-- It removes what it listed. -/
  | removed (toDrop : List SocketAddr) (point : state.reaper = .removing toDrop) :
      RuleAfter crypto text config state .remove { state with
        sessions := Table.eraseAll state.sessions toDrop
        reaper := .ticking
        trace := state.trace ++ toDrop.filterMap fun src =>
          (state.sessions.lookup src).map fun session => .reaped src session state.clock }
  /-- Time passes. -/
  | advanced (nanos : Nat) :
      RuleAfter crypto text config state (.advance nanos)
        { state with clock := state.clock + nanos }

/-- Touching a session and then counting its frame writes its cell once. -/
theorem touch_count {cells : List RuleSession} {session : Nat} {cell : RuleSession}
    (present : cells[session]? = some cell) (clock : ClientInstant) (sender : Sender) :
    (cells.modify session fun cell => { cell with lastActive := clock }).modify session
      (fun cell => { cell with sender }) = cells.set session ⟨sender, clock⟩ := by
  apply List.ext_getElem?
  intro position
  by_cases same : session = position
  · subst same
    have bound := (List.getElem?_eq_some_iff.mp present).1
    simp [List.getElem?_modify_eq, List.getElem?_set_self bound, present]
  · simp [List.getElem?_modify_ne _ _ same, List.getElem?_set_ne same]

/-- Every step of a rule is one of these. -/
theorem rule_step (taken : state.step crypto text config event = some next) :
    RuleAfter crypto text config state event next := by
  cases event with
  | receive src payload =>
    simp only [RuleState.step] at taken
    split at taken
    · rename_i free
      obtain rfl := Option.some.inj taken
      exact .received src payload free
    · contradiction
  | lookup =>
    simp only [RuleState.step, RuleState.lookup] at taken
    split at taken
    · rename_i src payload point
      cases live : state.sessions.lookup src with
      | none =>
        rw [live] at taken
        obtain rfl := Option.some.inj taken
        exact .missed src payload point live
      | some session =>
        rw [live] at taken
        obtain rfl := Option.some.inj taken
        exact .found src payload session point live
    · contradiction
  | opened clientSk connectionId =>
    simp only [RuleState.step, RuleState.opened] at taken
    split at taken
    · rename_i src payload point
      split at taken
      · contradiction
      · rename_i tunnel wire opens
        obtain rfl := Option.some.inj taken
        exact .opened src payload clientSk connectionId tunnel wire point opens
    · contradiction
  | openFailed =>
    simp only [RuleState.step, RuleState.openFailed] at taken
    split at taken
    · rename_i src payload point
      obtain rfl := Option.some.inj taken
      exact .openFailed src payload point
    · contradiction
  | insert =>
    simp only [RuleState.step, RuleState.insert] at taken
    split at taken
    · rename_i src session payload point
      split at taken
      · contradiction
      · rename_i free
        obtain rfl := Option.some.inj taken
        exact .inserted src session payload point (by simpa using free)
    · contradiction
  | forward success =>
    simp only [RuleState.step, RuleState.forward] at taken
    split at taken
    · rename_i session payload point
      split at taken
      · contradiction
      · rename_i cell present
        obtain rfl := Option.some.inj taken
        simp only [RuleState.touch]
        rw [touch_count present]
        refine .forwarded session payload cell success _ point present fun output member => ?_
        split at member
        · split at member
          · exact ⟨_, List.mem_singleton.mp member⟩
          · contradiction
        · contradiction
    · contradiction
  | bridgeFrame position wire =>
    simp only [RuleState.step, RuleState.bridgeFrame] at taken
    split at taken
    · rename_i session src point
      split at taken
      · contradiction
      · rename_i cell present
        split at taken
        · obtain rfl := Option.some.inj taken
          exact .dropped position wire session src point
        · rename_i payload opens
          obtain rfl := Option.some.inj taken
          exact .answering position wire payload session src cell point present opens
    · contradiction
  | bridgeError position =>
    simp only [RuleState.step, RuleState.bridgeError] at taken
    split at taken
    · rename_i session src point
      obtain rfl := Option.some.inj taken
      exact .returned _ position session src _ (.inl rfl) point
    · contradiction
  | answer position success =>
    simp only [RuleState.step, RuleState.answer] at taken
    split at taken
    · rename_i session src payload point
      cases success with
      | true =>
        obtain rfl := Option.some.inj taken
        exact .answered position session src payload point
      | false =>
        obtain rfl := Option.some.inj taken
        exact .returned _ position session src _ (.inr rfl) point
    · contradiction
  | tick =>
    simp only [RuleState.step, RuleState.tick] at taken
    split at taken
    · rename_i point
      split at taken
      · contradiction
      · rename_i late
        obtain rfl := Option.some.inj taken
        exact .ticked point (Nat.le_of_not_lt late)
    · contradiction
  | scan src =>
    simp only [RuleState.step, RuleState.scan] at taken
    split at taken
    · rename_i cutoff left toDrop point
      split at taken
      · contradiction
      · rename_i entry found
        have same : entry.1 = src := by simpa using List.find?_some found
        obtain ⟨source, session⟩ := entry
        obtain rfl : source = src := same
        obtain rfl := Option.some.inj taken
        exact .scanned source cutoff left toDrop session point found
    · contradiction
  | scanned =>
    simp only [RuleState.step, RuleState.scanned] at taken
    split at taken
    · rename_i cutoff toDrop point
      obtain rfl := Option.some.inj taken
      exact .finished cutoff toDrop point
    · contradiction
  | remove =>
    simp only [RuleState.step, RuleState.remove] at taken
    split at taken
    · rename_i toDrop point
      obtain rfl := Option.some.inj taken
      exact .removed toDrop point
    · contradiction
  | advance nanos =>
    obtain rfl := Option.some.inj taken
    exact .advanced nanos

/-- Every cell after a step has its tunnel from before or from the tunnel just opened. -/
theorem rule_cell_before {session : Nat} {last : RuleSession}
    (taken : state.step crypto text config event = some next)
    (present : next.cells[session]? = some last) :
    (∃ cell, state.cells[session]? = some cell ∧ cell.sender.tunnel = last.sender.tunnel) ∨
      ∃ clientSk connectionId wire, event = .opened clientSk connectionId ∧
        config.rule.openTunnel crypto text .udp clientSk connectionId =
          .ok (last.sender.tunnel, wire) := by
  cases rule_step taken with
  | opened src payload clientSk connectionId tunnel wire point opens =>
    rcases Update.getElem?_concat_cases present with ⟨rfl, rfl⟩ | old
    · exact .inr ⟨clientSk, connectionId, wire, rfl, opens⟩
    · exact .inl ⟨last, old, rfl⟩
  | forwarded target payload cell success frames point found sends =>
    rcases Update.getElem?_set_cases present with ⟨rfl, rfl⟩ | ⟨_, old⟩
    · exact .inl ⟨cell, found, rfl⟩
    · exact .inl ⟨last, old, rfl⟩
  | answered position target src payload point =>
    by_cases same : target = session
    · subst same
      rw [List.getElem?_modify_eq] at present
      obtain ⟨cell, found, rfl⟩ := Option.map_eq_some_iff.mp present
      exact .inl ⟨cell, found, rfl⟩
    · rw [List.getElem?_modify_ne _ _ same] at present
      exact .inl ⟨last, present, rfl⟩
  | _ => exact .inl ⟨last, present, rfl⟩

end

end LowPing.Client
