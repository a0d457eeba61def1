import LowPing.Library.Update
import LowPing.Client.Destination
import LowPing.Client.UdpRule

/-!
# Responders in smart mode

`run_bridge_listener` spawns a responder task for each session it files: it opens what the bridge
sends through the session's socket and sends the payload to the source of the datagram that opened
the session. A session is never removed and never opened again. So a port has one tunnel and one
responder at a listener for good: what the responder has opened, in order, is what the game gets,
until the responder ends, and from then on the port gets no answer through this listener.
-/

namespace LowPing.Client

open LowPing.Capture Library Library.Machine

/-- The responder task of a session. Its `recv` times out after 120 seconds and is called again. -/
structure SmartResponder where
  /-- The listener that spawned it. -/
  listener : Nat
  /-- The source of the datagram that opened the session. -/
  src : SocketAddr
  /-- The session's tunnel. -/
  tunnel : OpenedTunnel
  /-- Where it is. -/
  stage : ResponderStage
  deriving DecidableEq

/-- A payload sent to the game. -/
structure Reply where
  /-- Who sent it. -/
  responder : Nat
  /-- From the socket of which listener. -/
  listener : Nat
  /-- To whom. -/
  dst : SocketAddr
  /-- What was sent. -/
  payload : Bytes
  deriving DecidableEq

/-- Smart mode with its responders. `last_active` is written but nothing reads it. -/
structure SmartMode where
  /-- The capture loop and the listeners. -/
  smart : SmartState
  /-- Every responder ever spawned. -/
  responders : List SmartResponder
  /-- History: the datagrams responders have received. -/
  arrived : List (Nat × Bytes)
  /-- History: what they have sent. -/
  replies : List Reply

/-- Smart mode has just started. -/
def SmartMode.start (bridges : List BridgeEntry) : SmartMode where
  smart := .start bridges
  responders := []
  arrived := []
  replies := []

/-- One step of smart mode or of a responder. -/
inductive ModeEvent where
  /-- The capture loop, the local network or a listener takes a step. -/
  | smart (event : SmartEvent)
  /-- A responder receives a datagram from the bridge. -/
  | bridgeFrame (responder : Nat) (wire : Bytes)
  /-- Its `recv` fails. -/
  | bridgeError (responder : Nat)
  /-- Its `send_to` returns. -/
  | answer (responder : Nat) (success : Bool)

/-- The responder that a listener spawns when a tunnel has been opened. -/
def SmartState.spawned (crypto : Crypto) (text : TextCodec) (state : SmartState) :
    SmartEvent → List SmartResponder
  | .opened index clientSk connectionId =>
    match state.listeners[index]? with
    | some listener =>
      match listener.stage with
      | .opening arrived origDest =>
        match listener.bridge.openTunnel crypto text origDest clientSk connectionId with
        | .ok (tunnel, _) => [⟨index, arrived.datagram.src, tunnel, .receiving⟩]
        | .error _ => []
      | _ => []
    | none => []
  | _ => []

/-- A responder has received a datagram: what does not open is dropped. -/
def SmartMode.bridgeFrame (crypto : Crypto) (state : SmartMode) (position : Nat) (wire : Bytes) :
    Option SmartMode :=
  match state.responders[position]? with
  | some ⟨listener, src, tunnel, .receiving⟩ =>
    let heard := { state with arrived := state.arrived ++ [(position, wire)] }
    match tunnel.receive crypto wire with
    | none => some heard
    | some payload => some { heard with
        responders := state.responders.set position ⟨listener, src, tunnel, .answering payload⟩ }
  | _ => none

/-- A responder whose `recv` fails returns. -/
def SmartMode.bridgeError (state : SmartMode) (position : Nat) : Option SmartMode :=
  match state.responders[position]? with
  | some ⟨listener, src, tunnel, .receiving⟩ => some { state with
      responders := state.responders.set position ⟨listener, src, tunnel, .returned⟩ }
  | _ => none

/-- A responder has sent its payload, or returns. -/
def SmartMode.answer (state : SmartMode) (position : Nat) (success : Bool) : Option SmartMode :=
  match state.responders[position]? with
  | some ⟨listener, src, tunnel, .answering payload⟩ =>
    if success then some { state with
      responders := state.responders.set position ⟨listener, src, tunnel, .receiving⟩
      replies := state.replies ++ [⟨position, listener, src, payload⟩] }
    else some { state with
      responders := state.responders.set position ⟨listener, src, tunnel, .returned⟩ }
  | _ => none

/-- One step of smart mode with its responders. -/
def SmartMode.step (crypto : Crypto) (text : TextCodec) (state : SmartMode) :
    ModeEvent → Option SmartMode
  | .smart event => (state.smart.step crypto text event).map fun smart => { state with
      smart
      responders := state.responders ++ state.smart.spawned crypto text event }
  | .bridgeFrame position wire => state.bridgeFrame crypto position wire
  | .bridgeError position => state.bridgeError position
  | .answer position success => state.answer position success

/-! ## What a step does to the listeners -/

/-- The listeners after a step, and the responder it spawns. -/
inductive ListenersAfter (crypto : Crypto) (text : TextCodec) (state : SmartState) :
    SmartEvent → List Listener → List SmartResponder → Prop where
  /-- No listener moves. -/
  | kept (event : SmartEvent) : ListenersAfter crypto text state event state.listeners []
  /-- A listener receives a datagram whose port has no session. -/
  | looks (index position : Nat) (listener : Listener) (arrived : Redirected)
      (present : state.listeners[index]? = some listener)
      (absent : listener.sessions.lookup arrived.srcPort = none) :
      ListenersAfter crypto text state (.receive index position)
        (state.listeners.set index { listener with stage := .looking arrived }) []
  /-- It receives one whose port has. -/
  | forwards (index position : Nat) (listener : Listener) (arrived : Redirected)
      (session : UdpSession) (sender : Sender)
      (present : state.listeners[index]? = some listener)
      (filed : listener.sessions.lookup arrived.srcPort = some session)
      (same : sender.tunnel = session.sender.tunnel) :
      ListenersAfter crypto text state (.receive index position)
        (state.listeners.set index { listener with
          sessions := listener.sessions.insert arrived.srcPort { session with sender }
          stage := .receiving }) []
  /-- It has found where a datagram was sent. -/
  | opens (index : Nat) (listener : Listener) (arrived : Redirected) (origDest : SocketAddr)
      (present : state.listeners[index]? = some listener)
      (looking : listener.stage = .looking arrived) :
      ListenersAfter crypto text state (.lookup index)
        (state.listeners.set index { listener with stage := .opening arrived origDest }) []
  /-- It drops a datagram. -/
  | drops (event : SmartEvent) (index : Nat) (listener : Listener)
      (present : state.listeners[index]? = some listener) :
      ListenersAfter crypto text state event
        (state.listeners.set index { listener with stage := .receiving }) []
  /-- It files a new session and spawns its responder. -/
  | opened (index : Nat) (clientSk : StaticSecret) (connectionId : UInt32) (listener : Listener)
      (arrived : Redirected) (origDest : SocketAddr) (tunnel : OpenedTunnel) (sender : Sender)
      (present : state.listeners[index]? = some listener)
      (opening : listener.stage = .opening arrived origDest) (same : sender.tunnel = tunnel) :
      ListenersAfter crypto text state (.opened index clientSk connectionId)
        (state.listeners.set index { listener with
          sessions := listener.sessions.insert arrived.srcPort ⟨sender, connectTo origDest⟩
          stage := .receiving }) [⟨index, arrived.datagram.src, tunnel, .receiving⟩]

section

variable {crypto : Crypto} {text : TextCodec} {state next : SmartState} {event : SmartEvent}

/-- Every step of smart mode is one of these for its listeners. -/
theorem listeners_step (taken : state.step crypto text event = some next) :
    ListenersAfter crypto text state event next.listeners
      (state.spawned crypto text event) := by
  cases event with
  | capture data outbound resolver now sent =>
    obtain ⟨listeners, _⟩ := capture_ok taken
    rw [listeners]
    exact .kept _
  | reap now =>
    obtain ⟨later, _, rfl⟩ := Option.map_eq_some_iff.mp taken
    exact .kept _
  | lose position =>
    simp only [SmartState.step] at taken
    split at taken
    · obtain rfl := Option.some.inj taken
      exact .kept _
    · contradiction
  | receive index position =>
    simp only [SmartState.step, SmartState.receive] at taken
    split at taken
    · rename_i listener arrived atIndex atPosition
      split at taken
      · split at taken
        · split at taken
          · rename_i session filed
            obtain rfl := Option.some.inj taken
            exact .forwards index position listener arrived session _ atIndex filed rfl
          · rename_i absent
            obtain rfl := Option.some.inj taken
            exact .looks index position listener arrived atIndex absent
        · contradiction
      · contradiction
    · contradiction
  | lookup index =>
    simp only [SmartState.step, SmartState.lookup] at taken
    split at taken
    · rename_i listener atIndex
      split at taken
      · rename_i arrived looking
        obtain rfl := Option.some.inj taken
        cases found : flowOrigin state.flows arrived.srcPort with
        | some origDest => exact .opens index listener arrived origDest atIndex looking
        | none => exact .drops _ index listener atIndex
      · contradiction
    · contradiction
  | opened index clientSk connectionId =>
    simp only [SmartState.step, SmartState.opened] at taken
    split at taken
    · rename_i listener atIndex
      split at taken
      · rename_i arrived origDest opening
        split at taken
        · contradiction
        · rename_i tunnel wire opens
          obtain rfl := Option.some.inj taken
          have spawned : state.spawned crypto text (.opened index clientSk connectionId) =
              [⟨index, arrived.datagram.src, tunnel, .receiving⟩] := by
            simp only [SmartState.spawned, atIndex, opening, opens]
          rw [spawned]
          exact .opened index clientSk connectionId listener arrived origDest tunnel _ atIndex
            opening rfl
      · contradiction
    · contradiction
  | openFailed index =>
    simp only [SmartState.step, SmartState.openFailed] at taken
    split at taken
    · rename_i listener atIndex
      split at taken
      · obtain rfl := Option.some.inj taken
        exact .drops _ index listener atIndex
      · contradiction
    · contradiction

end

/-! ## What a step does to the responders -/

/-- The payload a responder holds. -/
def held : ResponderStage → List Bytes
  | .answering payload => [payload]
  | _ => []

/-- What one step of smart mode with its responders can do. -/
inductive ModeAfter (crypto : Crypto) (text : TextCodec) (state : SmartMode) :
    ModeEvent → SmartMode → Prop where
  /-- Smart mode takes a step and may spawn a responder. -/
  | smart (event : SmartEvent) (smart : SmartState)
      (taken : state.smart.step crypto text event = some smart) :
      ModeAfter crypto text state (.smart event) { state with
        smart
        responders := state.responders ++ state.smart.spawned crypto text event }
  /-- A responder drops what does not open. -/
  | dropped (position : Nat) (wire : Bytes) (responder : SmartResponder)
      (point : state.responders[position]? = some responder)
      (closed : responder.tunnel.receive crypto wire = none) :
      ModeAfter crypto text state (.bridgeFrame position wire)
        { state with arrived := state.arrived ++ [(position, wire)] }
  /-- It opens a payload. -/
  | opened (position : Nat) (wire payload : Bytes) (responder : SmartResponder)
      (point : state.responders[position]? = some responder)
      (free : responder.stage = .receiving)
      (opens : responder.tunnel.receive crypto wire = some payload) :
      ModeAfter crypto text state (.bridgeFrame position wire) { state with
        arrived := state.arrived ++ [(position, wire)]
        responders := state.responders.set position { responder with stage := .answering payload } }
  /-- It returns. -/
  | returned (event : ModeEvent) (position : Nat) (responder : SmartResponder)
      (point : state.responders[position]? = some responder)
      (running : responder.stage ≠ .returned) :
      ModeAfter crypto text state event { state with
        responders := state.responders.set position { responder with stage := .returned } }
  /-- It has sent its payload. -/
  | replied (position : Nat) (payload : Bytes) (responder : SmartResponder)
      (point : state.responders[position]? = some responder)
      (answering : responder.stage = .answering payload) :
      ModeAfter crypto text state (.answer position true) { state with
        responders := state.responders.set position { responder with stage := .receiving }
        replies := state.replies ++ [⟨position, responder.listener, responder.src, payload⟩] }

section

variable {crypto : Crypto} {text : TextCodec} {state next final : SmartMode} {event : ModeEvent}

/-- A step spawns at most one responder, which awaits its first frame. -/
theorem spawned_cases (crypto : Crypto) (text : TextCodec) (smart : SmartState)
    (event : SmartEvent) : smart.spawned crypto text event = [] ∨
      ∃ responder, smart.spawned crypto text event = [responder] ∧
        responder.stage = .receiving := by
  unfold SmartState.spawned
  split
  · split
    · split
      · split
        · exact .inr ⟨_, rfl, rfl⟩
        · exact .inl rfl
      · exact .inl rfl
    · exact .inl rfl
  · exact .inl rfl

/-- Every step is one of these. -/
theorem mode_step (taken : state.step crypto text event = some next) :
    ModeAfter crypto text state event next := by
  cases event with
  | smart event =>
    obtain ⟨smart, took, rfl⟩ := Option.map_eq_some_iff.mp taken
    exact .smart event smart took
  | bridgeFrame position wire =>
    simp only [SmartMode.step, SmartMode.bridgeFrame] at taken
    split at taken
    · rename_i listener src tunnel point
      split at taken
      · rename_i closed
        obtain rfl := Option.some.inj taken
        exact .dropped position wire _ point closed
      · rename_i payload opens
        obtain rfl := Option.some.inj taken
        exact .opened position wire payload _ point rfl opens
    · contradiction
  | bridgeError position =>
    simp only [SmartMode.step, SmartMode.bridgeError] at taken
    split at taken
    · rename_i listener src tunnel point
      obtain rfl := Option.some.inj taken
      exact .returned _ position _ point nofun
    · contradiction
  | answer position success =>
    simp only [SmartMode.step, SmartMode.answer] at taken
    split at taken
    · rename_i listener src tunnel payload point
      cases success with
      | true =>
        obtain rfl := Option.some.inj taken
        exact .replied position payload _ point rfl
      | false =>
        obtain rfl := Option.some.inj taken
        exact .returned _ position _ point nofun
    · contradiction

/-- Where a responder was spawned and for whom stays. -/
structure SmartResponder.Same (before after : SmartResponder) : Prop where
  /-- Its listener. -/
  listener : after.listener = before.listener
  /-- Whom it answers. -/
  src : after.src = before.src
  /-- Its tunnel. -/
  tunnel : after.tunnel = before.tunnel

/-- A responder after a step was there before, or has just been spawned. -/
theorem responder_before {position : Nat} {responder : SmartResponder}
    (taken : state.step crypto text event = some next)
    (present : next.responders[position]? = some responder) :
    (∃ before, state.responders[position]? = some before ∧ before.Same responder) ∨
      ∃ own, event = .smart own ∧ position = state.responders.length ∧
        state.smart.spawned crypto text own = [responder] := by
  have replaced {other : Nat} {before : SmartResponder} {stage : ResponderStage}
      (point : state.responders[other]? = some before)
      (found : (state.responders.set other { before with stage })[position]? = some responder) :
      ∃ before, state.responders[position]? = some before ∧ before.Same responder := by
    rcases Update.getElem?_set_cases found with ⟨rfl, rfl⟩ | ⟨_, old⟩
    · exact ⟨before, point, rfl, rfl, rfl⟩
    · exact ⟨responder, old, rfl, rfl, rfl⟩
  cases mode_step taken with
  | smart own smart took =>
    rcases spawned_cases crypto text state.smart own with none | ⟨added, one, _⟩
    · rw [none, List.append_nil] at present
      exact .inl ⟨responder, present, rfl, rfl, rfl⟩
    · rw [one] at present
      rcases Update.getElem?_concat_cases present with ⟨last, rfl⟩ | old
      · exact .inr ⟨own, rfl, last, one⟩
      · exact .inl ⟨responder, old, rfl, rfl, rfl⟩
  | dropped => exact .inl ⟨responder, present, rfl, rfl, rfl⟩
  | opened _ _ _ _ point => exact .inl (replaced point present)
  | returned _ _ _ point => exact .inl (replaced point present)
  | replied _ _ _ point => exact .inl (replaced point present)

/-- A responder stays, and stays ended. -/
theorem responder_after {position : Nat} {before : SmartResponder}
    (taken : state.step crypto text event = some next)
    (present : state.responders[position]? = some before) :
    ∃ after, next.responders[position]? = some after ∧ before.Same after ∧
      (before.stage = .returned → after.stage = .returned) := by
  have bound := (List.getElem?_eq_some_iff.mp present).1
  have replaced {other : Nat} {moving : SmartResponder} {stage : ResponderStage}
      (point : state.responders[other]? = some moving)
      (ended : moving.stage = .returned → stage = .returned) :
      ∃ after, (state.responders.set other { moving with stage })[position]? = some after ∧
        before.Same after ∧ (before.stage = .returned → after.stage = .returned) := by
    by_cases same : other = position
    · subst same
      obtain rfl := Option.some.inj (present.symm.trans point)
      exact ⟨_, List.getElem?_set_self bound, ⟨rfl, rfl, rfl⟩, ended⟩
    · exact ⟨before, by rw [List.getElem?_set_ne same, present], ⟨rfl, rfl, rfl⟩, id⟩
  cases mode_step taken with
  | smart =>
    exact ⟨before, by rw [List.getElem?_append_left bound, present], ⟨rfl, rfl, rfl⟩, id⟩
  | dropped => exact ⟨before, present, ⟨rfl, rfl, rfl⟩, id⟩
  | opened _ _ _ _ point free => exact replaced point (by rw [free]; exact nofun)
  | returned _ _ _ point => exact replaced point fun _ => rfl
  | replied _ _ _ point answering => exact replaced point (by rw [answering]; exact nofun)

end

/-! ## Sessions -/

/-- The datagram a listener holds without a session. -/
def ListenerStage.arrived : ListenerStage → Option Redirected
  | .receiving => none
  | .looking arrived => some arrived
  | .opening arrived _ => some arrived

/-- The session of a port at a listener. -/
def sessionAt (listeners : List Listener) (index : Nat) (port : UInt16) : Option UdpSession :=
  listeners[index]?.bind fun listener => listener.sessions.lookup port

/-- What a listener holds, its sessions do not have. -/
def Unfiled (listeners : List Listener) : Prop :=
  ∀ listener ∈ listeners, ∀ arrived, listener.stage.arrived = some arrived →
    listener.sessions.lookup arrived.srcPort = none

section

variable {crypto : Crypto} {text : TextCodec} {state next : SmartState} {event : SmartEvent}
  {listeners : List Listener} {index : Nat} {port : UInt16}

/-- Replacing a listener replaces its sessions. -/
theorem sessionAt_set {position : Nat} {before after : Listener}
    (present : listeners[position]? = some before) (index : Nat) (port : UInt16) :
    sessionAt (listeners.set position after) index port =
      if position = index then after.sessions.lookup port else sessionAt listeners index port := by
  unfold sessionAt
  split
  · rename_i same
    subst same
    rw [List.getElem?_set_self (List.getElem?_eq_some_iff.mp present).1]
    rfl
  · rename_i other
    rw [List.getElem?_set_ne other]

/-- Every step leaves what a listener holds without a session. -/
theorem unfiled_step (held : Unfiled state.listeners)
    (taken : state.step crypto text event = some next) : Unfiled next.listeners := by
  have after := listeners_step taken
  generalize next.listeners = listeners, state.spawned crypto text event = spawned at after ⊢
  have replaced {index : Nat} {listener : Listener} (own : ∀ arrived,
      listener.stage.arrived = some arrived → listener.sessions.lookup arrived.srcPort = none) :
      Unfiled (state.listeners.set index listener) := by
    intro other member
    rcases List.mem_or_eq_of_mem_set member with old | rfl
    · exact held other old
    · exact own
  cases after with
  | kept => exact held
  | looks _ _ listener arrived _ absent =>
    refine replaced fun other holds => ?_
    obtain rfl := Option.some.inj holds
    exact absent
  | opens index listener arrived origDest present looking =>
    refine replaced fun other holds => ?_
    obtain rfl := Option.some.inj holds
    exact held listener (List.mem_of_getElem? present) _ (by rw [looking]; rfl)
  | _ => exact replaced nofun

/-- A session stays filed, with its tunnel and its destination. -/
theorem sessionAt_kept {session : UdpSession} (held : Unfiled state.listeners)
    (taken : state.step crypto text event = some next)
    (filed : sessionAt state.listeners index port = some session) :
    ∃ after, sessionAt next.listeners index port = some after ∧
      after.sender.tunnel = session.sender.tunnel ∧ after.connect = session.connect := by
  have after := listeners_step taken
  generalize next.listeners = listeners, state.spawned crypto text event = spawned at after ⊢
  have own {position : Nat} {listener : Listener}
      (present : state.listeners[position]? = some listener) (same : position = index) :
      listener.sessions.lookup port = some session := by
    subst same
    rwa [sessionAt, present] at filed
  have staged {position : Nat} {listener : Listener} {stage : ListenerStage}
      (present : state.listeners[position]? = some listener) :
      ∃ after, sessionAt (state.listeners.set position { listener with stage }) index port =
        some after ∧ after.sender.tunnel = session.sender.tunnel ∧
          after.connect = session.connect := by
    rw [sessionAt_set present]
    split
    · rename_i same
      have before := own present same
      exact ⟨session, before, rfl, rfl⟩
    · exact ⟨session, filed, rfl, rfl⟩
  cases after with
  | kept => exact ⟨session, filed, rfl, rfl⟩
  | looks _ _ _ _ present | opens _ _ _ _ present | drops _ _ _ present => exact staged present
  | forwards position _ listener arrived used sender present found same =>
    rw [sessionAt_set present]
    split
    · rename_i here
      have before := own present here
      by_cases ported : port = arrived.srcPort
      · subst ported
        obtain rfl := Option.some.inj (before.symm.trans found)
        exact ⟨_, AList.lookup_insert _, same, rfl⟩
      · exact ⟨session, by rw [AList.lookup_insert_ne ported, before], rfl, rfl⟩
    · exact ⟨session, filed, rfl, rfl⟩
  | opened position _ _ listener arrived origDest tunnel sender present opening =>
    rw [sessionAt_set present]
    split
    · rename_i here
      have before := own present here
      have absent := held listener (List.mem_of_getElem? present) arrived (by rw [opening]; rfl)
      have ported : port ≠ arrived.srcPort := by
        rintro rfl
        rw [before] at absent
        contradiction
      exact ⟨session, by rw [AList.lookup_insert_ne ported, before], rfl, rfl⟩
    · exact ⟨session, filed, rfl, rfl⟩

/-- A session that is filed after a step was filed before or has just got its responder. -/
theorem sessionAt_before {session : UdpSession}
    (taken : state.step crypto text event = some next)
    (filed : sessionAt next.listeners index port = some session) :
    (∃ before, sessionAt state.listeners index port = some before) ∨
      ∃ src : SocketAddr, src.port = port ∧
        state.spawned crypto text event = [⟨index, src, session.sender.tunnel, .receiving⟩] := by
  have after := listeners_step taken
  generalize next.listeners = listeners, state.spawned crypto text event = spawned at after filed ⊢
  have own {position : Nat} {listener : Listener}
      (present : state.listeners[position]? = some listener) {before : UdpSession}
      (found : listener.sessions.lookup port = some before) (same : position = index) :
      ∃ before, sessionAt state.listeners index port = some before := by
    subst same
    exact ⟨before, by rw [sessionAt, present]; exact found⟩
  have staged {position : Nat} {listener : Listener} {stage : ListenerStage}
      (present : state.listeners[position]? = some listener)
      (found : sessionAt (state.listeners.set position { listener with stage }) index port =
        some session) : ∃ before, sessionAt state.listeners index port = some before := by
    rw [sessionAt_set present] at found
    split at found
    · rename_i same
      have before : listener.sessions.lookup port = some session := found
      exact own present before same
    · exact ⟨session, found⟩
  cases after with
  | kept => exact .inl ⟨session, filed⟩
  | looks _ _ _ _ present | opens _ _ _ _ present | drops _ _ _ present =>
    exact .inl (staged present filed)
  | forwards position _ listener arrived used sender present found same =>
    rw [sessionAt_set present] at filed
    split at filed
    · rename_i here
      by_cases ported : port = arrived.srcPort
      · subst ported
        exact .inl (own present found here)
      · rw [AList.lookup_insert_ne ported] at filed
        exact .inl (own present filed here)
    · exact .inl ⟨session, filed⟩
  | opened position _ _ listener arrived origDest tunnel sender present opening same =>
    rw [sessionAt_set present] at filed
    split at filed
    · rename_i here
      subst here
      by_cases ported : port = arrived.srcPort
      · subst ported
        rw [AList.lookup_insert] at filed
        obtain rfl := Option.some.inj filed
        subst same
        exact .inr ⟨arrived.datagram.src, rfl, rfl⟩
      · rw [AList.lookup_insert_ne ported] at filed
        exact .inl (own present filed rfl)
    · exact .inl ⟨session, filed⟩

/-- A responder is spawned for a port without a session, which has then its tunnel. -/
theorem spawned_fresh {responder : SmartResponder} (held : Unfiled state.listeners)
    (taken : state.step crypto text event = some next)
    (added : state.spawned crypto text event = [responder]) :
    sessionAt state.listeners responder.listener responder.src.port = none ∧
      ∃ session, sessionAt next.listeners responder.listener responder.src.port = some session ∧
        session.sender.tunnel = responder.tunnel := by
  have after := listeners_step taken
  rw [added] at after
  generalize next.listeners = listeners at after ⊢
  cases after with
  | opened position _ _ listener arrived origDest tunnel sender present opening same =>
    have absent := held listener (List.mem_of_getElem? present) arrived (by rw [opening]; rfl)
    refine ⟨by rw [sessionAt, present]; exact absent, ⟨sender, connectTo origDest⟩, ?_, same⟩
    rw [sessionAt_set present, if_pos rfl]
    exact AList.lookup_insert _

end

/-! ## One responder for each session -/

/-- Every session has one responder, and every responder a session. -/
structure Manned (state : SmartMode) : Prop where
  /-- What a listener holds has no session. -/
  unfiled : Unfiled state.smart.listeners
  /-- A responder's tunnel is that of the session of its port. -/
  filed : ∀ (position : Nat) (responder : SmartResponder),
    state.responders[position]? = some responder → ∃ session,
      sessionAt state.smart.listeners responder.listener responder.src.port = some session ∧
      session.sender.tunnel = responder.tunnel
  /-- No other responder answers the port. -/
  unique : ∀ (left right : Nat) (leftTask rightTask : SmartResponder),
    state.responders[left]? = some leftTask → state.responders[right]? = some rightTask →
    leftTask.listener = rightTask.listener → leftTask.src.port = rightTask.src.port → left = right
  /-- A session's port is answered. -/
  served : ∀ index port session, sessionAt state.smart.listeners index port = some session →
    ∃ (position : Nat) (responder : SmartResponder), state.responders[position]? = some responder ∧
      responder.listener = index ∧ responder.src.port = port

/-- What a responder makes of an arrival. -/
def heard (crypto : Crypto) (tunnel : OpenedTunnel) (position : Nat) (arrival : Nat × Bytes) :
    Option Bytes :=
  if arrival.1 = position then tunnel.receive crypto arrival.2 else none

/-- The payload of a reply of one responder. -/
def Reply.sentBy (position : Nat) (reply : Reply) : Option Bytes :=
  if reply.responder = position then some reply.payload else none

/-- What has arrived for a responder and opened under its tunnel, in order. -/
def SmartMode.heardBy (crypto : Crypto) (state : SmartMode) (tunnel : OpenedTunnel)
    (position : Nat) : List Bytes :=
  state.arrived.filterMap (heard crypto tunnel position)

/-- What a responder has sent, in order. -/
def SmartMode.sentBy (state : SmartMode) (position : Nat) : List Bytes :=
  state.replies.filterMap (Reply.sentBy position)

/-- Responders send what they open, to whom they were spawned for. -/
structure Replying (crypto : Crypto) (state : SmartMode) : Prop where
  /-- Only responders receive. -/
  received : ∀ arrival ∈ state.arrived, arrival.1 < state.responders.length
  /-- Replies go where their responder sends them. -/
  addressed : ∀ reply ∈ state.replies, ∃ responder,
    state.responders[reply.responder]? = some responder ∧
      reply.listener = responder.listener ∧ reply.dst = responder.src
  /-- What was sent and what is held is what was opened, until the responder returns. -/
  ordered : ∀ (position : Nat) (responder : SmartResponder),
    state.responders[position]? = some responder →
      state.sentBy position ++ held responder.stage <+:
        state.heardBy crypto responder.tunnel position ∧
      (responder.stage ≠ .returned → state.sentBy position ++ held responder.stage =
        state.heardBy crypto responder.tunnel position)

section

variable {crypto : Crypto} {text : TextCodec} {state next : SmartMode} {event : ModeEvent}

/-- Other steps leave smart mode alone. -/
theorem smart_kept (taken : state.step crypto text event = some next)
    (other : ∀ own, event ≠ .smart own) : next.smart = state.smart := by
  cases mode_step taken with
  | smart own => exact absurd rfl (other own)
  | _ => rfl

/-- A session filed before a step is filed after it, with its tunnel. -/
theorem session_stays (kept : Manned state) (taken : state.step crypto text event = some next)
    {index : Nat} {port : UInt16} {session : UdpSession}
    (filed : sessionAt state.smart.listeners index port = some session) :
    ∃ after, sessionAt next.smart.listeners index port = some after ∧
      after.sender.tunnel = session.sender.tunnel := by
  by_cases own : ∃ own, event = .smart own
  · obtain ⟨own, rfl⟩ := own
    obtain ⟨smart, took, rfl⟩ := Option.map_eq_some_iff.mp taken
    obtain ⟨after, found, same, _⟩ := sessionAt_kept kept.unfiled took filed
    exact ⟨after, found, same⟩
  · rw [smart_kept taken fun event same => own ⟨event, same⟩]
    exact ⟨session, filed, rfl⟩

/-- A responder is spawned for a port without a session, which then has one. -/
theorem spawned_filed (kept : Manned state) {own : SmartEvent} {responder : SmartResponder}
    (taken : state.step crypto text (.smart own) = some next)
    (added : state.smart.spawned crypto text own = [responder]) :
    sessionAt state.smart.listeners responder.listener responder.src.port = none ∧
      ∃ session, sessionAt next.smart.listeners responder.listener responder.src.port =
        some session ∧ session.sender.tunnel = responder.tunnel := by
  obtain ⟨smart, took, rfl⟩ := Option.map_eq_some_iff.mp taken
  exact spawned_fresh kept.unfiled took added

/-- A newly spawned responder has its port for itself. -/
theorem spawned_alone (kept : Manned state) {own : SmartEvent} {position : Nat}
    {old new : SmartResponder} (taken : state.step crypto text (.smart own) = some next)
    (added : state.smart.spawned crypto text own = [new])
    (present : state.responders[position]? = some old) (listener : old.listener = new.listener)
    (port : old.src.port = new.src.port) : False := by
  obtain ⟨session, found, _⟩ := kept.filed position old present
  rw [listener, port, (spawned_filed kept taken added).1] at found
  contradiction

/-- No two responders are for one port of one listener. -/
theorem responders_unique (kept : Manned state) (taken : state.step crypto text event = some next)
    {left right : Nat} {leftTask rightTask : SmartResponder}
    (leftPresent : next.responders[left]? = some leftTask)
    (rightPresent : next.responders[right]? = some rightTask)
    (listener : leftTask.listener = rightTask.listener)
    (port : leftTask.src.port = rightTask.src.port) : left = right := by
  rcases responder_before taken leftPresent with ⟨leftOld, leftFound, leftSame⟩ |
    ⟨leftOwn, rfl, leftLast, leftAdded⟩
  · rw [leftSame.listener] at listener
    rw [leftSame.src] at port
    rcases responder_before taken rightPresent with ⟨rightOld, rightFound, rightSame⟩ |
      ⟨rightOwn, rfl, _, rightAdded⟩
    · rw [rightSame.listener] at listener
      rw [rightSame.src] at port
      exact kept.unique left right leftOld rightOld leftFound rightFound listener port
    · exact (spawned_alone kept taken rightAdded leftFound listener port).elim
  · rcases responder_before taken rightPresent with ⟨rightOld, rightFound, rightSame⟩ |
      ⟨_, _, rightLast, _⟩
    · rw [rightSame.listener] at listener
      rw [rightSame.src] at port
      exact (spawned_alone kept taken leftAdded rightFound listener.symm port.symm).elim
    · exact leftLast.trans rightLast.symm

/-- Every session has a responder. -/
theorem session_served (kept : Manned state) (taken : state.step crypto text event = some next)
    {index : Nat} {port : UInt16} {session : UdpSession}
    (filed : sessionAt next.smart.listeners index port = some session) :
    ∃ (position : Nat) (responder : SmartResponder),
      next.responders[position]? = some responder ∧ responder.listener = index ∧
        responder.src.port = port := by
  have old {before : UdpSession}
      (found : sessionAt state.smart.listeners index port = some before) :
      ∃ (position : Nat) (responder : SmartResponder),
        next.responders[position]? = some responder ∧ responder.listener = index ∧
          responder.src.port = port := by
    obtain ⟨position, responder, present, listener, ported⟩ := kept.served index port before found
    obtain ⟨after, found, same, _⟩ := responder_after taken present
    exact ⟨position, after, found, same.listener.trans listener, by rw [same.src, ported]⟩
  by_cases own : ∃ own, event = .smart own
  · obtain ⟨own, rfl⟩ := own
    obtain ⟨smart, took, rfl⟩ := Option.map_eq_some_iff.mp taken
    rcases sessionAt_before took filed with ⟨before, found⟩ | ⟨src, rfl, added⟩
    · exact old found
    · refine ⟨state.responders.length, ⟨index, src, session.sender.tunnel, .receiving⟩, ?_, rfl,
        rfl⟩
      dsimp only
      rw [added, List.getElem?_concat_length]
  · rw [smart_kept taken fun event same => own ⟨event, same⟩] at filed
    exact old filed

/-- Every step keeps one responder for each session. -/
theorem manned_step (kept : Manned state) (taken : state.step crypto text event = some next) :
    Manned next := by
  refine ⟨?_, ?_, fun _ _ _ _ leftPresent rightPresent listener port =>
    responders_unique kept taken leftPresent rightPresent listener port,
    fun _ _ _ filed => session_served kept taken filed⟩
  · by_cases own : ∃ own, event = .smart own
    · obtain ⟨own, rfl⟩ := own
      obtain ⟨smart, took, rfl⟩ := Option.map_eq_some_iff.mp taken
      exact unfiled_step kept.unfiled took
    · rw [smart_kept taken fun event same => own ⟨event, same⟩]
      exact kept.unfiled
  · intro position responder present
    rcases responder_before taken present with ⟨before, old, same⟩ | ⟨own, rfl, _, added⟩
    · obtain ⟨session, found, tunnel⟩ := kept.filed position before old
      obtain ⟨after, stayed, unchanged⟩ := session_stays kept taken found
      rw [same.listener, same.src, same.tunnel]
      exact ⟨after, stayed, unchanged.trans tunnel⟩
    · exact (spawned_filed kept taken added).2

/-- Smart mode starts without sessions. -/
theorem manned_start (bridges : List BridgeEntry) : Manned (.start bridges) where
  unfiled listener member arrived holds := by
    obtain ⟨bridge, _, rfl⟩ := List.mem_map.mp member
    contradiction
  filed _ _ present := by simp [SmartMode.start] at present
  unique _ _ _ _ present := by simp [SmartMode.start] at present
  served index port session found := by
    obtain ⟨listener, present, filed⟩ := Option.bind_eq_some_iff.mp found
    obtain ⟨bridge, _, rfl⟩ := List.mem_map.mp (List.mem_of_getElem? present)
    simp at filed

/-- An arrival extends what its responder has heard by what it opens. -/
theorem heardBy_concat (crypto : Crypto) (tunnel : OpenedTunnel) (position : Nat)
    {arrival : Nat × Bytes} (grown : next.arrived = state.arrived ++ [arrival]) :
    next.heardBy crypto tunnel position = state.heardBy crypto tunnel position ++
      (heard crypto tunnel position arrival).toList := by
  rw [SmartMode.heardBy, grown, List.filterMap_append, List.filterMap_cons, List.filterMap_nil]
  cases heard crypto tunnel position arrival <;> rfl

/-- A reply extends what its responder has sent. -/
theorem sentBy_concat (position : Nat) {reply : Reply}
    (grown : next.replies = state.replies ++ [reply]) :
    next.sentBy position = state.sentBy position ++ (reply.sentBy position).toList := by
  rw [SmartMode.sentBy, grown, List.filterMap_append, List.filterMap_cons, List.filterMap_nil]
  cases reply.sentBy position <;> rfl

/-- A responder that has not been spawned has neither heard nor sent anything. -/
theorem Replying.unborn (kept : Replying crypto state) (tunnel : OpenedTunnel) :
    state.heardBy crypto tunnel state.responders.length = [] ∧
      state.sentBy state.responders.length = [] := by
  constructor
  · refine List.filterMap_eq_nil_iff.mpr fun arrival member => if_neg ?_
    exact Nat.ne_of_lt (kept.received arrival member)
  · refine List.filterMap_eq_nil_iff.mpr fun reply member => if_neg ?_
    obtain ⟨_, present, _⟩ := kept.addressed reply member
    exact Nat.ne_of_lt (List.getElem?_eq_some_iff.mp present).1

/-- Only responders receive. -/
theorem arrivals_known (kept : Replying crypto state)
    (taken : state.step crypto text event = some next) {arrival : Nat × Bytes}
    (member : arrival ∈ next.arrived) : arrival.1 < next.responders.length := by
  have longer : state.responders.length ≤ next.responders.length := by
    cases mode_step taken <;> simp
  have received {position : Nat} {wire : Bytes} {responder : SmartResponder}
      (point : state.responders[position]? = some responder)
      (among : arrival ∈ state.arrived ++ [(position, wire)]) :
      arrival.1 < next.responders.length := by
    rcases List.mem_append.mp among with old | last
    · exact Nat.lt_of_lt_of_le (kept.received arrival old) longer
    · obtain rfl := List.mem_singleton.mp last
      exact Nat.lt_of_lt_of_le (List.getElem?_eq_some_iff.mp point).1 longer
  cases mode_step taken with
  | dropped position wire responder point => exact received point member
  | opened position wire payload responder point => exact received point member
  | _ => exact Nat.lt_of_lt_of_le (kept.received arrival member) longer

/-- Replies go where their responder sends them. -/
theorem replies_addressed (kept : Replying crypto state)
    (taken : state.step crypto text event = some next) {reply : Reply}
    (member : reply ∈ next.replies) : ∃ responder,
      next.responders[reply.responder]? = some responder ∧
        reply.listener = responder.listener ∧ reply.dst = responder.src := by
  have addressed (old : reply ∈ state.replies) : ∃ responder,
      next.responders[reply.responder]? = some responder ∧
        reply.listener = responder.listener ∧ reply.dst = responder.src := by
    obtain ⟨before, present, listener, dst⟩ := kept.addressed reply old
    obtain ⟨after, found, same, _⟩ := responder_after taken present
    exact ⟨after, found, listener.trans same.listener.symm, dst.trans same.src.symm⟩
  cases mode_step taken with
  | replied position payload responder point answering =>
    rcases List.mem_append.mp member with old | last
    · exact addressed old
    · obtain rfl := List.mem_singleton.mp last
      exact ⟨_, List.getElem?_set_self (List.getElem?_eq_some_iff.mp point).1, rfl, rfl⟩
  | _ => exact addressed member

/-- What a responder has sent and what it holds is what it opened, until it returns. -/
theorem replies_ordered (kept : Replying crypto state)
    (taken : state.step crypto text event = some next) {other : Nat} {task : SmartResponder}
    (present : next.responders[other]? = some task) :
    next.sentBy other ++ held task.stage <+: next.heardBy crypto task.tunnel other ∧
      (task.stage ≠ .returned →
        next.sentBy other ++ held task.stage = next.heardBy crypto task.tunnel other) := by
  cases mode_step taken with
  | smart own smart took =>
    rcases spawned_cases crypto text state.smart own with none | ⟨added, one, awaits⟩
    · rw [none, List.append_nil] at present
      exact kept.ordered other task present
    · rw [one] at present
      rcases Update.getElem?_concat_cases present with ⟨rfl, rfl⟩ | old
      · obtain ⟨nothing, silent⟩ := kept.unborn task.tunnel
        have fresh : state.sentBy state.responders.length ++ held task.stage =
            state.heardBy crypto task.tunnel state.responders.length := by
          rw [nothing, silent, awaits]
          rfl
        exact ⟨⟨[], by rw [List.append_nil]; exact fresh⟩, fun _ => fresh⟩
      · exact kept.ordered other task old
  | dropped position wire responder point closed =>
    have silent : heard crypto task.tunnel other (position, wire) = none := by
      unfold heard
      split
      · rename_i same
        obtain rfl : position = other := same
        obtain rfl := Option.some.inj (present.symm.trans point)
        exact closed
      · rfl
    rw [heardBy_concat crypto task.tunnel other rfl, silent, Option.toList_none, List.append_nil]
    exact kept.ordered other task present
  | opened position wire payload responder point free opens =>
    rw [heardBy_concat crypto task.tunnel other rfl]
    rcases Update.getElem?_set_cases present with ⟨rfl, rfl⟩ | ⟨different, old⟩
    · obtain ⟨_, whole⟩ := kept.ordered other responder point
      have before := whole (by rw [free]; exact nofun)
      rw [free] at before
      have now : heard crypto responder.tunnel other (other, wire) = some payload := by
        rw [heard, if_pos rfl, opens]
      have all : state.sentBy other ++ [payload] =
          state.heardBy crypto responder.tunnel other ++ [payload] := by
        rw [← before]
        simp [held]
      dsimp only
      rw [now]
      exact ⟨⟨[], by rw [List.append_nil]; exact all⟩, fun _ => all⟩
    · have silent : heard crypto task.tunnel other (position, wire) = none :=
        if_neg (Ne.symm different)
      rw [silent, Option.toList_none, List.append_nil]
      exact kept.ordered other task old
  | returned event position responder point running =>
    rcases Update.getElem?_set_cases present with ⟨rfl, rfl⟩ | ⟨different, old⟩
    · refine ⟨?_, fun running => absurd rfl running⟩
      obtain ⟨initial, _⟩ := kept.ordered other responder point
      exact ((List.prefix_append_right_inj _).mpr List.nil_prefix).trans initial
    · exact kept.ordered other task old
  | replied position payload responder point answering =>
    rw [sentBy_concat other rfl]
    rcases Update.getElem?_set_cases present with ⟨rfl, rfl⟩ | ⟨different, old⟩
    · have before := kept.ordered other responder point
      rw [answering] at before
      have own : Reply.sentBy other ⟨other, responder.listener, responder.src, payload⟩ =
          some payload := if_pos rfl
      have moved : state.sentBy other ++ [payload] ++ held .receiving =
          state.sentBy other ++ held (.answering payload) := List.append_nil _
      dsimp only
      rw [own, Option.toList_some, moved]
      exact ⟨before.1, fun _ => before.2 nofun⟩
    · have silent : Reply.sentBy other ⟨position, responder.listener, responder.src, payload⟩ =
          none := if_neg (Ne.symm different)
      rw [silent, Option.toList_none, List.append_nil]
      exact kept.ordered other task old

/-- Every step keeps responders replying. -/
theorem replying_step (kept : Replying crypto state)
    (taken : state.step crypto text event = some next) : Replying crypto next where
  received _ member := arrivals_known kept taken member
  addressed _ member := replies_addressed kept taken member
  ordered _ _ present := replies_ordered kept taken present

/-- Smart mode starts without responders. -/
theorem replying_start (crypto : Crypto) (bridges : List BridgeEntry) :
    Replying crypto (.start bridges) where
  received := nofun
  addressed := nofun
  ordered _ _ present := by simp [SmartMode.start] at present

/-! ## Runs -/

/-- In a run a listener opened a tunnel for a datagram that came from a source. -/
def OpenedFor (crypto : Crypto) (text : TextCodec) (bridges : List BridgeEntry)
    (events : List ModeEvent) (index : Nat) (src : SocketAddr) (tunnel : OpenedTunnel) : Prop :=
  ∃ past clientSk connectionId state listener arrived origDest syn,
    past ++ [.smart (.opened index clientSk connectionId)] <+: events ∧
    run (SmartMode.step crypto text) (.start bridges) past = some state ∧
    state.smart.listeners[index]? = some listener ∧
    listener.stage = .opening arrived origDest ∧ arrived.datagram.src = src ∧
    listener.bridge.openTunnel crypto text origDest clientSk connectionId = .ok (tunnel, syn)

/-- A responder is spawned where a tunnel is opened. -/
theorem spawned_opens {smart : SmartState} {own : SmartEvent} {responder : SmartResponder}
    (added : smart.spawned crypto text own = [responder]) :
    ∃ clientSk connectionId listener arrived origDest syn,
      own = .opened responder.listener clientSk connectionId ∧
      smart.listeners[responder.listener]? = some listener ∧
      listener.stage = .opening arrived origDest ∧ arrived.datagram.src = responder.src ∧
      listener.bridge.openTunnel crypto text origDest clientSk connectionId =
        .ok (responder.tunnel, syn) := by
  unfold SmartState.spawned at added
  split at added
  · rename_i index clientSk connectionId
    split at added
    · rename_i listener present
      split at added
      · rename_i arrived origDest opening
        split at added
        · rename_i tunnel syn opens
          obtain rfl := (List.cons.inj added).1
          exact ⟨clientSk, connectionId, listener, arrived, origDest, syn, rfl, present, opening,
            rfl, opens⟩
        · contradiction
      · contradiction
    · contradiction
  · contradiction

/-- A run has led to a state, and every responder there answers the source of the datagram for which
its tunnel was opened. -/
structure Traced (crypto : Crypto) (text : TextCodec) (bridges : List BridgeEntry)
    (events : List ModeEvent) (state : SmartMode) : Prop where
  /-- The run. -/
  reached : run (SmartMode.step crypto text) (.start bridges) events = some state
  /-- Each responder. -/
  opened : ∀ (position : Nat) (responder : SmartResponder),
    state.responders[position]? = some responder →
    OpenedFor crypto text bridges events responder.listener responder.src responder.tunnel

/-- Every step keeps it. -/
theorem traced_step {bridges : List BridgeEntry} {past : List ModeEvent}
    (kept : Traced crypto text bridges past state)
    (taken : state.step crypto text event = some next) :
    Traced crypto text bridges (past ++ [event]) next where
  reached := by
    rw [run_concat, kept.reached]
    exact taken
  opened position responder present := by
    rcases responder_before taken present with ⟨before, found, same⟩ | ⟨own, rfl, -, added⟩
    · rw [same.listener, same.src, same.tunnel]
      obtain ⟨old, clientSk, connectionId, middle, listener, arrived, origDest, syn, early, rest⟩ :=
        kept.opened position before found
      exact ⟨old, clientSk, connectionId, middle, listener, arrived, origDest, syn,
        early.trans (List.prefix_append _ _), rest⟩
    · obtain ⟨clientSk, connectionId, listener, arrived, origDest, syn, rfl, rest⟩ :=
        spawned_opens added
      exact ⟨past, clientSk, connectionId, state, listener, arrived, origDest, syn,
        List.prefix_rfl, kept.reached, rest⟩

/-- In every run each port that has a session at a listener has exactly one responder there, with
the session's tunnel, and it answers the source of the datagram for which that tunnel was opened.
All replies to the port from that listener are this responder's and go there. They are the payloads
that opened under the tunnel, in the order of their arrival, but for one it may hold; once it has
returned they are a prefix. -/
theorem port_replies {bridges : List BridgeEntry} {events : List ModeEvent} {final : SmartMode}
    (reached : run (SmartMode.step crypto text) (.start bridges) events = some final) :
    (∀ reply ∈ final.replies, ∃ session,
      sessionAt final.smart.listeners reply.listener reply.dst.port = some session) ∧
    ∀ index port session, sessionAt final.smart.listeners index port = some session →
      ∃ (position : Nat) (responder : SmartResponder),
        final.responders[position]? = some responder ∧ responder.listener = index ∧
        responder.src.port = port ∧ responder.tunnel = session.sender.tunnel ∧
        (∀ (other : Nat) (task : SmartResponder), final.responders[other]? = some task →
          task.listener = index → task.src.port = port → other = position) ∧
        OpenedFor crypto text bridges events index responder.src session.sender.tunnel ∧
        (∀ reply ∈ final.replies, reply.listener = index → reply.dst.port = port →
          reply.responder = position ∧ reply.dst = responder.src) ∧
        final.sentBy position ++ held responder.stage <+:
          final.heardBy crypto responder.tunnel position ∧
        (responder.stage ≠ .returned → final.sentBy position ++ held responder.stage =
          final.heardBy crypto responder.tunnel position) := by
  have manned : Manned final :=
    run_invariant_always (fun _ _ _ kept taken => manned_step kept taken) (manned_start bridges)
      reached
  have replying : Replying crypto final :=
    run_invariant_always (fun _ _ _ kept taken => replying_step kept taken)
      (replying_start crypto bridges) reached
  have traced : Traced crypto text bridges events final :=
    run_history_invariant (fun _ _ _ _ kept taken => traced_step kept taken)
      ⟨rfl, fun _ _ present => by simp [SmartMode.start] at present⟩ reached
  constructor
  · intro reply member
    obtain ⟨responder, present, listener, dst⟩ := replying.addressed reply member
    obtain ⟨session, found, _⟩ := manned.filed reply.responder responder present
    rw [listener, dst]
    exact ⟨session, found⟩
  · intro index port session filed
    obtain ⟨position, responder, present, rfl, rfl⟩ := manned.served index port session filed
    obtain ⟨own, found, tunnel⟩ := manned.filed position responder present
    obtain rfl := Option.some.inj (filed.symm.trans found)
    obtain ⟨initial, whole⟩ := replying.ordered position responder present
    have opened := traced.opened position responder present
    refine ⟨position, responder, present, rfl, rfl, tunnel.symm, ?_, tunnel ▸ opened, ?_, initial,
      whole⟩
    · intro other task there listener port
      exact manned.unique other position task responder there present listener port
    · intro reply member listener dst
      obtain ⟨sender, there, source, target⟩ := replying.addressed reply member
      obtain rfl : reply.responder = position :=
        manned.unique _ _ sender responder there present (source.symm.trans listener)
          (by rw [← target, dst])
      obtain rfl := Option.some.inj (there.symm.trans present)
      exact ⟨rfl, target⟩

/-- A session that a port had at a listener is still there. -/
structure Kept (index : Nat) (port : UInt16) (session : UdpSession) (state : SmartMode) : Prop where
  /-- What a listener holds has no session. -/
  manned : Manned state
  /-- Its tunnel and its destination are the same. -/
  found : ∃ last, sessionAt state.smart.listeners index port = some last ∧
    last.sender.tunnel = session.sender.tunnel ∧ last.connect = session.connect

/-- Every step keeps it there. -/
theorem kept_step {index : Nat} {port : UInt16} {session : UdpSession}
    (kept : Kept index port session state) (taken : state.step crypto text event = some next) :
    Kept index port session next := by
  refine ⟨manned_step kept.manned taken, ?_⟩
  obtain ⟨last, found, tunnel, connect⟩ := kept.found
  by_cases own : ∃ own, event = .smart own
  · obtain ⟨own, rfl⟩ := own
    obtain ⟨smart, took, rfl⟩ := Option.map_eq_some_iff.mp taken
    obtain ⟨later, stays, sameTunnel, sameConnect⟩ := sessionAt_kept kept.manned.unfiled took found
    exact ⟨later, stays, sameTunnel.trans tunnel, sameConnect.trans connect⟩
  · rw [smart_kept taken fun event same => own ⟨event, same⟩]
    exact ⟨last, found, tunnel, connect⟩

/-- The replies to a port from a listener. -/
def SmartMode.repliesTo (state : SmartMode) (index : Nat) (port : UInt16) : List Reply :=
  state.replies.filter fun reply => decide (reply.listener = index ∧ reply.dst.port = port)

/-- A port whose responder has ended, when it had sent certain replies. -/
structure Silent (index : Nat) (port : UInt16) (replies : List Reply) (state : SmartMode) :
    Prop where
  /-- Its responder is the only one. -/
  manned : Manned state
  /-- It has returned. -/
  ended : ∃ (position : Nat) (responder : SmartResponder),
    state.responders[position]? = some responder ∧ responder.listener = index ∧
      responder.src.port = port ∧ responder.stage = .returned
  /-- It has sent nothing more. -/
  replies : state.repliesTo index port = replies

/-- A port whose responder has returned gets no further reply. -/
theorem silent_step {index : Nat} {port : UInt16} {replies : List Reply}
    (kept : Silent index port replies state)
    (taken : state.step crypto text event = some next) : Silent index port replies next where
  manned := manned_step kept.manned taken
  ended := by
    obtain ⟨position, responder, present, rfl, rfl, ended⟩ := kept.ended
    obtain ⟨after, found, same, stays⟩ := responder_after taken present
    exact ⟨position, after, found, same.listener, by rw [same.src], stays ended⟩
  replies := by
    obtain ⟨position, responder, present, listener, ported, ended⟩ := kept.ended
    rw [← kept.replies]
    cases mode_step taken with
    | replied other payload sender point answering =>
      have foreign : ¬ (sender.listener = index ∧ sender.src.port = port) := by
        rintro ⟨sameListener, samePort⟩
        obtain rfl := kept.manned.unique other position sender responder point present
          (sameListener.trans listener.symm) (samePort.trans ported.symm)
        obtain rfl := Option.some.inj (point.symm.trans present)
        rw [ended] at answering
        contradiction
      simp [SmartMode.repliesTo, foreign]
    | _ => rfl

/-- A session, once filed, is there for good: however the run goes on, the port keeps its tunnel and
its destination at the listener. So when the responder has returned, after a failed `recv` or a
failed `send_to`, the port gets no reply from this listener any more. -/
theorem session_for_good {bridges : List BridgeEntry} {past events : List ModeEvent}
    {final : SmartMode} {index : Nat} {port : UInt16} {session : UdpSession}
    (reached : run (SmartMode.step crypto text) (.start bridges) past = some state)
    (filed : sessionAt state.smart.listeners index port = some session)
    (continued : run (SmartMode.step crypto text) state events = some final) :
    (∃ last, sessionAt final.smart.listeners index port = some last ∧
      last.sender.tunnel = session.sender.tunnel ∧ last.connect = session.connect) ∧
    ((∃ (position : Nat) (responder : SmartResponder),
        state.responders[position]? = some responder ∧ responder.listener = index ∧
          responder.src.port = port ∧ responder.stage = .returned) →
      final.repliesTo index port = state.repliesTo index port) := by
  have manned : Manned state :=
    run_invariant_always (fun _ _ _ kept taken => manned_step kept taken) (manned_start bridges)
      reached
  constructor
  · have kept : Kept index port session final :=
      run_invariant_always (fun _ _ _ kept taken => kept_step kept taken)
        ⟨manned, session, filed, rfl, rfl⟩ continued
    exact kept.found
  · intro ended
    have silent : Silent index port (state.repliesTo index port) final :=
      run_invariant_always (fun _ _ _ kept taken => silent_step kept taken) ⟨manned, ended, rfl⟩
        continued
    exact silent.replies

end

/-! ## A sample run -/

/-- The game sends from one port, gets an answer, and then the responder's socket fails. -/
def answeredPort : List ModeEvent :=
  (sampleCapture 40000 9000 1 :: openingTurn 5).map .smart ++
    [.bridgeFrame 0 (Tunnel.firstReply [1, 2, 3]), .answer 0 true, .bridgeError 0]

/-- The game sends once more from the same port. -/
def askedAgain : List ModeEvent := [.smart (sampleCapture 40000 9000 2), .smart (.receive 0 0)]

/-- The responder has returned, and the port still has its session. -/
theorem answeredPort_runs :
    ((run (SmartMode.step checksumCrypto standardText) (.start [sampleBridge]) answeredPort).bind
      fun state => (sessionAt state.smart.listeners 0 40000).bind fun _ =>
        state.responders[0]?.bind fun responder =>
          (run (SmartMode.step checksumCrypto standardText) state askedAgain).map fun final =>
            decide (responder.listener = 0 ∧ responder.src.port = 40000 ∧
              responder.stage = .returned ∧ state.replies.length = 1 ∧
              final.smart.forwarded.length = 2)) = some true := by
  simp only [answeredPort, Tunnel.firstReply, Tunnel.sampleTunnel_eq]
  decide +kernel

/-- What the port got is what opened under its tunnel. -/
theorem answeredPort_replies : ∃ final session,
    run (SmartMode.step checksumCrypto standardText) (.start [sampleBridge]) answeredPort =
      some final ∧
    sessionAt final.smart.listeners 0 40000 = some session ∧ final.replies.length = 1 ∧
    ∃ (position : Nat) (responder : SmartResponder),
      final.responders[position]? = some responder ∧
      OpenedFor checksumCrypto standardText [sampleBridge] answeredPort 0 responder.src
        session.sender.tunnel ∧
      (∀ reply ∈ final.replies, reply.listener = 0 → reply.dst.port = 40000 →
        reply.responder = position ∧ reply.dst = responder.src) ∧
      final.sentBy position ++ held responder.stage <+:
        final.heardBy checksumCrypto session.sender.tunnel position := by
  obtain ⟨final, reached, sample⟩ := Option.bind_eq_some_iff.mp answeredPort_runs
  obtain ⟨session, filed, sample⟩ := Option.bind_eq_some_iff.mp sample
  obtain ⟨_, _, sample⟩ := Option.bind_eq_some_iff.mp sample
  obtain ⟨_, _, verdict⟩ := Option.map_eq_some_iff.mp sample
  obtain ⟨_, _, _, once, _⟩ := of_decide_eq_true verdict
  obtain ⟨position, responder, present, _, _, tunnel, _, opened, replies, initial, _⟩ :=
    (port_replies reached).2 0 40000 session filed
  exact ⟨final, session, reached, filed, once, position, responder, present, opened, replies,
    tunnel ▸ initial⟩

/-- The game goes on sending through the session, and gets no further reply. -/
theorem askedAgain_unanswered : ∃ state final,
    run (SmartMode.step checksumCrypto standardText) (.start [sampleBridge]) answeredPort =
      some state ∧
    run (SmartMode.step checksumCrypto standardText) state askedAgain = some final ∧
    final.smart.forwarded.length = 2 ∧ final.repliesTo 0 40000 = state.repliesTo 0 40000 := by
  obtain ⟨state, reached, sample⟩ := Option.bind_eq_some_iff.mp answeredPort_runs
  obtain ⟨session, filed, sample⟩ := Option.bind_eq_some_iff.mp sample
  obtain ⟨responder, present, sample⟩ := Option.bind_eq_some_iff.mp sample
  obtain ⟨final, continued, verdict⟩ := Option.map_eq_some_iff.mp sample
  obtain ⟨listener, port, ended, _, twice⟩ := of_decide_eq_true verdict
  exact ⟨state, final, reached, continued, twice,
    (session_for_good reached filed continued).2 ⟨0, responder, present, listener, port, ended⟩⟩

end LowPing.Client
