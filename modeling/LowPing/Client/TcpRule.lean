import LowPing.Client.Tunnel

/-!
# TCP rules

`run_tcp_rule` and `handle_tcp_local` of the forwarder: every accepted local connection opens a
tunnel of its own, reads the local socket in one loop and writes what the bridge sends in another
task. Only the end of the local stream aborts that task; an error on the way to the bridge returns
before it. An abort is a signal: a task that waits is stopped by it, but one that a worker thread is
running goes on until it next waits, and nothing awaits that.
-/

namespace LowPing.Client

/-- Where `recv_task` is. -/
inductive ReceiveStage where
  /-- Awaiting a frame of the bridge. -/
  | receiving
  /-- Writing a payload to the local socket, these bytes left. -/
  | writing (rest : Bytes)
  /-- Ended by an error. -/
  | returned
  /-- Aborted by the read loop. -/
  | aborted
  deriving DecidableEq

/-- Where `handle_tcp_local` itself is. -/
inductive HandlerStage where
  /-- In the read loop. -/
  | reading
  /-- Past `recv_task.abort()`, about to return. -/
  | leaving
  /-- Returned. -/
  | returned
  deriving DecidableEq

/-- One `handle_tcp_local` whose tunnel is open. -/
structure TcpConnection where
  /-- The tunnel and the counter of the read loop. -/
  sender : Sender
  /-- Where the function is. -/
  handler : HandlerStage
  /-- The receive task. -/
  receiver : ReceiveStage
  /-- Whether the receive task was running when it was aborted and has not waited since. -/
  signalled : Bool
  /-- History: what the local socket has taken. -/
  written : Bytes
  deriving DecidableEq

/-- Whether the read loop still runs. -/
def TcpConnection.reading (connection : TcpConnection) : Bool :=
  decide (connection.handler = .reading)

/-- A connection whose tunnel has just been opened. -/
def OpenedTunnel.connection (tunnel : OpenedTunnel) : TcpConnection :=
  ⟨tunnel.sender, .reading, .receiving, false, []⟩

/-- One step of the two loops of a connection. -/
inductive ConnectionEvent where
  /-- The read loop reads a chunk, seals it and calls `send`. -/
  | read (chunk : Bytes) (success : Bool)
  /-- The local socket is at its end or fails, and the receive task, which a worker thread may be
  running at this moment, is aborted. -/
  | readEnd (running : Bool)
  /-- The receive task, aborted while it ran, would wait. -/
  | yielded
  /-- `handle_tcp_local` returns after the abort. -/
  | finish
  /-- The receive task receives a datagram from the bridge. -/
  | bridgeFrame (wire : Bytes)
  /-- Its `recv` fails. -/
  | bridgeError
  /-- The local socket takes some of the remaining bytes. -/
  | writeSome (count : Nat)
  /-- `write_all` returns. -/
  | writeDone
  /-- `write_all` fails. -/
  | writeFailed

/-- The end of a receive task that was aborted: one that has returned by itself stays so. -/
def ReceiveStage.abort : ReceiveStage → ReceiveStage
  | .returned => .returned
  | _ => .aborted

/-- Whether the receive task still runs. -/
def ReceiveStage.live : ReceiveStage → Bool
  | .receiving | .writing _ => true
  | .returned | .aborted => false

/-- A turn of the read loop; a chunk that cannot be sealed or sent ends it at once. -/
def TcpConnection.read (crypto : Crypto) (connection : TcpConnection) (chunk : Bytes)
    (success : Bool) : Option TcpConnection :=
  if connection.reading = true ∧ chunk ≠ [] ∧ chunk.length ≤ maxPayloadLen then
    let sent := connection.sender.encryptUpstream crypto chunk
    match sent.2 with
    | .error _ => some { connection with sender := sent.1, handler := .returned }
    | .ok _ => some { connection with
        sender := sent.1
        handler := if success then .reading else .returned }
  else none

/-- The local stream ends: `abort` stops a waiting receive task and only signals a running one. -/
def TcpConnection.readEnd (connection : TcpConnection) (running : Bool) : Option TcpConnection :=
  if connection.reading then
    if running then
      if connection.receiver.live then
        some { connection with handler := .leaving, signalled := true }
      else none
    else some { connection with handler := .leaving, receiver := connection.receiver.abort }
  else none

/-- The receive task opens a datagram of the bridge; what does not open is dropped. -/
def TcpConnection.bridgeFrame (crypto : Crypto) (connection : TcpConnection) (wire : Bytes) :
    Option TcpConnection :=
  match connection.receiver with
  | .receiving =>
    match connection.sender.tunnel.receive crypto wire with
    | none => some connection
    | some payload => some { connection with receiver := .writing payload }
  | _ => none

/-- One step of a connection. -/
def TcpConnection.step (crypto : Crypto) (connection : TcpConnection) :
    ConnectionEvent → Option TcpConnection
  | .read chunk success => connection.read crypto chunk success
  | .readEnd running => connection.readEnd running
  | .yielded =>
    if connection.signalled then
      some { connection with receiver := connection.receiver.abort, signalled := false }
    else none
  | .finish =>
    match connection.handler with
    | .leaving => some { connection with handler := .returned }
    | _ => none
  | .bridgeFrame wire => connection.bridgeFrame crypto wire
  | .bridgeError =>
    match connection.receiver with
    | .receiving => some { connection with receiver := .returned }
    | _ => none
  | .writeSome count =>
    match connection.receiver with
    | .writing rest =>
      if 0 < count ∧ count ≤ rest.length then some { connection with
        receiver := .writing (rest.drop count)
        written := connection.written ++ rest.take count }
      else none
    | _ => none
  | .writeDone =>
    match connection.receiver with
    | .writing [] => some { connection with receiver := .receiving }
    | _ => none
  | .writeFailed =>
    match connection.receiver with
    | .writing _ => some { connection with receiver := .returned }
    | _ => none

/-- One step of a rule's connections. -/
inductive TcpRuleEvent where
  /-- A local connection is accepted and `open_tunnel` returns its tunnel. -/
  | opened (clientSk : StaticSecret) (connectionId : UInt32)
  /-- One of the connections steps. -/
  | connection (position : Nat) (event : ConnectionEvent)

/-- One step of `run_tcp_rule` on the connections it has spawned. -/
def Rule.tcpStep (crypto : Crypto) (text : TextCodec) (rule : Rule)
    (connections : List TcpConnection) : TcpRuleEvent → Option (List TcpConnection)
  | .opened clientSk connectionId =>
    match rule.openTunnel crypto text .tcp clientSk connectionId with
    | .error _ => none
    | .ok (tunnel, _) => some (connections ++ [tunnel.connection])
  | .connection position event =>
    match connections[position]? with
    | none => none
    | some connection => (connection.step crypto event).map (connections.set position)

variable {crypto : Crypto} {connection next : TcpConnection} {event : ConnectionEvent}

/-- What the local socket has taken and what is being written to it. -/
def TcpConnection.consumed (connection : TcpConnection) : Bytes :=
  match connection.receiver with
  | .writing rest => connection.written ++ rest
  | _ => connection.written

/-- The local socket has taken a prefix of what was consumed. -/
theorem TcpConnection.written_prefix (connection : TcpConnection) :
    connection.written <+: connection.consumed := by
  unfold TcpConnection.consumed
  split
  · exact List.prefix_append _ _
  · exact List.prefix_rfl

/-- What an event does to a connection. -/
inductive ConnectionAfter (crypto : Crypto) (connection : TcpConnection) :
    ConnectionEvent → TcpConnection → Prop where
  /-- A chunk cannot be sealed. -/
  | refused (chunk : Bytes) (success : Bool) (failure : ProtocolError)
      (reading : connection.reading = true)
      (refused : (connection.sender.encryptUpstream crypto chunk).2 = .error failure) :
      ConnectionAfter crypto connection (.read chunk success) { connection with
        sender := (connection.sender.encryptUpstream crypto chunk).1, handler := .returned }
  /-- A chunk is sealed, and sent or not. -/
  | sealed (chunk wire : Bytes) (success : Bool) (reading : connection.reading = true)
      (sealed : (connection.sender.encryptUpstream crypto chunk).2 = .ok wire) :
      ConnectionAfter crypto connection (.read chunk success) { connection with
        sender := (connection.sender.encryptUpstream crypto chunk).1
        handler := if success then .reading else .returned }
  /-- The local stream ends while the receive task runs. -/
  | signalled (reading : connection.reading = true) (live : connection.receiver.live = true) :
      ConnectionAfter crypto connection (.readEnd true)
        { connection with handler := .leaving, signalled := true }
  /-- It ends while the receive task waits or has returned. -/
  | ended (reading : connection.reading = true) :
      ConnectionAfter crypto connection (.readEnd false)
        { connection with handler := .leaving, receiver := connection.receiver.abort }
  /-- A receive task that was aborted while it ran stops. -/
  | yielded (signalled : connection.signalled = true) :
      ConnectionAfter crypto connection .yielded
        { connection with receiver := connection.receiver.abort, signalled := false }
  /-- The function returns after the abort. -/
  | finished (leaving : connection.handler = .leaving) :
      ConnectionAfter crypto connection .finish { connection with handler := .returned }
  /-- A datagram does not open. -/
  | dropped (wire : Bytes) (point : connection.receiver = .receiving) :
      ConnectionAfter crypto connection (.bridgeFrame wire) connection
  /-- A datagram opens. -/
  | received (wire payload : Bytes) (point : connection.receiver = .receiving)
      (opens : connection.sender.tunnel.receive crypto wire = some payload) :
      ConnectionAfter crypto connection (.bridgeFrame wire)
        { connection with receiver := .writing payload }
  /-- The receive task fails. -/
  | failed (event : ConnectionEvent) (fails : event = .bridgeError ∨ event = .writeFailed)
      (live : connection.receiver.live = true) :
      ConnectionAfter crypto connection event { connection with receiver := .returned }
  /-- The local socket takes some bytes. -/
  | wrote (count : Nat) (rest : Bytes) (point : connection.receiver = .writing rest) :
      ConnectionAfter crypto connection (.writeSome count) { connection with
        receiver := .writing (rest.drop count)
        written := connection.written ++ rest.take count }
  /-- It has taken them all. -/
  | written (point : connection.receiver = .writing []) :
      ConnectionAfter crypto connection .writeDone { connection with receiver := .receiving }

/-- Every step of a connection is one of these. -/
theorem connection_step (taken : connection.step crypto event = some next) :
    ConnectionAfter crypto connection event next := by
  cases event with
  | read chunk success =>
    simp only [TcpConnection.step, TcpConnection.read] at taken
    split at taken
    · rename_i guards
      split at taken
      · rename_i failure refused
        obtain rfl := Option.some.inj taken
        exact .refused chunk success failure guards.1 refused
      · rename_i wire sealed
        obtain rfl := Option.some.inj taken
        exact .sealed chunk wire success guards.1 sealed
    · contradiction
  | readEnd running =>
    simp only [TcpConnection.step, TcpConnection.readEnd] at taken
    split at taken
    · rename_i reading
      cases running with
      | true =>
        rw [if_pos rfl] at taken
        split at taken
        · rename_i live
          obtain rfl := Option.some.inj taken
          exact .signalled reading live
        · contradiction
      | false =>
        obtain rfl := Option.some.inj taken
        exact .ended reading
    · contradiction
  | yielded =>
    simp only [TcpConnection.step] at taken
    split at taken
    · rename_i signalled
      obtain rfl := Option.some.inj taken
      exact .yielded signalled
    · contradiction
  | finish =>
    simp only [TcpConnection.step] at taken
    split at taken
    · rename_i leaving
      obtain rfl := Option.some.inj taken
      exact .finished leaving
    · contradiction
  | bridgeFrame wire =>
    simp only [TcpConnection.step, TcpConnection.bridgeFrame] at taken
    split at taken
    · rename_i point
      split at taken
      · obtain rfl := Option.some.inj taken
        exact .dropped wire point
      · rename_i payload opens
        obtain rfl := Option.some.inj taken
        exact .received wire payload point opens
    · contradiction
  | bridgeError =>
    simp only [TcpConnection.step] at taken
    split at taken
    · rename_i point
      obtain rfl := Option.some.inj taken
      exact .failed _ (.inl rfl) (by rw [point]; rfl)
    · contradiction
  | writeSome count =>
    simp only [TcpConnection.step] at taken
    split at taken
    · rename_i rest point
      split at taken
      · obtain rfl := Option.some.inj taken
        exact .wrote count rest point
      · contradiction
    · contradiction
  | writeDone =>
    simp only [TcpConnection.step] at taken
    split at taken
    · rename_i point
      obtain rfl := Option.some.inj taken
      exact .written point
    · contradiction
  | writeFailed =>
    simp only [TcpConnection.step] at taken
    split at taken
    · rename_i point
      obtain rfl := Option.some.inj taken
      exact .failed _ (.inr rfl) (by rw [point]; rfl)
    · contradiction

/-- A connection keeps its tunnel, and a read loop that has ended stays so. -/
theorem TcpConnection.step_sender (taken : connection.step crypto event = some next) :
    next.sender.tunnel = connection.sender.tunnel ∧
      (next.reading = true → connection.reading = true) := by
  cases connection_step taken with
  | refused chunk success failure reading => exact ⟨rfl, fun _ => reading⟩
  | sealed chunk wire success reading => exact ⟨rfl, fun _ => reading⟩
  | signalled reading => exact ⟨rfl, fun _ => reading⟩
  | ended reading => exact ⟨rfl, fun _ => reading⟩
  | finished leaving => exact ⟨rfl, nofun⟩
  | _ => exact ⟨rfl, id⟩

/-- An aborted receive task does not run. -/
theorem ReceiveStage.live_abort (stage : ReceiveStage) : stage.abort.live = false := by
  cases stage <;> rfl

/-- Nothing more is consumed than before once the receive task is stopped. -/
theorem TcpConnection.consumed_abort (connection : TcpConnection) (handler : HandlerStage)
    (signalled : Bool) : TcpConnection.consumed { connection with
      handler, signalled, receiver := connection.receiver.abort } <+: connection.consumed := by
  have rest : TcpConnection.consumed { connection with
      handler, signalled, receiver := connection.receiver.abort } = connection.written := by
    unfold TcpConnection.consumed
    cases connection.receiver <;> rfl
  rw [rest]
  exact connection.written_prefix

/-- Only a frame of the bridge adds to what is consumed, and nothing is lost while the task runs. -/
theorem TcpConnection.step_consumed (taken : connection.step crypto event = some next)
    (other : ∀ wire, event ≠ .bridgeFrame wire) : next.consumed <+: connection.consumed ∧
      (next.receiver.live = true →
        connection.receiver.live = true ∧ next.consumed = connection.consumed) := by
  have stopped : connection.receiver.abort.live = true →
      connection.receiver.live = true ∧ next.consumed = connection.consumed := by
    rw [ReceiveStage.live_abort]
    exact nofun
  cases connection_step taken with
  | refused => exact ⟨List.prefix_rfl, fun live => ⟨live, rfl⟩⟩
  | sealed => exact ⟨List.prefix_rfl, fun live => ⟨live, rfl⟩⟩
  | signalled => exact ⟨List.prefix_rfl, fun live => ⟨live, rfl⟩⟩
  | ended reading => exact ⟨connection.consumed_abort .leaving connection.signalled, stopped⟩
  | yielded signalled => exact ⟨connection.consumed_abort connection.handler false, stopped⟩
  | finished => exact ⟨List.prefix_rfl, fun live => ⟨live, rfl⟩⟩
  | dropped wire => exact absurd rfl (other wire)
  | received wire => exact absurd rfl (other wire)
  | failed => exact ⟨connection.written_prefix, nofun⟩
  | wrote count rest point =>
    have same : connection.written ++ rest.take count ++ rest.drop count =
        connection.consumed := by
      rw [List.append_assoc, List.take_append_drop, TcpConnection.consumed, point]
    exact ⟨same ▸ List.prefix_rfl, fun _ => ⟨by rw [point]; rfl, same⟩⟩
  | written point =>
    have same : connection.written = connection.consumed := by
      simp only [TcpConnection.consumed, point, List.append_nil]
    exact ⟨connection.written_prefix, fun _ => ⟨by rw [point]; rfl, same⟩⟩

end LowPing.Client
