import Mathlib.Algebra.Group.Int.Defs
import Mathlib.Data.List.AList
import LowPing.Protocol.Syn

/-!
# Bridge state

The data `gr-bridge` works on: its configuration, the session table, the sessions behind it, the
tasks it spawns and the channel between them. A session lives behind an `Arc<Mutex<_>>`, so the
table maps a key to the position of a cell in an append-only list; a task that cloned the `Arc`
keeps the position after the table forgets it. Every task is represented by the point at which it
last yielded. The `trace` is a history of what was accepted, written, delivered, read, encrypted,
sent and reaped; no bridge function reads it.
-/

namespace LowPing.Bridge

/-- A reading of the monotonic clock, in nanoseconds. -/
abbrev Instant := Int

/-- Nanoseconds in a second. -/
def nanosPerSec : Int := 1000000000

/-- `Instant - Duration` for whole seconds. A Linux instant counts seconds in an `i64`; the
subtraction panics below that range. -/
def instantSub (now : Instant) (secs : UInt64) : Option Instant :=
  let earlier := now - secs.toNat * nanosPerSec
  if earlier < -(2 ^ 63) * nanosPerSec then none else some earlier

/-- Position of a session cell among all sessions ever created. -/
abbrev SessionId := Nat
/-- Position of a destination socket among all sockets ever opened. -/
abbrev SocketId := Nat

/-- The fields of `BridgeConfig` that the server loop reads. -/
structure BridgeConfig where
  /-- Accept tokens without scope bit 0. -/
  allowAnyScope : Bool
  /-- Maximum simultaneous active sessions. Refuse new SYNs above this. -/
  maxSessions : Nat
  /-- Drop sessions with no traffic for this long. -/
  idleTimeoutSecs : UInt64

/-- What every task of one bridge process shares and never changes. -/
structure BridgeEnv where
  /-- The primitives. -/
  crypto : Crypto
  /-- Loaded at start. -/
  config : BridgeConfig
  /-- Long-term X25519 secret. -/
  bridgeSecret : StaticSecret
  /-- Verifies licence tokens. -/
  backendPubkey : VerifyingKey

/-- The error a `handle_packet` task can end with. -/
inductive BridgeError where
  /-- A frame could not be parsed or opened. -/
  | protocol (error : ProtocolError)
  /-- `license verify`, or a token of the wrong length. -/
  | license (error : LicenseError)
  /-- `bad proto version: {}` -/
  | badVersion (version : UInt8)
  /-- `session table full` -/
  | tableFull
  /-- `SYN payload too short for token + connect` -/
  | shortPayload
  /-- `license missing required scope bit 0` -/
  | missingScope
  /-- `no session for {:?}` -/
  | noSession
  /-- The destination could not be opened in time. -/
  | connect
  /-- `tcp write` or `udp send` failed. -/
  | write
  deriving DecidableEq

/-- One client socket address and connection id. -/
structure SessionKey where
  /-- Source of the client's datagrams. -/
  clientAddr : SocketAddr
  /-- Chosen by the client. -/
  connectionId : UInt32
  deriving DecidableEq

/-- Write side of a destination socket. -/
inductive DestWriter where
  | tcp (socket : SocketId)
  | udp (socket : SocketId)
  deriving DecidableEq

/-- Read side of a destination socket, owned by the drain task. -/
inductive DestReader where
  | tcp (socket : SocketId)
  | udp (socket : SocketId)
  deriving DecidableEq

/-- The socket a writer writes to. -/
def DestWriter.socket : DestWriter → SocketId
  | .tcp socket => socket
  | .udp socket => socket

/-- Per-tunnel session state. -/
structure Session where
  /-- One key for both directions. -/
  aeadKey : AeadKey
  /-- Counter for outgoing (bridge → client) frames. -/
  txSequence : UInt64
  /-- Stamped by `forward_data`. -/
  lastActive : Instant
  /-- Where user bytes go. -/
  destWriter : DestWriter
  deriving DecidableEq

/-- `Session::new` at a clock reading. -/
def Session.new (aeadKey : AeadKey) (destWriter : DestWriter) (now : Instant) : Session where
  aeadKey
  txSequence := 0
  lastActive := now
  destWriter

/-- `Arc<tokio::sync::Mutex<Session>>`. -/
structure SessionCell where
  /-- The protected value. -/
  session : Session
  /-- Whether a task holds the mutex across an await. -/
  locked : Bool
  deriving DecidableEq

/-- The `RwLock<HashMap<..>>` of live sessions. -/
abbrev SessionTable := AList fun _ : SessionKey => SessionId

/-- Where a spawned `handle_packet` task last yielded. -/
inductive PacketTask where
  /-- Spawned and not yet polled. -/
  | spawned (peer : SocketAddr) (pkt : Bytes)
  /-- Awaiting `open_dest` for an admitted SYN. -/
  | connecting (key : SessionKey) (aeadKey : AeadKey) (connect : ConnectRequest)
  /-- Holding a new session, waiting for the table's write lock. -/
  | inserting (key : SessionKey) (session : Session)
  /-- Holding the session's `Arc`, waiting for its mutex. -/
  | locking (key : SessionKey) (session : SessionId) (pkt : Bytes)
  /-- Holding the mutex, awaiting the destination write of the remaining bytes. -/
  | writing (key : SessionKey) (session : SessionId) (header : Header) (rest : Bytes)
  /-- Finished, with the error it logs. -/
  | returned (error : Option BridgeError)
  deriving DecidableEq

/-- A `drain_dest` task. Only its key is used to route what it reads; the session whose accept
spawned it is recorded as history. -/
structure DrainTask where
  /-- Key given at spawn. -/
  key : SessionKey
  /-- History: the session it was spawned for. -/
  session : SessionId
  /-- Owned read half. -/
  reader : DestReader
  /-- Cleared when the loop returns. -/
  active : Bool
  deriving DecidableEq

/-- `DownstreamPacket`. -/
structure DownstreamPacket where
  /-- Routes the payload back to a session. -/
  sessionKey : SessionKey
  /-- At most one frame. -/
  payload : Bytes
  deriving DecidableEq

/-- A packet in the channel, with the session whose drain task read it as history. -/
structure Queued where
  /-- What the channel carries. -/
  packet : DownstreamPacket
  /-- History: the session whose destination produced the payload. -/
  origin : SessionId
  deriving DecidableEq

/-- Where `downstream_sender` last yielded. -/
inductive SenderTask where
  /-- Awaiting the channel. -/
  | receiving
  /-- About to look its packet's session up. -/
  | looking (queued : Queued)
  /-- Holding the `Arc`, waiting for the mutex or counting and encrypting under it. -/
  | locking (queued : Queued) (session : SessionId)
  /-- Awaiting `send_to` of an encrypted frame. -/
  | sending (queued : Queued) (session : SessionId) (wire : Bytes)
  deriving DecidableEq

/-- Where `idle_reaper` last yielded. -/
inductive ReaperTask where
  /-- Awaiting the next tick. -/
  | ticking
  /-- Iterating under the read lock: entries left, keys to drop. -/
  | scanning (cutoff : Instant) (left : List (SessionKey × SessionId)) (toDrop : List SessionKey)
  /-- About to take the write lock. -/
  | removing (toDrop : List SessionKey)
  deriving DecidableEq

/-- Whether the reaper holds the table's read lock. -/
def ReaperTask.reading : ReaperTask → Bool
  | .scanning .. => true
  | _ => false

/-- Effects recorded in the trace, in the order they happen. -/
inductive Output where
  /-- `accept_new_session` inserted a session under a key. -/
  | accepted (key : SessionKey) (session : SessionId)
  /-- `forward_data` called the destination write for an opened frame. -/
  | write (key : SessionKey) (session : SessionId) (header : Header) (payload : Bytes)
      (time : Instant)
  /-- The destination socket took bytes. -/
  | delivered (session : SessionId) (socket : SocketId) (bytes : Bytes) (time : Instant)
  /-- `drain_dest` read a payload from a session's destination. -/
  | read (session : SessionId) (payload : Bytes)
  /-- `downstream_sender` encrypted a payload of one session under a session's key. -/
  | encrypted (queued : Queued) (session : SessionId) (header : Header) (time : Instant)
  /-- `downstream_sender` sent a frame to a client. -/
  | sent (queued : Queued) (session : SessionId) (wire : Bytes) (time : Instant)
  /-- `idle_reaper` removed a session. -/
  | reaped (key : SessionKey) (session : SessionId) (time : Instant)
  deriving DecidableEq

/-- Whether an effect is the removal of a session from under a key. -/
def Output.reaps (output : Output) (key : SessionKey) (session : SessionId) : Bool :=
  match output with
  | .reaped held removed _ => decide (held = key ∧ removed = session)
  | _ => false

/-- One bridge process. -/
structure BridgeState where
  /-- Monotonic clock. -/
  clock : Instant
  /-- Live sessions by key. -/
  sessions : SessionTable
  /-- Every session cell ever created. -/
  cells : List SessionCell
  /-- Every destination socket ever opened. -/
  destinations : List ConnectRequest
  /-- Every `handle_packet` task ever spawned, in order of arrival. -/
  tasks : List PacketTask
  /-- Every `drain_dest` task ever spawned. -/
  drains : List DrainTask
  /-- The unbounded downstream channel. -/
  downstream : List Queued
  /-- The one sender task. -/
  sender : SenderTask
  /-- The one reaper task. -/
  reaper : ReaperTask
  /-- History of effects. -/
  trace : List Output

/-- `run` before the first datagram. -/
def BridgeState.start (clock : Instant) : BridgeState where
  clock
  sessions := ∅
  cells := []
  destinations := []
  tasks := []
  drains := []
  downstream := []
  sender := .receiving
  reaper := .ticking
  trace := []

/-- Number of live sessions. -/
def BridgeState.sessionCount (state : BridgeState) : Nat := state.sessions.entries.length

end LowPing.Bridge
