import LowPing.Bridge.Session

/-!
# Bridge server steps

`gr-bridge`'s server as a partial step function. An event names the task that runs and what its
environment answers (a clock reading, a connect result, bytes from a socket). One event runs one
task from where it yielded to its next await or lock acquisition, so a schedule is one interleaving
of the spawned tasks. An event whose task is elsewhere, or whose lock is taken, is refused.
-/

namespace LowPing.Bridge

/-- One scheduling step. Tasks are named by arrival. -/
inductive Event where
  /-- `recv_from` returns a datagram and its task is spawned. -/
  | receive (peer : SocketAddr) (pkt : Bytes)
  /-- First poll of a packet task, at a wall-clock second. -/
  | poll (task : Nat) (nowUnix : Int64)
  /-- `open_dest` succeeds. -/
  | connected (task : Nat)
  /-- `open_dest` fails or times out. -/
  | connectFailed (task : Nat)
  /-- The new session enters the table. -/
  | insert (task : Nat)
  /-- `forward_data` takes the session mutex and opens the frame. -/
  | lock (task : Nat)
  /-- A TCP destination takes some of the remaining bytes. -/
  | writeSome (task : Nat) (count : Nat)
  /-- The destination write completes. -/
  | writeDone (task : Nat)
  /-- The destination write fails. -/
  | writeFailed (task : Nat)
  /-- A destination yields a TCP chunk or a UDP datagram to its drain task. -/
  | drain (task : Nat) (bytes : Bytes)
  /-- A destination is at its end or fails. -/
  | drainEnd (task : Nat)
  /-- `downstream_sender` takes a packet from the channel. -/
  | senderReceive
  /-- `downstream_sender` looks the packet's session up. -/
  | senderLookup
  /-- `downstream_sender` has encrypted under the mutex and lets go of it. -/
  | senderEncrypt
  /-- `send_to` returns. -/
  | senderSend (success : Bool)
  /-- `idle_reaper` wakes up and starts its scan. -/
  | reaperTick
  /-- `idle_reaper` examines one entry; the map's order is arbitrary. -/
  | reaperScan (key : SessionKey)
  /-- It skips one whose mutex `downstream_sender` has. -/
  | reaperSkip (key : SessionKey)
  /-- The scan is over. -/
  | reaperScanned
  /-- `idle_reaper` removes what it listed. -/
  | reaperRemove
  /-- Time passes. -/
  | advance (nanos : Nat)

/-- Move one packet task to a new point. -/
def BridgeState.setTask (state : BridgeState) (task : Nat) (point : PacketTask) : BridgeState :=
  { state with tasks := state.tasks.set task point }

/-- Release a session's mutex. -/
def unlock (cells : List SessionCell) (session : SessionId) : List SessionCell :=
  cells.modify session fun cell => { cell with locked := false }

/-- The checks of `accept_new_session` between the table check and `open_dest`: front, key
agreement, decryption, length, token, scope, connect request. -/
def admitSyn (env : BridgeEnv) (nowUnix : Int64) (pkt : Bytes) :
    Except BridgeError (AeadKey × ConnectRequest) :=
  match parseSynFront pkt with
  | .error failure => .error (.protocol failure)
  | .ok (_, clientPk) =>
    let aeadKey := bridgeDeriveSessionKey env.crypto env.bridgeSecret clientPk
    match decryptSynPayload env.crypto aeadKey pkt with
    | .error failure => .error (.protocol failure)
    | .ok inner =>
      if inner.length < tokenLen + 4 then .error .shortPayload
      else match LicenseToken.fromBytes (inner.take tokenLen) with
        | .error failure => .error (.license failure)
        | .ok token =>
          match token.verify env.crypto env.backendPubkey nowUnix with
          | .error failure => .error (.license failure)
          | .ok () =>
            if env.config.allowAnyScope = false ∧ token.payload.scope &&& 1 = 0 then
              .error .missingScope
            else match ConnectRequest.decode (inner.drop tokenLen) with
              | .error failure => .error (.protocol failure)
              | .ok connect => .ok (aeadKey, connect)

/-- `accept_new_session` up to its first await. -/
def acceptNewSession (env : BridgeEnv) (state : BridgeState) (nowUnix : Int64) (key : SessionKey)
    (pkt : Bytes) : PacketTask :=
  if env.config.maxSessions ≤ state.sessionCount then .returned (some .tableFull)
  else match admitSyn env nowUnix pkt with
    | .error failure => .returned (some failure)
    | .ok (aeadKey, connect) => .connecting key aeadKey connect

/-- `forward_data` up to the session mutex. -/
def forwardData (state : BridgeState) (key : SessionKey) (pkt : Bytes) : PacketTask :=
  match state.sessions.lookup key with
  | none => .returned (some .noSession)
  | some session => .locking key session pkt

/-- `handle_packet` up to its first await. -/
def handlePacket (env : BridgeEnv) (state : BridgeState) (nowUnix : Int64) (peer : SocketAddr)
    (pkt : Bytes) : PacketTask :=
  match Header.decode pkt with
  | .error failure => .returned (some (.protocol failure))
  | .ok header =>
    if header.version ≠ protoVersion then .returned (some (.badVersion header.version))
    else if header.flags.contains Flags.syn then
      acceptNewSession env state nowUnix ⟨peer, header.connectionId⟩ pkt
    else forwardData state ⟨peer, header.connectionId⟩ pkt

/-- First poll of a packet task. -/
def poll (env : BridgeEnv) (state : BridgeState) (task : Nat) (nowUnix : Int64) :
    Option BridgeState :=
  match state.tasks[task]? with
  | some (.spawned peer pkt) => some (state.setTask task (handlePacket env state nowUnix peer pkt))
  | _ => none

/-- The writer `open_dest` returns for a new socket. -/
def openDest (connect : ConnectRequest) (socket : SocketId) : DestWriter :=
  match connect.protocol with
  | .tcp => .tcp socket
  | .udp => .udp socket

/-- The read half of the same socket. -/
def DestWriter.reader : DestWriter → DestReader
  | .tcp socket => .tcp socket
  | .udp socket => .udp socket

/-- `open_dest` returned a socket: the new session takes its write half. -/
def connected (state : BridgeState) (task : Nat) : Option BridgeState :=
  match state.tasks[task]? with
  | some (.connecting key aeadKey connect) =>
    let writer := openDest connect state.destinations.length
    some { state with
      destinations := state.destinations ++ [connect]
      tasks := state.tasks.set task (.inserting key (Session.new aeadKey writer state.clock)) }
  | _ => none

/-- `open_dest` returned an error. -/
def connectFailed (state : BridgeState) (task : Nat) : Option BridgeState :=
  match state.tasks[task]? with
  | some (.connecting ..) => some (state.setTask task (.returned (some .connect)))
  | _ => none

/-- The end of `accept_new_session`: insert under the write lock, spawn the drain task. Nothing
is checked about a session already under the key. -/
def insert (state : BridgeState) (task : Nat) : Option BridgeState :=
  match state.tasks[task]? with
  | some (.inserting key session) =>
    if state.reaper.reading then none
    else some { state with
      sessions := state.sessions.insert key state.cells.length
      cells := state.cells ++ [⟨session, false⟩]
      tasks := state.tasks.set task (.returned none)
      drains := state.drains ++ [⟨key, state.cells.length, session.destWriter.reader, true⟩]
      trace := state.trace ++ [.accepted key state.cells.length] }
  | _ => none

/-- `forward_data` with the mutex: open the frame, stamp the session, call the write. -/
def lock (env : BridgeEnv) (state : BridgeState) (task : Nat) : Option BridgeState :=
  match state.tasks[task]? with
  | some (.locking key session pkt) =>
    match state.cells[session]? with
    | none => none
    | some cell =>
      if cell.locked then none
      else match decryptFrame env.crypto cell.session.aeadKey pkt with
        | .error failure => some (state.setTask task (.returned (some (.protocol failure))))
        | .ok (header, payload) => some { state with
            cells := state.cells.set session
              ⟨{ cell.session with lastActive := state.clock }, true⟩
            tasks := state.tasks.set task (.writing key session header payload)
            trace := state.trace ++ [.write key session header payload state.clock] }
  | _ => none

/-- `write_all` hands some of the remaining bytes to a TCP destination. -/
def writeSome (state : BridgeState) (task count : Nat) : Option BridgeState :=
  match state.tasks[task]? with
  | some (.writing key session header rest) =>
    match state.cells[session]? with
    | some ⟨⟨_, _, _, .tcp socket⟩, _⟩ =>
      if 0 < count ∧ count ≤ rest.length then some { state with
        tasks := state.tasks.set task (.writing key session header (rest.drop count))
        trace := state.trace ++ [.delivered session socket (rest.take count) state.clock] }
      else none
    | _ => none
  | _ => none

/-- A write ends: `write_all` with nothing left, or one UDP datagram sent whole. -/
def writeDone (state : BridgeState) (task : Nat) : Option BridgeState :=
  match state.tasks[task]? with
  | some (.writing _ session _ rest) =>
    match state.cells[session]? with
    | some ⟨⟨_, _, _, .tcp _⟩, _⟩ =>
      if rest = [] then some { state with
        cells := unlock state.cells session
        tasks := state.tasks.set task (.returned none) }
      else none
    | some ⟨⟨_, _, _, .udp socket⟩, _⟩ => some { state with
        cells := unlock state.cells session
        tasks := state.tasks.set task (.returned none)
        trace := state.trace ++ [.delivered session socket rest state.clock] }
    | none => none
  | _ => none

/-- A destination write fails. -/
def writeFailed (state : BridgeState) (task : Nat) : Option BridgeState :=
  match state.tasks[task]? with
  | some (.writing _ session _ _) => some { state with
      cells := unlock state.cells session
      tasks := state.tasks.set task (.returned (some .write)) }
  | _ => none

/-- What one read puts into a buffer of `maxPayloadLen` bytes: a TCP read returns at least one
byte and no more than the buffer holds, a UDP read drops what does not fit. -/
def readInto (reader : DestReader) (bytes : Bytes) : Option Bytes :=
  match reader with
  | .tcp _ => if bytes ≠ [] ∧ bytes.length ≤ maxPayloadLen then some bytes else none
  | .udp _ => some (bytes.take maxPayloadLen)

/-- One turn of `drain_dest`. -/
def drain (state : BridgeState) (task : Nat) (bytes : Bytes) : Option BridgeState :=
  match state.drains[task]? with
  | some ⟨key, session, reader, true⟩ =>
    match readInto reader bytes with
    | none => none
    | some payload => some { state with
        downstream := state.downstream ++ [⟨⟨key, payload⟩, session⟩]
        trace := state.trace ++ [.read session payload] }
  | _ => none

/-- `drain_dest` returns at the end of its destination or on an error. -/
def drainEnd (state : BridgeState) (task : Nat) : Option BridgeState :=
  match state.drains[task]? with
  | some ⟨key, session, reader, true⟩ =>
    some { state with drains := state.drains.set task ⟨key, session, reader, false⟩ }
  | _ => none

/-- `rx.recv()` returns a packet. -/
def senderReceive (state : BridgeState) : Option BridgeState :=
  match state.sender, state.downstream with
  | .receiving, queued :: later =>
    some { state with downstream := later, sender := .looking queued }
  | _, _ => none

/-- Look up the packet's session; without one the packet is dropped. -/
def senderLookup (state : BridgeState) : Option BridgeState :=
  match state.sender with
  | .looking queued =>
    match state.sessions.lookup queued.packet.sessionKey with
    | none => some { state with sender := .receiving }
    | some session => some { state with sender := .locking queued session }
  | _ => none

/-- The header of the next downstream frame; the counter wraps. -/
def Session.nextHeader (session : Session) (connectionId : UInt32) : Header where
  version := protoVersion
  flags := Flags.empty
  connectionId
  sequence := session.txSequence + 1

/-- The locked part of `downstream_sender`: count, then encrypt. -/
def Session.encryptDownstream (crypto : Crypto) (session : Session) (connectionId : UInt32)
    (payload : Bytes) : Session × Except ProtocolError Bytes :=
  let header := session.nextHeader connectionId
  ({ session with txSequence := header.sequence },
    encryptFrame crypto session.aeadKey header payload)

/-- `downstream_sender` with the mutex, up to the moment it lets go of it. -/
def senderEncrypt (env : BridgeEnv) (state : BridgeState) : Option BridgeState :=
  match state.sender with
  | .locking queued session =>
    match state.cells[session]? with
    | none => none
    | some cell =>
      if cell.locked then none
      else
        let connectionId := queued.packet.sessionKey.connectionId
        let sealed := cell.session.encryptDownstream env.crypto connectionId queued.packet.payload
        let counted := { state with cells := state.cells.set session ⟨sealed.1, false⟩ }
        match sealed.2 with
        | .error _ => some { counted with sender := .receiving }
        | .ok wire => some { counted with
            sender := .sending queued session wire
            trace := state.trace ++ [.encrypted queued session
              (cell.session.nextHeader connectionId) state.clock] }
  | _ => none

/-- `send_to` the packet's client address returns. -/
def senderSend (state : BridgeState) (success : Bool) : Option BridgeState :=
  match state.sender with
  | .sending queued session wire => some { state with
      sender := .receiving
      trace := if success then state.trace ++ [.sent queued session wire state.clock]
        else state.trace }
  | _ => none

/-- `idle_reaper` wakes: compute the cutoff, take the read lock. A tick may come at any time. -/
def reaperTick (env : BridgeEnv) (state : BridgeState) : Option BridgeState :=
  match state.reaper with
  | .ticking =>
    (instantSub state.clock env.config.idleTimeoutSecs).map fun cutoff => { state with
      reaper := .scanning cutoff (state.sessions.entries.map fun entry => (entry.1, entry.2)) [] }
  | _ => none

/-- Whether the scan lists an entry: its mutex is free and its stamp is before the cutoff. -/
def idle (state : BridgeState) (cutoff : Instant) (session : SessionId) : Bool :=
  match state.cells[session]? with
  | some cell => !cell.locked && decide (cell.session.lastActive < cutoff)
  | none => false

/-- The scan examines one of the entries left. -/
def reaperScan (state : BridgeState) (key : SessionKey) : Option BridgeState :=
  match state.reaper with
  | .scanning cutoff left toDrop =>
    match left.find? fun entry => entry.1 = key with
    | none => none
    | some entry => some { state with
        reaper := .scanning cutoff (left.erase entry)
          (if idle state cutoff entry.2 then toDrop ++ [key] else toDrop) }
  | _ => none

/-- Whether `downstream_sender` may have the mutex of a session, which it holds for a part of the
time it stands at its locked part. -/
def SenderTask.mayHold (sender : SenderTask) (session : SessionId) : Bool :=
  match sender with
  | .locking _ target => decide (target = session)
  | _ => false

/-- The scan comes to an entry while `downstream_sender` has its mutex: `try_lock` fails. -/
def reaperSkip (state : BridgeState) (key : SessionKey) : Option BridgeState :=
  match state.reaper with
  | .scanning cutoff left toDrop =>
    match left.find? fun entry => entry.1 = key with
    | none => none
    | some entry =>
      if state.sender.mayHold entry.2 then
        some { state with reaper := .scanning cutoff (left.erase entry) toDrop }
      else none
  | _ => none

/-- The scan is over and the read lock is released. -/
def reaperScanned (state : BridgeState) : Option BridgeState :=
  match state.reaper with
  | .scanning _ [] toDrop =>
    some { state with reaper := if toDrop = [] then .ticking else .removing toDrop }
  | _ => none

/-- The removals as effects. -/
def reapedOutputs (sessions : SessionTable) (time : Instant) (toDrop : List SessionKey) :
    List Output :=
  toDrop.filterMap fun key => (sessions.lookup key).map fun session => .reaped key session time

/-- Remove the listed keys under the write lock. -/
def reaperRemove (state : BridgeState) : Option BridgeState :=
  match state.reaper with
  | .removing toDrop => some { state with
      sessions := toDrop.foldl (fun table key => table.erase key) state.sessions
      reaper := .ticking
      trace := state.trace ++ reapedOutputs state.sessions state.clock toDrop }
  | _ => none

/-- The bridge server. -/
def step (env : BridgeEnv) (state : BridgeState) : Event → Option BridgeState
  | .receive peer pkt => some { state with tasks := state.tasks ++ [.spawned peer pkt] }
  | .poll task nowUnix => poll env state task nowUnix
  | .connected task => connected state task
  | .connectFailed task => connectFailed state task
  | .insert task => insert state task
  | .lock task => lock env state task
  | .writeSome task count => writeSome state task count
  | .writeDone task => writeDone state task
  | .writeFailed task => writeFailed state task
  | .drain task bytes => drain state task bytes
  | .drainEnd task => drainEnd state task
  | .senderReceive => senderReceive state
  | .senderLookup => senderLookup state
  | .senderEncrypt => senderEncrypt env state
  | .senderSend success => senderSend state success
  | .reaperTick => reaperTick env state
  | .reaperScan key => reaperScan state key
  | .reaperSkip key => reaperSkip state key
  | .reaperScanned => reaperScanned state
  | .reaperRemove => reaperRemove state
  | .advance nanos => some { state with clock := state.clock + nanos }

end LowPing.Bridge
