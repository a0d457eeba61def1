import LowPing.Library.Table
import LowPing.Library.Update
import LowPing.Bridge.Steps

/-!
# Footprints of a step

What a step does to one component of the bridge, whatever the event: the packet tasks, the
session table, the session cells, the way downstream and the history. An invariant of one component
reads only its footprint.
-/

namespace LowPing.Bridge

open Library

variable {env : BridgeEnv} {state next : BridgeState} {event : Event}

/-- How an event moves the packet task it runs. -/
inductive TaskMove (env : BridgeEnv) (state : BridgeState) (task : Nat) :
    Event → PacketTask → PacketTask → Prop where
  /-- A first poll ends in an error. -/
  | rejected (nowUnix : Int64) (peer : SocketAddr) (pkt : Bytes) (error : BridgeError) :
      TaskMove env state task (.poll task nowUnix) (.spawned peer pkt) (.returned (some error))
  /-- A SYN is admitted. -/
  | admitted (nowUnix : Int64) (peer : SocketAddr) (pkt : Bytes) (header : Header)
      (aeadKey : AeadKey) (connect : ConnectRequest) (front : Header.decode pkt = .ok header)
      (syn : header.flags.contains Flags.syn = true)
      (room : state.sessionCount < env.config.maxSessions)
      (admitted : admitSyn env nowUnix pkt = .ok (aeadKey, connect)) :
      TaskMove env state task (.poll task nowUnix) (.spawned peer pkt)
        (.connecting ⟨peer, header.connectionId⟩ aeadKey connect)
  /-- A data frame finds the session now under its key. -/
  | routed (nowUnix : Int64) (peer : SocketAddr) (pkt : Bytes) (header : Header)
      (session : SessionId) (front : Header.decode pkt = .ok header)
      (data : header.flags.contains Flags.syn = false)
      (found : state.sessions.lookup ⟨peer, header.connectionId⟩ = some session) :
      TaskMove env state task (.poll task nowUnix) (.spawned peer pkt)
        (.locking ⟨peer, header.connectionId⟩ session pkt)
  /-- The destination is open. -/
  | connected (key : SessionKey) (aeadKey : AeadKey) (connect : ConnectRequest) :
      TaskMove env state task (.connected task) (.connecting key aeadKey connect)
        (.inserting key (Session.new aeadKey (openDest connect state.destinations.length)
          state.clock))
  /-- The destination could not be opened. -/
  | connectFailed (key : SessionKey) (aeadKey : AeadKey) (connect : ConnectRequest) :
      TaskMove env state task (.connectFailed task) (.connecting key aeadKey connect)
        (.returned (some .connect))
  /-- The session is in the table. -/
  | inserted (key : SessionKey) (session : Session) :
      TaskMove env state task (.insert task) (.inserting key session) (.returned none)
  /-- The frame did not open. -/
  | refused (key : SessionKey) (session : SessionId) (pkt : Bytes) (failure : ProtocolError) :
      TaskMove env state task (.lock task) (.locking key session pkt)
        (.returned (some (.protocol failure)))
  /-- The frame opened under the key of its session. -/
  | opened (key : SessionKey) (session : SessionId) (pkt : Bytes) (cell : SessionCell)
      (header : Header) (payload : Bytes) (present : state.cells[session]? = some cell)
      (opened : decryptFrame env.crypto cell.session.aeadKey pkt = .ok (header, payload)) :
      TaskMove env state task (.lock task) (.locking key session pkt)
        (.writing key session header payload)
  /-- Some bytes are written. -/
  | wrote (key : SessionKey) (session : SessionId) (header : Header) (rest : Bytes)
      (count : Nat) :
      TaskMove env state task (.writeSome task count) (.writing key session header rest)
        (.writing key session header (rest.drop count))
  /-- The write ends well. -/
  | written (key : SessionKey) (session : SessionId) (header : Header) (rest : Bytes) :
      TaskMove env state task (.writeDone task) (.writing key session header rest) (.returned none)
  /-- The write fails. -/
  | writeFailed (key : SessionKey) (session : SessionId) (header : Header) (rest : Bytes) :
      TaskMove env state task (.writeFailed task) (.writing key session header rest)
        (.returned (some .write))

/-- The packet tasks after a step. -/
inductive TasksAfter (env : BridgeEnv) (state : BridgeState) :
    Event → List PacketTask → Prop where
  /-- The event runs another kind of task. -/
  | kept (event : Event) : TasksAfter env state event state.tasks
  /-- A datagram spawns a task. -/
  | arrived (peer : SocketAddr) (pkt : Bytes) :
      TasksAfter env state (.receive peer pkt) (state.tasks ++ [.spawned peer pkt])
  /-- One task moves. -/
  | moved (event : Event) (task : Nat) (before after : PacketTask)
      (present : state.tasks[task]? = some before)
      (move : TaskMove env state task event before after) :
      TasksAfter env state event (state.tasks.set task after)

/-- The session table after a step. -/
inductive SessionsAfter (state : BridgeState) : Event → SessionTable → Prop where
  /-- The event does not write the table. -/
  | kept (event : Event) : SessionsAfter state event state.sessions
  /-- An accept inserts a new session. -/
  | inserted (task : Nat) (key : SessionKey) (session : Session)
      (present : state.tasks[task]? = some (.inserting key session)) :
      SessionsAfter state (.insert task) (state.sessions.insert key state.cells.length)
  /-- The reaper removes the keys it listed. -/
  | removed (toDrop : List SessionKey) (listed : state.reaper = .removing toDrop) :
      SessionsAfter state .reaperRemove
        (toDrop.foldl (fun table key => table.erase key) state.sessions)

/-- The session cells after a step. -/
inductive CellsAfter (state : BridgeState) : Event → List SessionCell → Prop where
  /-- The event touches no session. -/
  | kept (event : Event) : CellsAfter state event state.cells
  /-- An accept creates a session. -/
  | created (task : Nat) (key : SessionKey) (session : Session)
      (present : state.tasks[task]? = some (.inserting key session)) :
      CellsAfter state (.insert task) (state.cells ++ [⟨session, false⟩])
  /-- `forward_data` stamps a session and keeps its mutex. -/
  | stamped (task : Nat) (key : SessionKey) (session : SessionId) (pkt : Bytes)
      (cell : SessionCell) (point : state.tasks[task]? = some (.locking key session pkt))
      (present : state.cells[session]? = some cell) (free : cell.locked = false) :
      CellsAfter state (.lock task)
        (state.cells.set session ⟨{ cell.session with lastActive := state.clock }, true⟩)
  /-- A write that ends releases the mutex. -/
  | released (event : Event) (task : Nat) (key : SessionKey) (session : SessionId)
      (header : Header) (rest : Bytes) (ends : event = .writeDone task ∨ event = .writeFailed task)
      (point : state.tasks[task]? = some (.writing key session header rest)) :
      CellsAfter state event (unlock state.cells session)
  /-- `downstream_sender` counts a frame. -/
  | counted (queued : Queued) (session : SessionId) (cell : SessionCell)
      (point : state.sender = .locking queued session)
      (present : state.cells[session]? = some cell) (free : cell.locked = false) :
      CellsAfter state .senderEncrypt (state.cells.set session
        ⟨{ cell.session with txSequence := cell.session.txSequence + 1 }, false⟩)

/-- The drain tasks, the channel and the sender after a step. -/
inductive DownstreamAfter (state : BridgeState) :
    Event → List DrainTask → List Queued → SenderTask → Prop where
  /-- The event runs none of them. -/
  | kept (event : Event) :
      DownstreamAfter state event state.drains state.downstream state.sender
  /-- An accept spawns the drain task of its session. -/
  | spawned (task : Nat) (key : SessionKey) (session : Session)
      (present : state.tasks[task]? = some (.inserting key session)) :
      DownstreamAfter state (.insert task)
        (state.drains ++ [⟨key, state.cells.length, session.destWriter.reader, true⟩])
        state.downstream state.sender
  /-- A running drain task queues a payload. -/
  | queued (task : Nat) (bytes : Bytes) (key : SessionKey) (session : SessionId)
      (reader : DestReader) (payload : Bytes)
      (running : state.drains[task]? = some ⟨key, session, reader, true⟩) :
      DownstreamAfter state (.drain task bytes) state.drains
        (state.downstream ++ [⟨⟨key, payload⟩, session⟩]) state.sender
  /-- A drain task ends. -/
  | ended (task : Nat) (key : SessionKey) (session : SessionId) (reader : DestReader)
      (running : state.drains[task]? = some ⟨key, session, reader, true⟩) :
      DownstreamAfter state (.drainEnd task)
        (state.drains.set task ⟨key, session, reader, false⟩) state.downstream state.sender
  /-- The sender takes the oldest packet. -/
  | received (queued : Queued) (later : List Queued) (idle : state.sender = .receiving)
      (channel : state.downstream = queued :: later) :
      DownstreamAfter state .senderReceive state.drains later (.looking queued)
  /-- The sender finds the session now under the packet's key. -/
  | found (queued : Queued) (session : SessionId) (point : state.sender = .looking queued)
      (live : state.sessions.lookup queued.packet.sessionKey = some session) :
      DownstreamAfter state .senderLookup state.drains state.downstream (.locking queued session)
  /-- The sender encrypts for the session it found. -/
  | encrypted (queued : Queued) (session : SessionId) (wire : Bytes)
      (point : state.sender = .locking queued session) :
      DownstreamAfter state .senderEncrypt state.drains state.downstream
        (.sending queued session wire)
  /-- The sender is done with a packet. -/
  | finished (event : Event) :
      DownstreamAfter state event state.drains state.downstream .receiving

/-- The reaper after a step. -/
inductive ReaperAfter (env : BridgeEnv) (state : BridgeState) : Event → ReaperTask → Prop where
  /-- The event does not run it. -/
  | kept (event : Event) : ReaperAfter env state event state.reaper
  /-- It starts a scan of the whole table. -/
  | ticked (cutoff : Instant)
      (earlier : instantSub state.clock env.config.idleTimeoutSecs = some cutoff) :
      ReaperAfter env state .reaperTick
        (.scanning cutoff (state.sessions.entries.map fun entry => (entry.1, entry.2)) [])
  /-- It examines one entry. -/
  | scanned (key : SessionKey) (cutoff : Instant) (left : List (SessionKey × SessionId))
      (toDrop : List SessionKey) (session : SessionId)
      (point : state.reaper = .scanning cutoff left toDrop)
      (first : left.find? (fun entry => entry.1 = key) = some (key, session)) :
      ReaperAfter env state (.reaperScan key) (.scanning cutoff (left.erase (key, session))
        (if idle state cutoff session then toDrop ++ [key] else toDrop))
  /-- It skips one whose mutex the sender may have. -/
  | skipped (key : SessionKey) (cutoff : Instant) (left : List (SessionKey × SessionId))
      (toDrop : List SessionKey) (session : SessionId)
      (point : state.reaper = .scanning cutoff left toDrop)
      (first : left.find? (fun entry => entry.1 = key) = some (key, session))
      (holds : state.sender.mayHold session = true) :
      ReaperAfter env state (.reaperSkip key) (.scanning cutoff (left.erase (key, session)) toDrop)
  /-- It has examined every entry. -/
  | finished (cutoff : Instant) (toDrop : List SessionKey)
      (point : state.reaper = .scanning cutoff [] toDrop) :
      ReaperAfter env state .reaperScanned (if toDrop = [] then .ticking else .removing toDrop)
  /-- It has removed what it listed. -/
  | removed (toDrop : List SessionKey) (point : state.reaper = .removing toDrop) :
      ReaperAfter env state .reaperRemove .ticking

/-- A removal is that of the session a listed key had. -/
theorem mem_reapedOutputs {sessions : SessionTable} {time : Instant} {toDrop : List SessionKey}
    {output : Output} (member : output ∈ reapedOutputs sessions time toDrop) :
    ∃ key ∈ toDrop, ∃ session, sessions.lookup key = some session ∧
      output = .reaped key session time := by
  obtain ⟨key, listed, removed⟩ := List.mem_filterMap.mp member
  obtain ⟨session, live, same⟩ := Option.map_eq_some_iff.mp removed
  exact ⟨key, listed, session, live, same.symm⟩

/-- What a step adds to the history. -/
inductive OutputsAfter (env : BridgeEnv) (state : BridgeState) :
    Event → List Output → Prop where
  /-- Nothing. -/
  | none (event : Event) : OutputsAfter env state event []
  /-- An accept. -/
  | accepted (task : Nat) (key : SessionKey) (session : Session)
      (present : state.tasks[task]? = some (.inserting key session)) :
      OutputsAfter env state (.insert task) [.accepted key state.cells.length]
  /-- The call of a destination write for a frame opened under its session's key. -/
  | opened (task : Nat) (key : SessionKey) (session : SessionId) (pkt : Bytes)
      (cell : SessionCell) (header : Header) (payload : Bytes)
      (point : state.tasks[task]? = some (.locking key session pkt))
      (present : state.cells[session]? = some cell) (free : cell.locked = false)
      (opened : decryptFrame env.crypto cell.session.aeadKey pkt = .ok (header, payload)) :
      OutputsAfter env state (.lock task) [.write key session header payload state.clock]
  /-- Bytes a destination takes. -/
  | delivered (event : Event) (task : Nat) (key : SessionKey) (session : SessionId)
      (header : Header) (rest : Bytes) (socket : SocketId) (bytes : Bytes)
      (writes : (∃ count, event = .writeSome task count) ∨ event = .writeDone task)
      (point : state.tasks[task]? = some (.writing key session header rest)) :
      OutputsAfter env state event [.delivered session socket bytes state.clock]
  /-- Bytes a destination yields. -/
  | read (task : Nat) (bytes : Bytes) (key : SessionKey) (session : SessionId)
      (reader : DestReader) (payload : Bytes)
      (running : state.drains[task]? = some ⟨key, session, reader, true⟩) :
      OutputsAfter env state (.drain task bytes) [.read session payload]
  /-- A downstream encryption. -/
  | encrypted (queued : Queued) (session : SessionId) (cell : SessionCell)
      (point : state.sender = .locking queued session)
      (present : state.cells[session]? = some cell) :
      OutputsAfter env state .senderEncrypt [.encrypted queued session
        (cell.session.nextHeader queued.packet.sessionKey.connectionId) state.clock]
  /-- A downstream send. -/
  | sent (queued : Queued) (session : SessionId) (wire : Bytes)
      (point : state.sender = .sending queued session wire) :
      OutputsAfter env state (.senderSend true) [.sent queued session wire state.clock]
  /-- Removals. -/
  | reaped (toDrop : List SessionKey) (listed : state.reaper = .removing toDrop) :
      OutputsAfter env state .reaperRemove (reapedOutputs state.sessions state.clock toDrop)

/-- The footprints of one step. -/
structure Footprint (env : BridgeEnv) (state : BridgeState) (event : Event)
    (next : BridgeState) : Prop where
  /-- On the packet tasks. -/
  tasks : TasksAfter env state event next.tasks
  /-- On the session table. -/
  sessions : SessionsAfter state event next.sessions
  /-- On the session cells. -/
  cells : CellsAfter state event next.cells
  /-- On the way downstream. -/
  downstream : DownstreamAfter state event next.drains next.downstream next.sender
  /-- On the reaper. -/
  reaper : ReaperAfter env state event next.reaper
  /-- On the clock. -/
  clock : state.clock ≤ next.clock
  /-- On the history. -/
  trace : ∃ outputs, next.trace = state.trace ++ outputs ∧ OutputsAfter env state event outputs

/-- A step without outputs leaves the history as it is. -/
theorem no_outputs {trace : List Output} (same : trace = state.trace) :
    ∃ outputs, trace = state.trace ++ outputs ∧ OutputsAfter env state event outputs :=
  ⟨[], by rw [same, List.append_nil], .none event⟩

/-- Every step leaves its footprints. -/
theorem step_footprint (taken : step env state event = some next) :
    Footprint env state event next := by
  cases event with
  | receive peer pkt =>
    obtain rfl := Option.some.inj taken
    exact ⟨.arrived peer pkt, .kept _, .kept _, .kept _, .kept _, Int.le_refl _, no_outputs rfl⟩
  | poll task nowUnix =>
    obtain ⟨peer, pkt, point, rfl⟩ := poll_ok taken
    refine ⟨.moved _ task _ _ point ?_, .kept _, .kept _, .kept _, .kept _, Int.le_refl _,
      no_outputs rfl⟩
    obtain ⟨error, ended⟩ | ⟨header, aeadKey, connect, front, syn, room, admitted, awaits⟩ |
      ⟨header, session, front, data, found, waits⟩ := handlePacket_cases env state nowUnix peer pkt
    · rw [ended]
      exact .rejected nowUnix peer pkt error
    · rw [awaits]
      exact .admitted nowUnix peer pkt header aeadKey connect front syn room admitted
    · rw [waits]
      exact .routed nowUnix peer pkt header session front data found
  | connected task =>
    obtain ⟨key, aeadKey, connect, point, rfl⟩ := connected_ok taken
    exact ⟨.moved _ task _ _ point (.connected key aeadKey connect), .kept _, .kept _, .kept _,
      .kept _, Int.le_refl _, no_outputs rfl⟩
  | connectFailed task =>
    obtain ⟨key, aeadKey, connect, point, rfl⟩ := connectFailed_ok taken
    exact ⟨.moved _ task _ _ point (.connectFailed key aeadKey connect), .kept _, .kept _, .kept _,
      .kept _, Int.le_refl _, no_outputs rfl⟩
  | insert task =>
    obtain ⟨key, session, point, _, rfl⟩ := insert_ok taken
    exact ⟨.moved _ task _ _ point (.inserted key session), .inserted task key session point,
      .created task key session point, .spawned task key session point,
      .kept _, Int.le_refl _, _, rfl, .accepted task key session point⟩
  | lock task =>
    obtain ⟨key, session, pkt, cell, point, present, free, ⟨failure, _, rfl⟩ |
      ⟨header, payload, opened, rfl⟩⟩ := lock_ok taken
    · exact ⟨.moved _ task _ _ point (.refused key session pkt failure), .kept _, .kept _, .kept _,
        .kept _, Int.le_refl _, no_outputs rfl⟩
    · exact ⟨.moved _ task _ _ point (.opened key session pkt cell header payload present opened),
        .kept _, .stamped task key session pkt cell point present free, .kept _,
        .kept _, Int.le_refl _, _, rfl,
        .opened task key session pkt cell header payload point present free opened⟩
  | writeSome task count =>
    obtain ⟨key, session, header, rest, _, socket, point, _, _, _, _, rfl⟩ := writeSome_ok taken
    exact ⟨.moved _ task _ _ point (.wrote key session header rest count), .kept _, .kept _,
      .kept _, .kept _, Int.le_refl _, _, rfl,
      .delivered _ task key session header rest socket _ (.inl ⟨count, rfl⟩) point⟩
  | writeDone task =>
    obtain ⟨key, session, header, rest, _, point, _, ⟨_, _, _, rfl⟩ | ⟨socket, _, rfl⟩⟩ :=
      writeDone_ok taken
    · exact ⟨.moved _ task _ _ point (.written key session header rest), .kept _,
        .released _ task key session header rest (.inl rfl) point, .kept _, .kept _, Int.le_refl _,
        no_outputs rfl⟩
    · exact ⟨.moved _ task _ _ point (.written key session header rest), .kept _,
        .released _ task key session header rest (.inl rfl) point, .kept _,
        .kept _, Int.le_refl _, _, rfl,
        .delivered _ task key session header rest socket _ (.inr rfl) point⟩
  | writeFailed task =>
    obtain ⟨key, session, header, rest, point, rfl⟩ := writeFailed_ok taken
    exact ⟨.moved _ task _ _ point (.writeFailed key session header rest), .kept _,
      .released _ task key session header rest (.inr rfl) point, .kept _, .kept _, Int.le_refl _,
      no_outputs rfl⟩
  | drain task bytes =>
    obtain ⟨key, session, reader, payload, running, _, rfl⟩ := drain_ok taken
    exact ⟨.kept _, .kept _, .kept _, .queued task bytes key session reader payload running,
      .kept _, Int.le_refl _, _, rfl, .read task bytes key session reader payload running⟩
  | drainEnd task =>
    obtain ⟨key, session, reader, running, rfl⟩ := drainEnd_ok taken
    exact ⟨.kept _, .kept _, .kept _, .ended task key session reader running, .kept _,
      Int.le_refl _, no_outputs rfl⟩
  | senderReceive =>
    obtain ⟨queued, later, idle, channel, rfl⟩ := senderReceive_ok taken
    exact ⟨.kept _, .kept _, .kept _, .received queued later idle channel, .kept _, Int.le_refl _,
      no_outputs rfl⟩
  | senderLookup =>
    obtain ⟨queued, point, ⟨_, rfl⟩ | ⟨session, live, rfl⟩⟩ := senderLookup_ok taken
    · exact ⟨.kept _, .kept _, .kept _, .finished _, .kept _, Int.le_refl _, no_outputs rfl⟩
    · exact ⟨.kept _, .kept _, .kept _, .found queued session point live, .kept _, Int.le_refl _,
        no_outputs rfl⟩
  | senderEncrypt =>
    obtain ⟨queued, session, cell, point, present, free, ⟨_, _, rfl⟩ | ⟨wire, _, rfl⟩⟩ :=
      senderEncrypt_ok taken
    · exact ⟨.kept _, .kept _, .counted queued session cell point present free, .finished _,
        .kept _, Int.le_refl _, no_outputs rfl⟩
    · exact ⟨.kept _, .kept _, .counted queued session cell point present free,
        .encrypted queued session wire point, .kept _, Int.le_refl _, _, rfl,
        .encrypted queued session cell point present⟩
  | senderSend success =>
    obtain ⟨queued, session, wire, point, rfl⟩ := senderSend_ok taken
    refine ⟨.kept _, .kept _, .kept _, .finished _, .kept _, Int.le_refl _, ?_⟩
    cases success with
    | false => exact no_outputs rfl
    | true => exact ⟨_, rfl, .sent queued session wire point⟩
  | reaperTick =>
    obtain ⟨cutoff, _, earlier, rfl⟩ := reaperTick_ok taken
    exact ⟨.kept _, .kept _, .kept _, .kept _, .ticked cutoff earlier, Int.le_refl _,
      no_outputs rfl⟩
  | reaperScan key =>
    obtain ⟨cutoff, left, toDrop, session, point, first, rfl⟩ := reaperScan_ok taken
    exact ⟨.kept _, .kept _, .kept _, .kept _, .scanned key cutoff left toDrop session point first,
      Int.le_refl _, no_outputs rfl⟩
  | reaperSkip key =>
    obtain ⟨cutoff, left, toDrop, session, point, first, holds, rfl⟩ := reaperSkip_ok taken
    exact ⟨.kept _, .kept _, .kept _, .kept _,
      .skipped key cutoff left toDrop session point first holds, Int.le_refl _, no_outputs rfl⟩
  | reaperScanned =>
    obtain ⟨cutoff, toDrop, point, rfl⟩ := reaperScanned_ok taken
    exact ⟨.kept _, .kept _, .kept _, .kept _, .finished cutoff toDrop point, Int.le_refl _,
      no_outputs rfl⟩
  | reaperRemove =>
    obtain ⟨toDrop, listed, rfl⟩ := reaperRemove_ok taken
    exact ⟨.kept _, .removed toDrop listed, .kept _, .kept _, .removed toDrop listed,
      Int.le_refl _, _, rfl, .reaped toDrop listed⟩
  | advance nanos =>
    obtain rfl := Option.some.inj taken
    exact ⟨.kept _, .kept _, .kept _, .kept _, .kept _,
      Int.le_add_of_nonneg_right (Int.natCast_nonneg nanos), no_outputs rfl⟩

/-- Only a successful connect opens a socket. -/
theorem destinations_step (taken : step env state event = some next) :
    next.destinations = state.destinations ∨ ∃ task key aeadKey connect,
      event = .connected task ∧ state.tasks[task]? = some (.connecting key aeadKey connect) ∧
      next.destinations = state.destinations ++ [connect] := by
  cases event with
  | receive peer pkt => exact .inl (Option.some.inj taken ▸ rfl)
  | poll task nowUnix =>
    obtain ⟨_, _, _, rfl⟩ := poll_ok taken
    exact .inl rfl
  | connected task =>
    obtain ⟨key, aeadKey, connect, point, rfl⟩ := connected_ok taken
    exact .inr ⟨task, key, aeadKey, connect, rfl, point, rfl⟩
  | connectFailed task =>
    obtain ⟨_, _, _, _, rfl⟩ := connectFailed_ok taken
    exact .inl rfl
  | insert task =>
    obtain ⟨_, _, _, _, rfl⟩ := insert_ok taken
    exact .inl rfl
  | lock task =>
    obtain ⟨_, _, _, _, _, _, _, ⟨_, _, rfl⟩ | ⟨_, _, _, rfl⟩⟩ := lock_ok taken
    · exact .inl rfl
    · exact .inl rfl
  | writeSome task count =>
    obtain ⟨_, _, _, _, _, _, _, _, _, _, _, rfl⟩ := writeSome_ok taken
    exact .inl rfl
  | writeDone task =>
    obtain ⟨_, _, _, _, _, _, _, ⟨_, _, _, rfl⟩ | ⟨_, _, rfl⟩⟩ := writeDone_ok taken
    · exact .inl rfl
    · exact .inl rfl
  | writeFailed task =>
    obtain ⟨_, _, _, _, _, rfl⟩ := writeFailed_ok taken
    exact .inl rfl
  | drain task bytes =>
    obtain ⟨_, _, _, _, _, _, rfl⟩ := drain_ok taken
    exact .inl rfl
  | drainEnd task =>
    obtain ⟨_, _, _, _, rfl⟩ := drainEnd_ok taken
    exact .inl rfl
  | senderReceive =>
    obtain ⟨_, _, _, _, rfl⟩ := senderReceive_ok taken
    exact .inl rfl
  | senderLookup =>
    obtain ⟨_, _, ⟨_, rfl⟩ | ⟨_, _, rfl⟩⟩ := senderLookup_ok taken
    · exact .inl rfl
    · exact .inl rfl
  | senderEncrypt =>
    obtain ⟨_, _, _, _, _, _, ⟨_, _, rfl⟩ | ⟨_, _, rfl⟩⟩ := senderEncrypt_ok taken
    · exact .inl rfl
    · exact .inl rfl
  | senderSend success =>
    obtain ⟨_, _, _, _, rfl⟩ := senderSend_ok taken
    exact .inl rfl
  | reaperTick =>
    obtain ⟨_, _, _, rfl⟩ := reaperTick_ok taken
    exact .inl rfl
  | reaperScan key =>
    obtain ⟨_, _, _, _, _, _, rfl⟩ := reaperScan_ok taken
    exact .inl rfl
  | reaperSkip key =>
    obtain ⟨_, _, _, _, _, _, _, rfl⟩ := reaperSkip_ok taken
    exact .inl rfl
  | reaperScanned =>
    obtain ⟨_, _, _, rfl⟩ := reaperScanned_ok taken
    exact .inl rfl
  | reaperRemove =>
    obtain ⟨_, _, rfl⟩ := reaperRemove_ok taken
    exact .inl rfl
  | advance nanos => exact .inl (Option.some.inj taken ▸ rfl)

/-- The history only grows. -/
theorem Footprint.trace_grows (footprint : Footprint env state event next) :
    state.trace <+: next.trace := by
  obtain ⟨outputs, grown, _⟩ := footprint.trace
  exact ⟨outputs, grown.symm⟩

/-! ## One packet task -/

/-- Where a packet task of the next state comes from. -/
inductive TaskBefore (env : BridgeEnv) (state : BridgeState) (task : Nat) :
    Event → PacketTask → Prop where
  /-- It stays where it was. -/
  | stayed (event : Event) (point : PacketTask) (present : state.tasks[task]? = some point) :
      TaskBefore env state task event point
  /-- A datagram has spawned it. -/
  | spawned (peer : SocketAddr) (pkt : Bytes) (last : task = state.tasks.length) :
      TaskBefore env state task (.receive peer pkt) (.spawned peer pkt)
  /-- The event has moved it. -/
  | moved (event : Event) (before after : PacketTask)
      (present : state.tasks[task]? = some before)
      (move : TaskMove env state task event before after) :
      TaskBefore env state task event after

/-- Every packet task comes from somewhere. -/
theorem task_before {task : Nat} {point : PacketTask} (taken : step env state event = some next)
    (present : next.tasks[task]? = some point) : TaskBefore env state task event point := by
  have footprint := (step_footprint taken).tasks
  generalize next.tasks = tasks at footprint present
  cases footprint with
  | kept => exact .stayed _ _ present
  | arrived peer pkt =>
    rcases Update.getElem?_concat_cases present with ⟨last, rfl⟩ | old
    · exact .spawned peer pkt last
    · exact .stayed _ _ old
  | moved event moving before after found move =>
    rcases Update.getElem?_set_cases present with ⟨rfl, rfl⟩ | ⟨_, old⟩
    · exact .moved _ before _ found move
    · exact .stayed _ _ old

/-- The datagram an event brings. -/
def Event.datagram : Event → Option (SocketAddr × Bytes)
  | .receive peer pkt => some (peer, pkt)
  | _ => none

/-- The packet task an event runs. -/
def Event.runs : Event → Option Nat
  | .poll task _ => some task
  | .connected task => some task
  | .connectFailed task => some task
  | .insert task => some task
  | .lock task => some task
  | .writeSome task _ => some task
  | .writeDone task => some task
  | .writeFailed task => some task
  | _ => none

/-- A datagram spawns a task; any other event moves at most one. -/
theorem arrivals_step (taken : step env state event = some next) :
    (∃ peer pkt, event = .receive peer pkt ∧ next.tasks = state.tasks ++ [.spawned peer pkt]) ∨
      event.datagram = none ∧ (next.tasks = state.tasks ∨ ∃ task before after,
        state.tasks[task]? = some before ∧ TaskMove env state task event before after ∧
        next.tasks = state.tasks.set task after) := by
  have footprint := (step_footprint taken).tasks
  cases event with
  | receive peer pkt =>
    obtain rfl := Option.some.inj taken
    exact .inl ⟨peer, pkt, rfl, rfl⟩
  | _ =>
    refine .inr ⟨rfl, ?_⟩
    generalize next.tasks = tasks at footprint ⊢
    cases footprint with
    | kept => exact .inl rfl
    | moved _ task before after present move =>
      exact .inr ⟨task, before, after, present, move, rfl⟩

/-- A task is moved only by the events that run it. -/
theorem runs_of_move {task : Nat} {before after : PacketTask}
    (move : TaskMove env state task event before after) :
    event.runs = some task := by
  cases move <;> rfl

/-- Other events leave a task where it is. -/
theorem task_kept {task : Nat} {point : PacketTask} (taken : step env state event = some next)
    (other : event.runs ≠ some task) (present : state.tasks[task]? = some point) :
    next.tasks[task]? = some point := by
  rcases arrivals_step taken with ⟨_, _, _, tasks⟩ | ⟨_, tasks | ⟨moving, _, _, _, move, tasks⟩⟩
  · have bound := (List.getElem?_eq_some_iff.mp present).1
    rw [tasks, List.getElem?_append_left bound, present]
  · rw [tasks, present]
  · have different : moving ≠ task := by
      rintro rfl
      exact other (runs_of_move move)
    rw [tasks, List.getElem?_set_ne different, present]

/-! ## Sessions and the table -/

/-- What a step can do to a session that exists. -/
structure CellStep (state : BridgeState) (event : Event) (session : SessionId)
    (cell last : SessionCell) : Prop where
  /-- The key stays. -/
  aeadKey : last.session.aeadKey = cell.session.aeadKey
  /-- The destination stays. -/
  destWriter : last.session.destWriter = cell.session.destWriter
  /-- The stamp stays or becomes the present. -/
  stamp : last.session.lastActive = cell.session.lastActive ∨
    last.session.lastActive = state.clock
  /-- The counter stays unless the sender counts a frame of the session. -/
  counter : last.session.txSequence = cell.session.txSequence ∨
    ∃ queued, event = .senderEncrypt ∧ state.sender = .locking queued session ∧
      last.session.txSequence = cell.session.txSequence + 1

/-- A session that exists goes on existing. -/
theorem cell_step {session : SessionId} {cell : SessionCell}
    (taken : step env state event = some next) (present : state.cells[session]? = some cell) :
    ∃ last, next.cells[session]? = some last ∧ CellStep state event session cell last := by
  have footprint := (step_footprint taken).cells
  have bound := (List.getElem?_eq_some_iff.mp present).1
  have same : CellStep state event session cell cell := ⟨rfl, rfl, .inl rfl, .inl rfl⟩
  generalize next.cells = cells at footprint ⊢
  cases footprint with
  | kept => exact ⟨cell, present, same⟩
  | created task key created started =>
    exact ⟨cell, by rw [List.getElem?_append_left bound, present], same⟩
  | stamped task key target pkt held point found free =>
    by_cases target : session = target
    · subst target
      obtain rfl := Option.some.inj (present.symm.trans found)
      exact ⟨_, List.getElem?_set_self bound, rfl, rfl, .inr rfl, .inl rfl⟩
    · exact ⟨cell, by rw [List.getElem?_set_ne (Ne.symm target), present], same⟩
  | released event task key target header rest ends point =>
    by_cases target : session = target
    · subst target
      exact ⟨{ cell with locked := false }, by rw [unlock, List.getElem?_modify_eq, present]; rfl,
        rfl, rfl, .inl rfl, .inl rfl⟩
    · exact ⟨cell, by rw [unlock, List.getElem?_modify_ne _ _ (Ne.symm target), present], same⟩
  | counted queued target held point found free =>
    by_cases target : session = target
    · subst target
      obtain rfl := Option.some.inj (present.symm.trans found)
      exact ⟨_, List.getElem?_set_self bound, rfl, rfl, .inl rfl, .inr ⟨queued, rfl, point, rfl⟩⟩
    · exact ⟨cell, by rw [List.getElem?_set_ne (Ne.symm target), present], same⟩

/-- Every entry of the table has its cell. -/
def TableBacked (state : BridgeState) : Prop :=
  ∀ key session, state.sessions.lookup key = some session → session < state.cells.length

/-- No step drops a cell, and only an insert adds one. -/
theorem length_cells_step (taken : step env state event = some next) :
    state.cells.length ≤ next.cells.length := by
  have footprint := (step_footprint taken).cells
  generalize next.cells = cells at footprint ⊢
  cases footprint <;> simp [unlock]

/-- Every step keeps the table backed. -/
theorem tableBacked_step (held : TableBacked state) (taken : step env state event = some next) :
    TableBacked next := by
  intro key session found
  have grown := length_cells_step taken
  have footprint := (step_footprint taken).sessions
  generalize table : next.sessions = sessions at footprint found
  cases footprint with
  | kept => exact Nat.lt_of_lt_of_le (held key session found) grown
  | removed toDrop listed =>
    have old := (Table.lookup_of_lookup_eraseAll found).2
    exact Nat.lt_of_lt_of_le (held key session old) grown
  | inserted task other created present =>
    by_cases same : key = other
    · rw [same, AList.lookup_insert] at found
      obtain rfl := Option.some.inj found
      obtain ⟨_, _, _, _, rfl⟩ := insert_ok taken
      simp
    · rw [AList.lookup_insert_ne same] at found
      exact Nat.lt_of_lt_of_le (held key session found) grown

/-- A scan works on the table as it is. -/
def ScansLive (state : BridgeState) : Prop :=
  ∀ cutoff left toDrop, state.reaper = .scanning cutoff left toDrop →
    ∀ key session, (key, session) ∈ left → state.sessions.lookup key = some session

/-- The table under a scan is the one it started on: the scan holds the read lock. -/
theorem scansLive_step (held : ScansLive state) (taken : step env state event = some next) :
    ScansLive next := by
  intro cutoff left toDrop scanning key session member
  have sessions := (step_footprint taken).sessions
  have reaper := (step_footprint taken).reaper
  generalize next.reaper = point at reaper scanning
  cases reaper with
  | kept =>
    have found := held cutoff left toDrop scanning key session member
    generalize next.sessions = table at sessions ⊢
    cases sessions with
    | kept => exact found
    | inserted task inserted created present =>
      obtain ⟨_, _, _, unlocked, _⟩ := insert_ok taken
      rw [scanning] at unlocked
      contradiction
    | removed dropped listed =>
      rw [scanning] at listed
      contradiction
  | ticked start earlier =>
    obtain ⟨rfl, rfl, rfl⟩ := ReaperTask.scanning.inj scanning
    obtain ⟨entry, present, same⟩ := List.mem_map.mp member
    obtain ⟨rfl, rfl⟩ := Prod.mk.inj same
    generalize next.sessions = table at sessions ⊢
    cases sessions
    exact AList.mem_lookup_iff.mpr present
  | scanned scanned start before dropped examined point first =>
    obtain ⟨rfl, rfl, rfl⟩ := ReaperTask.scanning.inj scanning
    generalize next.sessions = table at sessions ⊢
    cases sessions
    exact held start before dropped point key session (List.mem_of_mem_erase member)
  | skipped scanned start before dropped examined point first holds =>
    obtain ⟨rfl, rfl, rfl⟩ := ReaperTask.scanning.inj scanning
    generalize next.sessions = table at sessions ⊢
    cases sessions
    exact held start before dropped point key session (List.mem_of_mem_erase member)
  | finished start dropped point =>
    split at scanning
    · contradiction
    · contradiction
  | removed dropped point => contradiction

/-! ## Accepts under way -/

/-- The key an accept will insert its session under, between the table check and the insert. -/
def PacketTask.acceptKey : PacketTask → Option SessionKey
  | .connecting key .. => some key
  | .inserting key .. => some key
  | _ => none

/-- Whether a datagram is a SYN that passes every check of `accept_new_session` but the one of the
table's size. -/
def admissible (env : BridgeEnv) (nowUnix : Int64) (pkt : Bytes) : Bool :=
  match Header.decode pkt, admitSyn env nowUnix pkt with
  | .ok header, .ok _ => header.flags.contains Flags.syn
  | _, _ => false

/-- Only an admitted SYN starts an accept, under the key of its datagram. -/
theorem acceptKey_move {task : Nat} {before after : PacketTask} {key : SessionKey}
    (move : TaskMove env state task event before after) (accepts : after.acceptKey = some key) :
    before.acceptKey = some key ∨ ∃ nowUnix pkt header, event = .poll task nowUnix ∧
      before = .spawned key.clientAddr pkt ∧ Header.decode pkt = .ok header ∧
      header.connectionId = key.connectionId ∧ admissible env nowUnix pkt = true ∧
      state.sessionCount < env.config.maxSessions := by
  cases move with
  | admitted nowUnix peer pkt header aeadKey connect front syn room admitted =>
    have passes : admissible env nowUnix pkt = true := by
      simp only [admissible, front, admitted, syn]
    obtain rfl := Option.some.inj accepts
    exact .inr ⟨nowUnix, pkt, header, rfl, rfl, front, rfl, passes, room⟩
  | connected => exact .inl accepts
  | _ => simp [PacketTask.acceptKey] at accepts

end LowPing.Bridge
