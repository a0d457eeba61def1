import LowPing.Bridge.Server

/-!
# What one step can do

One inversion lemma for each step of the server: the point its task was at, the guards it passed
and the state it leaves. Every invariant of the bridge is derived from these.
-/

namespace LowPing.Bridge

variable {env : BridgeEnv} {state next : BridgeState} {task : Nat}

/-- A first poll replaces a spawned task by the point `handle_packet` reaches. -/
theorem poll_ok {nowUnix : Int64} (taken : poll env state task nowUnix = some next) :
    ∃ peer pkt, state.tasks[task]? = some (.spawned peer pkt) ∧
      next = state.setTask task (handlePacket env state nowUnix peer pkt) := by
  unfold poll at taken
  split at taken
  · rename_i peer pkt point
    exact ⟨peer, pkt, point, (Option.some.inj taken).symm⟩
  · contradiction

/-- The lowest bit of a word is set or clear. -/
theorem and_one_cases (word : UInt32) : word &&& 1 = 0 ∨ word &&& 1 = 1 := by
  have bit : (word &&& 1).toNat = word.toNat % 2 := by
    rw [UInt32.toNat_and]
    exact Nat.and_one_is_mod _
  rcases Nat.mod_two_eq_zero_or_one word.toNat with even | odd
  · exact .inl (UInt32.toNat_inj.mp (bit.trans even))
  · exact .inr (UInt32.toNat_inj.mp (bit.trans odd))

/-- What the checks of `accept_new_session` establish. -/
theorem admitSyn_ok {nowUnix : Int64} {pkt : Bytes} {aeadKey : AeadKey} {connect : ConnectRequest}
    (admitted : admitSyn env nowUnix pkt = .ok (aeadKey, connect)) :
    ∃ header clientPk inner token, parseSynFront pkt = .ok (header, clientPk) ∧
      aeadKey = bridgeDeriveSessionKey env.crypto env.bridgeSecret clientPk ∧
      decryptSynPayload env.crypto aeadKey pkt = .ok inner ∧
      tokenLen + 4 ≤ inner.length ∧
      LicenseToken.fromBytes (inner.take tokenLen) = .ok token ∧
      token.verify env.crypto env.backendPubkey nowUnix = .ok () ∧
      (env.config.allowAnyScope = true ∨ token.payload.scope &&& 1 = 1) ∧
      ConnectRequest.decode (inner.drop tokenLen) = .ok connect := by
  unfold admitSyn at admitted
  split at admitted
  · contradiction
  · rename_i header clientPk front
    dsimp only at admitted
    split at admitted
    · contradiction
    · rename_i inner opened
      split at admitted
      · contradiction
      · rename_i long
        split at admitted
        · contradiction
        · rename_i token carried
          split at admitted
          · contradiction
          · rename_i verified
            split at admitted
            · contradiction
            · rename_i unscoped
              split at admitted
              · contradiction
              · rename_i request requested
                simp only [Except.ok.injEq, Prod.mk.injEq] at admitted
                obtain ⟨rfl, rfl⟩ := admitted
                refine ⟨header, clientPk, inner, token, front, rfl, opened,
                  Nat.le_of_not_lt long, carried, verified, ?_, requested⟩
                rcases and_one_cases token.payload.scope with clear | set
                · left
                  simpa [clear] using unscoped
                · exact .inr set

/-- A first poll ends in an error, awaits the destination of an admitted SYN, or waits for the
mutex of the session now under its key. -/
theorem handlePacket_cases (env : BridgeEnv) (state : BridgeState) (nowUnix : Int64)
    (peer : SocketAddr) (pkt : Bytes) :
    (∃ error, handlePacket env state nowUnix peer pkt = .returned (some error)) ∨
    (∃ header aeadKey connect, Header.decode pkt = .ok header ∧
      header.flags.contains Flags.syn = true ∧ state.sessionCount < env.config.maxSessions ∧
      admitSyn env nowUnix pkt = .ok (aeadKey, connect) ∧
      handlePacket env state nowUnix peer pkt =
        .connecting ⟨peer, header.connectionId⟩ aeadKey connect) ∨
    ∃ header session, Header.decode pkt = .ok header ∧
      header.flags.contains Flags.syn = false ∧
      state.sessions.lookup ⟨peer, header.connectionId⟩ = some session ∧
      handlePacket env state nowUnix peer pkt =
        .locking ⟨peer, header.connectionId⟩ session pkt := by
  unfold handlePacket
  split
  · exact .inl ⟨_, rfl⟩
  · rename_i header front
    split
    · exact .inl ⟨_, rfl⟩
    · split
      · rename_i syn
        unfold acceptNewSession
        split
        · exact .inl ⟨_, rfl⟩
        · rename_i room
          split
          · exact .inl ⟨_, rfl⟩
          · rename_i aeadKey connect admitted
            exact .inr (.inl ⟨header, aeadKey, connect, front, syn, Nat.lt_of_not_le room,
              admitted, rfl⟩)
      · rename_i data
        unfold forwardData
        split
        · exact .inl ⟨_, rfl⟩
        · rename_i session found
          exact .inr (.inr ⟨header, session, front, by simpa using data, found, rfl⟩)

/-- A successful connect opens a socket and creates a session outside the table. -/
theorem connected_ok (taken : connected state task = some next) :
    ∃ key aeadKey connect, state.tasks[task]? = some (.connecting key aeadKey connect) ∧
      next = { state with
        destinations := state.destinations ++ [connect]
        tasks := state.tasks.set task (.inserting key (Session.new aeadKey
          (openDest connect state.destinations.length) state.clock)) } := by
  unfold connected at taken
  split at taken
  · rename_i key aeadKey connect point
    exact ⟨key, aeadKey, connect, point, (Option.some.inj taken).symm⟩
  · contradiction

/-- A failed connect ends its task. -/
theorem connectFailed_ok (taken : connectFailed state task = some next) :
    ∃ key aeadKey connect, state.tasks[task]? = some (.connecting key aeadKey connect) ∧
      next = state.setTask task (.returned (some .connect)) := by
  unfold connectFailed at taken
  split at taken
  · rename_i key aeadKey connect point
    exact ⟨key, aeadKey, connect, point, (Option.some.inj taken).symm⟩
  · contradiction

/-- An insert puts a new cell under its key and spawns the drain task. -/
theorem insert_ok (taken : insert state task = some next) :
    ∃ key session, state.tasks[task]? = some (.inserting key session) ∧
      state.reaper.reading = false ∧
      next = { state with
        sessions := state.sessions.insert key state.cells.length
        cells := state.cells ++ [⟨session, false⟩]
        tasks := state.tasks.set task (.returned none)
        drains := state.drains ++ [⟨key, state.cells.length, session.destWriter.reader, true⟩]
        trace := state.trace ++ [.accepted key state.cells.length] } := by
  unfold insert at taken
  split at taken
  · rename_i key session point
    split at taken
    · contradiction
    · rename_i free
      exact ⟨key, session, point, by simpa using free, (Option.some.inj taken).symm⟩
  · contradiction

/-- With the mutex, a data frame either fails to open or is stamped and written. -/
theorem lock_ok (taken : lock env state task = some next) :
    ∃ key session pkt cell, state.tasks[task]? = some (.locking key session pkt) ∧
      state.cells[session]? = some cell ∧ cell.locked = false ∧
      ((∃ failure, decryptFrame env.crypto cell.session.aeadKey pkt = .error failure ∧
          next = state.setTask task (.returned (some (.protocol failure)))) ∨
        ∃ header payload, decryptFrame env.crypto cell.session.aeadKey pkt = .ok (header, payload) ∧
          next = { state with
            cells := state.cells.set session
              ⟨{ cell.session with lastActive := state.clock }, true⟩
            tasks := state.tasks.set task (.writing key session header payload)
            trace := state.trace ++ [.write key session header payload state.clock] }) := by
  unfold lock at taken
  split at taken
  · rename_i key session pkt point
    split at taken
    · contradiction
    · rename_i cell present
      split at taken
      · contradiction
      · rename_i free
        refine ⟨key, session, pkt, cell, point, present, by simpa using free, ?_⟩
        split at taken
        · rename_i failure opened
          exact .inl ⟨failure, opened, (Option.some.inj taken).symm⟩
        · rename_i header payload opened
          exact .inr ⟨header, payload, opened, (Option.some.inj taken).symm⟩
  · contradiction

/-- With the mutex free, a frame that opens is stamped and written. -/
theorem lock_opens {key : SessionKey} {session : SessionId} {pkt payload : Bytes}
    {cell : SessionCell} {header : Header}
    (point : state.tasks[task]? = some (.locking key session pkt))
    (present : state.cells[session]? = some cell) (free : cell.locked = false)
    (opened : decryptFrame env.crypto cell.session.aeadKey pkt = .ok (header, payload)) :
    lock env state task = some { state with
      cells := state.cells.set session ⟨{ cell.session with lastActive := state.clock }, true⟩
      tasks := state.tasks.set task (.writing key session header payload)
      trace := state.trace ++ [.write key session header payload state.clock] } := by
  simp [lock, point, present, free, opened]

/-- A TCP destination takes a nonempty prefix of the remaining bytes. -/
theorem writeSome_ok {count : Nat} (taken : writeSome state task count = some next) :
    ∃ key session header rest cell socket,
      state.tasks[task]? = some (.writing key session header rest) ∧
      state.cells[session]? = some cell ∧ cell.session.destWriter = .tcp socket ∧
      0 < count ∧ count ≤ rest.length ∧
      next = { state with
        tasks := state.tasks.set task (.writing key session header (rest.drop count))
        trace := state.trace ++ [.delivered session socket (rest.take count) state.clock] } := by
  unfold writeSome at taken
  split at taken
  · rename_i key session header rest point
    split at taken
    · rename_i aeadKey sequence stamp socket locked present
      split at taken
      · rename_i bounds
        exact ⟨key, session, header, rest, _, socket, point, present, rfl, bounds.1, bounds.2,
          (Option.some.inj taken).symm⟩
      · contradiction
    · contradiction
  · contradiction

/-- A write ends with nothing left on TCP and with the whole datagram on UDP. -/
theorem writeDone_ok (taken : writeDone state task = some next) :
    ∃ key session header rest cell, state.tasks[task]? = some (.writing key session header rest) ∧
      state.cells[session]? = some cell ∧
      ((∃ socket, cell.session.destWriter = .tcp socket ∧ rest = [] ∧
          next = { state with
            cells := unlock state.cells session
            tasks := state.tasks.set task (.returned none) }) ∨
        ∃ socket, cell.session.destWriter = .udp socket ∧
          next = { state with
            cells := unlock state.cells session
            tasks := state.tasks.set task (.returned none)
            trace := state.trace ++ [.delivered session socket rest state.clock] }) := by
  unfold writeDone at taken
  split at taken
  · rename_i key session header rest point
    split at taken
    · rename_i aeadKey sequence stamp socket locked present
      split at taken
      · rename_i finished
        exact ⟨key, session, header, rest, _, point, present,
          .inl ⟨socket, rfl, finished, (Option.some.inj taken).symm⟩⟩
      · contradiction
    · rename_i aeadKey sequence stamp socket locked present
      exact ⟨key, session, header, rest, _, point, present,
        .inr ⟨socket, rfl, (Option.some.inj taken).symm⟩⟩
    · contradiction
  · contradiction

/-- A failed write releases the mutex and ends its task. -/
theorem writeFailed_ok (taken : writeFailed state task = some next) :
    ∃ key session header rest, state.tasks[task]? = some (.writing key session header rest) ∧
      next = { state with
        cells := unlock state.cells session
        tasks := state.tasks.set task (.returned (some .write)) } := by
  unfold writeFailed at taken
  split at taken
  · rename_i key session header rest point
    exact ⟨key, session, header, rest, point, (Option.some.inj taken).symm⟩
  · contradiction

/-- A drain task queues what one read put into its buffer. -/
theorem drain_ok {bytes : Bytes} (taken : drain state task bytes = some next) :
    ∃ key session reader payload, state.drains[task]? = some ⟨key, session, reader, true⟩ ∧
      readInto reader bytes = some payload ∧
      next = { state with
        downstream := state.downstream ++ [⟨⟨key, payload⟩, session⟩]
        trace := state.trace ++ [.read session payload] } := by
  unfold drain at taken
  split at taken
  · rename_i key session reader point
    split at taken
    · contradiction
    · rename_i payload filled
      exact ⟨key, session, reader, payload, point, filled, (Option.some.inj taken).symm⟩
  · contradiction

/-- A drain task that returns only stops being active. -/
theorem drainEnd_ok (taken : drainEnd state task = some next) :
    ∃ key session reader, state.drains[task]? = some ⟨key, session, reader, true⟩ ∧
      next = { state with drains := state.drains.set task ⟨key, session, reader, false⟩ } := by
  unfold drainEnd at taken
  split at taken
  · rename_i key session reader point
    exact ⟨key, session, reader, point, (Option.some.inj taken).symm⟩
  · contradiction

/-- The sender takes the oldest packet of the channel. -/
theorem senderReceive_ok (taken : senderReceive state = some next) :
    ∃ queued later, state.sender = .receiving ∧ state.downstream = queued :: later ∧
      next = { state with downstream := later, sender := .looking queued } := by
  unfold senderReceive at taken
  split at taken
  · rename_i queued later point channel
    exact ⟨queued, later, point, channel, (Option.some.inj taken).symm⟩
  · contradiction

/-- The sender clones the session now under the packet's key, or drops the packet. -/
theorem senderLookup_ok (taken : senderLookup state = some next) :
    ∃ queued, state.sender = .looking queued ∧
      ((state.sessions.lookup queued.packet.sessionKey = none ∧
          next = { state with sender := .receiving }) ∨
        ∃ session, state.sessions.lookup queued.packet.sessionKey = some session ∧
          next = { state with sender := .locking queued session }) := by
  unfold senderLookup at taken
  split at taken
  · rename_i queued point
    refine ⟨queued, point, ?_⟩
    split at taken
    · rename_i absent
      exact .inl ⟨absent, (Option.some.inj taken).symm⟩
    · rename_i session found
      exact .inr ⟨session, found, (Option.some.inj taken).symm⟩
  · contradiction

/-- With the mutex, the sender counts and encrypts, or counts and drops an oversized payload. -/
theorem senderEncrypt_ok (taken : senderEncrypt env state = some next) :
    ∃ queued session cell, state.sender = .locking queued session ∧
      state.cells[session]? = some cell ∧ cell.locked = false ∧
      let header := cell.session.nextHeader queued.packet.sessionKey.connectionId
      let cells := state.cells.set session
        ⟨{ cell.session with txSequence := header.sequence }, false⟩
      ((∃ failure, encryptFrame env.crypto cell.session.aeadKey header queued.packet.payload =
            .error failure ∧
          next = { state with cells := cells, sender := .receiving }) ∨
        ∃ wire, encryptFrame env.crypto cell.session.aeadKey header queued.packet.payload =
            .ok wire ∧
          next = { state with
            cells := cells
            sender := .sending queued session wire
            trace := state.trace ++ [.encrypted queued session header state.clock] }) := by
  unfold senderEncrypt at taken
  split at taken
  · rename_i queued session point
    split at taken
    · contradiction
    · rename_i cell present
      split at taken
      · contradiction
      · rename_i free
        refine ⟨queued, session, cell, point, present, by simpa using free, ?_⟩
        simp only [Session.encryptDownstream] at taken
        split at taken
        · rename_i failure sealed
          exact .inl ⟨failure, sealed, (Option.some.inj taken).symm⟩
        · rename_i wire sealed
          exact .inr ⟨wire, sealed, (Option.some.inj taken).symm⟩
  · contradiction

/-- A returned send leaves the sender at the channel. -/
theorem senderSend_ok {success : Bool} (taken : senderSend state success = some next) :
    ∃ queued session wire, state.sender = .sending queued session wire ∧
      next = { state with
        sender := .receiving
        trace := if success then state.trace ++ [.sent queued session wire state.clock]
          else state.trace } := by
  unfold senderSend at taken
  split at taken
  · rename_i queued session wire point
    exact ⟨queued, session, wire, point, (Option.some.inj taken).symm⟩
  · contradiction

/-- A tick starts a scan of the whole table against a cutoff. -/
theorem reaperTick_ok (taken : reaperTick env state = some next) :
    ∃ cutoff, state.reaper = .ticking ∧
      instantSub state.clock env.config.idleTimeoutSecs = some cutoff ∧
      next = { state with
        reaper := .scanning cutoff
          (state.sessions.entries.map fun entry => (entry.1, entry.2)) [] } := by
  unfold reaperTick at taken
  split at taken
  · rename_i point
    obtain ⟨cutoff, earlier, rfl⟩ := Option.map_eq_some_iff.mp taken
    exact ⟨cutoff, point, earlier, rfl⟩
  · contradiction

/-- A scan step lists an entry exactly when it is idle. -/
theorem reaperScan_ok {key : SessionKey} (taken : reaperScan state key = some next) :
    ∃ cutoff left toDrop session, state.reaper = .scanning cutoff left toDrop ∧
      left.find? (fun entry => entry.1 = key) = some (key, session) ∧
      next = { state with
        reaper := .scanning cutoff (left.erase (key, session))
          (if idle state cutoff session then toDrop ++ [key] else toDrop) } := by
  unfold reaperScan at taken
  split at taken
  · rename_i cutoff left toDrop point
    split at taken
    · contradiction
    · rename_i entry found
      have same : entry.1 = key := by simpa using List.find?_some found
      obtain ⟨entryKey, session⟩ := entry
      obtain rfl : entryKey = key := same
      exact ⟨cutoff, left, toDrop, session, point, found, (Option.some.inj taken).symm⟩
  · contradiction

/-- A skip passes over an entry whose mutex the sender may have. -/
theorem reaperSkip_ok {key : SessionKey} (taken : reaperSkip state key = some next) :
    ∃ cutoff left toDrop session, state.reaper = .scanning cutoff left toDrop ∧
      left.find? (fun entry => entry.1 = key) = some (key, session) ∧
      state.sender.mayHold session = true ∧
      next = { state with reaper := .scanning cutoff (left.erase (key, session)) toDrop } := by
  unfold reaperSkip at taken
  split at taken
  · rename_i cutoff left toDrop point
    split at taken
    · contradiction
    · rename_i entry found
      have same : entry.1 = key := by simpa using List.find?_some found
      obtain ⟨entryKey, session⟩ := entry
      obtain rfl : entryKey = key := same
      split at taken
      · rename_i holds
        exact ⟨cutoff, left, toDrop, session, point, found, holds, (Option.some.inj taken).symm⟩
      · contradiction
  · contradiction

/-- A finished scan goes on to remove what it listed, if anything. -/
theorem reaperScanned_ok (taken : reaperScanned state = some next) :
    ∃ cutoff toDrop, state.reaper = .scanning cutoff [] toDrop ∧
      next = { state with reaper := if toDrop = [] then .ticking else .removing toDrop } := by
  unfold reaperScanned at taken
  split at taken
  · rename_i cutoff toDrop point
    exact ⟨cutoff, toDrop, point, (Option.some.inj taken).symm⟩
  · contradiction

/-- A removal erases every listed key. -/
theorem reaperRemove_ok (taken : reaperRemove state = some next) :
    ∃ toDrop, state.reaper = .removing toDrop ∧
      next = { state with
        sessions := toDrop.foldl (fun table key => table.erase key) state.sessions
        reaper := .ticking
        trace := state.trace ++ reapedOutputs state.sessions state.clock toDrop } := by
  unfold reaperRemove at taken
  split at taken
  · rename_i toDrop point
    exact ⟨toDrop, point, (Option.some.inj taken).symm⟩
  · contradiction

end LowPing.Bridge
