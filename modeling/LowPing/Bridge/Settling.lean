import LowPing.Library.Settling
import LowPing.Bridge.Conservation
import LowPing.Tunnel.Handshake

/-!
# The bridge comes to rest

Packet tasks wait for the mutex of a session and for the write lock of the table, the sender for a
mutex, the reaper for its own removals. Whoever holds a mutex waits for a destination and for no
lock, and the reaper never waits for a mutex. So when nothing new arrives, every task ends: after a
bounded number of steps, in whatever order they are taken.
-/

namespace LowPing.Bridge

open Library Library.Machine LowPing.Tunnel

/-- Whether an event goes on with what the bridge has begun. The others bring something new: a
datagram, bytes or the end of a destination, a tick, time. -/
def Event.own : Event → Bool
  | .receive .. => false
  | .drain .. => false
  | .drainEnd _ => false
  | .reaperTick => false
  | .advance _ => false
  | _ => true

/-- Whether a task of the bridge goes on without a failure of the network. -/
def Event.favourable : Event → Bool
  | .connectFailed _ => false
  | .writeFailed _ => false
  | .senderSend success => success
  | event => event.own

/-- How many steps a packet task may still take. -/
def PacketTask.work : PacketTask → Nat
  | .spawned _ pkt => pkt.length + 4
  | .connecting .. => 2
  | .inserting .. => 1
  | .locking _ _ pkt => pkt.length + 2
  | .writing _ _ _ rest => rest.length + 1
  | .returned _ => 0

/-- How many steps the sender may still take for the packet it has. -/
def SenderTask.work : SenderTask → Nat
  | .receiving => 0
  | .looking _ => 3
  | .locking .. => 2
  | .sending .. => 1

/-- How many steps the reaper may still take before it waits for its next tick. -/
def ReaperTask.work : ReaperTask → Nat
  | .ticking => 0
  | .scanning _ left _ => left.length + 2
  | .removing _ => 1

/-- How many steps the bridge may still take if nothing new arrives. -/
def BridgeState.work (state : BridgeState) : Nat :=
  (state.tasks.map PacketTask.work).sum + 4 * state.downstream.length + state.sender.work +
    state.reaper.work

/-- Nothing is under way: every datagram has been handled, every packet for a client sent or
dropped, and no mutex is locked. -/
structure BridgeState.Settled (state : BridgeState) : Prop where
  /-- Every packet task has returned. -/
  tasks : ∀ point ∈ state.tasks, ∃ error, point = .returned error
  /-- The channel is empty. -/
  channel : state.downstream = []
  /-- The sender awaits it. -/
  sender : state.sender = .receiving
  /-- The reaper awaits its tick. -/
  reaper : state.reaper = .ticking
  /-- No mutex is locked. -/
  free : ∀ cell ∈ state.cells, cell.locked = false

/-- Whoever waits for a session waits for one that exists, and a locked mutex has its writer. -/
structure Runnable (state : BridgeState) : Prop where
  /-- Tasks and the sender came by accepted sessions. -/
  attributed : Attributed state
  /-- A locked mutex is held by a packet task that writes. -/
  writer : ∀ (session : SessionId) (cell : SessionCell), state.cells[session]? = some cell →
    cell.locked = true →
    ∃ (task : Nat) (point : PacketTask), state.tasks[task]? = some point ∧
      point.writes = some session

section

variable {env : BridgeEnv} {state next : BridgeState} {event : Event}

/-- A task that goes on writing for a session, unless its write has just ended. -/
theorem writes_kept {task : Nat} {point : PacketTask} {session : SessionId}
    (taken : step env state event = some next) (present : state.tasks[task]? = some point)
    (writes : point.writes = some session) :
    (∃ after : PacketTask, next.tasks[task]? = some after ∧ after.writes = some session) ∨
      event = .writeDone task ∨ event = .writeFailed task := by
  by_cases runs : event.runs = some task
  · rcases arrivals_step taken with ⟨_, _, rfl, _⟩ | ⟨_, tasks | ⟨moving, before, after, found,
      move, tasks⟩⟩
    · cases runs
    · exact .inl ⟨point, by rw [tasks, present], writes⟩
    · obtain rfl : moving = task := Option.some.inj ((runs_of_move move).symm.trans runs)
      obtain rfl := Option.some.inj (found.symm.trans present)
      have bound := (List.getElem?_eq_some_iff.mp present).1
      cases move with
      | wrote key target header rest count =>
        exact .inl ⟨.writing key target header (rest.drop count),
          by rw [tasks, List.getElem?_set_self bound], writes⟩
      | written => exact .inr (.inl rfl)
      | writeFailed => exact .inr (.inr rfl)
      | _ => contradiction
  · exact .inl ⟨point, task_kept taken runs present, writes⟩

/-- A write that ends releases the mutex of its session. -/
theorem ends_unlock {task : Nat} (ends : event = .writeDone task ∨ event = .writeFailed task)
    (taken : step env state event = some next) :
    ∃ key session header rest, state.tasks[task]? = some (.writing key session header rest) ∧
      next.cells = unlock state.cells session := by
  rcases ends with rfl | rfl
  · obtain ⟨key, session, header, rest, _, point, _, ⟨_, _, _, rfl⟩ | ⟨_, _, rfl⟩⟩ :=
      writeDone_ok taken
    · exact ⟨key, session, header, rest, point, rfl⟩
    · exact ⟨key, session, header, rest, point, rfl⟩
  · obtain ⟨key, session, header, rest, point, rfl⟩ := writeFailed_ok taken
    exact ⟨key, session, header, rest, point, rfl⟩

/-- A mutex locked by then was locked before, or a packet task has just locked it to write. -/
theorem locked_before {session : SessionId} {last : SessionCell}
    (taken : step env state event = some next) (present : next.cells[session]? = some last)
    (locked : last.locked = true) :
    (∃ cell, state.cells[session]? = some cell ∧ cell.locked = true) ∨
      ∃ (task : Nat) (point : PacketTask), next.tasks[task]? = some point ∧
        point.writes = some session := by
  by_cases locks : ∃ task, event = .lock task
  · obtain ⟨task, rfl⟩ := locks
    obtain ⟨key, target, pkt, cell, point, found, free, ⟨failure, _, rfl⟩ |
      ⟨header, payload, opened, rfl⟩⟩ := lock_ok taken
    · exact .inl ⟨last, present, locked⟩
    · rcases Update.getElem?_set_cases present with ⟨rfl, rfl⟩ | ⟨_, old⟩
      · have bound := (List.getElem?_eq_some_iff.mp point).1
        exact .inr ⟨task, _, List.getElem?_set_self bound, rfl⟩
      · exact .inl ⟨last, old, locked⟩
  · have footprint := (step_footprint taken).cells
    generalize next.cells = cells at footprint present
    cases footprint with
    | kept => exact .inl ⟨last, present, locked⟩
    | stamped task => exact absurd ⟨task, rfl⟩ locks
    | created task key created started =>
      rcases Update.getElem?_concat_cases present with ⟨_, rfl⟩ | old
      · contradiction
      · exact .inl ⟨last, old, locked⟩
    | released event task key target header rest ends point =>
      by_cases same : target = session
      · subst same
        rw [unlock, List.getElem?_modify_eq] at present
        obtain ⟨cell, found, rfl⟩ := Option.map_eq_some_iff.mp present
        contradiction
      · rw [unlock, List.getElem?_modify_ne _ _ same] at present
        exact .inl ⟨last, present, locked⟩
    | counted queued target held point found free =>
      rcases Update.getElem?_set_cases present with ⟨_, rfl⟩ | ⟨_, old⟩
      · contradiction
      · exact .inl ⟨last, old, locked⟩

/-- Every step keeps the bridge runnable. -/
theorem runnable_step (held : Runnable state) (taken : step env state event = some next) :
    Runnable next where
  attributed := attributed_step held.attributed taken
  writer session last present locked := by
    rcases locked_before taken present locked with ⟨cell, found, before⟩ | started
    · obtain ⟨task, point, here, writes⟩ := held.writer session cell found before
      rcases writes_kept taken here writes with ⟨after, there, still⟩ | ends
      · exact ⟨task, after, there, still⟩
      · -- The task's write has ended, and the mutex it held is free.
        obtain ⟨key, target, header, rest, writing, released⟩ := ends_unlock ends taken
        obtain rfl := Option.some.inj (here.symm.trans writing)
        obtain rfl := Option.some.inj writes
        rw [released, unlock, List.getElem?_modify_eq, found] at present
        obtain rfl := Option.some.inj present
        contradiction
    · exact started

/-- Before the first datagram it is. -/
theorem runnable_start (clock : Instant) : Runnable (.start clock) :=
  ⟨attributed_start clock, nofun⟩

/-! ## The work left -/

/-- An opened frame is no longer than its datagram. -/
theorem length_opened (laws : CryptoLaws env.crypto) {aeadKey : AeadKey} {pkt payload : Bytes}
    {header : Header} (opened : decryptFrame env.crypto aeadKey pkt = .ok (header, payload)) :
    payload.length ≤ pkt.length := by
  obtain ⟨_, _, decrypted⟩ := decryptFrame_ok opened
  have sealed := (laws.decrypt_iff _ _ _ _ _).mp decrypted
  have lengths := congrArg List.length sealed
  rw [laws.length_encrypt, List.length_drop] at lengths
  omega

/-- A packet task that moves lowers the work of all. -/
theorem work_moved {task : Nat} {before after : PacketTask}
    (present : state.tasks[task]? = some before) (less : after.work < before.work)
    (tasks : next.tasks = state.tasks.set task after)
    (channel : next.downstream = state.downstream) (sender : next.sender = state.sender)
    (reaper : next.reaper = state.reaper) : next.work < state.work := by
  have exchanged := sum_map_set_add PacketTask.work present after
  unfold BridgeState.work
  rw [tasks, channel, sender, reaper]
  omega

/-- The first poll of a task leaves it at most one step for each byte and two more. -/
theorem work_handled (env : BridgeEnv) (state : BridgeState) (nowUnix : Int64) (peer : SocketAddr)
    (pkt : Bytes) : (handlePacket env state nowUnix peer pkt).work ≤ pkt.length + 2 := by
  obtain ⟨error, ended⟩ | ⟨header, aeadKey, connect, _, _, _, _, awaits⟩ |
    ⟨header, session, _, _, _, waits⟩ := handlePacket_cases env state nowUnix peer pkt
  · rw [ended]
    exact Nat.zero_le _
  · rw [awaits]
    exact Nat.le_add_left 2 pkt.length
  · rw [waits]
    exact Nat.le_refl _

/-- What the bridge does by itself lowers its work. -/
theorem work_step (laws : CryptoLaws env.crypto) (own : event.own = true)
    (taken : step env state event = some next) : next.work < state.work := by
  cases event with
  | receive | drain | drainEnd | reaperTick | advance => contradiction
  | poll task nowUnix =>
    obtain ⟨peer, pkt, point, rfl⟩ := poll_ok taken
    have handled := work_handled env state nowUnix peer pkt
    refine work_moved point ?_ rfl rfl rfl rfl
    show (handlePacket env state nowUnix peer pkt).work < pkt.length + 4
    omega
  | connected task =>
    obtain ⟨key, aeadKey, connect, point, rfl⟩ := connected_ok taken
    exact work_moved point (by simp [PacketTask.work]) rfl rfl rfl rfl
  | connectFailed task =>
    obtain ⟨key, aeadKey, connect, point, rfl⟩ := connectFailed_ok taken
    exact work_moved point (by simp [PacketTask.work]) rfl rfl rfl rfl
  | insert task =>
    obtain ⟨key, session, point, _, rfl⟩ := insert_ok taken
    exact work_moved point (by simp [PacketTask.work]) rfl rfl rfl rfl
  | lock task =>
    obtain ⟨key, session, pkt, cell, point, _, _, ⟨failure, _, rfl⟩ |
      ⟨header, payload, opened, rfl⟩⟩ := lock_ok taken
    · exact work_moved point (by simp [PacketTask.work]) rfl rfl rfl rfl
    · have shorter := length_opened laws opened
      refine work_moved point ?_ rfl rfl rfl rfl
      show payload.length + 1 < pkt.length + 2
      omega
  | writeSome task count =>
    obtain ⟨key, session, header, rest, _, _, point, _, _, positive, bound, rfl⟩ :=
      writeSome_ok taken
    refine work_moved point ?_ rfl rfl rfl rfl
    simp only [PacketTask.work, List.length_drop]
    omega
  | writeDone task =>
    obtain ⟨key, session, header, rest, _, point, _, ⟨_, _, _, rfl⟩ | ⟨_, _, rfl⟩⟩ :=
      writeDone_ok taken
    · exact work_moved point (by simp [PacketTask.work]) rfl rfl rfl rfl
    · exact work_moved point (by simp [PacketTask.work]) rfl rfl rfl rfl
  | writeFailed task =>
    obtain ⟨key, session, header, rest, point, rfl⟩ := writeFailed_ok taken
    exact work_moved point (by simp [PacketTask.work]) rfl rfl rfl rfl
  | senderReceive =>
    obtain ⟨queued, later, idle, channel, rfl⟩ := senderReceive_ok taken
    simp only [BridgeState.work, idle, channel, SenderTask.work, List.length_cons]
    omega
  | senderLookup =>
    obtain ⟨queued, point, ⟨_, rfl⟩ | ⟨session, _, rfl⟩⟩ := senderLookup_ok taken
    · simp only [BridgeState.work, point, SenderTask.work]
      omega
    · simp only [BridgeState.work, point, SenderTask.work]
      omega
  | senderEncrypt =>
    obtain ⟨queued, session, cell, point, _, _, ⟨_, _, rfl⟩ | ⟨_, _, rfl⟩⟩ :=
      senderEncrypt_ok taken
    · simp only [BridgeState.work, point, SenderTask.work]
      omega
    · simp only [BridgeState.work, point, SenderTask.work]
      omega
  | senderSend success =>
    obtain ⟨queued, session, wire, point, rfl⟩ := senderSend_ok taken
    simp only [BridgeState.work, point, SenderTask.work]
    omega
  | reaperScan key =>
    obtain ⟨cutoff, left, toDrop, session, point, first, rfl⟩ := reaperScan_ok taken
    have shorter := List.length_erase_of_mem (List.mem_of_find?_eq_some first)
    have inhabited := List.length_pos_of_mem (List.mem_of_find?_eq_some first)
    simp only [BridgeState.work, point, ReaperTask.work, shorter]
    omega
  | reaperSkip key =>
    obtain ⟨cutoff, left, toDrop, session, point, first, holds, rfl⟩ := reaperSkip_ok taken
    have shorter := List.length_erase_of_mem (List.mem_of_find?_eq_some first)
    have inhabited := List.length_pos_of_mem (List.mem_of_find?_eq_some first)
    simp only [BridgeState.work, point, ReaperTask.work, shorter]
    omega
  | reaperScanned =>
    obtain ⟨cutoff, toDrop, point, rfl⟩ := reaperScanned_ok taken
    have less : (if toDrop = [] then ReaperTask.ticking else .removing toDrop).work ≤ 1 := by
      split <;> simp [ReaperTask.work]
    have examined : (ReaperTask.scanning cutoff [] toDrop).work = 2 := rfl
    simp only [BridgeState.work, point, examined]
    omega
  | reaperRemove =>
    obtain ⟨toDrop, point, rfl⟩ := reaperRemove_ok taken
    simp only [BridgeState.work, point, ReaperTask.work]
    omega

/-! ## Who can go on -/

/-- A reaper that does not await its tick can go on. -/
theorem reaper_continues (busy : state.reaper ≠ .ticking) :
    ∃ event next, event.favourable = true ∧ step env state event = some next := by
  cases point : state.reaper with
  | ticking => exact absurd point busy
  | scanning cutoff left toDrop =>
    cases left with
    | nil => exact ⟨.reaperScanned, _, rfl, by simp only [step, reaperScanned, point]; rfl⟩
    | cons entry left =>
      have first : (entry :: left).find? (fun one => one.1 = entry.1) = some entry :=
        List.find?_cons_of_pos (by simp)
      exact ⟨.reaperScan entry.1, _, rfl, by simp only [step, reaperScan, point, first]; rfl⟩
  | removing toDrop => exact ⟨.reaperRemove, _, rfl, by simp only [step, reaperRemove, point]; rfl⟩

/-- A task that writes can go on: the destination takes all that is left, or the write ends. -/
theorem writer_continues (held : Runnable state) {task : Nat} {point : PacketTask}
    {session : SessionId} (present : state.tasks[task]? = some point)
    (writes : point.writes = some session) :
    ∃ event next, event.favourable = true ∧ step env state event = some next := by
  cases point with
  | writing key target header rest =>
    obtain rfl := Option.some.inj writes
    have keyed := held.attributed.keyed
    have bound := keyed.bound key target (keyed.serves task _ key target present rfl)
    obtain ⟨cell, found⟩ : ∃ cell, state.cells[target]? = some cell :=
      ⟨_, List.getElem?_eq_getElem bound⟩
    obtain ⟨⟨aeadKey, sequence, stamp, writer⟩, locked⟩ := cell
    cases writer with
    | tcp socket =>
      by_cases finished : rest = []
      · exact ⟨.writeDone task, _, rfl, by
          simp only [step, writeDone, present, found, finished, ↓reduceIte]
          rfl⟩
      · have some : 0 < rest.length := List.length_pos_iff.mpr finished
        exact ⟨.writeSome task rest.length, _, rfl, by
          simp only [step, writeSome, present, found, some, Nat.le_refl, and_self, ↓reduceIte]
          rfl⟩
    | udp socket =>
      exact ⟨.writeDone task, _, rfl, by simp only [step, writeDone, present, found]; rfl⟩
  | _ => contradiction

/-- Where nobody writes no mutex is locked. -/
theorem Runnable.free (held : Runnable state)
    (silent : ∀ (task : Nat) (point : PacketTask), state.tasks[task]? = some point →
      point.writes = none) : ∀ cell ∈ state.cells, cell.locked = false := by
  intro cell member
  obtain ⟨session, bound, rfl⟩ := List.mem_iff_getElem.mp member
  by_contra locked
  obtain ⟨task, point, present, writes⟩ := held.writer session _
    (List.getElem?_eq_getElem bound) (by simpa using locked)
  rw [silent task point present] at writes
  contradiction

/-- A packet task that has not returned can go on where the reaper waits and nobody writes. -/
theorem task_continues (held : Runnable state) (resting : state.reaper = .ticking)
    (free : ∀ cell ∈ state.cells, cell.locked = false) {task : Nat} {point : PacketTask}
    (present : state.tasks[task]? = some point) (silent : point.writes = none)
    (busy : ∀ error, point ≠ .returned error) :
    ∃ event next, event.favourable = true ∧ step env state event = some next := by
  cases point with
  | spawned peer pkt => exact ⟨.poll task 0, _, rfl, by simp only [step, poll, present]; rfl⟩
  | connecting key aeadKey connect =>
    exact ⟨.connected task, _, rfl, by simp only [step, connected, present]; rfl⟩
  | inserting key session =>
    exact ⟨.insert task, _, rfl, by
      simp only [step, insert, present, resting, ReaperTask.reading, Bool.false_eq_true,
        ↓reduceIte]
      rfl⟩
  | locking key session pkt =>
    have keyed := held.attributed.keyed
    have bound := keyed.bound key session (keyed.serves task _ key session present rfl)
    obtain ⟨cell, found⟩ : ∃ cell, state.cells[session]? = some cell :=
      ⟨_, List.getElem?_eq_getElem bound⟩
    have unlocked := free cell (List.mem_of_getElem? found)
    cases opened : decryptFrame env.crypto cell.session.aeadKey pkt with
    | error failure =>
      exact ⟨.lock task, _, rfl, by
        simp only [step, lock, present, found, unlocked, opened, Bool.false_eq_true, ↓reduceIte]
        rfl⟩
    | ok frame => exact ⟨.lock task, _, rfl, lock_opens present found unlocked opened⟩
  | writing key session header rest => contradiction
  | returned error => exact absurd rfl (busy error)

/-- The sender can go on where nobody writes, if it has a packet or one waits. -/
theorem sender_continues (held : Runnable state)
    (free : ∀ cell ∈ state.cells, cell.locked = false)
    (busy : ¬ (state.downstream = [] ∧ state.sender = .receiving)) :
    ∃ event next, event.favourable = true ∧ step env state event = some next := by
  cases point : state.sender with
  | receiving =>
    cases channel : state.downstream with
    | nil => exact absurd ⟨channel, point⟩ busy
    | cons queued later =>
      exact ⟨.senderReceive, _, rfl, by simp only [step, senderReceive, point, channel]; rfl⟩
  | looking queued =>
    cases found : state.sessions.lookup queued.packet.sessionKey with
    | none => exact ⟨.senderLookup, _, rfl, by simp only [step, senderLookup, point, found]; rfl⟩
    | some session =>
      exact ⟨.senderLookup, _, rfl, by simp only [step, senderLookup, point, found]; rfl⟩
  | locking queued session =>
    have accepted := held.attributed.sender queued session (.inl point)
    have bound := held.attributed.keyed.bound _ session accepted
    obtain ⟨cell, found⟩ : ∃ cell, state.cells[session]? = some cell :=
      ⟨_, List.getElem?_eq_getElem bound⟩
    have unlocked := free cell (List.mem_of_getElem? found)
    cases sealed : (cell.session.encryptDownstream env.crypto
        queued.packet.sessionKey.connectionId queued.packet.payload).2 with
    | error failure =>
      exact ⟨.senderEncrypt, _, rfl, by
        simp only [step, senderEncrypt, point, found, unlocked, sealed, Bool.false_eq_true,
          ↓reduceIte]
        rfl⟩
    | ok wire =>
      exact ⟨.senderEncrypt, _, rfl, by
        simp only [step, senderEncrypt, point, found, unlocked, sealed, Bool.false_eq_true,
          ↓reduceIte]
        rfl⟩
  | sending queued session wire =>
    exact ⟨.senderSend true, _, rfl, by simp only [step, senderSend, point]; rfl⟩

/-- Outside a settled state some task can go on without a failure. -/
theorem runnable_continues (held : Runnable state) (busy : ¬ state.Settled) :
    ∃ event next, event.favourable = true ∧ step env state event = some next := by
  by_cases resting : state.reaper = .ticking
  · by_cases writing : ∃ (task : Nat) (point : PacketTask) (session : SessionId),
        state.tasks[task]? = some point ∧ point.writes = some session
    · obtain ⟨task, point, session, present, writes⟩ := writing
      exact writer_continues held present writes
    · have silent (task : Nat) (point : PacketTask) (present : state.tasks[task]? = some point) :
          point.writes = none := by
        by_contra writes
        obtain ⟨session, writes⟩ := Option.ne_none_iff_exists'.mp writes
        exact writing ⟨task, point, session, present, writes⟩
      have free := held.free silent
      by_cases tasks : ∀ point ∈ state.tasks, ∃ error, point = .returned error
      · by_cases sender : state.downstream = [] ∧ state.sender = .receiving
        · exact absurd ⟨tasks, sender.1, sender.2, resting, free⟩ busy
        · exact sender_continues held free sender
      · obtain ⟨point, member, running⟩ :
            ∃ point ∈ state.tasks, ∀ error, point ≠ .returned error := by
          simpa using tasks
        obtain ⟨task, bound, rfl⟩ := List.mem_iff_getElem.mp member
        have present := List.getElem?_eq_getElem bound
        exact task_continues held resting free present (silent task _ present) running
  · exact reaper_continues resting

/-- In a settled state no task of the bridge can go on by itself. -/
theorem settled_rests (settled : state.Settled) (own : event.own = true) :
    step env state event = none := by
  by_contra goes
  obtain ⟨next, taken⟩ := Option.ne_none_iff_exists'.mp goes
  have idle {task : Nat} {point : PacketTask} (present : state.tasks[task]? = some point)
      (running : ∀ error, point ≠ .returned error) : False := by
    obtain ⟨error, done⟩ := settled.tasks point (List.mem_of_getElem? present)
    exact running error done
  cases event with
  | receive | drain | drainEnd | reaperTick | advance => contradiction
  | poll task nowUnix =>
    obtain ⟨_, _, point, _⟩ := poll_ok taken
    exact idle point (by simp)
  | connected task =>
    obtain ⟨_, _, _, point, _⟩ := connected_ok taken
    exact idle point (by simp)
  | connectFailed task =>
    obtain ⟨_, _, _, point, _⟩ := connectFailed_ok taken
    exact idle point (by simp)
  | insert task =>
    obtain ⟨_, _, point, _⟩ := insert_ok taken
    exact idle point (by simp)
  | lock task =>
    obtain ⟨_, _, _, _, point, _⟩ := lock_ok taken
    exact idle point (by simp)
  | writeSome task count =>
    obtain ⟨_, _, _, _, _, _, point, _⟩ := writeSome_ok taken
    exact idle point (by simp)
  | writeDone task =>
    obtain ⟨_, _, _, _, _, point, _⟩ := writeDone_ok taken
    exact idle point (by simp)
  | writeFailed task =>
    obtain ⟨_, _, _, _, point, _⟩ := writeFailed_ok taken
    exact idle point (by simp)
  | senderReceive =>
    obtain ⟨_, _, _, channel, _⟩ := senderReceive_ok taken
    rw [settled.channel] at channel
    contradiction
  | senderLookup =>
    obtain ⟨_, point, _⟩ := senderLookup_ok taken
    rw [settled.sender] at point
    contradiction
  | senderEncrypt =>
    obtain ⟨_, _, _, point, _⟩ := senderEncrypt_ok taken
    rw [settled.sender] at point
    contradiction
  | senderSend success =>
    obtain ⟨_, _, _, point, _⟩ := senderSend_ok taken
    rw [settled.sender] at point
    contradiction
  | reaperScan key =>
    obtain ⟨_, _, _, _, point, _⟩ := reaperScan_ok taken
    rw [settled.reaper] at point
    contradiction
  | reaperSkip key =>
    obtain ⟨_, _, _, _, point, _⟩ := reaperSkip_ok taken
    rw [settled.reaper] at point
    contradiction
  | reaperScanned =>
    obtain ⟨_, _, point, _⟩ := reaperScanned_ok taken
    rw [settled.reaper] at point
    contradiction
  | reaperRemove =>
    obtain ⟨_, point, _⟩ := reaperRemove_ok taken
    rw [settled.reaper] at point
    contradiction

/-- The bridge settles by itself. -/
theorem step_settles (laws : CryptoLaws env.crypto) :
    Settles (step env) Runnable BridgeState.Settled Event.own Event.favourable
      BridgeState.work where
  kept _ _ _ held _ taken := runnable_step held taken
  included event good := by
    cases event with
    | senderSend | reaperScan | reaperSkip | reaperScanned | reaperRemove | senderReceive
    | senderLookup | senderEncrypt | poll | connected | insert | lock | writeSome | writeDone => rfl
    | _ => contradiction
  lowers _ _ _ _ own taken := work_step laws own taken
  continues _ held busy := runnable_continues held busy
  rests _ _ _ settled own := settled_rests settled own

end

/-- From every state that a bridge can reach, whatever its tasks do next if nothing new arrives
comes to an end after at most `work` steps; where they cannot go on, every datagram has been
handled, every queued packet sent or dropped and every mutex released; and whatever they have done
so far, they can all still be finished without a failed connect, write or send. -/
theorem bridge_settles {env : BridgeEnv} (laws : CryptoLaws env.crypto) {clock : Instant}
    {events schedule : List Event} {state final : BridgeState}
    (reached : run (step env) (.start clock) events = some state)
    (own : ∀ event ∈ schedule, event.own = true)
    (continued : run (step env) state schedule = some final) :
    schedule.length + final.work ≤ state.work ∧
      (final.Settled ↔ ∀ event, event.own = true → step env final event = none) ∧
      ∃ rest last, (∀ event ∈ rest, event.favourable = true) ∧
        run (step env) state (schedule ++ rest) = some last ∧ last.Settled := by
  have settles := step_settles laws
  have held : Runnable state :=
    run_invariant_always (fun _ _ _ held taken => runnable_step held taken) (runnable_start clock)
      reached
  exact settles.left_alone held own continued

/-- A destination has answered and the sender has found the session: four more steps at most. -/
theorem firstAnswer_settles : ∃ state final,
    run (step (sampleEnv 8)) (.start 0) (firstAccept ++ [.drain 0 [1, 2, 3]]) = some state ∧
    run (step (sampleEnv 8)) state [.senderReceive, .senderLookup] = some final ∧
    2 + final.work ≤ state.work ∧
    (final.Settled ↔ ∀ event, event.own = true → step (sampleEnv 8) final event = none) ∧
    ∃ rest last, (∀ event ∈ rest, event.favourable = true) ∧
      run (step (sampleEnv 8)) state ([.senderReceive, .senderLookup] ++ rest) = some last ∧
      last.Settled := by
  have sample : (run (step (sampleEnv 8)) (.start 0) (firstAccept ++ [.drain 0 [1, 2, 3]])).isSome ∧
      (run (step (sampleEnv 8)) (.start 0) ((firstAccept ++ [.drain 0 [1, 2, 3]]) ++
        [.senderReceive, .senderLookup])).isSome := by
    simp only [firstAccept, sampleTunnel_eq]
    decide +kernel
  obtain ⟨state, reached⟩ := Option.isSome_iff_exists.mp sample.1
  obtain ⟨final, whole⟩ := Option.isSome_iff_exists.mp sample.2
  have continued : run (step (sampleEnv 8)) state [.senderReceive, .senderLookup] = some final := by
    rw [run_append, reached] at whole
    exact whole
  exact ⟨state, final, reached, continued,
    bridge_settles (sampleEnv_laws 8) reached (by decide) continued⟩

end LowPing.Bridge
