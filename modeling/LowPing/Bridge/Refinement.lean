import LowPing.Library.Relay
import LowPing.Library.Simulation
import LowPing.Bridge.Stream
import LowPing.Bridge.Conservation
import LowPing.Bridge.Reaping

/-!
# The bridge is a relay

The tasks of a bridge yield to each other at every await, hold a mutex across a write and look a
session up again for each packet. Seen from outside it is a relay that takes one message at a time:
an accept admits a session, an opened frame is a message taken, each write gives a piece of it, a
read is an answer, an encryption wraps one, a reaping dismisses a session. Every run of the bridge
is a run of that relay with the same effects, so what holds of relays holds of the bridge.
-/

namespace LowPing.Bridge

open Library Library.Machine LowPing.Tunnel

/-- A relay between session keys, for messages of bytes. -/
abbrev BridgeRelay := Relay SessionKey UInt8

/-- What the relay of a bridge does. -/
abbrev BridgeAction := Relay.Action SessionKey UInt8

/-- A packet of the channel as an answer. -/
def Queued.answer (queued : Queued) : Relay.Answer SessionKey UInt8 :=
  ⟨queued.packet.sessionKey, queued.origin, queued.packet.payload⟩

/-- Packets before their lookup, oldest first. -/
def BridgeState.unpicked (state : BridgeState) : List Queued :=
  match state.sender with
  | .looking queued => queued :: state.downstream
  | _ => state.downstream

/-- The session a packet task writes for, and what it has left to write. -/
def PacketTask.left : PacketTask → Option (SessionId × Bytes)
  | .writing _ session _ rest => some (session, rest)
  | _ => none

/-- A packet task has something left to write for a session. -/
def BridgeState.writing (state : BridgeState) (session : SessionId) (rest : Bytes) : Prop :=
  ∃ (task : Nat) (point : PacketTask),
    state.tasks[task]? = some point ∧ point.left = some (session, rest)

/-- The packet the sender encrypts next, with the session it found. -/
def SenderTask.picked : SenderTask → Option (Queued × SessionId)
  | .locking queued session => some (queued, session)
  | _ => none

/-- The effects a relay has in common with the bridge. -/
inductive Effect where
  /-- A session is admitted under a key. -/
  | admitted (key : SessionKey) (session : SessionId)
  /-- A session leaves the table. -/
  | dismissed (key : SessionKey) (session : SessionId)
  /-- A message for a destination is taken. -/
  | taken (key : SessionKey) (session : SessionId) (payload : Bytes)
  /-- The destination accepts bytes. -/
  | given (session : SessionId) (bytes : Bytes)
  /-- It yields some. -/
  | answered (origin : SessionId) (payload : Bytes)
  /-- They are encrypted, as a frame with a sequence. -/
  | wrapped (item : Relay.Answer SessionKey UInt8) (session : SessionId) (sequence : UInt64)

/-- The effect of the bridge; that a frame was then sent is the network's. -/
def Output.effect : Output → Option Effect
  | .accepted key session => some (.admitted key session)
  | .write key session _ payload _ => some (.taken key session payload)
  | .delivered session _ bytes _ => some (.given session bytes)
  | .read session payload => some (.answered session payload)
  | .encrypted queued session header _ => some (.wrapped queued.answer session header.sequence)
  | .sent .. => none
  | .reaped key session _ => some (.dismissed key session)

/-- The effect of the relay. Its counters are unbounded, those of a session wrap. -/
def actionEffect : BridgeAction → Option Effect
  | .register key session => some (.admitted key session)
  | .dismiss key session => some (.dismissed key session)
  | .take key session message => some (.taken key session message)
  | .give session piece => some (.given session piece)
  | .answer item => some (.answered item.origin item.message)
  | .wrap item target number => some (.wrapped item target (.ofNat number))
  | _ => none

/-- The effects of a run so far. -/
def BridgeState.effects (state : BridgeState) : List Effect :=
  state.trace.filterMap Output.effect

/-- A relay in the state of the bridge. -/
structure Represents (relay : BridgeRelay) (state : BridgeState) : Prop where
  /-- Its sessions are those accepted. -/
  admitted : ∀ key session, relay.admitted[session]? = some key ↔
    .accepted key session ∈ state.trace
  /-- There are as many as cells. -/
  sessions : relay.admitted.length = state.cells.length
  /-- Those live are the ones of the table. -/
  live : ∀ key, relay.live key = state.sessions.lookup key
  /-- A message is under way where a packet task writes. -/
  outgoing : ∀ session rest, relay.outgoing session = some rest ↔ state.writing session rest
  /-- Answers wait until their lookup. -/
  queue : relay.queue = state.unpicked.map Queued.answer
  /-- The one in hand is the one to be encrypted. -/
  inHand : relay.inHand = state.sender.picked.map fun found => (found.1.answer, found.2)
  /-- Messages wrapped are frames encrypted. -/
  wrapped : ∀ session, relay.wrapped session = (state.frames session).length

/-- What is known of every reachable state. -/
structure Sound (state : BridgeState) : Prop where
  /-- Tasks, packets and the sender came by accepted sessions. -/
  attributed : Attributed state
  /-- Writers are alone behind their mutex. -/
  exclusive : Exclusive state
  /-- Frames are numbered and packets fit. -/
  numbered : Numbered state
  /-- The reaper comes to each key once. -/
  distinct : state.reaper.keys.Nodup

/-- The actions only a failed write leads to. -/
def linked (event : Event) (action : BridgeAction) : Prop :=
  ∀ session, action = .abandon session → ∃ task, event = .writeFailed task

section

variable {env : BridgeEnv} {state next : BridgeState} {event : Event} {relay : BridgeRelay}

/-- Every step keeps the bridge sound. -/
theorem sound_step (held : Sound state) (taken : step env state event = some next) :
    Sound next where
  attributed := attributed_step held.attributed taken
  exclusive := exclusive_step held.exclusive taken
  numbered := numbered_step held.numbered taken
  distinct := distinctKeys_step held.distinct taken

/-- Before the first datagram it is. -/
theorem sound_start (clock : Instant) : Sound (.start clock) :=
  ⟨attributed_start clock, exclusive_start clock, numbered_start clock, List.nodup_nil⟩

/-- A relay that has done nothing represents a bridge that has. -/
theorem represents_start (clock : Instant) : Represents Relay.start (.start clock) where
  admitted key session := by simp [Relay.start, BridgeState.start]
  sessions := rfl
  live key := rfl
  outgoing session rest := by simp [Relay.start, BridgeState.start, BridgeState.writing]
  queue := rfl
  inHand := rfl
  wrapped session := rfl

/-! ## Packet tasks -/

/-- Who has something left to write writes. -/
theorem writes_of_left {point : PacketTask} {session : SessionId} {rest : Bytes}
    (left : point.left = some (session, rest)) : point.writes = some session := by
  cases point with
  | writing =>
    obtain ⟨rfl, _⟩ := Prod.mk.inj (Option.some.inj left)
    rfl
  | _ => contradiction

/-- A task that does not write before or after a step changes nothing about who does. -/
theorem writing_still {task : Nat} {before after : PacketTask}
    (present : state.tasks[task]? = some before) (silent : before.left = none)
    (silentAfter : after.left = none) (moved : next.tasks = state.tasks.set task after)
    (session : SessionId) (rest : Bytes) :
    next.writing session rest ↔ state.writing session rest := by
  unfold BridgeState.writing
  rw [moved]
  constructor
  · rintro ⟨other, point, found, left⟩
    rcases Update.getElem?_set_cases found with ⟨_, rfl⟩ | ⟨_, old⟩
    · rw [silentAfter] at left
      contradiction
    · exact ⟨other, point, old, left⟩
  · rintro ⟨other, point, found, left⟩
    have different : task ≠ other := by
      rintro rfl
      obtain rfl := Option.some.inj (present.symm.trans found)
      rw [silent] at left
      contradiction
    exact ⟨other, point, by rw [List.getElem?_set_ne different, found], left⟩

/-- The only task that may write for a session moves, and still writes for no other. -/
theorem writing_moved {task : Nat} {before after : PacketTask} {session : SessionId}
    (present : state.tasks[task]? = some before)
    (own : ∀ target rest, before.left = some (target, rest) → target = session)
    (alone : ∀ (other : Nat) (point : PacketTask), state.tasks[other]? = some point →
      point.writes = some session → other = task)
    (ownAfter : ∀ target rest, after.left = some (target, rest) → target = session)
    (moved : next.tasks = state.tasks.set task after) (target : SessionId) (rest : Bytes) :
    next.writing target rest ↔
      if target = session then after.left = some (target, rest) else state.writing target rest := by
  unfold BridgeState.writing
  have bound := (List.getElem?_eq_some_iff.mp present).1
  rw [moved]
  split
  · rename_i same
    subst same
    constructor
    · rintro ⟨other, point, found, left⟩
      rcases Update.getElem?_set_cases found with ⟨_, rfl⟩ | ⟨different, old⟩
      · exact left
      · exact absurd (alone other point old (writes_of_left left)) different
    · exact fun left => ⟨task, after, List.getElem?_set_self bound, left⟩
  · rename_i foreign
    constructor
    · rintro ⟨other, point, found, left⟩
      rcases Update.getElem?_set_cases found with ⟨_, rfl⟩ | ⟨_, old⟩
      · exact absurd (ownAfter target rest left) foreign
      · exact ⟨other, point, old, left⟩
    · rintro ⟨other, point, found, left⟩
      have different : task ≠ other := by
        rintro rfl
        obtain rfl := Option.some.inj (present.symm.trans found)
        exact foreign (own target rest left)
      exact ⟨other, point, by rw [List.getElem?_set_ne different, found], left⟩

/-- The relay then has for the session what the task has left. -/
theorem outgoing_moved {task : Nat} {before : PacketTask} {session : SessionId}
    (held : Represents relay state) (present : state.tasks[task]? = some before)
    (after : PacketTask)
    (own : ∀ target rest, before.left = some (target, rest) → target = session)
    (alone : ∀ (other : Nat) (point : PacketTask), state.tasks[other]? = some point →
      point.writes = some session → other = task)
    (ownAfter : ∀ target rest, after.left = some (target, rest) → target = session)
    (moved : next.tasks = state.tasks.set task after) (target : SessionId) (rest : Bytes) :
    Function.update relay.outgoing session (after.left.map Prod.snd) target = some rest ↔
      next.writing target rest := by
  rw [writing_moved present own alone ownAfter moved]
  split
  · rename_i same
    subst same
    rw [Function.update_self]
    constructor
    · intro left
      obtain ⟨⟨other, bytes⟩, leftAfter, rfl⟩ := Option.map_eq_some_iff.mp left
      obtain rfl := ownAfter other bytes leftAfter
      exact leftAfter
    · intro left
      rw [left]
      rfl
  · rename_i foreign
    rw [Function.update_of_ne foreign]
    exact held.outgoing target rest

/-- An action that gives nothing up needs no failed write. -/
theorem linked_of_ne {action : BridgeAction} (other : ∀ session, action ≠ .abandon session) :
    linked event action := fun session same => absurd same (other session)

/-! ## Steps without an action -/

/-- What the relay leaves out of a state. -/
structure Unseen (state next : BridgeState) : Prop where
  /-- The same sessions are accepted. -/
  accepted : ∀ key session, .accepted key session ∈ next.trace ↔
    .accepted key session ∈ state.trace
  /-- There are as many cells. -/
  cells : next.cells.length = state.cells.length
  /-- The table is the same. -/
  sessions : next.sessions = state.sessions
  /-- The same is left to write. -/
  writing : ∀ session rest, next.writing session rest ↔ state.writing session rest
  /-- The same packets wait. -/
  unpicked : next.unpicked = state.unpicked
  /-- The sender has the same to encrypt. -/
  picked : next.sender.picked = state.sender.picked
  /-- The same frames were encrypted. -/
  frames : ∀ session, next.frames session = state.frames session
  /-- The effects are the same. -/
  effects : next.effects = state.effects

/-- A relay in the state of the bridge may take actions that leave it in the next. -/
def Follows (relay : BridgeRelay) (state : BridgeState) (event : Event) (next : BridgeState) :
    Prop :=
  ∃ actions after, run Relay.step relay actions = some after ∧ Represents after next ∧
    next.effects = state.effects ++ actions.filterMap actionEffect ∧
    ∀ action ∈ actions, linked event action

/-- What is not seen of a step is followed by nothing. -/
theorem follows_unseen (held : Represents relay state) (unseen : Unseen state next) :
    Follows relay state event next := by
  refine ⟨[], relay, rfl, ⟨?_, ?_, ?_, ?_, ?_, ?_, ?_⟩, ?_, nofun⟩
  · intro key session
    rw [unseen.accepted, held.admitted]
  · rw [unseen.cells, held.sessions]
  · intro key
    rw [unseen.sessions, held.live]
  · intro session rest
    rw [unseen.writing, held.outgoing]
  · rw [unseen.unpicked, held.queue]
  · rw [unseen.picked, held.inHand]
  · intro session
    rw [unseen.frames, held.wrapped]
  · rw [unseen.effects, List.filterMap_nil, List.append_nil]

/-- One action follows a step. -/
theorem follows_one {action : BridgeAction} {after : BridgeRelay}
    (done : relay.step action = some after) (represents : Represents after next)
    (effects : next.effects = state.effects ++ (actionEffect action).toList)
    (link : linked event action) : Follows relay state event next := by
  refine ⟨[action], after, by rw [run_cons done]; rfl, represents, ?_, ?_⟩
  · rw [effects]
    cases shown : actionEffect action <;> simp [shown]
  · rintro other member
    obtain rfl := List.mem_singleton.mp member
    exact link

/-- One output extends the effects. -/
theorem effects_concat {output : Output} (grown : next.trace = state.trace ++ [output]) :
    next.effects = state.effects ++ output.effect.toList := by
  rw [BridgeState.effects, grown, Relay.filterMap_concat]
  rfl

/-- An action with the effect of the one output follows a step. -/
theorem follows_output {action : BridgeAction} {after : BridgeRelay} {output : Output}
    (done : relay.step action = some after) (represents : Represents after next)
    (grown : next.trace = state.trace ++ [output]) (shown : output.effect = actionEffect action)
    (link : linked event action) : Follows relay state event next :=
  follows_one done represents (shown ▸ effects_concat grown) link

/-- An output that is no accept admits nobody. -/
theorem admitted_concat {after : BridgeRelay} {output : Output} (held : Represents relay state)
    (same : after.admitted = relay.admitted) (grown : next.trace = state.trace ++ [output])
    (other : ∀ key session, output ≠ .accepted key session) (key : SessionKey)
    (session : SessionId) :
    after.admitted[session]? = some key ↔ .accepted key session ∈ next.trace := by
  rw [same, grown, List.mem_append, List.mem_singleton, or_iff_left (other key session).symm]
  exact held.admitted key session

/-- An output that is no encryption wraps nothing. -/
theorem wrapped_concat {after : BridgeRelay} {output : Output} (held : Represents relay state)
    (same : after.wrapped = relay.wrapped) (grown : next.trace = state.trace ++ [output])
    (other : ∀ session, output.frameFor session = none) (session : SessionId) :
    after.wrapped session = (next.frames session).length := by
  rw [same, frames_concat grown, other, held.wrapped]
  simp

/-- A step that only moves a task which does not write is not seen. -/
theorem unseen_of_set {task : Nat} {before after : PacketTask}
    (present : state.tasks[task]? = some before) (silent : before.left = none)
    (silentAfter : after.left = none) : Unseen state (state.setTask task after) :=
  ⟨fun _ _ => Iff.rfl, rfl, rfl, writing_still present silent silentAfter rfl, rfl, rfl,
    fun _ => rfl, rfl⟩

/-- A first poll writes nothing yet. -/
theorem left_handlePacket (env : BridgeEnv) (state : BridgeState) (nowUnix : Int64)
    (peer : SocketAddr) (pkt : Bytes) : (handlePacket env state nowUnix peer pkt).left = none := by
  rcases handlePacket_cases env state nowUnix peer pkt with ⟨_, handled⟩ |
    ⟨_, _, _, _, _, _, _, handled⟩ | ⟨_, _, _, _, _, handled⟩ <;> rw [handled] <;> rfl

/-- An accept admits its session under its key. -/
theorem follows_insert (held : Represents relay state) {task : Nat}
    (taken : insert state task = some next) : Follows relay state (.insert task) next := by
  obtain ⟨key, session, point, _, rfl⟩ := insert_ok taken
  have done : relay.step (.register key state.cells.length) = some { relay with
      admitted := relay.admitted ++ [key]
      live := Function.update relay.live key (some state.cells.length) } := by
    simp [Relay.step, held.sessions]
  refine follows_output done ⟨?_, ?_, ?_, ?_, held.queue, held.inHand,
    wrapped_concat held rfl rfl fun _ => rfl⟩ rfl rfl (linked_of_ne (by simp))
  · intro other target
    constructor
    · intro admitted
      rcases Update.getElem?_concat_cases admitted with ⟨rfl, rfl⟩ | old
      · rw [held.sessions]
        exact List.mem_append_right _ List.mem_cons_self
      · exact List.mem_append_left _ ((held.admitted other target).mp old)
    · intro accepted
      rcases List.mem_append.mp accepted with old | new
      · exact Relay.admitted_later ((held.admitted other target).mpr old)
      · obtain ⟨rfl, rfl⟩ := Output.accepted.inj (List.mem_singleton.mp new)
        rw [← held.sessions, List.getElem?_concat_length]
  · simp [held.sessions]
  · intro other
    dsimp only
    by_cases same : other = key
    · rw [same, Function.update_self, AList.lookup_insert]
    · rw [Function.update_of_ne same, AList.lookup_insert_ne same, held.live]
  · intro target rest
    rw [writing_still point rfl rfl rfl]
    exact held.outgoing target rest

/-- A frame that opens is a message taken for its session. -/
theorem follows_lock (sound : Sound state) (held : Represents relay state) {task : Nat}
    (taken : lock env state task = some next) : Follows relay state (.lock task) next := by
  obtain ⟨key, session, pkt, cell, point, present, free, ⟨failure, _, rfl⟩ |
    ⟨header, payload, _, rfl⟩⟩ := lock_ok taken
  · exact follows_unseen held (unseen_of_set point rfl rfl)
  · have nobody : ∀ (other : Nat) (writer : PacketTask), state.tasks[other]? = some writer →
        writer.writes ≠ some session := by
      intro other writer found writes
      obtain ⟨holder, there, locked⟩ := sound.exclusive.locked other writer session found writes
      obtain rfl := Option.some.inj (present.symm.trans there)
      rw [free] at locked
      contradiction
    have idle : relay.outgoing session = none := by
      rw [Option.eq_none_iff_forall_ne_some]
      intro rest under
      obtain ⟨other, writer, found, left⟩ := (held.outgoing session rest).mp under
      exact nobody other writer found (writes_of_left left)
    have admitted : relay.admitted[session]? = some key :=
      (held.admitted key session).mpr
        (sound.attributed.keyed.serves task _ key session point rfl)
    have done : relay.step (.take key session payload) = some { relay with
        outgoing := Function.update relay.outgoing session (some payload) } := by
      simp [Relay.step, admitted, idle]
    refine follows_output done ⟨admitted_concat held rfl rfl (by simp), ?_, held.live, ?_,
      held.queue, held.inHand, wrapped_concat held rfl rfl fun _ => rfl⟩ rfl rfl
      (linked_of_ne (by simp))
    · simp [held.sessions]
    · exact outgoing_moved held point (.writing key session header payload)
        (by simp [PacketTask.left])
        (fun other writer found writes => absurd writes (nobody other writer found))
        (fun target rest left => (Prod.mk.inj (Option.some.inj left)).1.symm) rfl

/-- The relay has for a session what its writer has left, which then is alone. -/
theorem outgoing_written {task : Nat} {key : SessionKey} {session : SessionId} {header : Header}
    {bytes : Bytes} (sound : Sound state) (held : Represents relay state)
    (point : state.tasks[task]? = some (.writing key session header bytes)) (after : PacketTask)
    (ownAfter : ∀ target rest, after.left = some (target, rest) → target = session)
    (moved : next.tasks = state.tasks.set task after) (target : SessionId) (rest : Bytes) :
    Function.update relay.outgoing session (after.left.map Prod.snd) target = some rest ↔
      next.writing target rest :=
  outgoing_moved held point after (fun _ _ left => (Prod.mk.inj (Option.some.inj left)).1.symm)
    (fun other writer found writes =>
      sound.exclusive.unique other task writer _ session found point writes rfl) ownAfter moved
    target rest

/-- A destination that takes some bytes is given them. -/
theorem follows_writeSome (sound : Sound state) (held : Represents relay state) {task count : Nat}
    (taken : writeSome state task count = some next) :
    Follows relay state (.writeSome task count) next := by
  obtain ⟨key, session, header, rest, cell, socket, point, _, _, _, within, rfl⟩ :=
    writeSome_ok taken
  have under : relay.outgoing session = some rest :=
    (held.outgoing session rest).mpr ⟨task, _, point, rfl⟩
  have done : relay.step (.give session (rest.take count)) = some { relay with
      outgoing := Function.update relay.outgoing session (some (rest.drop count)) } := by
    simp [Relay.step, under, List.take_prefix, Nat.min_eq_left within]
  exact follows_output done ⟨admitted_concat held rfl rfl (by simp), held.sessions, held.live,
    outgoing_written sound held point (.writing key session header (rest.drop count))
      (fun target rest left => (Prod.mk.inj (Option.some.inj left)).1.symm) rfl,
    held.queue, held.inHand, wrapped_concat held rfl rfl fun _ => rfl⟩ rfl rfl
    (linked_of_ne (by simp))

/-- A task that ends a write has given the rest to its destination, or given it up. -/
theorem follows_writeDone (sound : Sound state) (held : Represents relay state) {task : Nat}
    (taken : writeDone state task = some next) : Follows relay state (.writeDone task) next := by
  obtain ⟨key, session, header, rest, cell, point, _, ⟨socket, _, rfl, rfl⟩ | ⟨socket, _, rfl⟩⟩ :=
    writeDone_ok taken
  · have under : relay.outgoing session = some [] :=
      (held.outgoing session []).mpr ⟨task, _, point, rfl⟩
    have done : relay.step (.finish session) = some { relay with
        outgoing := Function.update relay.outgoing session none } := by
      simp [Relay.step, under]
    refine follows_one done ⟨held.admitted, ?_, held.live,
      outgoing_written sound held point (.returned none) (by simp [PacketTask.left]) rfl,
      held.queue, held.inHand, held.wrapped⟩ (by simp [actionEffect, BridgeState.effects])
      (linked_of_ne (by simp))
    simp [unlock, held.sessions]
  · have under : relay.outgoing session = some rest :=
      (held.outgoing session rest).mpr ⟨task, _, point, rfl⟩
    have gives : relay.step (.give session rest) = some { relay with
        outgoing := Function.update relay.outgoing session (some []) } := by
      simp [Relay.step, under]
    have done : Relay.step { relay with
        outgoing := Function.update relay.outgoing session (some []) } (.finish session) =
        some { relay with outgoing := Function.update relay.outgoing session none } := by
      simp [Relay.step]
    have ran : run Relay.step relay [.give session rest, .finish session] = some { relay with
        outgoing := Function.update relay.outgoing session none } := by
      rw [run_cons gives, run_cons done]
      rfl
    refine ⟨_, _, ran, ⟨admitted_concat held rfl rfl (by simp), ?_, held.live,
      outgoing_written sound held point (.returned none) (by simp [PacketTask.left]) rfl,
      held.queue, held.inHand, wrapped_concat held rfl rfl fun _ => rfl⟩,
      @effects_concat state _ (.delivered session socket rest state.clock) rfl, ?_⟩
    · simp [unlock, held.sessions]
    · intro action member
      rcases List.mem_pair.mp member with rfl | rfl <;> exact linked_of_ne (by simp)

/-- A write that fails gives the rest up. -/
theorem follows_writeFailed (sound : Sound state) (held : Represents relay state) {task : Nat}
    (taken : writeFailed state task = some next) :
    Follows relay state (.writeFailed task) next := by
  obtain ⟨key, session, header, rest, point, rfl⟩ := writeFailed_ok taken
  have under : relay.outgoing session = some rest :=
    (held.outgoing session rest).mpr ⟨task, _, point, rfl⟩
  have done : relay.step (.abandon session) = some { relay with
      outgoing := Function.update relay.outgoing session none } := by
    simp [Relay.step, under]
  refine follows_one done ⟨held.admitted, ?_, held.live,
    outgoing_written sound held point (.returned (some .write)) (by simp [PacketTask.left]) rfl,
    held.queue, held.inHand, held.wrapped⟩ (by simp [actionEffect, BridgeState.effects])
    fun _ _ => ⟨task, rfl⟩
  simp [unlock, held.sessions]

/-- What a destination yields is an answer under the key of its session. -/
theorem follows_drain (sound : Sound state) (held : Represents relay state) {task : Nat}
    {bytes : Bytes} (taken : drain state task bytes = some next) :
    Follows relay state (.drain task bytes) next := by
  obtain ⟨key, session, reader, payload, running, _, rfl⟩ := drain_ok taken
  have admitted : relay.admitted[session]? = some key :=
    (held.admitted key session).mpr (sound.attributed.named key session
      (.drain _ (List.mem_of_getElem? running) rfl rfl rfl))
  have done : relay.step (.answer ⟨key, session, payload⟩) = some { relay with
      queue := relay.queue ++ [⟨key, session, payload⟩] } := by
    simp [Relay.step, admitted]
  refine follows_output done ⟨admitted_concat held rfl rfl (by simp), held.sessions, held.live,
    held.outgoing, ?_, held.inHand, wrapped_concat held rfl rfl fun _ => rfl⟩ rfl rfl
    (linked_of_ne (by simp))
  rw [held.queue]
  cases point : state.sender <;> simp [BridgeState.unpicked, point, Queued.answer]

/-- The sender picks an answer for the session now under its key, or drops it. -/
theorem follows_senderLookup (held : Represents relay state)
    (taken : senderLookup state = some next) : Follows relay state .senderLookup next := by
  obtain ⟨queued, point, found⟩ := senderLookup_ok taken
  have idle : relay.inHand = none := by rw [held.inHand, point]; rfl
  have queue : relay.queue = queued.answer :: state.downstream.map Queued.answer := by
    rw [held.queue, BridgeState.unpicked, point, List.map_cons]
  have done : relay.step .pick = some { relay with
      queue := state.downstream.map Queued.answer
      inHand := (state.sessions.lookup queued.packet.sessionKey).map
        fun target => (queued.answer, target) } := by
    simp only [Relay.step, idle, queue, held.live]
    rfl
  rcases found with ⟨absent, rfl⟩ | ⟨session, found, rfl⟩
  · refine follows_one done ⟨held.admitted, held.sessions, held.live, held.outgoing, rfl, ?_,
      held.wrapped⟩ (by simp [actionEffect, BridgeState.effects]) (linked_of_ne (by simp))
    rw [absent]
    rfl
  · refine follows_one done ⟨held.admitted, held.sessions, held.live, held.outgoing, rfl, ?_,
      held.wrapped⟩ (by simp [actionEffect, BridgeState.effects]) (linked_of_ne (by simp))
    rw [found]
    rfl

/-- The sender wraps the answer in hand with the next number of the session. -/
theorem follows_senderEncrypt (sound : Sound state) (held : Represents relay state)
    (taken : senderEncrypt env state = some next) : Follows relay state .senderEncrypt next := by
  obtain ⟨queued, session, cell, wire, point, present, _, rfl⟩ :=
    encrypt_numbered sound.numbered taken
  have hand : relay.inHand = some (queued.answer, session) := by rw [held.inHand, point]; rfl
  have done : relay.step (.wrap queued.answer session (relay.wrapped session + 1)) =
      some { relay with
        inHand := none
        wrapped := Function.update relay.wrapped session (relay.wrapped session + 1) } := by
    simp [Relay.step, hand]
  have sequence : cell.session.txSequence + 1 = UInt64.ofNat (relay.wrapped session + 1) := by
    have counted := sound.numbered.counted session
    simp only [BridgeState.counter, present] at counted
    rw [counted, held.wrapped, UInt64.ofNat_add]
    rfl
  refine follows_output done ⟨admitted_concat held rfl rfl (by simp), ?_, held.live,
    held.outgoing, ?_, rfl, ?_⟩ rfl ?_ (linked_of_ne (by simp))
  · simp [held.sessions]
  · rw [held.queue, BridgeState.unpicked, point]
    rfl
  · intro target
    rw [frames_concat rfl target]
    by_cases same : session = target
    · subst same
      simp [Output.frameFor, held.wrapped]
    · simp [Output.frameFor, same, held.wrapped, Function.update_of_ne (Ne.symm same)]
  · simp only [Output.effect, actionEffect, Session.nextHeader, sequence]

/-- The reaper dismisses the sessions it listed, where they still are in the table. -/
theorem follows_reaperRemove (sound : Sound state) (held : Represents relay state)
    (taken : reaperRemove state = some next) : Follows relay state .reaperRemove next := by
  obtain ⟨toDrop, point, rfl⟩ := reaperRemove_ok taken
  have distinct : toDrop.Nodup := by
    have keys := sound.distinct
    rwa [point] at keys
  refine ⟨_, _, Relay.dismiss_all relay distinct, ⟨?_, held.sessions, ?_, held.outgoing,
    held.queue, held.inHand, ?_⟩, ?_, ?_⟩
  · intro key session
    rw [held.admitted, List.mem_append]
    constructor
    · exact .inl
    · rintro (before | removal)
      · exact before
      · obtain ⟨_, _, _, _, impossible⟩ := mem_reapedOutputs removal
        contradiction
  · intro key
    dsimp only
    by_cases listed : key ∈ toDrop
    · rw [if_pos listed]
      exact (Table.lookup_eraseAll_of_mem state.sessions listed).symm
    · rw [if_neg listed, held.live]
      exact (Table.lookup_eraseAll_of_notMem state.sessions listed).symm
  · intro session
    rw [BridgeState.frames, List.filterMap_append,
      (reapedOutputs_outflow state.sessions state.clock toDrop session).2, List.append_nil]
    exact held.wrapped session
  · rw [BridgeState.effects, List.filterMap_append, reapedOutputs, List.filterMap_filterMap,
      List.filterMap_filterMap]
    refine congrArg _ (List.filterMap_congr fun key _ => ?_)
    rw [held.live]
    cases state.sessions.lookup key <;> rfl
  · intro action member session given
    subst given
    obtain ⟨key, _, impossible⟩ := List.mem_filterMap.mp member
    obtain ⟨_, _, impossible⟩ := Option.map_eq_some_iff.mp impossible
    contradiction

/-- Every step of the bridge is followed by the relay. -/
theorem follows_step (sound : Sound state) (held : Represents relay state)
    (taken : step env state event = some next) : Follows relay state event next := by
  cases event with
  | insert => exact follows_insert held taken
  | lock => exact follows_lock sound held taken
  | writeSome => exact follows_writeSome sound held taken
  | writeDone => exact follows_writeDone sound held taken
  | writeFailed => exact follows_writeFailed sound held taken
  | drain => exact follows_drain sound held taken
  | senderLookup => exact follows_senderLookup held taken
  | senderEncrypt => exact follows_senderEncrypt sound held taken
  | reaperRemove => exact follows_reaperRemove sound held taken
  | receive peer pkt =>
    obtain rfl := Option.some.inj taken
    refine follows_unseen held ⟨fun _ _ => Iff.rfl, rfl, rfl, fun session rest => ?_, rfl, rfl,
      fun _ => rfl, rfl⟩
    constructor
    · rintro ⟨task, point, found, left⟩
      rcases Update.getElem?_concat_cases found with ⟨_, rfl⟩ | old
      · contradiction
      · exact ⟨task, point, old, left⟩
    · rintro ⟨task, point, found, left⟩
      have bound := (List.getElem?_eq_some_iff.mp found).1
      exact ⟨task, point, by rw [List.getElem?_append_left bound, found], left⟩
  | poll =>
    obtain ⟨peer, pkt, point, rfl⟩ := poll_ok taken
    exact follows_unseen held (unseen_of_set point rfl (left_handlePacket env state _ peer pkt))
  | connected =>
    obtain ⟨_, _, _, point, rfl⟩ := connected_ok taken
    exact follows_unseen held ⟨fun _ _ => Iff.rfl, rfl, rfl, writing_still point rfl rfl rfl, rfl,
      rfl, fun _ => rfl, rfl⟩
  | connectFailed =>
    obtain ⟨_, _, _, point, rfl⟩ := connectFailed_ok taken
    exact follows_unseen held (unseen_of_set point rfl rfl)
  | senderReceive =>
    obtain ⟨queued, later, point, channel, rfl⟩ := senderReceive_ok taken
    refine follows_unseen held ⟨fun _ _ => Iff.rfl, rfl, rfl, fun _ _ => Iff.rfl, ?_, ?_,
      fun _ => rfl, rfl⟩
    · simp [BridgeState.unpicked, point, channel]
    · simp [SenderTask.picked, point]
  | senderSend success =>
    obtain ⟨queued, session, wire, point, rfl⟩ := senderSend_ok taken
    refine follows_unseen held ⟨fun key target => ?_, rfl, rfl, fun _ _ => Iff.rfl, ?_, ?_,
      @frames_kept env state _ (.senderSend success) taken nofun, ?_⟩
    · cases success <;> simp
    · simp [BridgeState.unpicked, point]
    · simp [SenderTask.picked, point]
    · cases success <;> simp [BridgeState.effects, Output.effect]
  | drainEnd =>
    obtain ⟨_, _, _, _, rfl⟩ := drainEnd_ok taken
    exact follows_unseen held ⟨fun _ _ => Iff.rfl, rfl, rfl, fun _ _ => Iff.rfl, rfl, rfl,
      fun _ => rfl, rfl⟩
  | reaperTick =>
    obtain ⟨_, _, _, rfl⟩ := reaperTick_ok taken
    exact follows_unseen held ⟨fun _ _ => Iff.rfl, rfl, rfl, fun _ _ => Iff.rfl, rfl, rfl,
      fun _ => rfl, rfl⟩
  | reaperScan =>
    obtain ⟨_, _, _, _, _, _, rfl⟩ := reaperScan_ok taken
    exact follows_unseen held ⟨fun _ _ => Iff.rfl, rfl, rfl, fun _ _ => Iff.rfl, rfl, rfl,
      fun _ => rfl, rfl⟩
  | reaperSkip =>
    obtain ⟨_, _, _, _, _, _, _, rfl⟩ := reaperSkip_ok taken
    exact follows_unseen held ⟨fun _ _ => Iff.rfl, rfl, rfl, fun _ _ => Iff.rfl, rfl, rfl,
      fun _ => rfl, rfl⟩
  | reaperScanned =>
    obtain ⟨_, _, _, rfl⟩ := reaperScanned_ok taken
    exact follows_unseen held ⟨fun _ _ => Iff.rfl, rfl, rfl, fun _ _ => Iff.rfl, rfl, rfl,
      fun _ => rfl, rfl⟩
  | advance =>
    obtain rfl := Option.some.inj taken
    exact follows_unseen held ⟨fun _ _ => Iff.rfl, rfl, rfl, fun _ _ => Iff.rfl, rfl, rfl,
      fun _ => rfl, rfl⟩

/-! ## Runs -/

/-- The relay simulates the bridge. -/
theorem relay_simulates (env : BridgeEnv) : Simulation (step env) Relay.step Sound Represents
    BridgeState.effects actionEffect linked where
  kept _ _ _ held taken := sound_step held taken
  follows _ _ _ _ sound held taken := follows_step sound held taken

/-- Every run of the bridge, whatever its datagrams, its schedule, its destinations and its clock,
is a run of a relay that ends in the same state and had the same effects in the same order. A
message is given up only where a destination write fails. -/
theorem bridge_refines_relay {clock : Instant} {events : List Event} {final : BridgeState}
    (reached : run (step env) (.start clock) events = some final) :
    ∃ actions relay, run Relay.step Relay.start actions = some relay ∧ Represents relay final ∧
      final.effects = actions.filterMap actionEffect ∧
      ∀ session, .abandon session ∈ actions → ∃ task, .writeFailed task ∈ events := by
  obtain ⟨actions, relay, ran, represents, shown, linked⟩ :=
    (relay_simulates env).run (sound_start clock) (represents_start clock) reached
  refine ⟨actions, relay, ran, represents, shown, fun session member => ?_⟩
  obtain ⟨event, among, links⟩ := linked _ member
  obtain ⟨task, rfl⟩ := links session rfl
  exact ⟨task, among⟩

/-- A client sends a frame, its destination answers, and it is silent until the reaper comes. -/
def servedClient : List Event :=
  firstAccept ++ [.receive (samplePeer 1) (firstFrame 0 [1, 2]), .poll 1 1000, .lock 1,
    .writeDone 1] ++ firstAnswer ++ [.advance 330000000000, .reaperTick, .reaperScan sampleKey,
    .reaperScanned, .reaperRemove]

/-- The schedule of the served client is a run of the bridge. -/
theorem servedClient_runs : (run (step (sampleEnv 8)) (.start 0) servedClient).isSome = true := by
  simp only [servedClient, firstAccept, firstFrame, sampleTunnel_eq]
  decide +kernel

/-- The run of the served client is one of a relay. -/
theorem servedClient_refines : ∃ final,
    run (step (sampleEnv 8)) (.start 0) servedClient = some final ∧
    ∃ actions relay, run Relay.step Relay.start actions = some relay ∧ Represents relay final ∧
      final.effects = actions.filterMap actionEffect ∧
      ∀ session, .abandon session ∈ actions → ∃ task, .writeFailed task ∈ servedClient := by
  obtain ⟨final, reached⟩ := Option.isSome_iff_exists.mp servedClient_runs
  exact ⟨final, reached, bridge_refines_relay reached⟩

/-! ## What a destination gets -/

/-- What can be seen of an effect makes the same history of the bridge as of the relay. -/
theorem history_eq {γ : Type} {actions : List BridgeAction} (view : Effect → Option γ)
    (shown : state.effects = actions.filterMap actionEffect) {ofOutput : Output → Option γ}
    {ofAction : BridgeAction → Option γ}
    (outputs : ∀ output : Output, output.effect.bind view = ofOutput output)
    (acts : ∀ action, (actionEffect action).bind view = ofAction action) :
    state.trace.filterMap ofOutput = actions.filterMap ofAction := by
  have viewed := congrArg (List.filterMap view) shown
  rw [BridgeState.effects, List.filterMap_filterMap, List.filterMap_filterMap] at viewed
  rwa [funext outputs, funext acts] at viewed

/-- The payload an effect takes for a session. -/
def Effect.payloadFor (session : SessionId) : Effect → Option Bytes
  | .taken _ target payload => if target = session then some payload else none
  | _ => none

/-- The bytes an effect gives to its destination. -/
def Effect.bytesFor (session : SessionId) : Effect → Option Bytes
  | .given target bytes => if target = session then some bytes else none
  | _ => none

/-- Payloads written for a session are the messages taken for it. -/
theorem payloads_eq {actions : List BridgeAction}
    (shown : state.effects = actions.filterMap actionEffect) (session : SessionId) :
    state.payloads session = Relay.takenFor session actions :=
  history_eq (Effect.payloadFor session) shown (fun output => by cases output <;> rfl)
    fun action => by cases action <;> rfl

/-- What its destination took is what it was given. -/
theorem taken_eq {actions : List BridgeAction}
    (shown : state.effects = actions.filterMap actionEffect) (session : SessionId) :
    state.taken session = Relay.givenFor session actions :=
  congrArg List.flatten (history_eq (Effect.bytesFor session) shown
    (fun output => by cases output <;> rfl) fun action => by cases action <;> rfl)

/-- The writes of a session never mix, however its packet tasks are scheduled: its destination takes
a prefix of each payload, in the order in which their writes were called. As long as no write has
failed, what it has taken and what the writer still has left are all of them. -/
theorem destination_takes {clock : Instant} {events : List Event} {final : BridgeState}
    (reached : run (step env) (.start clock) events = some final) (session : SessionId) :
    (∃ pieces, List.Forall₂ (· <+: ·) pieces (final.payloads session) ∧
      final.taken session = pieces.flatten) ∧
    ((∀ task, .writeFailed task ∉ events) → ∃ rest, (rest ≠ [] → final.writing session rest) ∧
      final.taken session ++ rest = (final.payloads session).flatten) := by
  obtain ⟨actions, relay, ran, represents, shown, linked⟩ := bridge_refines_relay reached
  rw [payloads_eq shown, taken_eq shown]
  refine ⟨Relay.given_pieces ran session, fun unfailed => ?_⟩
  have kept : ∀ action ∈ actions, action ≠ .abandon session := by
    rintro _ member rfl
    obtain ⟨task, failed⟩ := linked session member
    exact unfailed task failed
  refine ⟨_, fun left => ?_, Relay.given_all ran session kept⟩
  cases under : relay.outgoing session with
  | none =>
    rw [under] at left
    exact absurd rfl left
  | some rest => exact (represents.outgoing session rest).mp under

/-- The destination of the sample client has taken its datagram. -/
theorem servedClient_takes : ∃ final,
    run (step (sampleEnv 8)) (.start 0) servedClient = some final ∧
    (∃ pieces, List.Forall₂ (· <+: ·) pieces (final.payloads 0) ∧
      final.taken 0 = pieces.flatten) ∧
    ((∀ task, .writeFailed task ∉ servedClient) → ∃ rest, (rest ≠ [] → final.writing 0 rest) ∧
      final.taken 0 ++ rest = (final.payloads 0).flatten) := by
  obtain ⟨final, reached⟩ := Option.isSome_iff_exists.mp servedClient_runs
  exact ⟨final, reached, destination_takes reached 0⟩

/-! ## What clients get -/

/-- What was read for a packet, from which session. -/
def Queued.source (queued : Queued) : SessionId × Bytes :=
  (queued.origin, queued.packet.payload)

/-- The packet an effect encrypts. -/
def Output.encryption : Output → Option (SessionId × Bytes)
  | .encrypted queued _ _ _ => some queued.source
  | _ => none

/-- What an effect reads, from which session. -/
def Output.reading : Output → Option (SessionId × Bytes)
  | .read session payload => some (session, payload)
  | _ => none

/-- The sequence an effect encrypts for a session. -/
def Output.sequenceFor (session : SessionId) : Output → Option UInt64
  | .encrypted _ target header _ => if target = session then some header.sequence else none
  | _ => none

/-- The packets of a state before their encryption, oldest first. -/
def BridgeState.unencrypted (state : BridgeState) : List (SessionId × Bytes) :=
  ((state.sender.picked.map Prod.fst).toList ++ state.unpicked).map Queued.source

/-- What an answer was read from. -/
def answerSource (item : Relay.Answer SessionKey UInt8) : SessionId × Bytes :=
  (item.origin, item.message)

/-- The answer an effect wraps. -/
def Effect.wrapping : Effect → Option (SessionId × Bytes)
  | .wrapped item _ _ => some (answerSource item)
  | _ => none

/-- The answer an effect queues. -/
def Effect.answering : Effect → Option (SessionId × Bytes)
  | .answered origin payload => some (origin, payload)
  | _ => none

/-- The sequence an effect wraps with for a session. -/
def Effect.sequenceFor (session : SessionId) : Effect → Option UInt64
  | .wrapped _ target sequence => if target = session then some sequence else none
  | _ => none

/-- What the bridge encrypted was wrapped. -/
theorem encryptions_eq {actions : List BridgeAction}
    (shown : state.effects = actions.filterMap actionEffect) :
    state.trace.filterMap Output.encryption =
      (actions.filterMap Relay.Action.wrapping).map answerSource := by
  rw [List.map_filterMap]
  exact history_eq Effect.wrapping shown (fun output => by cases output <;> rfl)
    fun action => by cases action <;> rfl

/-- What the bridge read was answered. -/
theorem readings_eq {actions : List BridgeAction}
    (shown : state.effects = actions.filterMap actionEffect) :
    state.trace.filterMap Output.reading =
      (actions.filterMap Relay.Action.answered).map answerSource := by
  rw [List.map_filterMap]
  exact history_eq Effect.answering shown (fun output => by cases output <;> rfl)
    fun action => by cases action <;> rfl

/-- The sequences of a session are its numbers, in the width of its counter. -/
theorem sequences_eq {actions : List BridgeAction}
    (shown : state.effects = actions.filterMap actionEffect) (session : SessionId) :
    state.trace.filterMap (Output.sequenceFor session) =
      (Relay.numbersFor session actions).map UInt64.ofNat := by
  rw [Relay.numbersFor, List.map_filterMap]
  refine history_eq (Effect.sequenceFor session) shown (fun output => by cases output <;> rfl)
    fun action => ?_
  cases action with
  | wrap item target number =>
    simp only [Relay.Action.number, actionEffect, Option.bind_some, Effect.sequenceFor]
    split <;> rfl
  | _ => rfl

/-- What the bridge encrypts, for all sessions together, what the sender has in hand and what still
waits was read in this order; each packet goes to a session that was accepted under the key of the
session it was read from; and the frames of a session have the sequences 1, 2, 3, .... -/
theorem answers_in_order {clock : Instant} {events : List Event} {final : BridgeState}
    (reached : run (step env) (.start clock) events = some final) :
    List.Sublist (final.trace.filterMap Output.encryption ++ final.unencrypted)
      (final.trace.filterMap Output.reading) ∧
    (∀ queued session header time, .encrypted queued session header time ∈ final.trace →
      .accepted queued.packet.sessionKey queued.origin ∈ final.trace ∧
        .accepted queued.packet.sessionKey session ∈ final.trace) ∧
    ∀ session, ∃ count, final.trace.filterMap (Output.sequenceFor session) =
      (List.range count).map fun number => UInt64.ofNat (number + 1) := by
  obtain ⟨actions, relay, ran, represents, shown, _⟩ := bridge_refines_relay reached
  refine ⟨?_, fun queued session header time member => ?_, fun session => ?_⟩
  · have waits : final.unencrypted = relay.waiting.map answerSource := by
      rw [BridgeState.unencrypted, Relay.waiting, represents.inHand, represents.queue]
      cases final.sender.picked <;> simp [Function.comp_def, Queued.source, answerSource,
        Queued.answer]
    rw [encryptions_eq shown, readings_eq shown, waits, ← List.map_append]
    exact (Relay.wrapped_sublist ran).map answerSource
  · have wrapped : Effect.wrapped queued.answer session header.sequence ∈
        actions.filterMap actionEffect :=
      shown ▸ List.mem_filterMap.mpr ⟨_, member, rfl⟩
    obtain ⟨action, among, same⟩ := List.mem_filterMap.mp wrapped
    cases action with
    | wrap item target number =>
      obtain ⟨rfl, rfl, _⟩ := Effect.wrapped.inj (Option.some.inj same)
      obtain ⟨origin, chosen⟩ := Relay.wrapped_keyed ran among
      exact ⟨(represents.admitted _ _).mp origin, (represents.admitted _ _).mp chosen⟩
    | _ => simp [actionEffect] at same
  · refine ⟨relay.wrapped session, ?_⟩
    rw [sequences_eq shown, Relay.numbers_eq ran, List.map_map]
    rfl

/-- The sample client was answered in order. -/
theorem servedClient_answered : ∃ final,
    run (step (sampleEnv 8)) (.start 0) servedClient = some final ∧
    List.Sublist (final.trace.filterMap Output.encryption ++ final.unencrypted)
      (final.trace.filterMap Output.reading) ∧
    (∀ queued session header time, .encrypted queued session header time ∈ final.trace →
      .accepted queued.packet.sessionKey queued.origin ∈ final.trace ∧
        .accepted queued.packet.sessionKey session ∈ final.trace) ∧
    ∀ session, ∃ count, final.trace.filterMap (Output.sequenceFor session) =
      (List.range count).map fun number => UInt64.ofNat (number + 1) := by
  obtain ⟨final, reached⟩ := Option.isSome_iff_exists.mp servedClient_runs
  exact ⟨final, reached, answers_in_order reached⟩

end

end LowPing.Bridge
