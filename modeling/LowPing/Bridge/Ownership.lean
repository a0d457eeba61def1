import LowPing.Library.Update
import LowPing.Bridge.Footprint

/-!
# Keys and mutexes of sessions

Every session has one key for all its life, the one it was accepted under, and whoever waits for or
holds its mutex came by that key. At most one packet task writes for a session at a time, and its
mutex is locked meanwhile.
-/

namespace LowPing.Bridge

open Library

variable {env : BridgeEnv} {state next : BridgeState} {event : Event}

/-- The key and session a packet task waits for or writes for. -/
def PacketTask.serves : PacketTask → Option (SessionKey × SessionId)
  | .locking key session _ => some (key, session)
  | .writing key session _ _ => some (key, session)
  | _ => none

/-- Sessions and the keys they were accepted under. -/
structure Keyed (state : BridgeState) : Prop where
  /-- An accepted session exists. -/
  bound : ∀ key session, .accepted key session ∈ state.trace → session < state.cells.length
  /-- It was accepted under one key. -/
  functional : ∀ key other session, .accepted key session ∈ state.trace →
    .accepted other session ∈ state.trace → key = other
  /-- The table holds accepted sessions. -/
  live : ∀ key session, state.sessions.lookup key = some session →
    .accepted key session ∈ state.trace
  /-- Tasks serve accepted sessions. -/
  serves : ∀ (task : Nat) (point : PacketTask) (key : SessionKey) (session : SessionId),
    state.tasks[task]? = some point → point.serves = some (key, session) →
    .accepted key session ∈ state.trace

/-- Only an insert records an accept, of the next session. -/
theorem accepted_step {key : SessionKey} {session : SessionId}
    (taken : step env state event = some next) (recorded : .accepted key session ∈ next.trace) :
    .accepted key session ∈ state.trace ∨ ∃ task created, event = .insert task ∧
      state.tasks[task]? = some (.inserting key created) ∧ session = state.cells.length := by
  obtain ⟨outputs, grown, added⟩ := (step_footprint taken).trace
  rw [grown] at recorded
  rcases List.mem_append.mp recorded with before | new
  · exact .inl before
  · cases added with
    | accepted task other created present =>
      obtain ⟨rfl, rfl⟩ := Output.accepted.inj (List.mem_singleton.mp new)
      exact .inr ⟨task, created, rfl, present, rfl⟩
    | reaped toDrop listed =>
      obtain ⟨other, _, target, _, impossible⟩ := mem_reapedOutputs new
      contradiction
    | none => contradiction
    | _ =>
      have impossible := List.mem_singleton.mp new
      contradiction

/-- A task that serves a session after a step served it before or found it in the table. -/
theorem serves_step {task : Nat} {after : PacketTask} {key : SessionKey} {session : SessionId}
    (taken : step env state event = some next) (present : next.tasks[task]? = some after)
    (served : after.serves = some (key, session)) :
    (∃ before, state.tasks[task]? = some before ∧ before.serves = some (key, session)) ∨
      state.sessions.lookup key = some session := by
  cases task_before taken present with
  | stayed _ _ old => exact .inl ⟨after, old, served⟩
  | spawned peer pkt last => contradiction
  | moved _ before _ point move =>
    cases move with
    | routed nowUnix peer pkt header target front data found =>
      obtain ⟨rfl, rfl⟩ := Prod.mk.inj (Option.some.inj served)
      exact .inr found
    | opened => exact .inl ⟨_, point, served⟩
    | wrote => exact .inl ⟨_, point, served⟩
    | _ => contradiction

/-- Every step keeps sessions under their keys. -/
theorem keyed_step (held : Keyed state) (taken : step env state event = some next) :
    Keyed next where
  bound key session recorded := by
    have grown := length_cells_step taken
    rcases accepted_step taken recorded with before | ⟨task, created, rfl, point, rfl⟩
    · exact Nat.lt_of_lt_of_le (held.bound key session before) grown
    · obtain ⟨_, _, _, _, rfl⟩ := insert_ok taken
      simp
  functional key other session recorded recordedOther := by
    rcases accepted_step taken recorded with before | ⟨task, created, rfl, point, rfl⟩
    · rcases accepted_step taken recordedOther with beforeOther | ⟨_, _, _, _, rfl⟩
      · exact held.functional key other session before beforeOther
      · exact absurd (held.bound key _ before) (Nat.lt_irrefl _)
    · rcases accepted_step taken recordedOther with beforeOther | ⟨_, _, same, pointOther, _⟩
      · exact absurd (held.bound other _ beforeOther) (Nat.lt_irrefl _)
      · obtain rfl := Event.insert.inj same
        exact (PacketTask.inserting.inj (Option.some.inj (point.symm.trans pointOther))).1
  live key session found := by
    have footprint := step_footprint taken
    have sessions := footprint.sessions
    generalize next.sessions = table at sessions found
    cases sessions with
    | kept => exact footprint.trace_grows.subset (held.live key session found)
    | removed toDrop listed =>
      have before := (Table.lookup_of_lookup_eraseAll found).2
      exact footprint.trace_grows.subset (held.live key session before)
    | inserted task other created present =>
      by_cases same : key = other
      · subst same
        rw [AList.lookup_insert] at found
        obtain rfl := Option.some.inj found
        obtain ⟨_, _, point, _, rfl⟩ := insert_ok taken
        obtain ⟨rfl, _⟩ := PacketTask.inserting.inj (Option.some.inj (present.symm.trans point))
        exact List.mem_append_right _ List.mem_cons_self
      · rw [AList.lookup_insert_ne same] at found
        exact footprint.trace_grows.subset (held.live key session found)
  serves task after key session present served := by
    have grows := (step_footprint taken).trace_grows
    rcases serves_step taken present served with ⟨before, point, servedBefore⟩ | found
    · exact grows.subset (held.serves task before key session point servedBefore)
    · exact grows.subset (held.live key session found)

/-- The session a packet task writes for. -/
def PacketTask.writes : PacketTask → Option SessionId
  | .writing _ session _ _ => some session
  | _ => none

/-- Writers hold the mutex of their session, alone. -/
structure Exclusive (state : BridgeState) : Prop where
  /-- The mutex is locked. -/
  locked : ∀ (task : Nat) (point : PacketTask) (session : SessionId),
    state.tasks[task]? = some point → point.writes = some session →
    ∃ cell, state.cells[session]? = some cell ∧ cell.locked = true
  /-- No other task writes for the session. -/
  unique : ∀ (left right : Nat) (leftPoint rightPoint : PacketTask) (session : SessionId),
    state.tasks[left]? = some leftPoint → state.tasks[right]? = some rightPoint →
    leftPoint.writes = some session → rightPoint.writes = some session → left = right

/-- A task that writes after a step wrote before, or has just taken a free mutex. -/
theorem writes_step {task : Nat} {after : PacketTask} {session : SessionId}
    (taken : step env state event = some next) (present : next.tasks[task]? = some after)
    (writes : after.writes = some session) :
    (∃ before, state.tasks[task]? = some before ∧ before.writes = some session) ∨
      (event = .lock task ∧
        (∃ cell, state.cells[session]? = some cell ∧ cell.locked = false) ∧
        ∃ cell, next.cells[session]? = some cell ∧ cell.locked = true) := by
  cases task_before taken present with
  | stayed _ _ old => exact .inl ⟨after, old, writes⟩
  | spawned peer pkt last => contradiction
  | moved _ before _ point move =>
    cases move with
    | opened key target pkt cell header payload found opened =>
      obtain rfl := Option.some.inj writes
      obtain ⟨_, _, _, other, here, otherFound, free, ⟨_, failed, _⟩ | ⟨_, _, _, rfl⟩⟩ :=
        lock_ok taken
      · obtain ⟨rfl, rfl, rfl⟩ := PacketTask.locking.inj (Option.some.inj (point.symm.trans here))
        obtain rfl := Option.some.inj (found.symm.trans otherFound)
        rw [opened] at failed
        contradiction
      · obtain ⟨rfl, rfl, rfl⟩ := PacketTask.locking.inj (Option.some.inj (point.symm.trans here))
        have bound := (List.getElem?_eq_some_iff.mp otherFound).1
        exact .inr ⟨rfl, ⟨other, otherFound, free⟩, _, List.getElem?_set_self bound, rfl⟩
    | wrote => exact .inl ⟨_, point, writes⟩
    | _ => contradiction

/-- A task whose write ends writes no more. -/
theorem writes_end {task : Nat} {after : PacketTask}
    (ends : event = .writeDone task ∨ event = .writeFailed task)
    (taken : step env state event = some next) (present : next.tasks[task]? = some after) :
    after.writes = none := by
  have replaced {tasks : List PacketTask} {error : Option BridgeError}
      (found : (tasks.set task (.returned error))[task]? = some after) : after.writes = none := by
    rcases Update.getElem?_set_cases found with ⟨_, rfl⟩ | ⟨other, _⟩
    · rfl
    · exact absurd rfl other
  rcases ends with rfl | rfl
  · obtain ⟨_, _, _, _, _, _, _, ⟨_, _, _, rfl⟩ | ⟨_, _, rfl⟩⟩ := writeDone_ok taken
    · exact replaced present
    · exact replaced present
  · obtain ⟨_, _, _, _, _, rfl⟩ := writeFailed_ok taken
    exact replaced present

/-- A locked mutex stays locked unless its writer's write ends. -/
theorem locked_step {session : SessionId} {cell : SessionCell}
    (taken : step env state event = some next) (present : state.cells[session]? = some cell)
    (locked : cell.locked = true) :
    (∃ last, next.cells[session]? = some last ∧ last.locked = true) ∨
      ∃ task key header rest, (event = .writeDone task ∨ event = .writeFailed task) ∧
        state.tasks[task]? = some (.writing key session header rest) := by
  have footprint := (step_footprint taken).cells
  have bound := (List.getElem?_eq_some_iff.mp present).1
  generalize next.cells = cells at footprint ⊢
  cases footprint with
  | kept => exact .inl ⟨cell, present, locked⟩
  | created task key created started =>
    exact .inl ⟨cell, by rw [List.getElem?_append_left bound, present], locked⟩
  | stamped task key target pkt held point found free =>
    by_cases same : session = target
    · subst same
      exact .inl ⟨_, List.getElem?_set_self bound, rfl⟩
    · exact .inl ⟨cell, by rw [List.getElem?_set_ne (Ne.symm same), present], locked⟩
  | released event task key target header rest ends point =>
    by_cases same : session = target
    · subst same
      exact .inr ⟨task, key, header, rest, ends, point⟩
    · exact .inl ⟨cell, by rw [unlock, List.getElem?_modify_ne _ _ (Ne.symm same), present],
        locked⟩
  | counted queued target held point found free =>
    by_cases same : session = target
    · subst same
      obtain rfl := Option.some.inj (present.symm.trans found)
      rw [free] at locked
      contradiction
    · exact .inl ⟨cell, by rw [List.getElem?_set_ne (Ne.symm same), present], locked⟩

/-- Every step keeps writers alone behind a locked mutex. -/
theorem exclusive_step (held : Exclusive state) (taken : step env state event = some next) :
    Exclusive next where
  locked task after session present writes := by
    rcases writes_step taken present writes with ⟨before, point, wrote⟩ | ⟨_, _, locked⟩
    · obtain ⟨cell, found, locked⟩ := held.locked task before session point wrote
      rcases locked_step taken found locked with still | ⟨other, _, _, _, ends, writer⟩
      · exact still
      · -- The writer whose write ends is this task, which then writes no more.
        obtain rfl := held.unique task other before _ session point writer wrote rfl
        rw [writes_end ends taken present] at writes
        contradiction
    · exact locked
  unique left right leftPoint rightPoint session leftPresent rightPresent leftWrites
      rightWrites := by
    have blocked {task : Nat} {before : PacketTask} (point : state.tasks[task]? = some before)
        (wrote : before.writes = some session)
        (free : ∃ cell, state.cells[session]? = some cell ∧ cell.locked = false) : False := by
      obtain ⟨cell, found, locked⟩ := held.locked task before session point wrote
      obtain ⟨other, foundOther, free⟩ := free
      obtain rfl := Option.some.inj (found.symm.trans foundOther)
      rw [locked] at free
      contradiction
    rcases writes_step taken leftPresent leftWrites with ⟨_, leftOld, leftWrote⟩ |
      ⟨leftEvent, leftFree, _⟩
    · rcases writes_step taken rightPresent rightWrites with ⟨_, rightOld, rightWrote⟩ |
        ⟨_, rightFree, _⟩
      · exact held.unique left right _ _ session leftOld rightOld leftWrote rightWrote
      · exact (blocked leftOld leftWrote rightFree).elim
    · rcases writes_step taken rightPresent rightWrites with ⟨_, rightOld, rightWrote⟩ |
        ⟨rightEvent, _, _⟩
      · exact (blocked rightOld rightWrote leftFree).elim
      · exact Event.lock.inj (leftEvent.symm.trans rightEvent)

/-- The key a task is accepting a session under, and the key of that session. -/
def PacketTask.acceptsWith : PacketTask → Option (SessionKey × AeadKey)
  | .connecting key aeadKey _ => some (key, aeadKey)
  | .inserting key session => some (key, session.aeadKey)
  | _ => none

/-- Every session of a client has the key its client has. -/
structure Agreed (state : BridgeState) (key : SessionKey) (aeadKey : AeadKey) : Prop where
  /-- Also one not yet in the table. -/
  accepting : ∀ (task : Nat) (point : PacketTask) (other : AeadKey),
    state.tasks[task]? = some point → point.acceptsWith = some (key, other) → other = aeadKey
  /-- Also one no longer in the table. -/
  cells : ∀ session cell, .accepted key session ∈ state.trace →
    state.cells[session]? = some cell → cell.session.aeadKey = aeadKey

/-- Only an admitted SYN starts an accept, with the key derived from it. -/
theorem acceptsWith_move {task : Nat} {before after : PacketTask} {key : SessionKey}
    {aeadKey : AeadKey} (move : TaskMove env state task event before after)
    (accepts : after.acceptsWith = some (key, aeadKey)) :
    before.acceptsWith = some (key, aeadKey) ∨ ∃ nowUnix pkt header connect,
      event = .poll task nowUnix ∧ before = .spawned key.clientAddr pkt ∧
      Header.decode pkt = .ok header ∧ header.connectionId = key.connectionId ∧
      header.flags.contains Flags.syn = true ∧
      admitSyn env nowUnix pkt = .ok (aeadKey, connect) := by
  cases move with
  | admitted nowUnix peer pkt header derived connect front syn room admitted =>
    obtain ⟨rfl, rfl⟩ := Prod.mk.inj (Option.some.inj accepts)
    exact .inr ⟨nowUnix, pkt, header, connect, rfl, rfl, front, rfl, syn, admitted⟩
  | connected => exact .inl accepts
  | _ => simp [PacketTask.acceptsWith] at accepts

/-- Session keys and the AEAD keys of their sessions stand in a relation. -/
structure AcceptedWith (state : BridgeState) (relation : SessionKey → AeadKey → Prop) : Prop where
  /-- Also of one not yet in the table. -/
  accepting : ∀ (task : Nat) (point : PacketTask) (key : SessionKey) (aeadKey : AeadKey),
    state.tasks[task]? = some point → point.acceptsWith = some (key, aeadKey) →
    relation key aeadKey
  /-- Also of one no longer in the table. -/
  cells : ∀ key session cell, .accepted key session ∈ state.trace →
    state.cells[session]? = some cell → relation key cell.session.aeadKey

/-- The relation goes on holding while every SYN admitted derives a related key. -/
theorem acceptedWith_step {relation : SessionKey → AeadKey → Prop} (keyed : Keyed state)
    (held : AcceptedWith state relation)
    (derives : ∀ task nowUnix pkt header key aeadKey connect, event = .poll task nowUnix →
      state.tasks[task]? = some (.spawned key.clientAddr pkt) → Header.decode pkt = .ok header →
      header.connectionId = key.connectionId → header.flags.contains Flags.syn = true →
      admitSyn env nowUnix pkt = .ok (aeadKey, connect) → relation key aeadKey)
    (taken : step env state event = some next) : AcceptedWith next relation where
  accepting task after key aeadKey present accepts := by
    cases task_before taken present with
    | stayed _ _ old => exact held.accepting task after key aeadKey old accepts
    | spawned peer pkt last => contradiction
    | moved _ before _ point move =>
      rcases acceptsWith_move move accepts with accepted | ⟨nowUnix, pkt, header, connect, rfl,
        rfl, front, same, syn, admitted⟩
      · exact held.accepting task before key aeadKey point accepted
      · exact derives task nowUnix pkt header key aeadKey connect rfl point front same syn
          admitted
  cells key session last recorded found := by
    rcases accepted_step taken recorded with before | ⟨task, created, rfl, point, rfl⟩
    · have bound := keyed.bound key session before
      have present := List.getElem?_eq_getElem bound
      obtain ⟨after, foundAfter, moved⟩ := cell_step taken present
      obtain rfl := Option.some.inj (found.symm.trans foundAfter)
      rw [moved.aeadKey]
      exact held.cells key session _ before present
    · obtain ⟨_, inserted, here, _, rfl⟩ := insert_ok taken
      obtain ⟨rfl, rfl⟩ := PacketTask.inserting.inj (Option.some.inj (point.symm.trans here))
      rw [List.getElem?_concat_length] at found
      obtain rfl := Option.some.inj found
      exact held.accepting task _ _ _ point rfl

/-- Sessions go on having their client's key while every SYN admitted for it derives that key. -/
theorem agreed_step {key : SessionKey} {aeadKey : AeadKey} (keyed : Keyed state)
    (held : Agreed state key aeadKey)
    (derives : ∀ task nowUnix pkt header other connect, event = .poll task nowUnix →
      state.tasks[task]? = some (.spawned key.clientAddr pkt) → Header.decode pkt = .ok header →
      header.connectionId = key.connectionId → header.flags.contains Flags.syn = true →
      admitSyn env nowUnix pkt = .ok (other, connect) → other = aeadKey)
    (taken : step env state event = some next) : Agreed next key aeadKey := by
  have related : AcceptedWith state fun other derived => other = key → derived = aeadKey := by
    refine ⟨?_, ?_⟩
    · rintro task point _ derived present accepts rfl
      exact held.accepting task point derived present accepts
    · rintro _ session cell recorded present rfl
      exact held.cells session cell recorded present
  have after := acceptedWith_step keyed related (by
    rintro task nowUnix pkt header _ derived connect running point front same syn admitted rfl
    exact derives task nowUnix pkt header derived connect running point front same syn admitted)
    taken
  exact ⟨fun task point derived present accepts =>
      after.accepting task point key derived present accepts rfl,
    fun session cell recorded present => after.cells key session cell recorded present rfl⟩

/-- No session exists before the first datagram. -/
theorem agreed_start (clock : Instant) (key : SessionKey) (aeadKey : AeadKey) :
    Agreed (.start clock) key aeadKey where
  accepting task _ _ present := by simp [BridgeState.start] at present
  cells _ _ recorded := by contradiction

/-- No session exists before the first datagram. -/
theorem keyed_start (clock : Instant) : Keyed (.start clock) where
  bound _ _ recorded := by contradiction
  functional _ _ _ recorded := by contradiction
  live _ _ found := by simp [BridgeState.start] at found
  serves task _ _ _ present := by simp [BridgeState.start] at present

/-- No task writes before the first datagram. -/
theorem exclusive_start (clock : Instant) : Exclusive (.start clock) where
  locked task _ _ present := by simp [BridgeState.start] at present
  unique task _ _ _ _ present := by simp [BridgeState.start] at present

end LowPing.Bridge
