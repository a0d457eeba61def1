import LowPing.Bridge.Ownership

/-!
# The byte stream of a session

`forward_data` calls the destination write for one payload at a time, and the socket takes its
bytes in pieces. The bytes a socket has taken are the payloads written for the session, one after
the other, as long as each write starts after everything before it was taken.
-/

namespace LowPing.Bridge

open Library

variable {env : BridgeEnv} {state next : BridgeState} {event : Event}

/-- The payload an effect starts to write for a session. -/
def Output.payloadFor (session : SessionId) : Output → Option Bytes
  | .write _ target _ payload _ => if target = session then some payload else none
  | _ => none

/-- The bytes an effect hands to a session's socket. -/
def Output.bytesFor (session : SessionId) : Output → Option Bytes
  | .delivered target _ bytes _ => if target = session then some bytes else none
  | _ => none

/-- Payloads whose write was called for a session, oldest first. -/
def BridgeState.payloads (state : BridgeState) (session : SessionId) : List Bytes :=
  state.trace.filterMap (Output.payloadFor session)

/-- What a session's socket has taken so far. -/
def BridgeState.taken (state : BridgeState) (session : SessionId) : Bytes :=
  (state.trace.filterMap (Output.bytesFor session)).flatten

/-- What a step does to the stream of one session. -/
inductive StreamStep (env : BridgeEnv) (state : BridgeState) (event : Event) (next : BridgeState)
    (session : SessionId) : Prop where
  /-- Nothing. -/
  | still (payloads : next.payloads session = state.payloads session)
      (bytes : next.taken session = state.taken session)
      (writers : ∀ (task : Nat) (key : SessionKey) (header : Header) (rest : Bytes),
        next.tasks[task]? = some (.writing key session header rest) →
        state.tasks[task]? = some (.writing key session header rest))
  /-- A write is called. -/
  | called (task : Nat) (key : SessionKey) (pkt : Bytes) (cell : SessionCell) (header : Header)
      (payload : Bytes) (running : event = .lock task)
      (point : state.tasks[task]? = some (.locking key session pkt))
      (present : state.cells[session]? = some cell)
      (opened : decryptFrame env.crypto cell.session.aeadKey pkt = .ok (header, payload))
      (after : next.tasks[task]? = some (.writing key session header payload))
      (payloads : next.payloads session = state.payloads session ++ [payload])
      (bytes : next.taken session = state.taken session)
  /-- The socket takes some of the bytes left. -/
  | took (task : Nat) (key : SessionKey) (header : Header) (rest : Bytes) (count : Nat)
      (point : state.tasks[task]? = some (.writing key session header rest))
      (after : next.tasks[task]? = some (.writing key session header (rest.drop count)))
      (payloads : next.payloads session = state.payloads session)
      (bytes : next.taken session = state.taken session ++ rest.take count)
  /-- The socket takes all of the bytes left, as one datagram. -/
  | finished (task : Nat) (key : SessionKey) (header : Header) (rest : Bytes)
      (running : event = .writeDone task)
      (point : state.tasks[task]? = some (.writing key session header rest))
      (after : next.tasks[task]? = some (.returned none))
      (payloads : next.payloads session = state.payloads session)
      (bytes : next.taken session = state.taken session ++ rest)

/-- Effects that carry nothing for a session leave its stream alone. -/
theorem stream_of_trace {session : SessionId} {outputs : List Output}
    (grown : next.trace = state.trace ++ outputs)
    (foreign : ∀ output ∈ outputs, output.payloadFor session = none ∧
      output.bytesFor session = none) :
    next.payloads session = state.payloads session ∧ next.taken session = state.taken session := by
  have payloads : outputs.filterMap (Output.payloadFor session) = [] :=
    List.filterMap_eq_nil_iff.mpr fun output member => (foreign output member).1
  have bytes : outputs.filterMap (Output.bytesFor session) = [] :=
    List.filterMap_eq_nil_iff.mpr fun output member => (foreign output member).2
  constructor
  · rw [BridgeState.payloads, grown, List.filterMap_append, payloads, List.append_nil]
    rfl
  · rw [BridgeState.taken, grown, List.filterMap_append, bytes, List.append_nil]
    rfl

/-- A task moved away from writing for a session writes for it no more. -/
theorem writers_of_set {tasks : List PacketTask} {task : Nat} {after : PacketTask}
    {session : SessionId} (away : after.writes ≠ some session) (other : Nat) (key : SessionKey)
    (header : Header) (rest : Bytes)
    (present : (tasks.set task after)[other]? = some (.writing key session header rest)) :
    tasks[other]? = some (.writing key session header rest) := by
  rcases Update.getElem?_set_cases present with ⟨_, rfl⟩ | ⟨_, old⟩
  · exact absurd rfl away
  · exact old

/-- A task that moves away from a session, with effects for others, leaves its stream alone. -/
theorem still_of_set {session : SessionId} {task : Nat} {after : PacketTask}
    {outputs : List Output} (moved : next.tasks = state.tasks.set task after)
    (away : after.writes ≠ some session) (grown : next.trace = state.trace ++ outputs)
    (foreign : ∀ output ∈ outputs, output.payloadFor session = none ∧
      output.bytesFor session = none) : StreamStep env state event next session := by
  obtain ⟨payloads, bytes⟩ := stream_of_trace grown foreign
  refine .still payloads bytes ?_
  rw [moved]
  exact writers_of_set away

/-- Only the lock and the destination write of a packet task change a stream. -/
theorem still_of_event {session : SessionId} (taken : step env state event = some next)
    (locks : ∀ task, event ≠ .lock task) (partly : ∀ task count, event ≠ .writeSome task count)
    (ends : ∀ task, event ≠ .writeDone task) : StreamStep env state event next session := by
  obtain ⟨outputs, grown, added⟩ := (step_footprint taken).trace
  have foreign : ∀ output ∈ outputs, output.payloadFor session = none ∧
      output.bytesFor session = none := by
    intro output member
    cases added with
    | opened task => exact absurd rfl (locks task)
    | delivered event task key target header rest socket bytes writes point =>
      rcases writes with ⟨count, rfl⟩ | rfl
      · exact absurd rfl (partly task count)
      · exact absurd rfl (ends task)
    | reaped toDrop listed =>
      obtain ⟨key, _, target, _, rfl⟩ := mem_reapedOutputs member
      exact ⟨rfl, rfl⟩
    | none => contradiction
    | _ =>
      obtain rfl := List.mem_singleton.mp member
      exact ⟨rfl, rfl⟩
  have unchanged := stream_of_trace grown foreign
  refine .still unchanged.1 unchanged.2 fun task key header rest present => ?_
  cases task_before taken present with
  | stayed _ _ old => exact old
  | moved _ before _ point move =>
    cases move with
    | opened => exact absurd rfl (locks task)
    | wrote _ _ _ _ count => exact absurd rfl (partly task count)

/-- Every step does one of these to the stream of a session. -/
theorem stream_step (taken : step env state event = some next) (session : SessionId) :
    StreamStep env state event next session := by
  cases event with
  | lock task =>
    obtain ⟨key, target, pkt, cell, point, present, _, ⟨failure, _, rfl⟩ |
      ⟨header, payload, opened, rfl⟩⟩ := lock_ok taken
    · exact .still rfl rfl (writers_of_set (by simp [PacketTask.writes]))
    · have bound := (List.getElem?_eq_some_iff.mp point).1
      by_cases same : target = session
      · subst same
        refine .called task key pkt cell header payload rfl point present opened
          (List.getElem?_set_self bound) ?_ ?_
        · simp [BridgeState.payloads, Output.payloadFor]
        · simp [BridgeState.taken, Output.bytesFor]
      · apply still_of_set rfl _ rfl
        · simp [Output.payloadFor, Output.bytesFor, same]
        · simp [PacketTask.writes, same]
  | writeSome task count =>
    obtain ⟨key, target, header, rest, _, socket, point, _, _, _, _, rfl⟩ := writeSome_ok taken
    have bound := (List.getElem?_eq_some_iff.mp point).1
    by_cases same : target = session
    · subst same
      refine .took task key header rest count point (List.getElem?_set_self bound) ?_ ?_
      · simp [BridgeState.payloads, Output.payloadFor]
      · simp [BridgeState.taken, Output.bytesFor]
    · apply still_of_set rfl _ rfl
      · simp [Output.payloadFor, Output.bytesFor, same]
      · simp [PacketTask.writes, same]
  | writeDone task =>
    obtain ⟨key, target, header, rest, _, point, _, ⟨_, _, _, rfl⟩ | ⟨socket, _, rfl⟩⟩ :=
      writeDone_ok taken
    · exact .still rfl rfl (writers_of_set (by simp [PacketTask.writes]))
    · have bound := (List.getElem?_eq_some_iff.mp point).1
      by_cases same : target = session
      · subst same
        refine .finished task key header rest rfl point (List.getElem?_set_self bound) ?_ ?_
        · simp [BridgeState.payloads, Output.payloadFor]
        · simp [BridgeState.taken, Output.bytesFor]
      · apply still_of_set rfl _ rfl
        · simp [Output.payloadFor, Output.bytesFor, same]
        · simp [PacketTask.writes]
  | _ =>
    exact still_of_event taken (fun _ => Event.noConfusion) (fun _ _ => Event.noConfusion)
      fun _ => Event.noConfusion

/-- What the socket of a session has taken, and what is left for it to take. -/
structure Ordered (state : BridgeState) (session : SessionId) : Prop where
  /-- The socket has taken a prefix of what was written. -/
  taken : state.taken session <+: (state.payloads session).flatten
  /-- While a write is under way, the rest of it is all that is left. -/
  writing : ∀ (task : Nat) (key : SessionKey) (header : Header) (rest : Bytes),
    state.tasks[task]? = some (.writing key session header rest) →
    state.taken session ++ rest = (state.payloads session).flatten

/-- Before the first datagram nothing was written. -/
theorem ordered_start (clock : Instant) (session : SessionId) : Ordered (.start clock) session where
  taken := List.prefix_rfl
  writing task _ _ _ present := by simp [BridgeState.start] at present

/-- A stream keeps its order as long as each write starts with nothing left of the last. -/
theorem ordered_step {session : SessionId} (owned : Exclusive state) (held : Ordered state session)
    (settled : ∀ task key pkt cell header payload, event = .lock task →
      state.tasks[task]? = some (.locking key session pkt) → state.cells[session]? = some cell →
      decryptFrame env.crypto cell.session.aeadKey pkt = .ok (header, payload) →
      state.taken session = (state.payloads session).flatten)
    (taken : step env state event = some next) : Ordered next session where
  taken := by
    cases stream_step taken session with
    | still payloads bytes =>
      rw [payloads, bytes]
      exact held.taken
    | called task key pkt cell header payload running point present opened after payloads bytes =>
      rw [payloads, bytes, List.flatten_append]
      exact held.taken.trans (List.prefix_append _ _)
    | took task key header rest count point after payloads bytes =>
      rw [payloads, bytes, ← held.writing task key header rest point]
      exact (List.prefix_append_right_inj _).mpr (List.take_prefix count rest)
    | finished task key header rest running point after payloads bytes =>
      have whole := held.writing task key header rest point
      rw [payloads, bytes]
      exact ⟨[], by rw [List.append_nil, whole]⟩
  writing task key header rest present := by
    have alone {other : Nat} {point : PacketTask} (found : next.tasks[other]? = some point)
        (writes : point.writes = some session) : other = task :=
      (exclusive_step owned taken).unique other task point _ session found present writes rfl
    cases stream_step taken session with
    | still payloads bytes writers =>
      rw [payloads, bytes]
      exact held.writing task key header rest (writers task key header rest present)
    | called other key pkt cell header payload running point found opened after payloads bytes =>
      obtain rfl := alone after rfl
      obtain ⟨rfl, _, rfl, rfl⟩ :=
        PacketTask.writing.inj (Option.some.inj (after.symm.trans present))
      rw [payloads, bytes, settled other key pkt cell header payload running point found opened,
        List.flatten_append, List.flatten_singleton]
    | took other key header left count point after payloads bytes =>
      obtain rfl := alone after rfl
      obtain ⟨rfl, _, rfl, rfl⟩ :=
        PacketTask.writing.inj (Option.some.inj (after.symm.trans present))
      rw [payloads, bytes, List.append_assoc, List.take_append_drop,
        held.writing other key header left point]
    | finished other key front left running point after payloads bytes =>
      -- The write that ends was the only one, so no task writes for the session now.
      rcases writes_step taken present rfl with ⟨before, old, wrote⟩ | ⟨impossible, _⟩
      · obtain rfl := owned.unique other task _ before session point old rfl wrote
        rw [after] at present
        simp at present
      · rw [running] at impossible
        contradiction

end LowPing.Bridge
