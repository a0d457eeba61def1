import LowPing.Library.Table
import LowPing.Bridge.Routing

/-!
# Datagrams at the bridge

A UDP destination is handed the payload of one opened frame in one piece. On the way back a payload
is encrypted under the AEAD key of the session it was read for as long as a session is inserted only
under a key that nothing on the way downstream names for a session with another AEAD key.
-/

namespace LowPing.Bridge

open Library

variable {env : BridgeEnv} {state next : BridgeState} {event : Event}

/-- The AEAD key of a session. -/
def BridgeState.aeadKeyOf (state : BridgeState) (session : SessionId) : Option AeadKey :=
  (state.cells[session]?).map fun cell => cell.session.aeadKey

/-- Whether a session has a UDP destination. -/
def BridgeState.isUdp (state : BridgeState) (session : SessionId) : Bool :=
  match state.cells[session]? with
  | some ⟨⟨_, _, _, .udp _⟩, _⟩ => true
  | _ => false

/-- Everything on the way downstream that names a key does so for a session with an AEAD key. -/
def BridgeState.namedFor (state : BridgeState) (key : SessionKey) (aeadKey : AeadKey) : Bool :=
  (state.drains.all fun drain => !(drain.active && decide (drain.key = key)) ||
      decide (state.aeadKeyOf drain.session = some aeadKey)) &&
    (state.downstream.all fun queued => !decide (queued.packet.sessionKey = key) ||
      decide (state.aeadKeyOf queued.origin = some aeadKey)) &&
    match state.sender with
    | .looking queued => !decide (queued.packet.sessionKey = key) ||
        decide (state.aeadKeyOf queued.origin = some aeadKey)
    | _ => true

/-- A session is inserted only where what its key names downstream has the same AEAD key. -/
def insertsSameAead (state : BridgeState) : Event → Bool
  | .insert task =>
    match state.tasks[task]? with
    | some (.inserting key session) => state.namedFor key session.aeadKey
    | _ => true
  | _ => true

/-! ## One AEAD key -/

/-- A session keeps its AEAD key. -/
theorem aeadKeyOf_step {session : SessionId} {aeadKey : AeadKey}
    (taken : step env state event = some next) (held : state.aeadKeyOf session = some aeadKey) :
    next.aeadKeyOf session = some aeadKey := by
  obtain ⟨cell, present, rfl⟩ := Option.map_eq_some_iff.mp held
  obtain ⟨last, found, moved⟩ := cell_step taken present
  rw [BridgeState.aeadKeyOf, found, Option.map_some, moved.aeadKey]

/-- A session that exists has the AEAD key it has after the next step. -/
theorem aeadKeyOf_before {session : SessionId} {aeadKey : AeadKey}
    (taken : step env state event = some next) (bound : session < state.cells.length)
    (held : next.aeadKeyOf session = some aeadKey) : state.aeadKeyOf session = some aeadKey := by
  have present := List.getElem?_eq_getElem bound
  have own : state.aeadKeyOf session = some state.cells[session].session.aeadKey := by
    rw [BridgeState.aeadKeyOf, present, Option.map_some]
  rw [own, ← aeadKeyOf_step taken own, held]

/-- A named pair has the AEAD key its key is named for. -/
theorem namedFor_names {key : SessionKey} {origin : SessionId} {aeadKey : AeadKey}
    (checked : state.namedFor key aeadKey = true) (named : state.names key origin) :
    state.aeadKeyOf origin = some aeadKey := by
  unfold BridgeState.namedFor at checked
  obtain ⟨both, looking⟩ := Bool.and_eq_true_iff.mp checked
  obtain ⟨drains, channel⟩ := Bool.and_eq_true_iff.mp both
  rcases named with ⟨drain, member, running, rfl, rfl⟩ | ⟨queued, member, rfl, rfl⟩ |
    ⟨queued, point, rfl, rfl⟩
  · have own := List.all_eq_true.mp drains drain member
    simpa [running] using own
  · have own := List.all_eq_true.mp channel queued member
    simpa using own
  · rw [point] at looking
    simpa using looking

/-- A session's AEAD key is that of the session live under a key, if there is one. -/
def BridgeState.shares (state : BridgeState) (key : SessionKey) (origin : SessionId) : Prop :=
  ∃ aeadKey, state.aeadKeyOf origin = some aeadKey ∧
    ∀ live, state.sessions.lookup key = some live → state.aeadKeyOf live = some aeadKey

/-- What is carried was read, and what is named and encrypted has one AEAD key. -/
structure Homed (state : BridgeState) : Prop where
  /-- A packet under way was read for its session. -/
  carried : ∀ queued, state.carries queued →
    .read queued.origin queued.packet.payload ∈ state.trace
  /-- What names a key shares the AEAD key of the session live there. -/
  named : ∀ key origin, state.names key origin → state.shares key origin
  /-- The sender holds a session with the AEAD key of the session its packet was read for. -/
  locking : ∀ queued session, state.sender = .locking queued session →
    ∃ aeadKey, state.aeadKeyOf queued.origin = some aeadKey ∧
      state.aeadKeyOf session = some aeadKey
  /-- So is every packet encrypted. -/
  encrypted : ∀ queued session header time, .encrypted queued session header time ∈ state.trace →
    .read queued.origin queued.packet.payload ∈ state.trace ∧
      ∃ aeadKey, state.aeadKeyOf queued.origin = some aeadKey ∧
        state.aeadKeyOf session = some aeadKey

/-- A pair goes on sharing its AEAD key through every step that inserts none other under the key. -/
theorem shares_step {key : SessionKey} {origin : SessionId} (held : state.shares key origin)
    (taken : step env state event = some next)
    (same : ∀ task created, event = .insert task →
      state.tasks[task]? = some (.inserting key created) →
      state.aeadKeyOf origin = some created.aeadKey) : next.shares key origin := by
  obtain ⟨aeadKey, own, shared⟩ := held
  refine ⟨aeadKey, aeadKeyOf_step taken own, fun live found => ?_⟩
  have footprint := (step_footprint taken).sessions
  generalize table : next.sessions = sessions at footprint found
  cases footprint with
  | kept => exact aeadKeyOf_step taken (shared live found)
  | removed toDrop listed =>
    exact aeadKeyOf_step taken (shared live (Table.lookup_of_lookup_eraseAll found).2)
  | inserted task other created present =>
    by_cases here : key = other
    · subst here
      rw [AList.lookup_insert] at found
      obtain rfl := Option.some.inj found
      have agreed := same task created rfl present
      obtain ⟨_, _, point, _, rfl⟩ := insert_ok taken
      obtain ⟨_, rfl⟩ := PacketTask.inserting.inj (Option.some.inj (present.symm.trans point))
      rw [BridgeState.aeadKeyOf, List.getElem?_concat_length, Option.map_some, ← agreed, own]
    · rw [AList.lookup_insert_ne here] at found
      exact aeadKeyOf_step taken (shared live found)

/-- The pair of a session just inserted shares its AEAD key. -/
theorem shares_inserted {task : Nat} {key : SessionKey} {created : Session}
    (present : state.tasks[task]? = some (.inserting key created))
    (taken : step env state (.insert task) = some next) : next.shares key state.cells.length := by
  obtain ⟨_, _, point, _, rfl⟩ := insert_ok taken
  obtain ⟨rfl, rfl⟩ := PacketTask.inserting.inj (Option.some.inj (present.symm.trans point))
  refine ⟨created.aeadKey, ?_, fun live found => ?_⟩
  · rw [BridgeState.aeadKeyOf, List.getElem?_concat_length]
    rfl
  · rw [AList.lookup_insert] at found
    obtain rfl := Option.some.inj found
    rw [BridgeState.aeadKeyOf, List.getElem?_concat_length]
    rfl

/-- Named pairs go on sharing their AEAD keys. -/
theorem named_step (held : Homed state) (checked : insertsSameAead state event = true)
    (taken : step env state event = some next) :
    ∀ key origin, next.names key origin → next.shares key origin := by
  intro key origin named
  rcases names_step taken named with before | ⟨task, created, rfl, present, rfl⟩
  · refine shares_step (held.named key origin before) taken fun task created inserting point => ?_
    subst inserting
    have free : state.namedFor key created.aeadKey = true := by
      simpa [insertsSameAead, point] using checked
    exact namedFor_names free before
  · exact shares_inserted present taken

/-- The sender goes on holding a session with its packet's AEAD key. -/
theorem locking_step (held : Homed state) (taken : step env state event = some next) :
    ∀ queued session, next.sender = .locking queued session →
      ∃ aeadKey, next.aeadKeyOf queued.origin = some aeadKey ∧
        next.aeadKeyOf session = some aeadKey := by
  intro queued session point
  have kept : (∃ aeadKey, state.aeadKeyOf queued.origin = some aeadKey ∧
      state.aeadKeyOf session = some aeadKey) → ∃ aeadKey,
        next.aeadKeyOf queued.origin = some aeadKey ∧ next.aeadKeyOf session = some aeadKey := by
    rintro ⟨aeadKey, own, shared⟩
    exact ⟨aeadKey, aeadKeyOf_step taken own, aeadKeyOf_step taken shared⟩
  have footprint := (step_footprint taken).downstream
  generalize next.drains = drains at footprint
  generalize next.downstream = downstream at footprint
  generalize next.sender = sender at footprint point
  cases footprint with
  | received => contradiction
  | found looked target looking live =>
    obtain ⟨rfl, rfl⟩ := SenderTask.locking.inj point
    obtain ⟨aeadKey, own, shared⟩ :=
      held.named looked.packet.sessionKey looked.origin (.looking looked looking rfl rfl)
    exact kept ⟨aeadKey, own, shared target live⟩
  | encrypted => contradiction
  | finished => contradiction
  | _ => exact kept (held.locking queued session point)

/-- Every packet encrypted goes on having been read for a session with that AEAD key. -/
theorem encrypted_step (held : Homed state) (taken : step env state event = some next) :
    ∀ queued session header time, .encrypted queued session header time ∈ next.trace →
      .read queued.origin queued.packet.payload ∈ next.trace ∧
        ∃ aeadKey, next.aeadKeyOf queued.origin = some aeadKey ∧
          next.aeadKeyOf session = some aeadKey := by
  intro queued session header time member
  have grows := (step_footprint taken).trace_grows
  obtain ⟨outputs, grown, added⟩ := (step_footprint taken).trace
  rw [grown] at member
  rcases List.mem_append.mp member with before | new
  · obtain ⟨read, aeadKey, own, shared⟩ := held.encrypted queued session header time before
    exact ⟨grows.subset read, aeadKey, aeadKeyOf_step taken own, aeadKeyOf_step taken shared⟩
  · cases added with
    | none => contradiction
    | encrypted sealing target cell point present =>
      obtain ⟨rfl, rfl, _, _⟩ := Output.encrypted.inj (List.mem_singleton.mp new)
      have carried : state.carries queued := .inr (by rw [point]; rfl)
      obtain ⟨aeadKey, own, shared⟩ := held.locking queued session point
      exact ⟨grows.subset (held.carried queued carried), aeadKey, aeadKeyOf_step taken own,
        aeadKeyOf_step taken shared⟩
    | reaped toDrop listed =>
      obtain ⟨key, _, target, _, impossible⟩ := mem_reapedOutputs new
      contradiction
    | _ =>
      have impossible := List.mem_singleton.mp new
      contradiction

/-- A step that inserts only sessions of one AEAD key keeps packets home. -/
theorem homed_step (held : Homed state) (checked : insertsSameAead state event = true)
    (taken : step env state event = some next) : Homed next where
  carried queued carried := by
    rcases carries_step taken carried with before | ⟨_, _, _, _, _, _, grown⟩
    · exact (step_footprint taken).trace_grows.subset (held.carried queued before)
    · rw [grown]
      exact List.mem_append_right _ List.mem_cons_self
  named := named_step held checked taken
  locking := locking_step held taken
  encrypted := encrypted_step held taken

/-- Nothing is on its way before the first datagram. -/
theorem homed_start (clock : Instant) : Homed (.start clock) where
  carried queued carried := by
    rcases carried with member | held
    · contradiction
    · contradiction
  named key origin named := by
    rcases named with ⟨_, member, _⟩ | ⟨_, member, _⟩ | ⟨_, point, _⟩
    · contradiction
    · contradiction
    · contradiction
  locking queued session point := by contradiction
  encrypted queued session header time member := by contradiction

/-! ## Whole datagrams to a destination -/

/-- Whether a destination is UDP depends on its writer alone. -/
theorem isUdp_iff {session : SessionId} : state.isUdp session = true ↔
    ∃ cell socket, state.cells[session]? = some cell ∧ cell.session.destWriter = .udp socket := by
  unfold BridgeState.isUdp
  constructor
  · intro udp
    split at udp
    · rename_i socket locked present
      exact ⟨_, socket, present, rfl⟩
    · contradiction
  · rintro ⟨⟨⟨aeadKey, counter, stamp, writer⟩, locked⟩, socket, present, rfl⟩
    rw [present]

/-- A session that exists keeps its kind of destination. -/
theorem isUdp_step {session : SessionId} (taken : step env state event = some next)
    (bound : session < state.cells.length) (udp : next.isUdp session = true) :
    state.isUdp session = true := by
  obtain ⟨last, socket, found, writer⟩ := isUdp_iff.mp udp
  have present := List.getElem?_eq_getElem bound
  obtain ⟨after, foundAfter, moved⟩ := cell_step taken present
  obtain rfl := Option.some.inj (found.symm.trans foundAfter)
  exact isUdp_iff.mpr ⟨_, socket, present, moved.destWriter.symm.trans writer⟩

/-- A session exists and, if its destination is UDP, bytes are the payload of a write for it. -/
def BridgeState.wholeFor (state : BridgeState) (session : SessionId) (bytes : Bytes) : Prop :=
  session < state.cells.length ∧ (state.isUdp session = true →
    ∃ key header time, .write key session header bytes time ∈ state.trace)

/-- A UDP destination is handed whole payloads. -/
structure WholeWrites (state : BridgeState) : Prop where
  /-- A write under way has its whole payload left. -/
  writing : ∀ (task : Nat) (key : SessionKey) (session : SessionId) (header : Header)
    (rest : Bytes), state.tasks[task]? = some (.writing key session header rest) →
    state.wholeFor session rest
  /-- What was delivered is the payload of a write. -/
  delivered : ∀ session socket bytes time, .delivered session socket bytes time ∈ state.trace →
    state.wholeFor session bytes

/-- What is whole stays whole. -/
theorem wholeFor_step {session : SessionId} {bytes : Bytes} (held : state.wholeFor session bytes)
    (taken : step env state event = some next) : next.wholeFor session bytes := by
  obtain ⟨bound, whole⟩ := held
  refine ⟨Nat.lt_of_lt_of_le bound (length_cells_step taken), fun udp => ?_⟩
  obtain ⟨key, header, time, member⟩ := whole (isUdp_step taken bound udp)
  exact ⟨key, header, time, (step_footprint taken).trace_grows.subset member⟩

/-- Only a TCP destination takes a part of the payload. -/
theorem not_isUdp_of_writeSome {task count : Nat} {key : SessionKey} {session : SessionId}
    {header : Header} {rest : Bytes}
    (point : state.tasks[task]? = some (.writing key session header rest))
    (taken : step env state (.writeSome task count) = some next) :
    ¬ state.isUdp session = true := by
  intro udp
  obtain ⟨cell, socket, found, writer⟩ := isUdp_iff.mp udp
  obtain ⟨_, _, _, _, other, _, here, otherFound, tcp, _⟩ := writeSome_ok taken
  obtain ⟨_, rfl, _⟩ := PacketTask.writing.inj (Option.some.inj (point.symm.trans here))
  obtain rfl := Option.some.inj (found.symm.trans otherFound)
  rw [writer] at tcp
  contradiction

/-- A write under way goes on having its whole payload left. -/
theorem writing_step (held : WholeWrites state) (taken : step env state event = some next) :
    ∀ (task : Nat) (key : SessionKey) (session : SessionId) (header : Header) (rest : Bytes),
      next.tasks[task]? = some (.writing key session header rest) →
      next.wholeFor session rest := by
  intro task key session header rest present
  cases task_before taken present with
  | stayed _ _ old => exact wholeFor_step (held.writing task key session header rest old) taken
  | moved _ before _ point move =>
    cases move with
    | opened _ _ pkt cell _ _ found opened =>
      have bound := (List.getElem?_eq_some_iff.mp found).1
      refine ⟨Nat.lt_of_lt_of_le bound (length_cells_step taken), fun _ => ?_⟩
      obtain ⟨_, _, _, other, here, otherFound, _, ⟨_, failed, _⟩ | ⟨_, _, again, rfl⟩⟩ :=
        lock_ok taken
      · obtain ⟨rfl, rfl, rfl⟩ := PacketTask.locking.inj (Option.some.inj (point.symm.trans here))
        obtain rfl := Option.some.inj (found.symm.trans otherFound)
        rw [opened] at failed
        contradiction
      · obtain ⟨rfl, rfl, rfl⟩ := PacketTask.locking.inj (Option.some.inj (point.symm.trans here))
        obtain rfl := Option.some.inj (found.symm.trans otherFound)
        obtain ⟨rfl, rfl⟩ := Prod.mk.inj (Except.ok.inj (opened.symm.trans again))
        exact ⟨key, header, state.clock, List.mem_append_right _ List.mem_cons_self⟩
    | wrote _ _ _ whole count =>
      obtain ⟨bound, _⟩ := held.writing task key session header whole point
      exact ⟨Nat.lt_of_lt_of_le bound (length_cells_step taken), fun udp =>
        absurd (isUdp_step taken bound udp) (not_isUdp_of_writeSome point taken)⟩

/-- Every step keeps writes to UDP destinations whole. -/
theorem wholeWrites_step (held : WholeWrites state) (taken : step env state event = some next) :
    WholeWrites next where
  writing := writing_step held taken
  delivered session socket bytes time member := by
    obtain ⟨outputs, grown, added⟩ := (step_footprint taken).trace
    rw [grown] at member
    rcases List.mem_append.mp member with before | new
    · exact wholeFor_step (held.delivered session socket bytes time before) taken
    · cases added with
      | none => contradiction
      | delivered _ task key target header rest _ _ writes point =>
        obtain ⟨rfl, rfl, rfl, _⟩ := Output.delivered.inj (List.mem_singleton.mp new)
        have whole := held.writing task key session header rest point
        rcases writes with ⟨count, rfl⟩ | rfl
        · exact ⟨Nat.lt_of_lt_of_le whole.1 (length_cells_step taken), fun udp =>
            absurd (isUdp_step taken whole.1 udp) (not_isUdp_of_writeSome point taken)⟩
        · obtain ⟨_, _, _, left, _, here, _, ⟨_, _, _, rfl⟩ | ⟨_, _, rfl⟩⟩ := writeDone_ok taken
          · simp at grown
          · obtain ⟨_, rfl, _, rfl⟩ :=
              PacketTask.writing.inj (Option.some.inj (point.symm.trans here))
            obtain ⟨_, _, rfl, _⟩ := Output.delivered.inj
              (List.cons.inj (List.append_cancel_left grown)).1
            exact wholeFor_step whole taken
      | reaped toDrop listed =>
        obtain ⟨key, _, target, _, impossible⟩ := mem_reapedOutputs new
        contradiction
      | _ =>
        have impossible := List.mem_singleton.mp new
        contradiction

/-- Nothing is written before the first datagram. -/
theorem wholeWrites_start (clock : Instant) : WholeWrites (.start clock) where
  writing task _ _ _ _ present := by simp [BridgeState.start] at present
  delivered _ _ _ _ member := by contradiction

end LowPing.Bridge
