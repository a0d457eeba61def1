import LowPing.Bridge.Routing

/-!
# What a session sends

`drain_dest` reads a destination in chunks of at most one frame's payload, and the one
`downstream_sender` counts and encrypts them. A chunk never fails to encrypt, so the frames of a
session are numbered without gaps.
-/

namespace LowPing.Bridge

open Library

variable {env : BridgeEnv} {state next : BridgeState} {event : Event}

/-- The payload an effect reads for a session. -/
def Output.chunkFor (session : SessionId) : Output → Option Bytes
  | .read source payload => if source = session then some payload else none
  | _ => none

/-- The frame an effect encrypts for a session. -/
def Output.frameFor (session : SessionId) : Output → Option (Header × Bytes)
  | .encrypted queued target header _ =>
    if target = session then some (header, queued.packet.payload) else none
  | _ => none

/-- Payloads read from a session's destination, oldest first. -/
def BridgeState.chunks (state : BridgeState) (session : SessionId) : List Bytes :=
  state.trace.filterMap (Output.chunkFor session)

/-- Frames encrypted for a session, oldest first. -/
def BridgeState.frames (state : BridgeState) (session : SessionId) : List (Header × Bytes) :=
  state.trace.filterMap (Output.frameFor session)

/-- The counter of a session; one that does not exist yet will start at zero. -/
def BridgeState.counter (state : BridgeState) (session : SessionId) : UInt64 :=
  match state.cells[session]? with
  | some cell => cell.session.txSequence
  | none => 0

/-- The events of a payload's way to its client. -/
def Event.outflow : Event → Bool
  | .drain .. | .senderReceive | .senderLookup | .senderEncrypt | .senderSend _ => true
  | _ => false

/-- A session starts at zero. -/
def Fresh (state : BridgeState) : Prop :=
  ∀ (task : Nat) (key : SessionKey) (session : Session),
    state.tasks[task]? = some (.inserting key session) → session.txSequence = 0

/-- Every step starts sessions at zero. -/
theorem fresh_step (held : Fresh state) (taken : step env state event = some next) :
    Fresh next := by
  intro task key session present
  cases task_before taken present with
  | stayed _ _ old => exact held task key session old
  | moved _ before _ point move =>
    cases move
    rfl

/-- One effect extends the chunks of a session by what it reads for it. -/
theorem chunks_concat {output : Output} (grown : next.trace = state.trace ++ [output])
    (session : SessionId) :
    next.chunks session = state.chunks session ++ (output.chunkFor session).toList := by
  rw [BridgeState.chunks, grown, List.filterMap_append, List.filterMap_cons, List.filterMap_nil]
  cases output.chunkFor session <;> rfl

/-- One effect extends the frames of a session by what it encrypts for it. -/
theorem frames_concat {output : Output} (grown : next.trace = state.trace ++ [output])
    (session : SessionId) :
    next.frames session = state.frames session ++ (output.frameFor session).toList := by
  rw [BridgeState.frames, grown, List.filterMap_append, List.filterMap_cons, List.filterMap_nil]
  cases output.frameFor session <;> rfl

/-- Removals carry nothing downstream. -/
theorem reapedOutputs_outflow (sessions : SessionTable) (time : Instant)
    (toDrop : List SessionKey) (session : SessionId) :
    (reapedOutputs sessions time toDrop).filterMap (Output.chunkFor session) = [] ∧
      (reapedOutputs sessions time toDrop).filterMap (Output.frameFor session) = [] := by
  have removal : ∀ output ∈ reapedOutputs sessions time toDrop,
      output.chunkFor session = none ∧ output.frameFor session = none := by
    intro output member
    obtain ⟨key, _, target, _, rfl⟩ := mem_reapedOutputs member
    exact ⟨rfl, rfl⟩
  exact ⟨List.filterMap_eq_nil_iff.mpr fun output member => (removal output member).1,
    List.filterMap_eq_nil_iff.mpr fun output member => (removal output member).2⟩

/-- Only a drain task reads. -/
theorem chunks_kept (taken : step env state event = some next)
    (other : ∀ task bytes, event ≠ .drain task bytes) (session : SessionId) :
    next.chunks session = state.chunks session := by
  obtain ⟨outputs, grown, added⟩ := (step_footprint taken).trace
  have none : outputs.filterMap (Output.chunkFor session) = [] := by
    cases added with
    | none => rfl
    | read task bytes => exact absurd rfl (other task bytes)
    | reaped toDrop => exact (reapedOutputs_outflow _ _ toDrop session).1
    | _ => rfl
  rw [BridgeState.chunks, grown, List.filterMap_append, none, List.append_nil]
  rfl

/-- Only the sender encrypts. -/
theorem frames_kept (taken : step env state event = some next) (other : event ≠ .senderEncrypt)
    (session : SessionId) : next.frames session = state.frames session := by
  obtain ⟨outputs, grown, added⟩ := (step_footprint taken).trace
  have none : outputs.filterMap (Output.frameFor session) = [] := by
    cases added with
    | none => rfl
    | encrypted => exact absurd rfl other
    | reaped toDrop => exact (reapedOutputs_outflow _ _ toDrop session).2
    | _ => rfl
  rw [BridgeState.frames, grown, List.filterMap_append, none, List.append_nil]
  rfl

/-- No other event moves the channel or the sender. -/
theorem channel_kept (taken : step env state event = some next) (other : event.outflow = false) :
    next.downstream = state.downstream ∧ next.sender = state.sender := by
  cases event with
  | receive | advance =>
    obtain rfl := Option.some.inj taken
    exact ⟨rfl, rfl⟩
  | poll =>
    obtain ⟨_, _, _, rfl⟩ := poll_ok taken
    exact ⟨rfl, rfl⟩
  | connected =>
    obtain ⟨_, _, _, _, rfl⟩ := connected_ok taken
    exact ⟨rfl, rfl⟩
  | connectFailed =>
    obtain ⟨_, _, _, _, rfl⟩ := connectFailed_ok taken
    exact ⟨rfl, rfl⟩
  | insert =>
    obtain ⟨_, _, _, _, rfl⟩ := insert_ok taken
    exact ⟨rfl, rfl⟩
  | lock =>
    obtain ⟨_, _, _, _, _, _, _, ⟨_, _, rfl⟩ | ⟨_, _, _, rfl⟩⟩ := lock_ok taken
    · exact ⟨rfl, rfl⟩
    · exact ⟨rfl, rfl⟩
  | writeSome =>
    obtain ⟨_, _, _, _, _, _, _, _, _, _, _, rfl⟩ := writeSome_ok taken
    exact ⟨rfl, rfl⟩
  | writeDone =>
    obtain ⟨_, _, _, _, _, _, _, ⟨_, _, _, rfl⟩ | ⟨_, _, rfl⟩⟩ := writeDone_ok taken
    · exact ⟨rfl, rfl⟩
    · exact ⟨rfl, rfl⟩
  | writeFailed =>
    obtain ⟨_, _, _, _, _, rfl⟩ := writeFailed_ok taken
    exact ⟨rfl, rfl⟩
  | drainEnd =>
    obtain ⟨_, _, _, _, rfl⟩ := drainEnd_ok taken
    exact ⟨rfl, rfl⟩
  | reaperTick =>
    obtain ⟨_, _, _, rfl⟩ := reaperTick_ok taken
    exact ⟨rfl, rfl⟩
  | reaperScan =>
    obtain ⟨_, _, _, _, _, _, rfl⟩ := reaperScan_ok taken
    exact ⟨rfl, rfl⟩
  | reaperSkip =>
    obtain ⟨_, _, _, _, _, _, _, rfl⟩ := reaperSkip_ok taken
    exact ⟨rfl, rfl⟩
  | reaperScanned =>
    obtain ⟨_, _, _, rfl⟩ := reaperScanned_ok taken
    exact ⟨rfl, rfl⟩
  | reaperRemove =>
    obtain ⟨_, _, rfl⟩ := reaperRemove_ok taken
    exact ⟨rfl, rfl⟩
  | _ => contradiction

/-- Only the sender's encryption moves a counter. -/
theorem counter_step (fresh : Fresh state) (taken : step env state event = some next)
    (session : SessionId) : next.counter session = state.counter session ∨
      ∃ queued, event = .senderEncrypt ∧ state.sender = .locking queued session ∧
        next.counter session = state.counter session + 1 := by
  cases present : state.cells[session]? with
  | some cell =>
    obtain ⟨last, found, moved⟩ := cell_step taken present
    simp only [BridgeState.counter, present, found]
    exact moved.counter
  | none =>
    have outside := List.getElem?_eq_none_iff.mp present
    have footprint := (step_footprint taken).cells
    refine .inl ?_
    simp only [BridgeState.counter, present]
    generalize next.cells = cells at footprint ⊢
    cases footprint with
    | created task key created started =>
      cases found : (state.cells ++ [⟨created, false⟩])[session]? with
      | none => rfl
      | some cell =>
        rcases Update.getElem?_concat_cases found with ⟨_, rfl⟩ | old
        · exact fresh task key created started
        · rw [present] at old
          contradiction
    | kept => rw [present]
    | _ => rw [List.getElem?_eq_none_iff.mpr (by simpa [unlock] using outside)]

/-- What a bridge knows about its frames. -/
structure Numbered (state : BridgeState) : Prop where
  /-- Counters start at zero. -/
  fresh : Fresh state
  /-- What is carried fits a frame. -/
  fits : ∀ queued, state.carries queued → queued.packet.payload.length ≤ maxPayloadLen
  /-- A counter counts the frames of its session, in its own width. -/
  counted : ∀ session, state.counter session = UInt64.ofNat (state.frames session).length
  /-- The frames of a session have the sequences 1, 2, 3, ... -/
  numbered : ∀ session (position : Nat) (frame : Header × Bytes),
    (state.frames session)[position]? = some frame →
    frame.1.sequence = UInt64.ofNat (position + 1)

/-- A read never yields more than one frame's payload. -/
theorem readInto_fits {reader : DestReader} {bytes payload : Bytes}
    (filled : readInto reader bytes = some payload) : payload.length ≤ maxPayloadLen := by
  cases reader with
  | tcp socket =>
    simp only [readInto] at filled
    split at filled
    · rename_i bounds
      obtain rfl := Option.some.inj filled
      exact bounds.2
    · contradiction
  | udp socket =>
    obtain rfl := Option.some.inj filled
    exact List.length_take_le _ _

/-- Whatever the sender encrypts fits, so it only ever adds the next frame of its session. -/
theorem encrypt_numbered (held : Numbered state) (taken : senderEncrypt env state = some next) :
    ∃ queued session cell wire, state.sender = .locking queued session ∧
      state.cells[session]? = some cell ∧
      encryptFrame env.crypto cell.session.aeadKey
        (cell.session.nextHeader queued.packet.sessionKey.connectionId) queued.packet.payload =
          .ok wire ∧
      next = { state with
        cells := state.cells.set session
          ⟨{ cell.session with txSequence := cell.session.txSequence + 1 }, false⟩
        sender := .sending queued session wire
        trace := state.trace ++ [.encrypted queued session
          (cell.session.nextHeader queued.packet.sessionKey.connectionId) state.clock] } := by
  obtain ⟨queued, session, cell, point, present, _, ⟨failure, sealed, _⟩ | ⟨wire, sealed, rfl⟩⟩ :=
    senderEncrypt_ok taken
  · have carried : state.carries queued := by
      refine .inr ?_
      rw [point]
      rfl
    obtain ⟨wire, fits⟩ := encryptFrame_fits env.crypto cell.session.aeadKey
      (cell.session.nextHeader queued.packet.sessionKey.connectionId) (held.fits queued carried)
    rw [fits] at sealed
    contradiction
  · exact ⟨queued, session, cell, wire, point, present, sealed, rfl⟩

/-- Every step goes on numbering. -/
theorem numbered_step (held : Numbered state) (taken : step env state event = some next) :
    Numbered next where
  fresh := fresh_step held.fresh taken
  fits queued carried := by
    rcases carries_step taken carried with before | ⟨task, bytes, reader, _, _, filled, _⟩
    · exact held.fits queued before
    · exact readInto_fits filled
  counted session := by
    by_cases encrypts : event = .senderEncrypt
    · subst encrypts
      obtain ⟨queued, target, cell, wire, point, present, _, rfl⟩ := encrypt_numbered held taken
      rw [frames_concat rfl session]
      have old := held.counted session
      by_cases same : target = session
      · subst same
        have bound := (List.getElem?_eq_some_iff.mp present).1
        simp only [BridgeState.counter, present] at old
        simp [BridgeState.counter, Output.frameFor, List.getElem?_set_self bound, old,
          UInt64.ofNat_add]
      · simp only [BridgeState.counter] at old
        simp [BridgeState.counter, Output.frameFor, List.getElem?_set_ne same, same, old]
    · rw [frames_kept taken encrypts]
      rcases counter_step held.fresh taken session with kept | ⟨_, impossible, _⟩
      · rw [kept, held.counted]
      · exact absurd impossible encrypts
  numbered session position frame present := by
    by_cases encrypts : event = .senderEncrypt
    · subst encrypts
      obtain ⟨queued, target, cell, wire, point, found, _, rfl⟩ := encrypt_numbered held taken
      rw [frames_concat rfl session] at present
      by_cases same : target = session
      · subst same
        simp only [Output.frameFor, ↓reduceIte, Option.toList] at present
        rcases Update.getElem?_concat_cases present with ⟨rfl, rfl⟩ | old
        · have counted := held.counted target
          simp only [BridgeState.counter, found] at counted
          simp only [Session.nextHeader, counted, UInt64.ofNat_add]
          rfl
        · exact held.numbered target position frame old
      · simp only [Output.frameFor, same, ↓reduceIte, Option.toList, List.append_nil] at present
        exact held.numbered session position frame present
    · rw [frames_kept taken encrypts] at present
      exact held.numbered session position frame present

/-- Nothing is numbered before the first datagram. -/
theorem numbered_start (clock : Instant) : Numbered (.start clock) where
  fresh task _ _ present := by simp [BridgeState.start] at present
  fits queued carried := by
    rcases carried with queued | sending
    · contradiction
    · contradiction
  counted session := rfl
  numbered session position frame present := by
    simp [BridgeState.frames, BridgeState.start] at present

end LowPing.Bridge
