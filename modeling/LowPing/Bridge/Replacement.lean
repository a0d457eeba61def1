import LowPing.Library.Machine
import LowPing.Library.Table
import LowPing.Library.Update
import LowPing.Bridge.Footprint
import LowPing.Tunnel.Handshake

/-!
# Replacing a live session

`accept_new_session` inserts without looking at what its key holds, so a second accept under one
key replaces the live session and its counter. A session stays in the table, with its key and
destination and a counter that only grows, when SYNs are admitted only under keys that are neither
live nor being accepted and the counter does not wrap.
-/

namespace LowPing.Bridge

open Library Library.Machine LowPing.Tunnel

variable {env : BridgeEnv} {state next : BridgeState} {event : Event}

/-- No session and no accept is under a key. -/
def BridgeState.freeKey (state : BridgeState) (key : SessionKey) : Bool :=
  (state.sessions.lookup key).isNone &&
    state.tasks.all fun point => decide (point.acceptKey ≠ some key)

/-- At the first poll of an admissible SYN, the table is full or the key of the SYN is free; and
the counter of the session that `downstream_sender` holds has a successor. -/
def admitsFreshKey (env : BridgeEnv) (state : BridgeState) : Event → Bool
  | .poll task nowUnix =>
    match state.tasks[task]? with
    | some (.spawned peer pkt) =>
      match Header.decode pkt with
      | .ok header => !admissible env nowUnix pkt ||
          decide (env.config.maxSessions ≤ state.sessionCount) ||
          state.freeKey ⟨peer, header.connectionId⟩
      | .error _ => true
    | _ => true
  | .senderEncrypt =>
    match state.sender with
    | .locking _ session => (state.cells[session]?).all fun cell =>
        decide (cell.session.txSequence.toNat + 1 < 2 ^ 64)
    | _ => true
  | _ => true

/-- What an accept under way relies on: its key is not live, and no other accept has it. -/
structure FreshAccepts (state : BridgeState) : Prop where
  /-- The key is not in the table. -/
  absent : ∀ (task : Nat) (point : PacketTask) (key : SessionKey),
    state.tasks[task]? = some point → point.acceptKey = some key →
    state.sessions.lookup key = none
  /-- The key belongs to one accept. -/
  distinct : ∀ (left right : Nat) (leftPoint rightPoint : PacketTask) (key : SessionKey),
    state.tasks[left]? = some leftPoint → state.tasks[right]? = some rightPoint →
    leftPoint.acceptKey = some key → rightPoint.acceptKey = some key → left = right

/-- An accept after a step was under way before it, or starts under a free key. -/
theorem acceptKey_step {task : Nat} {after : PacketTask} {key : SessionKey}
    (fresh : admitsFreshKey env state event = true)
    (taken : step env state event = some next) (present : next.tasks[task]? = some after)
    (accepts : after.acceptKey = some key) :
    (∃ before, state.tasks[task]? = some before ∧ before.acceptKey = some key) ∨
      ((∃ nowUnix, event = .poll task nowUnix) ∧ state.freeKey key = true) := by
  cases task_before taken present with
  | stayed _ _ old => exact .inl ⟨after, old, accepts⟩
  | spawned peer pkt last => contradiction
  | moved _ before _ point move =>
    rcases acceptKey_move move accepts with same |
      ⟨nowUnix, pkt, header, rfl, rfl, front, id, passes, fits⟩
    · exact .inl ⟨before, point, same⟩
    · refine .inr ⟨⟨nowUnix, rfl⟩, ?_⟩
      have free : state.freeKey ⟨key.clientAddr, header.connectionId⟩ = true := by
        simpa [admitsFreshKey, point, front, passes, Nat.not_le.mpr fits] using fresh
      rwa [id] at free

/-- The step that puts a session in the table ends its accept. -/
theorem acceptKey_insert {task : Nat} {after : PacketTask}
    (taken : step env state (.insert task) = some next)
    (present : next.tasks[task]? = some after) : after.acceptKey = none := by
  obtain ⟨key, session, point, _, rfl⟩ := insert_ok taken
  rcases Update.getElem?_set_cases present with ⟨_, rfl⟩ | ⟨different, _⟩
  · rfl
  · exact absurd rfl different

/-- A key neither live nor being accepted has no entry and no accept. -/
theorem freeKey_iff {key : SessionKey} : state.freeKey key = true ↔
    state.sessions.lookup key = none ∧ ∀ point ∈ state.tasks, point.acceptKey ≠ some key := by
  simp [BridgeState.freeKey, List.all_eq_true]

/-- Accepts stay fresh when SYNs are admitted only under free keys. -/
theorem freshAccepts_step (held : FreshAccepts state)
    (fresh : admitsFreshKey env state event = true)
    (taken : step env state event = some next) : FreshAccepts next where
  absent task after key present accepts := by
    have footprint := (step_footprint taken).sessions
    generalize table : next.sessions = sessions at footprint ⊢
    rcases acceptKey_step fresh taken present accepts with ⟨before, point, same⟩ |
      ⟨⟨nowUnix, rfl⟩, free⟩
    · have missing := held.absent task before key point same
      cases footprint with
      | kept => exact missing
      | removed toDrop listed =>
        cases found : (Table.eraseAll state.sessions toDrop).lookup key with
        | none => rfl
        | some session =>
          have present := (Table.lookup_of_lookup_eraseAll found).2
          rw [missing] at present
          contradiction
      | inserted inserting other session started =>
        have different : key ≠ other := by
          rintro rfl
          obtain rfl := held.distinct task inserting before (.inserting key session) key point
            started same rfl
          rw [acceptKey_insert taken present] at accepts
          contradiction
        rw [AList.lookup_insert_ne different]
        exact missing
    · cases footprint with
      | kept => exact (freeKey_iff.mp free).1
  distinct left right leftPoint rightPoint key leftPresent rightPresent leftAccepts
      rightAccepts := by
    rcases acceptKey_step fresh taken leftPresent leftAccepts with ⟨oldLeft, leftBefore, leftSame⟩ |
      ⟨⟨leftUnix, leftPolled⟩, leftFree⟩
    · rcases acceptKey_step fresh taken rightPresent rightAccepts with
        ⟨oldRight, rightBefore, rightSame⟩ | ⟨_, free⟩
      · exact held.distinct left right oldLeft oldRight key leftBefore rightBefore leftSame
          rightSame
      · have unused := (freeKey_iff.mp free).2 oldLeft (List.mem_of_getElem? leftBefore)
        contradiction
    · rcases acceptKey_step fresh taken rightPresent rightAccepts with
        ⟨oldRight, rightBefore, rightSame⟩ | ⟨⟨rightUnix, rightPolled⟩, _⟩
      · have unused := (freeKey_iff.mp leftFree).2 oldRight (List.mem_of_getElem? rightBefore)
        contradiction
      · rw [leftPolled] at rightPolled
        injection rightPolled

/-- A session keeps its key and destination, and its counter does not go back. -/
def Session.continues (later earlier : Session) : Prop :=
  later.aeadKey = earlier.aeadKey ∧ later.destWriter = earlier.destWriter ∧
    earlier.txSequence ≤ later.txSequence

/-- Without a wrapping counter, every step continues every session. -/
theorem continues_step {session : SessionId} {cell : SessionCell}
    (fresh : admitsFreshKey env state event = true) (taken : step env state event = some next)
    (present : state.cells[session]? = some cell) :
    ∃ last, next.cells[session]? = some last ∧ last.session.continues cell.session := by
  obtain ⟨last, found, moved⟩ := cell_step taken present
  refine ⟨last, found, moved.aeadKey, moved.destWriter, ?_⟩
  rcases moved.counter with same | ⟨queued, rfl, point, counted⟩
  · rw [same]
    exact UInt64.le_refl _
  · have successor : cell.session.txSequence.toNat + 1 < 2 ^ 64 := by
      simpa [admitsFreshKey, point, present] using fresh
    rw [counted, UInt64.le_iff_toNat_le, UInt64.toNat_add]
    simp only [UInt64.reduceToNat]
    omega

/-- A live session stays under its key unless the step is its removal, which is recorded. -/
theorem live_step {key : SessionKey} {session : SessionId} (held : FreshAccepts state)
    (taken : step env state event = some next) (live : state.sessions.lookup key = some session) :
    next.sessions.lookup key = some session ∨
      ∃ output ∈ next.trace, output.reaps key session = true := by
  have footprint := (step_footprint taken).sessions
  generalize table : next.sessions = sessions at footprint ⊢
  cases footprint with
  | kept => exact .inl live
  | inserted task other created present =>
    have different : key ≠ other := by
      rintro rfl
      have missing := held.absent task (.inserting key created) key present rfl
      rw [missing] at live
      contradiction
    exact .inl (by rw [AList.lookup_insert_ne different, live])
  | removed toDrop listed =>
    by_cases dropped : key ∈ toDrop
    · obtain ⟨others, removing, rfl⟩ := reaperRemove_ok taken
      obtain rfl := ReaperTask.removing.inj (listed.symm.trans removing)
      refine .inr ⟨.reaped key session state.clock, List.mem_append_right _ ?_, ?_⟩
      · exact List.mem_filterMap.mpr ⟨key, dropped, by rw [live]; rfl⟩
      · simp [Output.reaps]
    · exact .inl (by rw [Table.lookup_eraseAll_of_notMem state.sessions dropped, live])

/-- The session under a key is the one it was, with its key, destination and counter. -/
def SessionKept (earlier later : BridgeState) (key : SessionKey) (session : SessionId) : Prop :=
  later.sessions.lookup key = some session ∧
    ∃ cell last, earlier.cells[session]? = some cell ∧ later.cells[session]? = some last ∧
      last.session.continues cell.session

/-- What holds of a session from the moment `earlier` on: the accepts are fresh, and the session is
kept or its removal is on record. -/
structure KeptSince (earlier : BridgeState) (key : SessionKey) (session : SessionId)
    (cell : SessionCell) (state : BridgeState) : Prop where
  /-- No accept under way has a live key. -/
  fresh : FreshAccepts state
  /-- Live or reaped. -/
  live : state.sessions.lookup key = some session ∨
    ∃ output ∈ state.trace, output.reaps key session = true
  /-- Its cell continues. -/
  cell : ∃ last, state.cells[session]? = some last ∧ last.session.continues cell.session

/-- A step that admits only under free keys keeps a session or records its removal. -/
theorem keptSince_step {earlier : BridgeState} {key : SessionKey} {session : SessionId}
    {cell : SessionCell} (held : KeptSince earlier key session cell state)
    (fresh : admitsFreshKey env state event = true)
    (taken : step env state event = some next) : KeptSince earlier key session cell next where
  fresh := freshAccepts_step held.fresh fresh taken
  live := by
    rcases held.live with live | ⟨output, recorded, reaped⟩
    · exact live_step held.fresh taken live
    · exact .inr ⟨output, (step_footprint taken).trace_grows.subset recorded, reaped⟩
  cell := by
    obtain ⟨middle, present, key, writer, counter⟩ := held.cell
    obtain ⟨last, found, lastKey, lastWriter, lastCounter⟩ := continues_step fresh taken present
    exact ⟨last, found, lastKey.trans key, lastWriter.trans writer,
      UInt64.le_trans counter lastCounter⟩

/-- In every run that admits SYNs only under free keys, a session found in the table is the one
found there at every later moment until the reaper removes it, with the same key and destination
and a counter no smaller. -/
theorem live_session_kept {clock : Instant} {events later : List Event}
    {middle final : BridgeState} {key : SessionKey} {session : SessionId}
    (fresh : Along (step env) (fun state event => admitsFreshKey env state event = true)
      (.start clock) (events ++ later))
    (reached : run (step env) (.start clock) events = some middle)
    (live : middle.sessions.lookup key = some session)
    (continued : run (step env) middle later = some final)
    (unreaped : ∀ output ∈ final.trace, output.reaps key session = false) :
    SessionKept middle final key session := by
  obtain ⟨before, after⟩ := along_append fresh
  have accepts : FreshAccepts middle := by
    have initially : FreshAccepts (.start clock) :=
      ⟨fun task point key present => by simp [BridgeState.start] at present,
        fun left _ leftPoint _ key present => by simp [BridgeState.start] at present⟩
    exact run_invariant
      (fun state event next held fresh taken => freshAccepts_step held fresh taken) initially before
      reached
  have backed : TableBacked middle := by
    have initially : TableBacked (.start clock) := fun key session found => by
      simp [BridgeState.start] at found
    exact run_invariant_always (fun state event next held taken => tableBacked_step held taken)
      initially reached
  obtain ⟨cell, present⟩ : ∃ cell, middle.cells[session]? = some cell :=
    ⟨_, List.getElem?_eq_getElem (backed key session live)⟩
  have since : KeptSince middle key session cell middle :=
    ⟨accepts, .inl live, cell, present, rfl, rfl, UInt64.le_refl _⟩
  have kept : KeptSince middle key session cell final :=
    run_invariant (fun state event next held fresh taken => keptSince_step held fresh taken) since
      (after middle reached) continued
  refine ⟨?_, cell, ?_⟩
  · rcases kept.live with found | ⟨output, recorded, reaped⟩
    · exact found
    · rw [unreaped output recorded] at reaped
      contradiction
  · obtain ⟨last, found, continues⟩ := kept.cell
    exact ⟨last, present, found, continues⟩

/-- The session keeps its place while it answers. -/
theorem firstAnswer_keeps : ∃ middle final,
    run (step (sampleEnv 8)) (.start 0) firstAccept = some middle ∧
    run (step (sampleEnv 8)) middle firstAnswer = some final ∧
    SessionKept middle final sampleKey 0 := by
  have sample : ((run (step (sampleEnv 8)) (.start 0) firstAccept).bind
        fun middle => middle.sessions.lookup sampleKey) = some 0 ∧
      ((run (step (sampleEnv 8)) (.start 0) (firstAccept ++ firstAnswer)).map
        fun final => final.trace.all fun output => !output.reaps sampleKey 0) = some true ∧
      Along (step (sampleEnv 8))
        (fun state event => admitsFreshKey (sampleEnv 8) state event = true) (.start 0)
        (firstAccept ++ firstAnswer) := by
    simp only [firstAccept, sampleTunnel_eq]
    decide +kernel
  obtain ⟨accepted, ends, fresh⟩ := sample
  obtain ⟨middle, reached, live⟩ := Option.bind_eq_some_iff.mp accepted
  obtain ⟨final, whole, unreaped⟩ := Option.map_eq_some_iff.mp ends
  have continued : run (step (sampleEnv 8)) middle firstAnswer = some final := by
    rw [run_append, reached] at whole
    exact whole
  exact ⟨middle, final, reached, continued, live_session_kept fresh reached live
    continued (by simpa using unreaped)⟩

/-- The SYN of the live session arrives a second time. -/
def replayedAccept : List Event := sampleAccept 1 (samplePeer 1) (sampleTunnel 1 .udp 5).2

/-- Some run replaces a live session that nothing reaped. -/
theorem live_session_replaced : ¬ ∀ (env : BridgeEnv) (clock : Instant)
    (events later : List Event) (middle final : BridgeState) (key : SessionKey)
    (session : SessionId), run (step env) (.start clock) events = some middle →
      middle.sessions.lookup key = some session → run (step env) middle later = some final →
      (∀ output ∈ final.trace, output.reaps key session = false) →
      SessionKept middle final key session := by
  intro kept
  have sample : ((run (step (sampleEnv 8)) (.start 0) firstAccept).bind
        fun middle => middle.sessions.lookup sampleKey) = some 0 ∧
      ((run (step (sampleEnv 8)) (.start 0) (firstAccept ++ replayedAccept)).map
        fun final => (final.trace.all (fun output => !output.reaps sampleKey 0),
          final.sessions.lookup sampleKey)) = some (true, some 1) := by
    simp only [firstAccept, replayedAccept, sampleTunnel_eq]
    decide +kernel
  obtain ⟨accepted, ends⟩ := sample
  obtain ⟨middle, reached, live⟩ := Option.bind_eq_some_iff.mp accepted
  obtain ⟨final, whole, last⟩ := Option.map_eq_some_iff.mp ends
  obtain ⟨unreaped, replaced⟩ := Prod.mk.inj last
  have continued : run (step (sampleEnv 8)) middle replayedAccept = some final := by
    rw [run_append, reached] at whole
    exact whole
  have same := (kept (sampleEnv 8) 0 firstAccept replayedAccept middle final sampleKey 0 reached
    live continued (by simpa using unreaped)).1
  rw [replaced] at same
  exact absurd same (by decide)

end LowPing.Bridge
