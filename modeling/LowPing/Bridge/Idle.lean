import LowPing.Library.Machine
import LowPing.Library.Table
import LowPing.Bridge.Footprint
import LowPing.Tunnel.Handshake

/-!
# Reaping idle sessions

`idle_reaper` trusts `last_active`, which only `forward_data` stamps and only when a frame is
opened, and it removes by key what an earlier scan listed. A removed session was idle for the whole
timeout when the scan lists no session that sent or delivered after its cutoff, and a listed session
neither forwards nor is replaced before the removal.
-/

namespace LowPing.Bridge

open Library Library.Machine LowPing.Tunnel

variable {env : BridgeEnv} {state next : BridgeState} {event : Event}

/-- `idle_timeout_secs` in nanoseconds. -/
def BridgeConfig.idleTimeout (config : BridgeConfig) : Int :=
  config.idleTimeoutSecs.toNat * nanosPerSec

/-- The forwarding effects that `last_active` does not record: bytes a destination took and frames
sent to a client, with their session and time. -/
def Output.unstamped : Output → Option (SessionId × Instant)
  | .delivered session _ _ time => some (session, time)
  | .sent _ session _ time => some (session, time)
  | _ => none

/-- The forwarding effects in either direction. -/
def Output.forward : Output → Option (SessionId × Instant)
  | .write _ session _ _ time => some (session, time)
  | output => output.unstamped

/-- What must hold of a removal and anything recorded before it: the removed session forwarded
nothing during the timeout. -/
def idleBefore (timeout : Int) (earlier later : Output) : Prop :=
  match later, earlier.forward with
  | .reaped _ session time, some (forwarder, forwarded) =>
    forwarder = session → forwarded + timeout ≤ time
  | _, _ => True

instance (timeout : Int) (earlier later : Output) :
    Decidable (idleBefore timeout earlier later) := by
  unfold idleBefore
  split <;> infer_instance

/-- A removal of a session that forwarded nothing late. -/
theorem idleBefore_reaped {timeout : Int} {earlier : Output} {key : SessionKey}
    {session : SessionId} {time : Instant}
    (early : ∀ forwarded, earlier.forward = some (session, forwarded) →
      forwarded + timeout ≤ time) :
    idleBefore timeout earlier (.reaped key session time) := by
  unfold idleBefore
  cases forwards : earlier.forward with
  | none => trivial
  | some pair =>
    rintro rfl
    exact early pair.2 forwards

/-- The keys the reaper has listed. -/
def ReaperTask.toDrop : ReaperTask → List SessionKey
  | .ticking => []
  | .scanning _ _ toDrop => toDrop
  | .removing toDrop => toDrop

/-- A session is under a listed key. -/
def BridgeState.listed (state : BridgeState) (session : SessionId) : Bool :=
  state.reaper.toDrop.any fun key => decide (state.sessions.lookup key = some session)

/-- Nothing unstamped was forwarded by a session since a moment. -/
def BridgeState.quietSince (state : BridgeState) (session : SessionId) (cutoff : Instant) : Bool :=
  state.trace.all fun output =>
    match output.unstamped with
    | some (forwarder, time) => decide (forwarder ≠ session) || decide (time < cutoff)
    | none => true

/-- The session an event forwards for. -/
def forwarding (env : BridgeEnv) (state : BridgeState) : Event → Option SessionId
  | .lock task =>
    match state.tasks[task]? with
    | some (.locking _ session pkt) =>
      match state.cells[session]? with
      | some cell =>
        match decryptFrame env.crypto cell.session.aeadKey pkt with
        | .ok _ => some session
        | .error _ => none
      | none => none
    | _ => none
  | .writeSome task _ =>
    match state.tasks[task]? with
    | some (.writing _ session _ _) => some session
    | _ => none
  | .writeDone task =>
    match state.tasks[task]? with
    | some (.writing _ session _ _) => some session
    | _ => none
  | .senderSend true =>
    match state.sender with
    | .sending _ session _ => some session
    | _ => none
  | _ => none

/-- The scan lists only sessions that sent and delivered nothing since its cutoff, no session is
inserted under a listed key, and no listed session forwards. -/
def reapsQuiet (env : BridgeEnv) (state : BridgeState) (event : Event) : Bool :=
  match event with
  | .reaperScan key =>
    match state.reaper with
    | .scanning cutoff left _ =>
      match left.find? fun entry => entry.1 = key with
      | some (_, session) => !idle state cutoff session || state.quietSince session cutoff
      | none => true
    | _ => true
  | .insert task =>
    match state.tasks[task]? with
    | some (.inserting key _) => decide (key ∉ state.reaper.toDrop)
    | _ => true
  | _ =>
    match forwarding env state event with
    | some session => !state.listed session
    | none => true

/-- A session forwarded nothing during the timeout up to now. -/
def BridgeState.idleNow (env : BridgeEnv) (state : BridgeState) (session : SessionId) : Prop :=
  ∀ output ∈ state.trace, ∀ time, output.forward = some (session, time) →
    time + env.config.idleTimeout ≤ state.clock

/-- What the reaper relies on. -/
structure ReapsIdle (env : BridgeEnv) (state : BridgeState) : Prop where
  /-- Nothing was forwarded in the future. -/
  past : ∀ output ∈ state.trace, ∀ session time, output.forward = some (session, time) →
    time ≤ state.clock
  /-- Every destination write is stamped. -/
  stamps : ∀ key session header payload time, .write key session header payload time ∈ state.trace →
    ∃ cell, state.cells[session]? = some cell ∧ time ≤ cell.session.lastActive
  /-- A scan works on the live table with a cutoff one timeout back. -/
  scanning : ∀ cutoff left toDrop, state.reaper = .scanning cutoff left toDrop →
    cutoff + env.config.idleTimeout ≤ state.clock ∧
      ∀ key session, (key, session) ∈ left → state.sessions.lookup key = some session
  /-- Sessions under listed keys are idle. -/
  listed : ∀ key ∈ state.reaper.toDrop, ∀ session, state.sessions.lookup key = some session →
    state.idleNow env session
  /-- Removed sessions were idle. -/
  reaped : state.trace.Pairwise (idleBefore env.config.idleTimeout)

/-- New effects of forwarding happen now, by the session the event forwards for. -/
theorem forward_now {outputs : List Output} (added : OutputsAfter env state event outputs)
    {output : Output} (member : output ∈ outputs) {session : SessionId} {time : Instant}
    (forwards : output.forward = some (session, time)) :
    time = state.clock ∧ forwarding env state event = some session := by
  cases added with
  | none => contradiction
  | opened task key target pkt cell header payload point present free opened =>
    obtain rfl := List.mem_singleton.mp member
    obtain ⟨rfl, rfl⟩ := Prod.mk.inj (Option.some.inj forwards)
    exact ⟨rfl, by simp [forwarding, point, present, opened]⟩
  | delivered _ task key target header rest socket bytes writes point =>
    obtain rfl := List.mem_singleton.mp member
    obtain ⟨rfl, rfl⟩ := Prod.mk.inj (Option.some.inj forwards)
    refine ⟨rfl, ?_⟩
    rcases writes with ⟨count, rfl⟩ | rfl
    · simp [forwarding, point]
    · simp [forwarding, point]
  | sent queued target wire point =>
    obtain rfl := List.mem_singleton.mp member
    obtain ⟨rfl, rfl⟩ := Prod.mk.inj (Option.some.inj forwards)
    exact ⟨rfl, by simp [forwarding, point]⟩
  | reaped toDrop listed =>
    obtain ⟨key, _, target, _, rfl⟩ := mem_reapedOutputs member
    contradiction
  | _ =>
    obtain rfl := List.mem_singleton.mp member
    contradiction

/-- A forwarding step under the condition forwards for no listed session. -/
theorem forwarding_unlisted {session : SessionId} (quiet : reapsQuiet env state event = true)
    (forwards : forwarding env state event = some session) : state.listed session = false := by
  cases event with
  | reaperScan key => contradiction
  | insert task => contradiction
  | _ => simpa [reapsQuiet, forwards] using quiet

/-- Forwarding stays in the past. -/
theorem past_step (held : ReapsIdle env state) (taken : step env state event = some next) :
    ∀ output ∈ next.trace, ∀ session time, output.forward = some (session, time) →
      time ≤ next.clock := by
  intro output member session time forwards
  have clock := (step_footprint taken).clock
  obtain ⟨outputs, grown, added⟩ := (step_footprint taken).trace
  rw [grown] at member
  rcases List.mem_append.mp member with before | new
  · have past := held.past output before session time forwards
    exact Int.le_trans past clock
  · obtain ⟨rfl, _⟩ := forward_now added new forwards
    exact clock

/-- Every destination write stays stamped. -/
theorem stamps_step (held : ReapsIdle env state) (taken : step env state event = some next)
    (key : SessionKey) (session : SessionId) (header : Header) (payload : Bytes) (time : Instant)
    (member : .write key session header payload time ∈ next.trace) :
    ∃ cell, next.cells[session]? = some cell ∧ time ≤ cell.session.lastActive := by
  obtain ⟨outputs, grown, added⟩ := (step_footprint taken).trace
  rw [grown] at member
  rcases List.mem_append.mp member with before | new
  · obtain ⟨cell, present, stamped⟩ := held.stamps key session header payload time before
    have past := held.past _ before session time rfl
    obtain ⟨last, found, moved⟩ := cell_step taken present
    refine ⟨last, found, ?_⟩
    rcases moved.stamp with same | now
    · rw [same]
      exact stamped
    · rw [now]
      exact past
  · cases added with
    | opened task other target pkt cell front body point present free opened =>
      have same := Output.write.inj (List.mem_singleton.mp new)
      obtain ⟨rfl, rfl, rfl, rfl, rfl⟩ := same
      have bound := (List.getElem?_eq_some_iff.mp present).1
      have opens : step env state (.lock task) = _ := lock_opens point present free opened
      obtain rfl := Option.some.inj (opens.symm.trans taken)
      exact ⟨_, List.getElem?_set_self bound, Int.le_refl _⟩
    | reaped toDrop listed =>
      obtain ⟨other, _, target, _, impossible⟩ := mem_reapedOutputs new
      contradiction
    | none => contradiction
    | _ =>
      have impossible := List.mem_singleton.mp new
      contradiction

/-- A scan works on the live table, and its cutoff stays one timeout back. -/
theorem scanning_step (held : ReapsIdle env state) (taken : step env state event = some next)
    (cutoff : Instant) (left : List (SessionKey × SessionId)) (toDrop : List SessionKey)
    (scanning : next.reaper = .scanning cutoff left toDrop) :
    cutoff + env.config.idleTimeout ≤ next.clock ∧
      ∀ key session, (key, session) ∈ left → next.sessions.lookup key = some session := by
  have live : ScansLive state := fun cutoff left toDrop point =>
    (held.scanning cutoff left toDrop point).2
  refine ⟨?_, scansLive_step live taken cutoff left toDrop scanning⟩
  have clock := (step_footprint taken).clock
  have reaper := (step_footprint taken).reaper
  generalize next.reaper = point at reaper scanning
  cases reaper with
  | kept => exact Int.le_trans (held.scanning cutoff left toDrop scanning).1 clock
  | ticked start earlier =>
    obtain ⟨rfl, rfl, rfl⟩ := ReaperTask.scanning.inj scanning
    unfold instantSub at earlier
    dsimp only at earlier
    split at earlier
    · contradiction
    · have back := Option.some.inj earlier
      rw [← back, BridgeConfig.idleTimeout, Int.sub_add_cancel]
      exact clock
  | scanned key start before dropped session point first =>
    obtain ⟨rfl, rfl, rfl⟩ := ReaperTask.scanning.inj scanning
    exact Int.le_trans (held.scanning start before dropped point).1 clock
  | skipped key start before dropped session point first holds =>
    obtain ⟨rfl, rfl, rfl⟩ := ReaperTask.scanning.inj scanning
    exact Int.le_trans (held.scanning start before dropped point).1 clock
  | finished start dropped point =>
    split at scanning
    · contradiction
    · contradiction
  | removed dropped point => contradiction

/-- A listed session stays idle while the clock runs, when no listed session forwards. -/
theorem idleNow_step {key : SessionKey} {session : SessionId} (held : ReapsIdle env state)
    (quiet : reapsQuiet env state event = true) (taken : step env state event = some next)
    (listed : key ∈ state.reaper.toDrop) (live : state.sessions.lookup key = some session) :
    next.idleNow env session := by
  intro output member time forwards
  have clock := (step_footprint taken).clock
  obtain ⟨outputs, grown, added⟩ := (step_footprint taken).trace
  rw [grown] at member
  rcases List.mem_append.mp member with before | new
  · exact Int.le_trans (held.listed key listed session live output before time forwards) clock
  · have unlisted := forwarding_unlisted quiet (forward_now added new forwards).2
    have present : state.listed session = true :=
      List.any_eq_true.mpr ⟨key, listed, by simpa using live⟩
    rw [unlisted] at present
    contradiction

/-- The scan lists a session only when it was idle: its writes are stamped before the cutoff, and
the rest is quiet since then. -/
theorem idle_listed {key : SessionKey} {session : SessionId} {cutoff : Instant}
    {left : List (SessionKey × SessionId)} {toDrop : List SessionKey}
    (held : ReapsIdle env state) (quiet : reapsQuiet env state (.reaperScan key) = true)
    (point : state.reaper = .scanning cutoff left toDrop)
    (first : left.find? (fun entry => entry.1 = key) = some (key, session))
    (stale : idle state cutoff session = true) : state.idleNow env session := by
  intro output member time forwards
  have early := (held.scanning cutoff left toDrop point).1
  have before : time < cutoff := by
    cases output with
    | write other target header payload stamp =>
      obtain ⟨rfl, rfl⟩ := Prod.mk.inj (Option.some.inj forwards)
      obtain ⟨cell, present, stamped⟩ := held.stamps other target header payload stamp member
      have old : cell.session.lastActive < cutoff := by
        simp only [idle, present, Bool.and_eq_true, decide_eq_true_eq] at stale
        exact stale.2
      exact Int.lt_of_le_of_lt stamped old
    | _ =>
      have since : state.quietSince session cutoff = true := by
        simpa [reapsQuiet, point, first, stale] using quiet
      have silent := List.all_eq_true.mp since _ member
      simp only [Output.forward] at forwards
      simpa [forwards] using silent
  calc time + env.config.idleTimeout ≤ cutoff + env.config.idleTimeout :=
        Int.add_le_add_right (Int.le_of_lt before) _
    _ ≤ state.clock := early

/-- Sessions under listed keys stay idle. -/
theorem listed_step (held : ReapsIdle env state) (quiet : reapsQuiet env state event = true)
    (taken : step env state event = some next) :
    ∀ key ∈ next.reaper.toDrop, ∀ session, next.sessions.lookup key = some session →
      next.idleNow env session := by
  intro key member session found
  have sessions := (step_footprint taken).sessions
  have reaper := (step_footprint taken).reaper
  have old : key ∈ state.reaper.toDrop → next.idleNow env session := by
    intro listed
    apply idleNow_step held quiet taken listed
    generalize next.sessions = table at sessions found
    cases sessions with
    | kept => exact found
    | removed dropped removing => exact (Table.lookup_of_lookup_eraseAll found).2
    | inserted task inserted created present =>
      have different : key ≠ inserted := by
        rintro rfl
        have fresh : key ∉ state.reaper.toDrop := by
          simpa [reapsQuiet, present] using quiet
        contradiction
      rw [AList.lookup_insert_ne different] at found
      exact found
  generalize next.reaper = point at reaper member
  cases reaper with
  | kept => exact old member
  | ticked cutoff earlier => contradiction
  | scanned scannedKey cutoff left toDrop target point first =>
    have before : key ∈ toDrop → next.idleNow env session := by
      intro listed
      apply old
      rw [point]
      exact listed
    by_cases stale : idle state cutoff target = true
    · rw [ReaperTask.toDrop, if_pos stale] at member
      rcases List.mem_append.mp member with listed | added
      · exact before listed
      · obtain rfl := List.mem_singleton.mp added
        have live := (held.scanning cutoff left toDrop point).2 key target
          (List.mem_of_find?_eq_some first)
        have silent := idle_listed held quiet point first stale
        obtain ⟨_, _, _, _, _, _, rfl⟩ := reaperScan_ok taken
        obtain rfl := Option.some.inj (live.symm.trans found)
        exact silent
    · rw [ReaperTask.toDrop, if_neg stale] at member
      exact before member
  | skipped other cutoff left toDrop target point first holds =>
    apply old
    rw [point]
    exact member
  | finished cutoff toDrop point =>
    apply old
    rw [point]
    by_cases empty : toDrop = []
    · rw [if_pos empty] at member
      contradiction
    · rw [if_neg empty] at member
      exact member
  | removed toDrop point => contradiction

/-- A removal is recorded only after everything its session forwarded is old. -/
theorem reaped_step (held : ReapsIdle env state) (taken : step env state event = some next) :
    next.trace.Pairwise (idleBefore env.config.idleTimeout) := by
  obtain ⟨outputs, grown, added⟩ := (step_footprint taken).trace
  have fresh : ∀ earlier, ∀ later ∈ outputs,
      (earlier ∈ state.trace ∨ earlier.forward = none) →
      idleBefore env.config.idleTimeout earlier later := by
    intro earlier later member source
    cases added with
    | reaped toDrop listed =>
      obtain ⟨key, dropped, session, live, rfl⟩ := mem_reapedOutputs member
      apply idleBefore_reaped
      intro forwarded forwards
      rcases source with recorded | silent
      · exact held.listed key (listed ▸ dropped) session live earlier recorded forwarded forwards
      · rw [silent] at forwards
        contradiction
    | none => contradiction
    | _ =>
      obtain rfl := List.mem_singleton.mp member
      trivial
  rw [grown]
  refine List.pairwise_append.mpr ⟨held.reaped, ?_, fun earlier recorded later member =>
    fresh earlier later member (.inl recorded)⟩
  cases added with
  | reaped toDrop listed =>
    refine List.pairwise_of_forall_mem_list fun earlier recorded later member =>
      fresh earlier later member (.inr ?_)
    obtain ⟨key, dropped, session, live, rfl⟩ := mem_reapedOutputs recorded
    rfl
  | none => exact List.Pairwise.nil
  | _ => exact List.pairwise_singleton _ _

/-- Every step that meets the condition keeps what the reaper relies on. -/
theorem reapsIdle_step (held : ReapsIdle env state) (quiet : reapsQuiet env state event = true)
    (taken : step env state event = some next) : ReapsIdle env next where
  past := past_step held taken
  stamps := stamps_step held taken
  scanning := scanning_step held taken
  listed := listed_step held quiet taken
  reaped := reaped_step held taken

/-- In every run that lists only quiet sessions and leaves them alone until their removal, a session
is removed only after forwarding nothing for the whole idle timeout. -/
theorem reaped_sessions_idle {clock : Instant} {events : List Event} {final : BridgeState}
    (quiet : Along (step env) (fun state event => reapsQuiet env state event = true)
      (.start clock) events)
    (reached : run (step env) (.start clock) events = some final) :
    final.trace.Pairwise (idleBefore env.config.idleTimeout) := by
  have initially : ReapsIdle env (.start clock) := {
    past := fun output member => by contradiction
    stamps := fun key session header payload time member => by contradiction
    scanning := fun cutoff left toDrop scanning => by contradiction
    listed := fun key member => by contradiction
    reaped := List.Pairwise.nil }
  exact (run_invariant (fun state event next held quiet taken => reapsIdle_step held quiet taken)
    initially quiet reached).reaped

/-- The first client sends a frame, then nothing for longer than the timeout. -/
def silentAfterFrame : List Event :=
  firstAccept ++ [.receive (samplePeer 1) (firstFrame 0 [1, 2]), .poll 1 1000, .lock 1,
    .writeDone 1, .advance 330000000000, .reaperTick, .reaperScan sampleKey, .reaperScanned,
    .reaperRemove]

/-- The session of the silent client is removed for good reason. -/
theorem silentAfterFrame_idle :
    ∃ final, run (step (sampleEnv 8)) (.start 0) silentAfterFrame = some final ∧
      final.trace.Pairwise (idleBefore (sampleEnv 8).config.idleTimeout) := by
  have sample : (run (step (sampleEnv 8)) (.start 0) silentAfterFrame).isSome = true ∧
      Along (step (sampleEnv 8)) (fun state event => reapsQuiet (sampleEnv 8) state event = true)
        (.start 0) silentAfterFrame := by
    simp only [silentAfterFrame, firstAccept, firstFrame, sampleTunnel_eq]
    decide +kernel
  obtain ⟨final, reached⟩ := Option.isSome_iff_exists.mp sample.1
  exact ⟨final, reached, reaped_sessions_idle sample.2 reached⟩

/-- The first client only listens: its destination sends a frame at 200 s, and the reaper wakes at
330 s. -/
def listeningClient : List Event :=
  firstAccept ++ [.advance 200000000000] ++ firstAnswer ++ [.advance 130000000000, .reaperTick,
    .reaperScan sampleKey, .reaperScanned, .reaperRemove]

/-- Some run removes a session that forwarded a frame during the timeout. -/
theorem active_session_reaped : ¬ ∀ (env : BridgeEnv) (clock : Instant) (events : List Event)
    (final : BridgeState), run (step env) (.start clock) events = some final →
      final.trace.Pairwise (idleBefore env.config.idleTimeout) := by
  intro idle
  have broken : ((run (step (sampleEnv 8)) (.start 0) listeningClient).map fun final =>
      decide (final.trace.Pairwise (idleBefore (sampleEnv 8).config.idleTimeout))) =
        some false := by
    simp only [listeningClient, firstAccept, sampleTunnel_eq]
    decide +kernel
  obtain ⟨final, reached, verdict⟩ := Option.map_eq_some_iff.mp broken
  exact of_decide_eq_false verdict (idle (sampleEnv 8) 0 listeningClient final reached)

end LowPing.Bridge
