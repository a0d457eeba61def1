import LowPing.Library.Machine
import LowPing.Library.Update
import LowPing.Bridge.Footprint
import LowPing.Tunnel.Handshake

/-!
# Delivering a frame at most once

`forward_data` keeps no record of the sequences it has seen, so each copy of a data frame that
reaches a session is written again. A frame is written once when each datagram routed to a session
opens, if it opens at all, to a frame neither written for that session nor waiting for its mutex.
-/

namespace LowPing.Bridge

open Library Library.Machine LowPing.Tunnel

variable {env : BridgeEnv} {state next : BridgeState} {event : Event}

/-- Connection id and sequence of a frame. -/
abbrev FrameId := UInt32 × UInt64

/-- The identity a header gives its frame. -/
def frameId (header : Header) : FrameId := (header.connectionId, header.sequence)

/-- The frame a datagram opens to under the key of a session. -/
def BridgeState.opens (env : BridgeEnv) (state : BridgeState) (session : SessionId)
    (pkt : Bytes) : Option FrameId :=
  match state.cells[session]? with
  | some cell =>
    match decryptFrame env.crypto cell.session.aeadKey pkt with
    | .ok (header, _) => some (frameId header)
    | .error _ => none
  | none => none

/-- The frame of a session whose payload was written to the destination. -/
def Output.written : Output → Option (SessionId × FrameId)
  | .write _ session header _ _ => some (session, frameId header)
  | _ => none

/-- The frame of a session that a task will write once it has the mutex. -/
def PacketTask.awaits (env : BridgeEnv) (state : BridgeState) :
    PacketTask → Option (SessionId × FrameId)
  | .locking _ session pkt => (state.opens env session pkt).map fun frame => (session, frame)
  | _ => none

/-- A frame was written for a session or waits for its mutex. -/
def BridgeState.knows (env : BridgeEnv) (state : BridgeState) (frame : SessionId × FrameId) :
    Bool :=
  decide (frame ∈ state.trace.filterMap Output.written) ||
    state.tasks.any fun point => decide (point.awaits env state = some frame)

/-- At the first poll of a data datagram whose session is live, the datagram does not open under
the session's key or opens to a frame the session does not know. -/
def routesNewFrame (env : BridgeEnv) (state : BridgeState) : Event → Bool
  | .poll task _ =>
    match state.tasks[task]? with
    | some (.spawned peer pkt) =>
      match Header.decode pkt with
      | .ok header =>
        match state.sessions.lookup ⟨peer, header.connectionId⟩ with
        | some session =>
          match state.opens env session pkt with
          | some frame => header.flags.contains Flags.syn || !state.knows env (session, frame)
          | none => true
        | none => true
      | .error _ => true
    | _ => true
  | _ => true

/-- What the bridge knows of each frame under the condition. -/
structure DeliversOnce (env : BridgeEnv) (state : BridgeState) : Prop where
  /-- Every entry of the table has its cell. -/
  backed : TableBacked state
  /-- Every task waiting for a mutex has its cell. -/
  present : ∀ (task : Nat) (key : SessionKey) (session : SessionId) (pkt : Bytes),
    state.tasks[task]? = some (.locking key session pkt) → session < state.cells.length
  /-- Frames are written once. -/
  once : (state.trace.filterMap Output.written).Nodup
  /-- A waiting frame is not written yet. -/
  waiting : ∀ (task : Nat) (point : PacketTask) (frame : SessionId × FrameId),
    state.tasks[task]? = some point → point.awaits env state = some frame →
    frame ∉ state.trace.filterMap Output.written
  /-- One task waits with each frame. -/
  distinct : ∀ (left right : Nat) (leftPoint rightPoint : PacketTask)
    (frame : SessionId × FrameId), state.tasks[left]? = some leftPoint →
    state.tasks[right]? = some rightPoint → leftPoint.awaits env state = some frame →
    rightPoint.awaits env state = some frame → left = right

/-- A frame the bridge does not know is neither written nor waiting. -/
theorem knows_iff {frame : SessionId × FrameId} : state.knows env frame = false ↔
    frame ∉ state.trace.filterMap Output.written ∧
      ∀ point ∈ state.tasks, point.awaits env state ≠ some frame := by
  unfold BridgeState.knows
  rw [Bool.or_eq_false_iff, decide_eq_false_iff_not, List.any_eq_false]
  simp only [decide_eq_true_eq, ne_eq]

/-- What a datagram opens to does not change while its session exists. -/
theorem opens_step {session : SessionId} (taken : step env state event = some next)
    (bound : session < state.cells.length) (pkt : Bytes) :
    next.opens env session pkt = state.opens env session pkt := by
  obtain ⟨last, found, moved⟩ := cell_step taken (List.getElem?_eq_getElem bound)
  unfold BridgeState.opens
  rw [found, List.getElem?_eq_getElem bound]
  dsimp only
  rw [moved.aeadKey]

/-- Every task waiting for a mutex keeps its cell. -/
theorem present_step (held : DeliversOnce env state) (taken : step env state event = some next)
    (task : Nat) (key : SessionKey) (session : SessionId) (pkt : Bytes)
    (waiting : next.tasks[task]? = some (.locking key session pkt)) :
    session < next.cells.length := by
  have grown := length_cells_step taken
  cases task_before taken waiting with
  | stayed _ _ before => exact Nat.lt_of_lt_of_le (held.present task key session pkt before) grown
  | moved _ before _ point move =>
    cases move with
    | routed nowUnix peer pkt header session front data found =>
      exact Nat.lt_of_lt_of_le (held.backed _ session found) grown

/-- A frame that waits after a step waited in the same task before, or is new to the bridge. -/
theorem awaits_step {task : Nat} {after : PacketTask} {frame : SessionId × FrameId}
    (held : DeliversOnce env state) (new : routesNewFrame env state event = true)
    (taken : step env state event = some next) (present : next.tasks[task]? = some after)
    (waits : after.awaits env next = some frame) :
    (∃ before, state.tasks[task]? = some before ∧ before.awaits env state = some frame) ∨
      ((∃ nowUnix, event = .poll task nowUnix) ∧ state.knows env frame = false) := by
  cases after with
  | locking key session pkt =>
    cases task_before taken present with
    | stayed _ _ before =>
      have bound := held.present task key session pkt before
      rw [PacketTask.awaits, opens_step taken bound] at waits
      exact .inl ⟨_, before, waits⟩
    | moved _ before _ point move =>
      cases move with
      | routed nowUnix peer pkt header session front data found =>
        have bound := held.backed _ session found
        rw [PacketTask.awaits, opens_step taken bound] at waits
        obtain ⟨opened, opens, rfl⟩ := Option.map_eq_some_iff.mp waits
        refine .inr ⟨⟨nowUnix, rfl⟩, ?_⟩
        simpa [routesNewFrame, point, front, found, opens, data] using new
  | _ => contradiction

/-- The task that had the mutex waits no more. -/
theorem awaits_lock {task : Nat} {after : PacketTask}
    (taken : step env state (.lock task) = some next) (present : next.tasks[task]? = some after) :
    after.awaits env next = none := by
  obtain ⟨key, session, pkt, cell, point, _, _, ⟨failure, _, rfl⟩ | ⟨header, payload, _, rfl⟩⟩ :=
    lock_ok taken
  · rcases Update.getElem?_set_cases present with ⟨_, rfl⟩ | ⟨different, _⟩
    · rfl
    · exact absurd rfl different
  · rcases Update.getElem?_set_cases present with ⟨_, rfl⟩ | ⟨different, _⟩
    · rfl
    · exact absurd rfl different

/-- The only written frame a step adds is the one its task waited with. -/
theorem written_step (taken : step env state event = some next) :
    next.trace.filterMap Output.written = state.trace.filterMap Output.written ∨
      ∃ task point frame, event = .lock task ∧ state.tasks[task]? = some point ∧
        point.awaits env state = some frame ∧ next.trace.filterMap Output.written =
          state.trace.filterMap Output.written ++ [frame] := by
  obtain ⟨outputs, grown, added⟩ := (step_footprint taken).trace
  rw [grown, List.filterMap_append]
  cases added with
  | opened task key session pkt cell header payload point present free opened =>
    refine .inr ⟨task, _, (session, frameId header), rfl, point, ?_, rfl⟩
    simp only [PacketTask.awaits, BridgeState.opens, present, opened, Option.map_some]
  | reaped toDrop listed =>
    left
    have silent : (reapedOutputs state.sessions state.clock toDrop).filterMap Output.written =
        [] := by
      rw [List.filterMap_eq_nil_iff]
      intro output member
      obtain ⟨key, _, session, _, rfl⟩ := mem_reapedOutputs member
      rfl
    rw [silent, List.append_nil]
  | _ => exact .inl (List.append_nil _)

/-- Every step that routes only new frames keeps delivering once. -/
theorem deliversOnce_step (held : DeliversOnce env state)
    (new : routesNewFrame env state event = true) (taken : step env state event = some next) :
    DeliversOnce env next where
  backed := tableBacked_step held.backed taken
  present := present_step held taken
  once := by
    rcases written_step taken with same | ⟨task, point, frame, _, present, waits, added⟩
    · rw [same]
      exact held.once
    · have unwritten := held.waiting task point frame present waits
      rw [added]
      exact List.nodup_append.mpr ⟨held.once, List.nodup_singleton frame, by
        intro earlier member later last
        obtain rfl := List.mem_singleton.mp last
        rintro rfl
        contradiction⟩
  waiting task after frame present waits := by
    have unwritten : frame ∉ state.trace.filterMap Output.written := by
      rcases awaits_step held new taken present waits with ⟨before, point, waited⟩ | ⟨_, unknown⟩
      · exact held.waiting task before frame point waited
      · exact (knows_iff.mp unknown).1
    rcases written_step taken with same | ⟨locking, point, written, rfl, holds, waited, added⟩
    · rw [same]
      exact unwritten
    · rw [added]
      intro member
      rcases List.mem_append.mp member with before | last
      · contradiction
      · obtain rfl := List.mem_singleton.mp last
        rcases awaits_step held new taken present waits with ⟨before, here, waitedHere⟩ |
          ⟨⟨_, impossible⟩, _⟩
        · obtain rfl := held.distinct task locking before point frame here holds waitedHere waited
          rw [awaits_lock taken present] at waits
          contradiction
        · contradiction
  distinct left right leftPoint rightPoint frame leftPresent rightPresent leftWaits
      rightWaits := by
    rcases awaits_step held new taken leftPresent leftWaits with ⟨oldLeft, leftBefore, leftSame⟩ |
      ⟨⟨leftUnix, leftPolled⟩, leftNew⟩
    · rcases awaits_step held new taken rightPresent rightWaits with
        ⟨oldRight, rightBefore, rightSame⟩ | ⟨_, rightNew⟩
      · exact held.distinct left right oldLeft oldRight frame leftBefore rightBefore leftSame
          rightSame
      · have unused := (knows_iff.mp rightNew).2 oldLeft (List.mem_of_getElem? leftBefore)
        contradiction
    · rcases awaits_step held new taken rightPresent rightWaits with
        ⟨oldRight, rightBefore, rightSame⟩ | ⟨⟨rightUnix, rightPolled⟩, _⟩
      · have unused := (knows_iff.mp leftNew).2 oldRight (List.mem_of_getElem? rightBefore)
        contradiction
      · rw [leftPolled] at rightPolled
        injection rightPolled

/-- In every run that routes only new frames to their sessions, each frame of a session is written
to its destination at most once. -/
theorem frames_written_once {clock : Instant} {events : List Event} {final : BridgeState}
    (new : Along (step env) (fun state event => routesNewFrame env state event = true)
      (.start clock) events)
    (reached : run (step env) (.start clock) events = some final) :
    (final.trace.filterMap Output.written).Nodup := by
  have initially : DeliversOnce env (.start clock) := {
    backed := fun key session found => by simp [BridgeState.start] at found
    present := fun task key session pkt waiting => by simp [BridgeState.start] at waiting
    once := List.nodup_nil
    waiting := fun task point frame present => by simp [BridgeState.start] at present
    distinct := fun left right leftPoint rightPoint frame present => by
      simp [BridgeState.start] at present }
  exact (run_invariant (fun state event next held new taken => deliversOnce_step held new taken)
    initially new reached).once

/-- Two frames of the first client, the second one written first. -/
def reorderedFrames : List Event :=
  firstAccept ++ [.receive (samplePeer 1) (firstFrame 0 [1]),
    .receive (samplePeer 1) (firstFrame 1 [2]), .poll 1 1000, .poll 2 1000, .lock 2, .writeDone 2,
    .lock 1, .writeDone 1]

/-- Each of the reordered frames is written once. -/
theorem reorderedFrames_once :
    ∃ final, run (step (sampleEnv 8)) (.start 0) reorderedFrames = some final ∧
      (final.trace.filterMap Output.written).Nodup := by
  have sample : (run (step (sampleEnv 8)) (.start 0) reorderedFrames).isSome = true ∧
      Along (step (sampleEnv 8))
        (fun state event => routesNewFrame (sampleEnv 8) state event = true) (.start 0)
        reorderedFrames := by
    simp only [reorderedFrames, firstAccept, firstFrame, sampleTunnel_eq]
    decide +kernel
  obtain ⟨final, reached⟩ := Option.isSome_iff_exists.mp sample.1
  exact ⟨final, reached, frames_written_once sample.2 reached⟩

/-- One frame of the first client, delivered twice by the network. -/
def duplicatedFrame : List Event :=
  firstAccept ++ [.receive (samplePeer 1) (firstFrame 0 [1]),
    .receive (samplePeer 1) (firstFrame 0 [1]), .poll 1 1000, .poll 2 1000, .lock 1, .writeDone 1,
    .lock 2, .writeDone 2]

/-- Some run writes a frame twice. -/
theorem frame_written_twice : ¬ ∀ (env : BridgeEnv) (clock : Instant) (events : List Event)
    (final : BridgeState), run (step env) (.start clock) events = some final →
      (final.trace.filterMap Output.written).Nodup := by
  intro once
  have twice : ((run (step (sampleEnv 8)) (.start 0) duplicatedFrame).map fun final =>
      final.trace.filterMap Output.written) = some [(0, (5, 1)), (0, (5, 1))] := by
    simp only [duplicatedFrame, firstAccept, firstFrame, sampleTunnel_eq]
    decide +kernel
  obtain ⟨final, reached, written⟩ := Option.map_eq_some_iff.mp twice
  have distinct := once (sampleEnv 8) 0 duplicatedFrame final reached
  rw [written] at distinct
  exact absurd distinct (by decide)

end LowPing.Bridge
