import LowPing.Library.Machine
import LowPing.Bridge.Footprint
import LowPing.Tunnel.Handshake

/-!
# Rejected datagrams

A datagram is rejected at the first poll of its task, after its destination could not be opened, or
with the mutex of its session when it does not open. Up to then its task has changed nothing but
itself, and a task that changes anything else is never rejected afterwards.
-/

namespace LowPing.Bridge

open LowPing.Tunnel Library Library.Machine

variable {env : BridgeEnv} {state next : BridgeState} {event : Event} {task : Nat}

/-- A packet task that has opened a destination or has reached a destination write: it can only
end well or in a failed write. -/
def PacketTask.committed : PacketTask → Bool
  | .inserting .. => true
  | .writing .. => true
  | .returned none => true
  | .returned (some .write) => true
  | _ => false

/-- A committed task stays committed. -/
theorem committed_move {before after : PacketTask}
    (move : TaskMove env state task event before after) (held : before.committed = true) :
    after.committed = true := by
  cases move with
  | inserted | wrote | written | writeFailed => rfl
  | _ => contradiction

/-- A packet task is committed. -/
def BridgeState.committed (state : BridgeState) (task : Nat) : Prop :=
  ∃ point, state.tasks[task]? = some point ∧ point.committed = true

/-- Every step keeps a committed task committed. -/
theorem committed_step (held : state.committed task) (taken : step env state event = some next) :
    next.committed task := by
  obtain ⟨point, present, committed⟩ := held
  have bound := (List.getElem?_eq_some_iff.mp present).1
  rcases arrivals_step taken with ⟨_, _, _, tasks⟩ |
    ⟨_, tasks | ⟨moving, before, after, found, move, tasks⟩⟩
  · exact ⟨point, by rw [tasks, List.getElem?_append_left bound, present], committed⟩
  · exact ⟨point, by rw [tasks, present], committed⟩
  · by_cases same : moving = task
    · subst same
      obtain rfl := Option.some.inj (present.symm.trans found)
      exact ⟨after, by rw [tasks, List.getElem?_set_self bound], committed_move move committed⟩
    · exact ⟨point, by rw [tasks, List.getElem?_set_ne same, present], committed⟩

/-- A committed task only ends in the error of a failed write. -/
theorem committed_error {events : List Event} {final : BridgeState} {error : BridgeError}
    (held : state.committed task) (reached : run (step env) state events = some final)
    (ended : final.tasks[task]? = some (.returned (some error))) : error = .write := by
  have kept : final.committed task :=
    run_invariant_always (fun _ _ _ held taken => committed_step held taken) held reached
  obtain ⟨point, found, committed⟩ := kept
  obtain rfl := Option.some.inj (ended.symm.trans found)
  cases error with
  | write => rfl
  | _ => contradiction

/-- An event is part of the handling of a task's datagram: its arrival, or a step of the task. -/
def handles (state : BridgeState) (task : Nat) (event : Event) : Prop :=
  (event.datagram ≠ none ∧ task = state.tasks.length) ∨ event.runs = some task

/-- A step that puts a task at a committed point commits it. -/
theorem committed_set {before after : PacketTask} (present : state.tasks[task]? = some before)
    (tasks : next.tasks = state.tasks.set task after) (held : after.committed = true) :
    next.committed task := by
  have bound := (List.getElem?_eq_some_iff.mp present).1
  exact ⟨after, by rw [tasks, List.getElem?_set_self bound], held⟩

/-- A step of the handling either commits the task or changes nothing but the packet tasks. -/
theorem handling_step (taken : step env state event = some next)
    (handling : handles state task event) :
    next.committed task ∨ next = { state with tasks := next.tasks } := by
  rcases handling with ⟨arrives, rfl⟩ | runs
  · cases event with
    | receive peer pkt =>
      obtain rfl := Option.some.inj taken
      exact .inr rfl
    | _ => exact absurd rfl arrives
  · cases event with
    | poll own nowUnix =>
      obtain ⟨peer, pkt, point, rfl⟩ := poll_ok taken
      exact .inr rfl
    | connected own =>
      obtain rfl := Option.some.inj runs
      obtain ⟨key, aeadKey, connect, point, rfl⟩ := connected_ok taken
      exact .inl (committed_set point rfl rfl)
    | connectFailed own =>
      obtain ⟨key, aeadKey, connect, point, rfl⟩ := connectFailed_ok taken
      exact .inr rfl
    | insert own =>
      obtain rfl := Option.some.inj runs
      obtain ⟨key, session, point, _, rfl⟩ := insert_ok taken
      exact .inl (committed_set point rfl rfl)
    | lock own =>
      obtain rfl := Option.some.inj runs
      obtain ⟨key, session, pkt, cell, point, _, _,
        ⟨failure, _, rfl⟩ | ⟨header, payload, _, rfl⟩⟩ := lock_ok taken
      · exact .inr rfl
      · exact .inl (committed_set point rfl rfl)
    | writeSome own count =>
      obtain rfl := Option.some.inj runs
      obtain ⟨_, _, _, _, _, _, point, _, _, _, _, rfl⟩ := writeSome_ok taken
      exact .inl (committed_set point rfl rfl)
    | writeDone own =>
      obtain rfl := Option.some.inj runs
      obtain ⟨_, _, _, _, _, point, _, ⟨_, _, _, rfl⟩ | ⟨_, _, rfl⟩⟩ := writeDone_ok taken
      · exact .inl (committed_set point rfl rfl)
      · exact .inl (committed_set point rfl rfl)
    | writeFailed own =>
      obtain rfl := Option.some.inj runs
      obtain ⟨_, _, _, _, point, rfl⟩ := writeFailed_ok taken
      exact .inl (committed_set point rfl rfl)
    | _ => contradiction

/-- Whatever the bridge does before, between and after, no step of the handling of a datagram that
is rejected changes anything but the packet tasks: not the table, no session, no destination, no
drain task and no history of writes. -/
theorem rejected_inert {before after final : BridgeState} {later : List Event} {error : BridgeError}
    (taken : step env before event = some after) (handling : handles before task event)
    (reached : run (step env) after later = some final)
    (rejected : final.tasks[task]? = some (.returned (some error))) (unwritten : error ≠ .write) :
    after = { before with tasks := after.tasks } := by
  rcases handling_step taken handling with committed | same
  · exact absurd (committed_error committed reached rejected) unwritten
  · exact same

/-- The sample session exists; a frame with a byte too many arrives for it and finds it. -/
def forgedFrame : List Event :=
  firstAccept ++ [.receive (samplePeer 1) (firstFrame 0 [1] ++ [0]), .poll 1 1000]

/-- With the session's mutex in hand the forged frame is rejected and nothing else has changed. -/
theorem forgedFrame_inert : ∃ before after,
    run (step (sampleEnv 8)) (.start 0) forgedFrame = some before ∧
    step (sampleEnv 8) before (.lock 1) = some after ∧
    after.tasks[1]? = some (.returned (some (.protocol .aeadFailed))) ∧
    after = { before with tasks := after.tasks } := by
  have outcome : ((run (step (sampleEnv 8)) (.start 0) forgedFrame).bind fun before =>
      (step (sampleEnv 8) before (.lock 1)).map fun after => after.tasks[1]?) =
      some (some (.returned (some (.protocol .aeadFailed)))) := by
    simp only [forgedFrame, firstAccept, firstFrame, sampleTunnel_eq]
    decide +kernel
  obtain ⟨before, reached, rest⟩ := Option.bind_eq_some_iff.mp outcome
  obtain ⟨after, taken, rejected⟩ := Option.map_eq_some_iff.mp rest
  exact ⟨before, after, reached, taken, rejected,
    rejected_inert taken (.inr rfl) (show run _ after [] = some after from rfl) rejected nofun⟩

end LowPing.Bridge
