import LowPing.Library.Update
import LowPing.Capture.Attribution
import LowPing.Capture.Filter

/-!
# Starting and stopping the capture

`start` and `stop` of one `WinDivertCapture` and the threads that run its capture loop. The flag
`running` is all that links them: `start` sets it before it does anything that can fail, a thread
looks at it between two receives, and nobody waits for a thread to end. Calls are made on any
thread, so the steps of a call interleave with those of other calls and of the loops.
-/

namespace LowPing.Capture

open Library
open Library.Machine (run Along run_invariant along_iff_reached)
open Library.Update (countP_set_add getElem?_set_cases getElem?_concat_cases)

/-- Where a call of `start` is. -/
inductive StartStage where
  /-- It has set the flag and is about to build the filter. -/
  | building
  /-- It has the filter and is about to spawn the thread. -/
  | spawning (filter : String)
  /-- It returned `Ok`. -/
  | succeeded
  /-- It returned an error, with the flag at that moment. -/
  | failed (left : Bool)
  deriving DecidableEq

/-- A call of `start`. -/
structure StartCall where
  /-- The flag as it found it. -/
  found : Bool
  /-- Where it is. -/
  stage : StartStage
  deriving DecidableEq

/-- Where a capture thread is. -/
inductive ThreadStage where
  /-- About to open the driver with a filter. -/
  | opening (filter : String)
  /-- About to look at the flag. -/
  | looping (lastReap : Instant)
  /-- It has found the flag set and is in `recv` or about to call it. -/
  | receiving (lastReap : Instant)
  /-- Ended. -/
  | exited
  deriving DecidableEq

/-- A capture with its calls and threads. -/
structure Control where
  /-- The flag. -/
  running : Bool
  /-- The flow table its threads share. -/
  flows : FlowTable
  /-- Every call of `start`. -/
  starts : List StartCall
  /-- Every capture thread ever spawned. -/
  threads : List ThreadStage

/-- A capture that has just been built. -/
def Control.new : Control where
  running := false
  flows := ∅
  starts := []
  threads := []

/-- One step of a call or of a thread. -/
inductive ControlEvent where
  /-- `start` is called: the flag is swapped. -/
  | start
  /-- A call builds the filter. -/
  | build (call : Nat)
  /-- It spawns the thread, if that succeeds. -/
  | spawn (call : Nat) (success : Bool)
  /-- `stop`. -/
  | stop
  /-- A thread opens the driver, if that succeeds. -/
  | opened (thread : Nat) (success : Bool) (now : Instant)
  /-- A thread looks at the flag and reaps where it is time to. -/
  | turn (thread : Nat) (now : Instant)
  /-- Its `recv` returns a packet, which it processes, or an error. -/
  | received (thread : Nat) (packet : Option CapturedPacket)

/-- Whether a step is a call of `start`. -/
def ControlEvent.isStart : ControlEvent → Bool
  | .start => true
  | _ => false

/-- `start` is called. -/
def Control.start (control : Control) : Control :=
  let stage := if control.running then StartStage.succeeded else .building
  { control with running := true, starts := control.starts ++ [⟨control.running, stage⟩] }

/-- A call goes on to a stage. -/
def Control.setStart (control : Control) (call : Nat) (found : Bool) (stage : StartStage) :
    Control :=
  { control with starts := control.starts.set call ⟨found, stage⟩ }

/-- A thread goes on to a stage. -/
def Control.setThread (control : Control) (thread : Nat) (stage : ThreadStage) : Control :=
  { control with threads := control.threads.set thread stage }

/-- `build_filter` returns. -/
def Control.build (capture : WinDivertCapture) (control : Control) (call : Nat) : Option Control :=
  match control.starts[call]? with
  | some ⟨found, .building⟩ =>
    some (control.setStart call found (match capture.buildFilter with
      | .ok filter => .spawning filter
      | .error _ => .failed control.running))
  | _ => none

/-- The thread is spawned or not. -/
def Control.spawn (control : Control) (call : Nat) (success : Bool) : Option Control :=
  match control.starts[call]? with
  | some ⟨found, .spawning filter⟩ =>
    if success then
      some { control.setStart call found .succeeded with
        threads := control.threads ++ [.opening filter] }
    else some (control.setStart call found (.failed control.running))
  | _ => none

/-- `WinDivert::network` returns. -/
def Control.opened (control : Control) (thread : Nat) (success : Bool) (now : Instant) :
    Option Control :=
  match control.threads[thread]? with
  | some (.opening _) =>
    some (control.setThread thread (if success then .looping now else .exited))
  | _ => none

/-- The head of the capture loop; a panic of `reap_flows` ends the thread. -/
def Control.turn (control : Control) (thread : Nat) (now : Instant) : Option Control :=
  match control.threads[thread]? with
  | some (.looping lastReap) =>
    if control.running then
      if now - lastReap > 15 * 1000000000 then
        match reapFlows control.flows flowIdle now with
        | some flows => some { control.setThread thread (.receiving now) with flows }
        | none => some (control.setThread thread .exited)
      else some (control.setThread thread (.receiving lastReap))
    else some (control.setThread thread .exited)
  | _ => none

/-- The rest of the loop; a panic of `process_packet` ends the thread. -/
def Control.received (control : Control) (thread : Nat) (packet : Option CapturedPacket) :
    Option Control :=
  match control.threads[thread]? with
  | some (.receiving lastReap) =>
    match packet with
    | none => some (control.setThread thread (.looping lastReap))
    | some packet =>
      match packet.process control.flows with
      | some (flows, _) => some { control.setThread thread (.looping lastReap) with flows }
      | none => some (control.setThread thread .exited)
  | _ => none

/-- One step. -/
def Control.step (capture : WinDivertCapture) (control : Control) : ControlEvent → Option Control
  | .start => some control.start
  | .build call => control.build capture call
  | .spawn call success => control.spawn call success
  | .stop => some { control with running := false }
  | .opened thread success now => control.opened thread success now
  | .turn thread now => control.turn thread now
  | .received thread packet => control.received thread packet

/-- Whether a thread has not ended. -/
def ThreadStage.alive : ThreadStage → Bool
  | .exited => false
  | _ => true

/-- Whether a call may still spawn a thread. -/
def StartCall.pending (call : StartCall) : Bool :=
  match call.stage with
  | .building | .spawning _ => true
  | _ => false

/-- The number of capture threads that have not ended. -/
def Control.alive (control : Control) : Nat := control.threads.countP ThreadStage.alive

/-- The number of calls that may still spawn one. -/
def Control.pending (control : Control) : Nat := control.starts.countP StartCall.pending

/-- Whether a step makes a call of `start` fail. -/
def ControlEvent.failsStart (capture : WinDivertCapture) : ControlEvent → Bool
  | .build _ => match capture.buildFilter with
    | .ok _ => false
    | .error _ => true
  | .spawn _ success => !success
  | _ => false

/-- Whether a step ends a thread by an error: the driver does not open, or the loop panics. -/
def Control.endsThread (control : Control) : ControlEvent → Bool
  | .opened _ success _ => !success
  | .turn thread now => match control.threads[thread]? with
    | some (.looping lastReap) =>
      decide (now - lastReap > 15 * 1000000000) && (reapFlows control.flows flowIdle now).isNone
    | _ => false
  | .received _ (some packet) => (packet.process control.flows).isNone
  | _ => false

section

variable {capture : WinDivertCapture} {control next : Control} {event : ControlEvent}

/-- What a step can do. -/
inductive ControlAfter (capture : WinDivertCapture) (control : Control) :
    ControlEvent → Control → Prop where
  /-- The flag is set: `start` returns at once. -/
  | alreadyRunning (set : control.running = true) :
      ControlAfter capture control .start
        { control with running := true, starts := control.starts ++ [⟨true, .succeeded⟩] }
  /-- The flag is clear: it is set and the call goes on. -/
  | started (clear : control.running = false) :
      ControlAfter capture control .start
        { control with running := true, starts := control.starts ++ [⟨false, .building⟩] }
  /-- The filter is built. -/
  | built (call : Nat) (found : Bool) (filter : String)
      (point : control.starts[call]? = some ⟨found, .building⟩)
      (safe : ControlEvent.failsStart capture (.build call) = false) :
      ControlAfter capture control (.build call) (control.setStart call found (.spawning filter))
  /-- It cannot be built, or no thread can be spawned. -/
  | startFailed (call : Nat) (found : Bool) (stage : StartStage) (event : ControlEvent)
      (point : control.starts[call]? = some ⟨found, stage⟩)
      (pending : StartCall.pending ⟨found, stage⟩ = true)
      (failing : event.failsStart capture = true) (safe : control.endsThread event = false)
      :
      ControlAfter capture control event (control.setStart call found (.failed control.running))
  /-- The thread is spawned. -/
  | spawned (call : Nat) (found : Bool) (filter : String)
      (point : control.starts[call]? = some ⟨found, .spawning filter⟩) :
      ControlAfter capture control (.spawn call true)
        { control.setStart call found .succeeded with
          threads := control.threads ++ [.opening filter] }
  /-- The flag is cleared. -/
  | stopped : ControlAfter capture control .stop { control with running := false }
  /-- A thread goes on. -/
  | continued (thread : Nat) (before after : ThreadStage) (flows : FlowTable)
      (event : ControlEvent) (point : control.threads[thread]? = some before)
      (alive : before.alive = true) (later : after.alive = true)
      (sound : event.failsStart capture = false) (safe : control.endsThread event = false)
      :
      ControlAfter capture control event { control.setThread thread after with flows }
  /-- A thread has seen the flag clear and ends. -/
  | ended (thread : Nat) (lastReap now : Instant)
      (point : control.threads[thread]? = some (.looping lastReap))
      (clear : control.running = false) :
      ControlAfter capture control (.turn thread now) (control.setThread thread .exited)
  /-- A thread ends by an error. -/
  | died (thread : Nat) (before : ThreadStage) (event : ControlEvent)
      (point : control.threads[thread]? = some before) (alive : before.alive = true)
      (sound : event.failsStart capture = false) (failing : control.endsThread event = true)
      :
      ControlAfter capture control event (control.setThread thread .exited)

/-- Every step is one of these. -/
theorem control_step (taken : control.step capture event = some next) :
    ControlAfter capture control event next := by
  cases event with
  | start =>
    obtain rfl := Option.some.inj taken
    cases flag : control.running with
    | true => simpa [Control.start, flag] using ControlAfter.alreadyRunning flag
    | false => simpa [Control.start, flag] using ControlAfter.started flag
  | build call =>
    simp only [Control.step, Control.build] at taken
    split at taken
    · rename_i found point
      obtain rfl := Option.some.inj taken
      cases outcome : capture.buildFilter with
      | ok filter =>
        exact .built call found filter point (by simp [ControlEvent.failsStart, outcome])
      | error error =>
        exact .startFailed call found .building _ point rfl
          (by simp [ControlEvent.failsStart, outcome]) rfl
    · cases taken
  | spawn call success =>
    simp only [Control.step, Control.spawn] at taken
    split at taken
    · rename_i found filter point
      split at taken <;> rename_i succeeded <;> obtain rfl := Option.some.inj taken
      · rw [succeeded]
        exact .spawned call found filter point
      · rw [Bool.not_eq_true] at succeeded
        rw [succeeded]
        exact .startFailed call found (.spawning filter) _ point rfl rfl rfl
    · cases taken
  | stop =>
    obtain rfl := Option.some.inj taken
    exact .stopped
  | opened thread success now =>
    simp only [Control.step, Control.opened] at taken
    split at taken
    · rename_i filter point
      obtain rfl := Option.some.inj taken
      cases success with
      | true => exact .continued thread _ (.looping now) control.flows _ point rfl rfl rfl rfl
      | false => exact .died thread _ _ point rfl rfl rfl
    · cases taken
  | turn thread now =>
    simp only [Control.step, Control.turn] at taken
    split at taken
    · rename_i lastReap point
      split at taken
      · split at taken
        · rename_i due
          split at taken <;> rename_i reaped <;> obtain rfl := Option.some.inj taken
          · exact .continued thread _ _ _ _ point rfl rfl rfl
              (by simp [Control.endsThread, point, reaped])
          · exact .died thread _ _ point rfl rfl
              (by simpa [Control.endsThread, point, reaped] using due)
        · rename_i early
          obtain rfl := Option.some.inj taken
          exact .continued thread _ _ control.flows _ point rfl rfl rfl
            (by simp [Control.endsThread, point, early])
      · rename_i clear
        obtain rfl := Option.some.inj taken
        exact .ended thread lastReap now point (Bool.not_eq_true _ ▸ clear)
    · cases taken
  | received thread packet =>
    simp only [Control.step, Control.received] at taken
    split at taken
    · rename_i lastReap point
      split at taken
      · obtain rfl := Option.some.inj taken
        exact .continued thread _ _ control.flows _ point rfl rfl rfl rfl
      · rename_i packet
        split at taken <;> rename_i processed <;> obtain rfl := Option.some.inj taken
        · exact .continued thread _ _ _ _ point rfl rfl rfl
            (by simp [Control.endsThread, processed])
        · exact .died thread _ _ point rfl rfl
            (by simp [Control.endsThread, processed])
    · cases taken

/-- A call that goes on is counted as it is then. -/
theorem pending_setStart {call : Nat} {found : Bool} {stage : StartStage}
    (point : control.starts[call]? = some ⟨found, stage⟩) (later : StartStage) :
    (control.setStart call found later).pending + (StartCall.pending ⟨found, stage⟩).toNat =
      control.pending + (StartCall.pending ⟨found, later⟩).toNat :=
  countP_set_add StartCall.pending point ⟨found, later⟩

/-- A thread that goes on is counted as it is then. -/
theorem alive_setThread {thread : Nat} {before : ThreadStage}
    (point : control.threads[thread]? = some before) (after : ThreadStage) :
    (control.setThread thread after).alive + before.alive.toNat =
      control.alive + after.alive.toNat :=
  countP_set_add ThreadStage.alive point after

/-- A new call is counted while it may spawn a thread. -/
theorem pending_concat (starts : List StartCall) (call : StartCall) :
    (starts ++ [call]).countP StartCall.pending =
      starts.countP StartCall.pending + call.pending.toNat := by
  rw [List.countP_append, List.countP_singleton]
  cases call.pending <;> rfl

/-- A new thread is alive. -/
theorem alive_concat (threads : List ThreadStage) (filter : String) :
    (threads ++ [ThreadStage.opening filter]).countP ThreadStage.alive =
      threads.countP ThreadStage.alive + 1 := by
  rw [List.countP_append, List.countP_singleton]
  rfl

end

/-! ## One loop at a time -/

section

variable {capture : WinDivertCapture} {control next final : Control} {event : ControlEvent}
  {events : List ControlEvent}

/-- A `start` that finds the flag clear is called once every thread has ended and no call may still
spawn one. -/
def Control.StartsAlone (control : Control) (event : ControlEvent) : Prop :=
  event.isStart = true → control.running = false → control.alive = 0 ∧ control.pending = 0

instance (control : Control) (event : ControlEvent) : Decidable (control.StartsAlone event) :=
  inferInstanceAs (Decidable (_ → _ → _))

/-- A thread is alive or a call may spawn one, never both and never two of them. -/
theorem single_step (held : control.alive + control.pending ≤ 1)
    (alone : control.StartsAlone event) (taken : control.step capture event = some next) :
    next.alive + next.pending ≤ 1 := by
  rcases control_step taken with ⟨set⟩ | ⟨clear⟩ | ⟨call, found, filter, point, -⟩ |
    ⟨call, found, stage, _, point, pending, -, -⟩ | ⟨call, found, filter, point⟩ | _ |
    ⟨thread, before, after, flows, _, point, alive, later, -, -⟩ |
    ⟨thread, lastReap, now, point, clear⟩ | ⟨thread, before, _, point, alive, -, -⟩
  · show control.alive +
      (control.starts ++ [StartCall.mk true .succeeded]).countP StartCall.pending ≤ 1
    rw [pending_concat]
    exact held
  · have idle := alone rfl clear
    show control.alive +
      (control.starts ++ [StartCall.mk false .building]).countP StartCall.pending ≤ 1
    rw [pending_concat, idle.1]
    show 0 + (control.pending + 1) ≤ 1
    omega
  · have counted := pending_setStart point (.spawning filter)
    show control.alive + (control.setStart call found (.spawning filter)).pending ≤ 1
    simp only [StartCall.pending, Bool.toNat_true] at counted
    omega
  · have counted := pending_setStart point (.failed control.running)
    show control.alive + (control.setStart call found (.failed control.running)).pending ≤ 1
    rw [pending] at counted
    simp only [StartCall.pending, Bool.toNat_true, Bool.toNat_false] at counted
    omega
  · have counted := pending_setStart point .succeeded
    show (control.threads ++ [ThreadStage.opening filter]).countP ThreadStage.alive +
      (control.setStart call found .succeeded).pending ≤ 1
    rw [alive_concat]
    show control.alive + 1 + (control.setStart call found .succeeded).pending ≤ 1
    simp only [StartCall.pending, Bool.toNat_true, Bool.toNat_false] at counted
    omega
  · exact held
  · have counted := alive_setThread point after
    show (control.setThread thread after).alive + control.pending ≤ 1
    rw [alive, later] at counted
    omega
  · have counted := alive_setThread point .exited
    show (control.setThread thread .exited).alive + control.pending ≤ 1
    simp only [ThreadStage.alive, Bool.toNat_true, Bool.toNat_false] at counted
    omega
  · have counted := alive_setThread point .exited
    show (control.setThread thread .exited).alive + control.pending ≤ 1
    rw [alive] at counted
    simp only [ThreadStage.alive, Bool.toNat_true, Bool.toNat_false] at counted
    omega

/-- Where nobody starts the capture again before its last thread has ended, at most one capture
loop is alive after every run of its calls and threads. -/
theorem single_loop
    (alone : Along (Control.step capture) Control.StartsAlone Control.new events)
    (reached : run (Control.step capture) Control.new events = some final) :
    final.alive ≤ 1 := by
  have counted : final.alive + final.pending ≤ 1 :=
    run_invariant (fun _ _ _ held alone taken => single_step held alone taken) (by decide) alone
      reached
  omega

end

/-- A capture of one rule. -/
def oneRule : WinDivertCapture :=
  WinDivertCapture.new
    [⟨.udp, .v4 (Ipv4Addr.new 10 0 0 1), 27015, 27015, .v4 (Ipv4Addr.new 127 0 0 1), 9700⟩]

/-- A capture is started and its thread waits for a packet. -/
def armedRun : List ControlEvent :=
  [.start, .build 0, .spawn 0 true, .opened 0 true 1, .turn 0 2]

/-- A capture is stopped, a packet wakes its thread, which ends, and it is started again. -/
def restartedRun : List ControlEvent :=
  armedRun ++ [.stop, .received 0 none, .turn 0 3, .start, .build 1, .spawn 1 true]

/-- A capture is stopped and started again while its thread waits. -/
def doubledRun : List ControlEvent :=
  armedRun ++ [.stop, .start, .build 1, .spawn 1 true]

/-- The state a run of it leads to. -/
def oneRuleAfter (events : List ControlEvent) : Option Control :=
  run (Control.step oneRule) Control.new events

/-- Started again once its thread has ended, it has one loop. -/
theorem restarted_single : ∃ final, oneRuleAfter restartedRun = some final ∧ final.alive ≤ 1 := by
  have completes : (oneRuleAfter restartedRun).isSome = true := by decide +kernel
  obtain ⟨final, reached⟩ := Option.isSome_iff_exists.mp completes
  have alone : Along (Control.step oneRule) Control.StartsAlone Control.new restartedRun := by
    decide +kernel
  exact ⟨final, reached, single_loop alone reached⟩

/-- Started again before that, it has two. -/
theorem doubled_loop : ∃ final, oneRuleAfter doubledRun = some final ∧ final.alive = 2 := by
  have counted : (oneRuleAfter doubledRun).map Control.alive = some 2 := by decide +kernel
  obtain ⟨final, reached, two⟩ := Option.map_eq_some_iff.mp counted
  exact ⟨final, reached, two⟩

/-! ## Running means armed -/

/-- A call that returned an error left the flag as it found it. -/
def StartCall.Restored (call : StartCall) : Prop :=
  ∀ left, call.stage = .failed left → left = call.found

/-- Where the flag is set and no call of `start` is under way, a capture thread is alive; and a call
that failed left the flag as it found it. -/
structure Control.Armed (control : Control) : Prop where
  /-- The flag means a thread. -/
  running : control.running = true → control.pending = 0 → 0 < control.alive
  /-- A failure is undone. -/
  restored : ∀ call ∈ control.starts, call.Restored

/-- A call of `start` fails only while the flag is clear; a thread ends by an error only while the
flag is clear, another thread is alive or a call may still spawn one. -/
structure Control.FailsDisarmed (capture : WinDivertCapture) (control : Control)
    (event : ControlEvent) : Prop where
  /-- Where a call fails. -/
  start : event.failsStart capture = true → control.running = false
  /-- Where a thread does. -/
  thread : control.endsThread event = true →
    control.running = false ∨ 1 < control.alive ∨ 0 < control.pending

instance (capture : WinDivertCapture) (control : Control) (event : ControlEvent) :
    Decidable (control.FailsDisarmed capture event) :=
  decidable_of_iff
    ((event.failsStart capture = true → control.running = false) ∧
      (control.endsThread event = true →
        control.running = false ∨ 1 < control.alive ∨ 0 < control.pending))
    ⟨fun both => ⟨both.1, both.2⟩, fun disarmed => ⟨disarmed.start, disarmed.thread⟩⟩

/-- A call that may still spawn a thread found the flag clear. -/
def Control.FoundClear (control : Control) : Prop :=
  ∀ call ∈ control.starts, call.pending = true → call.found = false

section

variable {capture : WinDivertCapture} {control next final : Control} {event : ControlEvent}
  {events : List ControlEvent}

/-- A call of the list that goes on to a stage is in the list in place of what it was. -/
theorem starts_setStart {call : Nat} {found : Bool} {stage : StartStage} {other : StartCall}
    (member : other ∈ (control.setStart call found stage).starts) :
    other = ⟨found, stage⟩ ∨ other ∈ control.starts := by
  obtain ⟨position, present⟩ := List.mem_iff_getElem?.mp member
  rcases getElem?_set_cases present with ⟨-, rfl⟩ | ⟨-, old⟩
  · exact .inl rfl
  · exact .inr (List.mem_of_getElem? old)

/-- Every step keeps it. -/
theorem foundClear_step (clear : control.FoundClear)
    (taken : control.step capture event = some next) : next.FoundClear := by
  intro other member pending
  have moved {call : Nat} {found : Bool} {stage later : StartStage}
      (point : control.starts[call]? = some ⟨found, stage⟩)
      (under : StartCall.pending ⟨found, stage⟩ = true)
      (member : other ∈ (control.setStart call found later).starts) : other.found = false := by
    rcases starts_setStart member with same | old
    · rw [same]
      exact clear ⟨found, stage⟩ (List.mem_of_getElem? point) under
    · exact clear other old pending
  rcases control_step taken with _ | _ | ⟨call, found, filter, point, -⟩ |
    ⟨call, found, stage, _, point, under, -, -⟩ | ⟨call, found, filter, point⟩ | _ | _ | _ | _
  · rcases List.mem_append.mp member with old | added
    · exact clear other old pending
    · rw [List.mem_singleton.mp added] at pending
      cases pending
  · rcases List.mem_append.mp member with old | added
    · exact clear other old pending
    · rw [List.mem_singleton.mp added]
  · exact moved point rfl member
  · exact moved point under member
  · exact moved point rfl member
  all_goals exact clear other member pending

/-- A step leaves a capture armed exactly when it fails only disarmed. -/
theorem armed_step (clear : control.FoundClear) (armed : control.Armed)
    (taken : control.step capture event = some next) :
    control.FailsDisarmed capture event ↔ next.Armed := by
  have added {call : StartCall} (fine : call.Restored) :
      ∀ other ∈ control.starts ++ [call], other.Restored := by
    intro other member
    rcases List.mem_append.mp member with old | added
    · exact armed.restored other old
    · rw [List.mem_singleton.mp added]
      exact fine
  have moved {call : Nat} {found : Bool} {later : StartStage}
      (fine : StartCall.Restored ⟨found, later⟩) :
      ∀ other ∈ (control.setStart call found later).starts, other.Restored := by
    intro other member
    rcases starts_setStart member with same | old
    · rw [same]
      exact fine
    · exact armed.restored other old
  rcases control_step taken with ⟨set⟩ | ⟨-⟩ | ⟨call, found, filter, point, safe⟩ |
    ⟨call, found, stage, _, point, under, failing, safe⟩ | ⟨call, found, filter, point⟩ | _ |
    ⟨thread, before, after, flows, _, point, alive, later, sound, safe⟩ |
    ⟨thread, lastReap, now, point, stopped⟩ | ⟨thread, before, _, point, alive, sound, failing⟩
  -- `start`: a call that goes on may still spawn a thread.
  · refine iff_of_true ⟨nofun, nofun⟩ ⟨fun _ none => ?_, added nofun⟩
    rw [Control.pending, pending_concat] at none
    exact armed.running set none
  · refine iff_of_true ⟨nofun, nofun⟩ ⟨fun _ none => ?_, added nofun⟩
    rw [Control.pending, pending_concat] at none
    cases none
  -- `build` and `spawn`: what fails leaves the flag as it is, and it was found clear.
  · refine iff_of_true ⟨fun failing => ?_, nofun⟩ ⟨fun set none => ?_, moved nofun⟩
    · rw [safe] at failing
      cases failing
    · have counted := pending_setStart point (.spawning filter)
      have none : (control.setStart call found (.spawning filter)).pending = 0 := none
      simp only [StartCall.pending, Bool.toNat_true] at counted
      exact armed.running set (by omega)
  · have wasClear : found = false := clear _ (List.mem_of_getElem? point) under
    constructor
    · intro disarmed
      have flag : control.running = false := disarmed.start failing
      refine ⟨fun set _ => ?_, moved fun left same => ?_⟩
      · have set : control.running = true := set
        rw [flag] at set
        cases set
      · obtain rfl := StartStage.failed.inj same
        rw [flag, wasClear]
    · intro after
      have left := after.restored ⟨found, .failed control.running⟩
        (List.mem_of_getElem? (List.getElem?_set_self (List.getElem?_eq_some_iff.mp point).1))
        control.running rfl
      refine ⟨fun _ => left.trans wasClear, fun ends => ?_⟩
      rw [safe] at ends
      cases ends
  · refine iff_of_true ⟨nofun, nofun⟩ ⟨fun _ _ => ?_, moved nofun⟩
    show 0 < (control.threads ++ [ThreadStage.opening filter]).countP ThreadStage.alive
    rw [alive_concat]
    exact Nat.succ_pos _
  · exact iff_of_true ⟨nofun, nofun⟩ ⟨nofun, armed.restored⟩
  -- The threads: one that ends leaves the flag as it is.
  · refine iff_of_true ⟨fun failing => ?_, fun failing => ?_⟩
      ⟨fun set none => ?_, armed.restored⟩
    · rw [sound] at failing
      cases failing
    · rw [safe] at failing
      cases failing
    · have counted := alive_setThread point after
      have positive : 0 < control.alive := armed.running set none
      show 0 < (control.setThread thread after).alive
      rw [alive, later] at counted
      omega
  · refine iff_of_true ⟨nofun, fun _ => .inl stopped⟩ ⟨fun set => ?_, armed.restored⟩
    have set : control.running = true := set
    rw [stopped] at set
    cases set
  · have counted := alive_setThread point .exited
    rw [alive] at counted
    simp only [ThreadStage.alive, Bool.toNat_true, Bool.toNat_false] at counted
    constructor
    · intro disarmed
      refine ⟨fun set none => ?_, armed.restored⟩
      have set : control.running = true := set
      have none : control.pending = 0 := none
      show 0 < (control.setThread thread .exited).alive
      rcases disarmed.thread failing with flag | others | pending
      · rw [flag] at set
        cases set
      · omega
      · omega
    · intro after
      refine ⟨fun fails => ?_, fun _ => ?_⟩
      · rw [sound] at fails
        cases fails
      · by_cases flag : control.running = false
        · exact .inl flag
        · rw [Bool.not_eq_false] at flag
          have positive : control.pending = 0 → 0 < (control.setThread thread .exited).alive :=
            after.running flag
          omega

/-- In every run of calls and threads, the flag means an armed capture and a failed `start` leaves
the flag as it found it, in every state on the way, exactly when the run fails only disarmed. -/
theorem running_armed_iff (reached : run (Control.step capture) Control.new events = some final) :
    (∀ past middle, past <+: events →
        run (Control.step capture) Control.new past = some middle → middle.Armed) ↔
      Along (Control.step capture) (Control.FailsDisarmed capture) Control.new events := by
  have clear : Control.new.FoundClear := nofun
  have armed : Control.new.Armed := ⟨nofun, nofun⟩
  exact (along_iff_reached (fun _ _ _ held taken => foundClear_step held taken)
    (fun _ _ _ held fine taken => armed_step held fine taken) clear armed reached).symm

end

/-- A capture without a redirect target. -/
def noRules : WinDivertCapture := WinDivertCapture.new []

/-- The driver does not open for a process without the rights for it. -/
def unprivilegedRun : List ControlEvent := [.start, .build 0, .spawn 0 true, .opened 0 false 1]

/-- A start that fails for lack of a target, and another. -/
def refusedRun : List ControlEvent := [.start, .build 0, .start]

/-- Where the driver opens, the capture is armed whenever its flag is set. -/
theorem restarted_armed : (oneRuleAfter restartedRun).isSome = true ∧
    ∀ past middle, past <+: restartedRun → oneRuleAfter past = some middle → middle.Armed := by
  have completes : (oneRuleAfter restartedRun).isSome = true := by decide +kernel
  obtain ⟨final, reached⟩ := Option.isSome_iff_exists.mp completes
  have disarmed : Along (Control.step oneRule) (Control.FailsDisarmed oneRule) Control.new
      restartedRun := by
    decide +kernel
  exact ⟨completes, (running_armed_iff reached).mpr disarmed⟩

/-- Where the driver does not open, the flag stays set with no thread left; where the first start
fails, the next returns `Ok` with nothing running. -/
theorem unarmed : (∃ final, oneRuleAfter unprivilegedRun = some final ∧ ¬ final.Armed) ∧
    ∃ final, run (Control.step noRules) Control.new refusedRun = some final ∧
      final.starts = [⟨false, .failed true⟩, ⟨true, .succeeded⟩] ∧ ¬ final.Armed := by
  constructor
  · have flagged : (oneRuleAfter unprivilegedRun).map
        (fun final => (final.running, final.pending, final.alive)) = some (true, 0, 0) := by
      decide +kernel
    obtain ⟨final, reached, values⟩ := Option.map_eq_some_iff.mp flagged
    obtain ⟨set, none, dead⟩ : final.running = true ∧ final.pending = 0 ∧ final.alive = 0 := by
      simpa using values
    exact ⟨final, reached, fun armed => absurd (armed.running set none) (by omega)⟩
  · have flagged : (run (Control.step noRules) Control.new refusedRun).map
        (fun final => (final.running, final.starts, final.alive)) =
          some (true, [⟨false, .failed true⟩, ⟨true, .succeeded⟩], 0) := by
      decide +kernel
    obtain ⟨final, reached, values⟩ := Option.map_eq_some_iff.mp flagged
    obtain ⟨set, calls, dead⟩ : final.running = true ∧
        final.starts = [⟨false, .failed true⟩, ⟨true, .succeeded⟩] ∧ final.alive = 0 := by
      simpa using values
    have none : final.pending = 0 := by
      rw [Control.pending, calls]
      rfl
    exact ⟨final, reached, calls, fun armed => absurd (armed.running set none) (by omega)⟩

end LowPing.Capture
