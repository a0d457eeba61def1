import LowPing.Capture.Accounting
import LowPing.Library.Settling

/-!
# Stopping a capture

What is left to do once `stop` has cleared the flag, as long as nobody starts the capture again.
Calls of `start` that are under way still return and may still spawn their threads, a thread in
`recv`, or about to call it, handles what it receives, and each thread ends when it next looks at
the flag.
-/

namespace LowPing.Capture

open LowPing.Library
open Machine (run run_cons Settles sum_map_set_add)

/-- How many steps a call of `start` and the thread it may spawn can still take. -/
def StartCall.work (call : StartCall) : Nat :=
  match call.stage with
  | .building => 4
  | .spawning _ => 3
  | _ => 0

/-- How many a thread can. -/
def ThreadStage.work : ThreadStage → Nat
  | .opening _ => 2
  | .receiving _ => 2
  | .looping _ => 1
  | .exited => 0

/-- How many all of them can. -/
def Control.work (control : Control) : Nat :=
  (control.starts.map StartCall.work).sum + (control.threads.map ThreadStage.work).sum

/-- Steps of calls and threads already there. -/
def ControlEvent.own : ControlEvent → Bool
  | .start | .stop => false
  | _ => true

/-- Steps in which no thread fails to be spawned, no driver to open and no `recv` to return a
packet. A call that builds its filter counts also where the filter cannot be built and the call
fails. -/
def ControlEvent.favourable : ControlEvent → Bool
  | .start | .stop => false
  | .spawn _ success | .opened _ success _ => success
  | .received _ packet => packet.isSome
  | .build _ | .turn .. => true

/-- The thread whose `recv` returns. -/
def ControlEvent.receives : ControlEvent → Option Nat
  | .received thread _ => some thread
  | _ => none

/-- Every call has returned and every thread has ended. -/
def Control.Stopped (control : Control) : Prop :=
  control.pending = 0 ∧ control.alive = 0

section

variable {capture : WinDivertCapture} {control next final : Control} {event : ControlEvent}
  {schedule : List ControlEvent}

/-- What a call does lowers its work. -/
theorem work_setStart {call : Nat} {before : StartCall}
    (point : control.starts[call]? = some before) (found : Bool) (stage : StartStage) :
    (control.setStart call found stage).work + before.work =
      control.work + StartCall.work ⟨found, stage⟩ := by
  have exchanged := sum_map_set_add StartCall.work point ⟨found, stage⟩
  change ((control.starts.set call ⟨found, stage⟩).map StartCall.work).sum +
    (control.threads.map ThreadStage.work).sum + before.work = (control.starts.map _).sum +
    (control.threads.map _).sum + _
  omega

/-- What a thread does lowers its work. -/
theorem work_setThread {thread : Nat} {before : ThreadStage}
    (point : control.threads[thread]? = some before) (after : ThreadStage) :
    (control.setThread thread after).work + before.work = control.work + after.work := by
  have exchanged := sum_map_set_add ThreadStage.work point after
  change (control.starts.map StartCall.work).sum +
    ((control.threads.set thread after).map ThreadStage.work).sum + before.work =
    (control.starts.map _).sum + (control.threads.map _).sum + after.work
  omega

/-- A step of a call or a thread leaves the flag alone. -/
theorem running_own (own : event.own = true) (taken : control.step capture event = some next) :
    next.running = control.running := by
  cases control_step taken with
  | alreadyRunning | started | stopped => contradiction
  | _ => rfl

/-- What a step of its own does once the flag is clear. -/
inductive StoppedAfter (capture : WinDivertCapture) (control : Control) :
    ControlEvent → Control → Prop where
  /-- A call has built its filter, or has not. -/
  | built (call : Nat) (found : Bool) (stage : StartStage)
      (point : control.starts[call]? = some ⟨found, .building⟩)
      (less : StartCall.work ⟨found, stage⟩ ≤ 3) :
      StoppedAfter capture control (.build call) (control.setStart call found stage)
  /-- A call spawns its thread. -/
  | spawned (call : Nat) (found : Bool) (filter : String)
      (point : control.starts[call]? = some ⟨found, .spawning filter⟩) :
      StoppedAfter capture control (.spawn call true)
        { control.setStart call found .succeeded with
          threads := control.threads ++ [.opening filter] }
  /-- It cannot. -/
  | failed (call : Nat) (found : Bool) (filter : String)
      (point : control.starts[call]? = some ⟨found, .spawning filter⟩) :
      StoppedAfter capture control (.spawn call false)
        (control.setStart call found (.failed control.running))
  /-- A thread has opened the driver, or has not. -/
  | opened (thread : Nat) (filter : String) (success : Bool) (now : Instant)
      (point : control.threads[thread]? = some (.opening filter)) :
      StoppedAfter capture control (.opened thread success now)
        (control.setThread thread (if success then .looping now else .exited))
  /-- A thread sees the flag. -/
  | ended (thread : Nat) (lastReap now : Instant)
      (point : control.threads[thread]? = some (.looping lastReap)) :
      StoppedAfter capture control (.turn thread now) (control.setThread thread .exited)
  /-- A thread has received something, or nothing. -/
  | received (thread : Nat) (lastReap : Instant) (packet : Option CapturedPacket)
      (flows : FlowTable) (point : control.threads[thread]? = some (.receiving lastReap)) :
      StoppedAfter capture control (.received thread packet)
        { control.setThread thread (.looping lastReap) with flows }

/-- Every such step is one of these. -/
theorem stopped_step (clear : control.running = false) (own : event.own = true)
    (taken : control.step capture event = some next) : StoppedAfter capture control event next := by
  cases event with
  | start | stop => contradiction
  | build call =>
    simp only [Control.step, Control.build] at taken
    split at taken
    · rename_i found point
      obtain rfl := Option.some.inj taken
      refine .built call found _ point ?_
      cases capture.buildFilter <;> simp [StartCall.work]
    · contradiction
  | spawn call success =>
    simp only [Control.step, Control.spawn] at taken
    split at taken
    · rename_i found filter point
      cases success with
      | true =>
        obtain rfl := Option.some.inj taken
        exact .spawned call found filter point
      | false =>
        obtain rfl := Option.some.inj taken
        exact .failed call found filter point
    · contradiction
  | opened thread success now =>
    simp only [Control.step, Control.opened] at taken
    split at taken
    · rename_i filter point
      obtain rfl := Option.some.inj taken
      exact .opened thread filter success now point
    · contradiction
  | turn thread now =>
    simp only [Control.step, Control.turn, clear] at taken
    split at taken
    · rename_i lastReap point
      obtain rfl := Option.some.inj taken
      exact .ended thread lastReap now point
    · contradiction
  | received thread packet =>
    simp only [Control.step, Control.received] at taken
    split at taken
    · rename_i lastReap point
      cases packet with
      | none =>
        obtain rfl := Option.some.inj taken
        exact .received thread lastReap none control.flows point
      | some packet =>
        obtain ⟨flows, result, processed⟩ := process_total packet control.flows
        simp only [processed] at taken
        obtain rfl := Option.some.inj taken
        exact .received thread lastReap (some packet) flows point
    · contradiction

/-- A step of its own lowers the work once the flag is clear. -/
theorem stoppedWork_step (clear : control.running = false) (own : event.own = true)
    (taken : control.step capture event = some next) : next.work < control.work := by
  cases stopped_step clear own taken with
  | built call found stage point less =>
    have moved := work_setStart point found stage
    have before : StartCall.work ⟨found, .building⟩ = 4 := rfl
    omega
  | spawned call found filter point =>
    have moved := work_setStart point found .succeeded
    have before : StartCall.work ⟨found, .spawning filter⟩ = 3 := rfl
    have after : StartCall.work ⟨found, .succeeded⟩ = 0 := rfl
    have grown : Control.work { control.setStart call found .succeeded with
        threads := control.threads ++ [.opening filter] } =
        (control.setStart call found .succeeded).work + 2 := by
      simp [Control.work, Control.setStart, ThreadStage.work, Nat.add_assoc]
    omega
  | failed call found filter point =>
    have moved := work_setStart point found (.failed control.running)
    have before : StartCall.work ⟨found, .spawning filter⟩ = 3 := rfl
    have after : StartCall.work ⟨found, .failed control.running⟩ = 0 := rfl
    omega
  | opened thread filter success now point =>
    have moved := work_setThread point (if success then .looping now else .exited)
    have before : (ThreadStage.opening filter).work = 2 := rfl
    have after : (if success then ThreadStage.looping now else .exited).work ≤ 1 := by
      cases success <;> simp [ThreadStage.work]
    omega
  | ended thread lastReap now point =>
    have moved := work_setThread point .exited
    have before : (ThreadStage.looping lastReap).work = 1 := rfl
    have after : ThreadStage.exited.work = 0 := rfl
    omega
  | received thread lastReap packet flows point =>
    have moved := work_setThread point (.looping lastReap)
    have before : (ThreadStage.receiving lastReap).work = 2 := rfl
    have after : (ThreadStage.looping lastReap).work = 1 := rfl
    change (control.setThread thread (.looping lastReap)).work < control.work
    omega

/-- Until everything has stopped a call or a thread can go on without a failure. -/
theorem stopped_continues (clear : control.running = false) (busy : ¬ control.Stopped) :
    ∃ event next, event.favourable = true ∧ control.step capture event = some next := by
  suffices ∃ event, event.favourable = true ∧ (control.step capture event).isSome = true by
    obtain ⟨event, good, goes⟩ := this
    obtain ⟨next, taken⟩ := Option.isSome_iff_exists.mp goes
    exact ⟨event, next, good, taken⟩
  by_cases returned : control.pending = 0
  · have live : control.alive ≠ 0 := fun ended => busy ⟨returned, ended⟩
    obtain ⟨point, member, alive⟩ := List.countP_pos_iff.mp (Nat.pos_of_ne_zero live)
    obtain ⟨thread, there⟩ := List.mem_iff_getElem?.mp member
    cases point with
    | opening filter =>
      exact ⟨.opened thread true 0, rfl, by simp [Control.step, Control.opened, there]⟩
    | looping lastReap =>
      exact ⟨.turn thread 0, rfl, by simp [Control.step, Control.turn, there, clear]⟩
    | receiving lastReap =>
      obtain ⟨flows, result, processed⟩ :=
        process_total ⟨[], false, fun _ _ => .passthrough, 0⟩ control.flows
      refine ⟨.received thread (some ⟨[], false, fun _ _ => .passthrough, 0⟩), rfl, ?_⟩
      simp [Control.step, Control.received, there, processed]
    | exited => contradiction
  · obtain ⟨⟨found, stage⟩, member, pending⟩ :=
      List.countP_pos_iff.mp (Nat.pos_of_ne_zero returned)
    obtain ⟨call, there⟩ := List.mem_iff_getElem?.mp member
    cases stage with
    | building => exact ⟨.build call, rfl, by simp [Control.step, Control.build, there]⟩
    | spawning filter =>
      exact ⟨.spawn call true, rfl, by simp [Control.step, Control.spawn, there]⟩
    | succeeded | failed => contradiction

/-- Where every call has returned and every thread has ended, no step of its own is left. -/
theorem stopped_rests (clear : control.running = false) (stopped : control.Stopped)
    (own : event.own = true) : control.step capture event = none := by
  by_contra goes
  obtain ⟨next, taken⟩ := Option.ne_none_iff_exists'.mp goes
  have returned {call : Nat} {point : StartCall} (there : control.starts[call]? = some point) :
      point.pending = false :=
    Bool.eq_false_of_not_eq_true (List.countP_eq_zero.mp stopped.1 _ (List.mem_of_getElem? there))
  have ended {thread : Nat} {point : ThreadStage} (there : control.threads[thread]? = some point) :
      point.alive = false :=
    Bool.eq_false_of_not_eq_true (List.countP_eq_zero.mp stopped.2 _ (List.mem_of_getElem? there))
  cases stopped_step clear own taken with
  | built _ _ _ point => exact Bool.noConfusion (returned point)
  | spawned _ _ _ point => exact Bool.noConfusion (returned point)
  | failed _ _ _ point => exact Bool.noConfusion (returned point)
  | opened _ _ _ _ point => exact Bool.noConfusion (ended point)
  | ended _ _ _ point => exact Bool.noConfusion (ended point)
  | received _ _ _ _ point => exact Bool.noConfusion (ended point)

/-- A stopped capture settles by itself. -/
theorem stopped_settles (capture : WinDivertCapture) :
    Settles (Control.step capture) (fun control => control.running = false) Control.Stopped
      ControlEvent.own ControlEvent.favourable Control.work where
  kept _ _ _ clear own taken := (running_own own taken).trans clear
  included event good := by
    cases event with
    | start | stop => contradiction
    | _ => rfl
  lowers _ _ _ clear own taken := stoppedWork_step clear own taken
  continues _ clear busy := stopped_continues clear busy
  rests _ _ clear stopped own := stopped_rests clear stopped own

/-! ## The last packets -/

/-- No thread comes to `recv` any more, and one whose `recv` returns is not there. -/
theorem receiving_step {thread : Nat} {lastReap : Instant} (clear : control.running = false)
    (own : event.own = true) (taken : control.step capture event = some next)
    (later : next.threads[thread]? = some (.receiving lastReap)) :
    control.threads[thread]? = some (.receiving lastReap) ∧ event.receives ≠ some thread := by
  cases stopped_step clear own taken with
  | built => exact ⟨later, (Option.some_ne_none thread).symm⟩
  | failed => exact ⟨later, (Option.some_ne_none thread).symm⟩
  | spawned call found filter point =>
    rcases Update.getElem?_concat_cases later with ⟨_, impossible⟩ | old
    · contradiction
    · exact ⟨old, (Option.some_ne_none thread).symm⟩
  | opened other filter success now point =>
    rcases Update.getElem?_set_cases later with ⟨_, impossible⟩ | ⟨_, old⟩
    · cases success <;> contradiction
    · exact ⟨old, (Option.some_ne_none thread).symm⟩
  | ended other last now point =>
    rcases Update.getElem?_set_cases later with ⟨_, impossible⟩ | ⟨_, old⟩
    · contradiction
    · exact ⟨old, (Option.some_ne_none thread).symm⟩
  | received other last packet flows point =>
    rcases Update.getElem?_set_cases later with ⟨_, impossible⟩ | ⟨different, old⟩
    · contradiction
    · exact ⟨old, fun same => different (Option.some.inj same).symm⟩

/-- A thread whose `recv` returns was there. -/
theorem receives_step {thread : Nat} (clear : control.running = false) (own : event.own = true)
    (taken : control.step capture event = some next) (returned : event.receives = some thread) :
    ∃ lastReap, control.threads[thread]? = some (.receiving lastReap) := by
  cases stopped_step clear own taken with
  | received other lastReap packet flows point =>
    obtain rfl := Option.some.inj returned
    exact ⟨lastReap, point⟩
  | _ => contradiction

/-- Each thread receives at most once more, and only if it is in `recv` now. -/
theorem receives_run (clear : control.running = false)
    (own : ∀ event ∈ schedule, event.own = true)
    (continued : run (Control.step capture) control schedule = some final) :
    (schedule.filterMap ControlEvent.receives).Nodup ∧
      ∀ thread ∈ schedule.filterMap ControlEvent.receives,
        ∃ lastReap, control.threads[thread]? = some (.receiving lastReap) := by
  induction schedule generalizing control with
  | nil => exact ⟨List.nodup_nil, fun _ member => absurd member List.not_mem_nil⟩
  | cons event schedule ih =>
    obtain ⟨next, taken, rest⟩ := Option.bind_eq_some_iff.mp continued
    have mine := own event List.mem_cons_self
    obtain ⟨once, held⟩ := ih ((running_own mine taken).trans clear)
      (fun one member => own one (List.mem_cons_of_mem event member)) rest
    cases returned : event.receives with
    | none =>
      rw [List.filterMap_cons_none returned]
      refine ⟨once, fun thread member => ?_⟩
      obtain ⟨lastReap, later⟩ := held thread member
      exact ⟨lastReap, (receiving_step clear mine taken later).1⟩
    | some first =>
      rw [List.filterMap_cons_some returned]
      refine ⟨List.nodup_cons.mpr ⟨?_, once⟩, fun thread member => ?_⟩
      · intro again
        obtain ⟨lastReap, later⟩ := held first again
        exact (receiving_step clear mine taken later).2 returned
      · rcases List.mem_cons.mp member with rfl | among
        · exact receives_step clear mine taken returned
        · obtain ⟨lastReap, later⟩ := held thread among
          exact ⟨lastReap, (receiving_step clear mine taken later).1⟩

/-- The work is that of what has not ended. -/
theorem work_le (control : Control) :
    control.work ≤ 4 * control.pending + 2 * control.alive := by
  have calls : (control.starts.map StartCall.work).sum ≤ 4 * control.pending := by
    apply Machine.sum_map_le_countP
    rintro ⟨found, stage⟩
    cases stage <;> simp [StartCall.work, StartCall.pending]
  have threads : (control.threads.map ThreadStage.work).sum ≤ 2 * control.alive := by
    apply Machine.sum_map_le_countP
    intro point
    cases point <;> simp [ThreadStage.work, ThreadStage.alive]
  exact Nat.add_le_add calls threads

end

/-- Once the flag is clear, and as long as nobody starts the capture again, its calls and threads
come to an end after a few steps each; where they cannot go on every call has returned and every
thread has ended, and so they can whatever they have done so far. Meanwhile a thread receives at
most once more, and only if it was in `recv`, or past its look at the flag, when the flag was
cleared. -/
theorem stopped_capture_settles {capture : WinDivertCapture} {control final : Control}
    {schedule : List ControlEvent} (clear : control.running = false)
    (own : ∀ event ∈ schedule, event.own = true)
    (continued : run (Control.step capture) control schedule = some final) :
    schedule.length ≤ 4 * control.pending + 2 * control.alive ∧
      (final.Stopped ↔ ∀ event, event.own = true → final.step capture event = none) ∧
      (∃ rest last, (∀ event ∈ rest, event.favourable = true) ∧
        run (Control.step capture) control (schedule ++ rest) = some last ∧ last.Stopped) ∧
      (schedule.filterMap ControlEvent.receives).Nodup ∧
      ∀ thread ∈ schedule.filterMap ControlEvent.receives,
        ∃ lastReap, control.threads[thread]? = some (.receiving lastReap) := by
  obtain ⟨length, stopped, completed⟩ :=
    (stopped_settles capture).left_alone clear own continued
  have bound := work_le control
  exact ⟨by omega, stopped, completed, receives_run clear own continued⟩

/-- A capture is stopped while its thread waits for a packet: the thread takes two more steps. -/
theorem waitingThread_settles : ∃ control final, oneRuleAfter (armedRun ++ [.stop]) = some control ∧
    run (Control.step oneRule) control [.received 0 none, .turn 0 3] = some final ∧
    (final.Stopped ↔ ∀ event, event.own = true → final.step oneRule event = none) ∧
    ∃ lastReap, control.threads[0]? = some (.receiving lastReap) := by
  have sample : ((oneRuleAfter (armedRun ++ [.stop])).bind fun control =>
      (run (Control.step oneRule) control [.received 0 none, .turn 0 3]).map
        fun _ => control.running) = some false := by
    decide +kernel
  obtain ⟨control, reached, onward⟩ := Option.bind_eq_some_iff.mp sample
  obtain ⟨final, continued, clear⟩ := Option.map_eq_some_iff.mp onward
  have own : ∀ event ∈ [ControlEvent.received 0 none, .turn 0 3], event.own = true := by
    simp [ControlEvent.own]
  obtain ⟨_, stopped, _, _, receiving⟩ := stopped_capture_settles clear own continued
  exact ⟨control, final, reached, continued, stopped, receiving 0 List.mem_cons_self⟩

end LowPing.Capture
