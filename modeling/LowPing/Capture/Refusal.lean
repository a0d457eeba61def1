import LowPing.Capture.Accounting
import LowPing.Capture.Driver

/-!
# A capture that the driver refuses

`start` returns `Ok` as soon as it has spawned a thread, and the thread then opens the driver with
the filter of `build_filter`. A driver as documented opens with no such filter, so the thread ends
there, whatever was configured: nothing is captured, in whatever order calls and threads go on, and
the flag and the return values of `start` do not tell.
-/

namespace LowPing.Capture

open Library.Machine
open Library.Update (getElem?_set_cases)

/-- Whether a step agrees with the driver: a thread opens only filters that the driver opens. -/
def Capturing.OpensBy (driver : Driver) (state : Capturing) : CapturingEvent → Prop
  | .control (.opened thread success _) =>
    ∀ filter, state.control.threads[thread]? = some (.opening filter) → success = true →
      driver.opens filter = true
  | _ => True

/-- A capture that has captured nothing and has no thread at its loop. -/
structure Capturing.Inert (capture : WinDivertCapture) (state : Capturing) : Prop where
  /-- A call that has built a filter has built that of the capture. -/
  spawning : ∀ call ∈ state.control.starts, ∀ filter, call.stage = .spawning filter →
    capture.buildFilter = .ok filter
  /-- A thread is about to open the driver with it, or has ended. -/
  threads : ∀ thread ∈ state.control.threads, thread = .exited ∨
    ∃ filter, capture.buildFilter = .ok filter ∧ thread = .opening filter
  /-- No thread has anything to do with a packet. -/
  errands : ∀ errand ∈ state.errands, errand = .idle
  /-- No flow is on record. -/
  flows : state.control.flows = ∅
  /-- No packet was processed. -/
  history : state.history = []
  /-- None was counted. -/
  stats : state.stats = ⟨0, 0, 0⟩
  /-- None was sent. -/
  sent : state.sent = []

section

variable {driver : Driver} {capture : WinDivertCapture} {checksums : Checksums}
  {state later : Capturing} {control : Control} {event : ControlEvent}

/-- The calls and threads of a capture that has captured nothing. -/
theorem inert_control (inert : state.Inert capture)
    (starts : ∀ call ∈ control.starts, ∀ filter, call.stage = .spawning filter →
      capture.buildFilter = .ok filter)
    (threads : ∀ thread ∈ control.threads, thread = .exited ∨
      ∃ filter, capture.buildFilter = .ok filter ∧ thread = .opening filter)
    (flows : control.flows = state.control.flows)
    (unused : state.control.uses event = none)
    (errands : ∀ errand ∈ state.errandsAfter checksums event, errand = .idle) :
    Capturing.Inert capture { state with
      control
      errands := state.errandsAfter checksums event
      history := state.history ++ (state.control.uses event).toList } where
  spawning := starts
  threads := threads
  errands := errands
  flows := flows.trans inert.flows
  history := by rw [unused, inert.history]; rfl
  stats := inert.stats
  sent := inert.sent

/-- A thread is about to open the driver with the filter of the capture, or has ended. -/
theorem inert_threads (inert : state.Inert capture) {thread : Nat} {stage : ThreadStage}
    (present : state.control.threads[thread]? = some stage) :
    stage = .exited ∨ ∃ filter, capture.buildFilter = .ok filter ∧ stage = .opening filter :=
  inert.threads stage (List.mem_of_getElem? present)

/-- A call that goes on has built the filter of the capture. -/
theorem spawning_setStart (inert : state.Inert capture) {call : Nat} {found : Bool}
    {stage : StartStage}
    (built : ∀ filter, stage = .spawning filter → capture.buildFilter = .ok filter) :
    ∀ other ∈ (state.control.setStart call found stage).starts, ∀ filter,
      other.stage = .spawning filter → capture.buildFilter = .ok filter := by
  intro other member filter spawning
  rcases starts_setStart member with rfl | old
  · exact built filter spawning
  · exact inert.spawning other old filter spawning

/-- No thread is at its loop. -/
theorem inert_unlooped (inert : state.Inert capture) {thread : Nat} {lastReap : Instant} :
    state.control.threads[thread]? ≠ some (.looping lastReap) ∧
      state.control.threads[thread]? ≠ some (.receiving lastReap) := by
  refine ⟨fun present => ?_, fun present => ?_⟩
  · rcases inert_threads inert present with ended | ⟨_, _, opening⟩ <;> contradiction
  · rcases inert_threads inert present with ended | ⟨_, _, opening⟩ <;> contradiction

/-- A call of `start` captures nothing. -/
theorem inert_start (inert : state.Inert capture) :
    Capturing.Inert capture { state with
      control := state.control.start
      errands := state.errandsAfter checksums .start
      history := state.history ++ (state.control.uses .start).toList } := by
  refine inert_control inert (fun call member filter spawning => ?_) inert.threads rfl rfl
    inert.errands
  rcases List.mem_append.mp member with old | added
  · exact inert.spawning call old filter spawning
  · rw [List.mem_singleton.mp added] at spawning
    dsimp only at spawning
    split at spawning <;> contradiction

/-- A call that goes on to build captures nothing: what it builds is the filter of the capture. -/
theorem inert_build (inert : state.Inert capture) {call : Nat}
    (taken : state.control.build capture call = some control) :
    Capturing.Inert capture { state with
      control
      errands := state.errandsAfter checksums (.build call)
      history := state.history ++ (state.control.uses (.build call)).toList } := by
  simp only [Control.build] at taken
  split at taken
  · obtain rfl := Option.some.inj taken
    refine inert_control inert (spawning_setStart inert fun filter spawning => ?_) inert.threads
      rfl rfl inert.errands
    cases built : capture.buildFilter with
    | ok text =>
      rw [built] at spawning
      rw [StartStage.spawning.inj spawning]
    | error error =>
      rw [built] at spawning
      contradiction
  · contradiction

/-- A thread that is spawned is about to open the driver with that filter. -/
theorem inert_spawn (inert : state.Inert capture) {call : Nat} {success : Bool}
    (taken : state.control.spawn call success = some control) :
    Capturing.Inert capture { state with
      control
      errands := state.errandsAfter checksums (.spawn call success)
      history := state.history ++ (state.control.uses (.spawn call success)).toList } := by
  simp only [Control.spawn] at taken
  split at taken
  · rename_i found filter point
    cases success with
    | true =>
      obtain rfl := Option.some.inj taken
      have built := inert.spawning _ (List.mem_of_getElem? point) filter rfl
      refine inert_control inert (spawning_setStart inert (by simp)) (fun thread member => ?_)
        rfl rfl fun errand member => ?_
      · rcases List.mem_append.mp member with old | added
        · exact inert.threads thread old
        · exact .inr ⟨filter, built, List.mem_singleton.mp added⟩
      · rcases List.mem_append.mp member with old | added
        · exact inert.errands errand old
        · exact List.mem_singleton.mp added
    | false =>
      obtain rfl := Option.some.inj taken
      exact inert_control inert (spawning_setStart inert (by simp)) inert.threads rfl rfl
        inert.errands
  · contradiction

/-- A thread that opens the driver ends: it has one of the filters with which none opens. -/
theorem inert_opened (documented : driver.Documented) (inert : state.Inert capture)
    {thread : Nat} {success : Bool} {now : Instant}
    (opens : state.OpensBy driver (.control (.opened thread success now)))
    (taken : state.control.opened thread success now = some control) :
    Capturing.Inert capture { state with
      control
      errands := state.errandsAfter checksums (.opened thread success now)
      history := state.history ++ (state.control.uses (.opened thread success now)).toList } := by
  simp only [Control.opened] at taken
  split at taken
  · rename_i filter present
    obtain rfl := Option.some.inj taken
    have built : capture.buildFilter = .ok filter := by
      rcases inert_threads inert present with ended | ⟨other, built, same⟩
      · contradiction
      · rwa [ThreadStage.opening.inj same]
    have refused : success = false := by
      cases success with
      | false => rfl
      | true =>
        have opened := opens filter present rfl
        rw [buildFilter_unopened documented built] at opened
        contradiction
    refine inert_control inert inert.spawning (fun other member => ?_) rfl rfl inert.errands
    obtain ⟨position, found⟩ := List.mem_iff_getElem?.mp member
    rcases getElem?_set_cases found with ⟨-, rfl⟩ | ⟨-, old⟩
    · exact .inl (by rw [refused]; rfl)
    · exact inert_threads inert old
  · contradiction

/-- A step of a call or of a thread captures nothing. -/
theorem inert_controlStep (documented : driver.Documented) (inert : state.Inert capture)
    (opens : state.OpensBy driver (.control event))
    (taken : state.control.step capture event = some control) :
    Capturing.Inert capture { state with
      control
      errands := state.errandsAfter checksums event
      history := state.history ++ (state.control.uses event).toList } := by
  cases event with
  | start =>
    obtain rfl := Option.some.inj taken
    exact inert_start inert
  | stop =>
    obtain rfl := Option.some.inj taken
    exact inert_control inert inert.spawning inert.threads rfl rfl inert.errands
  | build call => exact inert_build inert taken
  | spawn call success => exact inert_spawn inert taken
  | opened thread success now => exact inert_opened documented inert opens taken
  | turn thread now =>
    simp only [Control.step, Control.turn] at taken
    split at taken
    · rename_i lastReap present
      exact absurd present (inert_unlooped inert).1
    · contradiction
  | received thread packet =>
    simp only [Control.step, Control.received] at taken
    split at taken
    · rename_i lastReap present
      exact absurd present (inert_unlooped inert).2
    · contradiction

/-- No step captures anything. -/
theorem inert_step {step : CapturingEvent} (documented : driver.Documented)
    (inert : state.Inert capture) (opens : state.OpensBy driver step)
    (taken : state.step capture checksums step = some later) : later.Inert capture := by
  have idle {thread : Nat} {errand : Errand} (present : state.errands[thread]? = some errand) :
      errand = .idle :=
    inert.errands errand (List.mem_of_getElem? present)
  cases step with
  | control event =>
    simp only [Capturing.step] at taken
    split at taken
    · obtain ⟨control, stepped, rfl⟩ := Option.map_eq_some_iff.mp taken
      exact inert_controlStep documented inert opens stepped
    · contradiction
  | count thread =>
    simp only [Capturing.step] at taken
    split at taken
    · rename_i fate counting
      have none := idle counting
      contradiction
    · contradiction
  | send thread =>
    simp only [Capturing.step] at taken
    split at taken
    · rename_i data sending
      have none := idle sending
      contradiction
    · contradiction

/-- A capture that has just been built has captured nothing. -/
theorem inert_new : Capturing.Inert capture .new where
  spawning _ member := nomatch List.not_mem_nil member
  threads _ member := nomatch List.not_mem_nil member
  errands _ member := nomatch List.not_mem_nil member
  flows := rfl
  history := rfl
  stats := rfl
  sent := rfl

/-- With a driver as documented no capture ever captures anything: in every run of calls and
threads, no thread gets to its loop, no packet is processed, counted or sent, and once every thread
has tried to open the driver none is left. -/
theorem capture_inert (documented : driver.Documented) {events : List CapturingEvent}
    {final : Capturing}
    (opens : Along (Capturing.step capture checksums) (Capturing.OpensBy driver) .new events)
    (reached : run (Capturing.step capture checksums) .new events = some final) :
    final.Inert capture ∧ final.redirectStats = ⟨⟨0, 0, 0⟩, 0⟩ ∧
      ((∀ filter, .opening filter ∉ final.control.threads) → final.control.alive = 0) := by
  have inert : final.Inert capture :=
    run_invariant (fun _ _ _ inert opens taken => inert_step documented inert opens taken)
      inert_new opens reached
  refine ⟨inert, ?_, fun tried => ?_⟩
  · rw [Capturing.redirectStats, inert.stats, inert.flows]
    rfl
  · refine List.countP_eq_zero.mpr fun thread member alive => ?_
    rcases inert.threads thread member with rfl | ⟨filter, _, rfl⟩
    · contradiction
    · exact tried filter member

end

/-- A capture is started and the driver refuses its filter; it is started once more. -/
def refusedStart : List CapturingEvent :=
  [.control .start, .control (.build 0), .control (.spawn 0 true), .control (.opened 0 false 1),
    .control .start]

/-- Both starts return `Ok` and the flag is set, but nothing runs. -/
theorem refusedStart_inert : ∃ final,
    run (Capturing.step oneRule some) .new refusedStart = some final ∧
    final.control.running = true ∧ final.control.alive = 0 ∧
    final.control.starts = [⟨false, .succeeded⟩, ⟨true, .succeeded⟩] ∧ final.Inert oneRule ∧
    final.redirectStats = ⟨⟨0, 0, 0⟩, 0⟩ ∧
    ((∀ filter, .opening filter ∉ final.control.threads) → final.control.alive = 0) := by
  have sample : (run (Capturing.step oneRule some) .new refusedStart).map (fun final =>
      decide (final.control.running = true ∧ final.control.alive = 0 ∧
        final.control.starts = [⟨false, .succeeded⟩, ⟨true, .succeeded⟩])) = some true := by
    decide +kernel
  obtain ⟨final, reached, verdict⟩ := Option.map_eq_some_iff.mp sample
  obtain ⟨flag, none, calls⟩ := of_decide_eq_true verdict
  have opens : Along (Capturing.step oneRule some) (Capturing.OpensBy referenceDriver) .new
      refusedStart := by
    refine ⟨trivial, fun _ _ => ⟨trivial, fun _ _ => ⟨trivial, fun _ _ => ⟨?_, fun _ _ =>
      ⟨trivial, fun _ _ => trivial⟩⟩⟩⟩⟩
    intro filter _ success
    contradiction
  exact ⟨final, reached, flag, none, calls, capture_inert referenceDriver_documented opens reached⟩

end LowPing.Capture
