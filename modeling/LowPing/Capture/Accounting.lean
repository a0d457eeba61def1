import LowPing.Capture.Control
import LowPing.Capture.Rewriting

/-!
# What becomes of a captured packet

The whole turn of `run_capture_loop`: what `process_packet` returns gets new checksums, is counted
and sent on, and what it passes is counted and sent as it came. Checksums are the packet library's;
where it fails the packet is neither counted nor sent. Several loops may be alive and share the flow
table and the counters, each at its own place of a turn. All the same the table is what a single
loop would make of the packets and the reapings in the order in which they use it, what becomes of a
packet depends on those before it, and each thread counts and sends what it has processed.
-/

namespace LowPing.Capture

open Library Library.Machine
open Library.Update (countP_set_add)

/-- `recalculate_checksums`: a packet with its checksums set, or an error. -/
abbrev Checksums := Bytes → Option Bytes

/-- `Stats`. -/
@[ext] structure Stats where
  /-- Outbound packets sent to a redirect target. -/
  outboundRedirected : UInt64
  /-- Inbound packets sent on with their original source. -/
  inboundRewritten : UInt64
  /-- Packets sent on as they came. -/
  droppedUnparseable : UInt64
  deriving DecidableEq

instance : AddCommSemigroup Stats where
  add left right := {
    outboundRedirected := left.outboundRedirected + right.outboundRedirected
    inboundRewritten := left.inboundRewritten + right.inboundRewritten
    droppedUnparseable := left.droppedUnparseable + right.droppedUnparseable }
  add_assoc _ _ _ :=
    Stats.ext (UInt64.add_assoc _ _ _) (UInt64.add_assoc _ _ _) (UInt64.add_assoc _ _ _)
  add_comm _ _ := Stats.ext (UInt64.add_comm _ _) (UInt64.add_comm _ _) (UInt64.add_comm _ _)

/-- `RedirectStats`. -/
structure RedirectStats extends Stats where
  /-- Flows now on record. -/
  activeFlows : UInt64
  deriving DecidableEq

/-- What becomes of a packet. -/
inductive Fate where
  /-- It is sent on as it came. -/
  | passed (data : Bytes)
  /-- It is sent to a redirect target. -/
  | redirected (data : Bytes)
  /-- It is sent on with its original source. -/
  | restored (data : Bytes)
  /-- It is lost. -/
  | lost
  deriving DecidableEq

/-- What is sent of a packet. -/
def Fate.sent : Fate → Option Bytes
  | .passed data => some data
  | .redirected data => some data
  | .restored data => some data
  | .lost => none

/-- The fate of a packet that is modified: it gets its checksums. -/
def CapturedPacket.summed (checksums : Checksums) (packet : CapturedPacket) (modified : Bytes) :
    Fate :=
  match checksums modified with
  | none => .lost
  | some data => if packet.outbound then .redirected data else .restored data

/-- The fate of a packet that finds a flow table. -/
def CapturedPacket.fate (checksums : Checksums) (flows : FlowTable) (packet : CapturedPacket) :
    Fate :=
  match packet.process flows with
  | none => .lost
  | some (_, none) => .passed packet.data
  | some (_, some modified) => packet.summed checksums modified

/-- What a thread has still to do with the packet it has processed. -/
inductive Errand where
  /-- Nothing. -/
  | idle
  /-- To count it, and then to send it. -/
  | counting (fate : Fate)
  /-- To send it. -/
  | sending (data : Bytes)
  deriving DecidableEq

/-- A packet that is lost leaves nothing to do. -/
def Fate.errand : Fate → Errand
  | .lost => .idle
  | fate => .counting fate

/-- The fate that is not yet counted. -/
def Errand.uncounted : Errand → Option Fate
  | .counting fate => some fate
  | _ => none

/-- What is not yet sent. -/
def Errand.unsent : Errand → Option Bytes
  | .counting fate => fate.sent
  | .sending data => some data
  | .idle => none

/-- A capture with what its loops do to packets. -/
structure Capturing where
  /-- Calls, threads and the flow table. -/
  control : Control
  /-- For each thread, what it has still to do. -/
  errands : List Errand
  /-- The counters. -/
  stats : Stats
  /-- History: packets processed and reapings, with their threads, as they used the flow table. -/
  history : List (Nat × LoopEvent)
  /-- History: packets handed to `send`, with their threads. -/
  sent : List (Nat × Bytes)

/-- A capture that has just been built. -/
def Capturing.new : Capturing where
  control := .new
  errands := []
  stats := ⟨0, 0, 0⟩
  history := []
  sent := []

/-- `stats`. -/
def Capturing.redirectStats (state : Capturing) : RedirectStats where
  toStats := state.stats
  activeFlows := .ofNat state.control.flows.entries.length

/-- One step of a call or of a thread. -/
inductive CapturingEvent where
  /-- A call goes on; a thread opens the driver, turns, or receives and processes a packet. -/
  | control (event : ControlEvent)
  /-- A thread counts its packet. -/
  | count (thread : Nat)
  /-- It hands it to `send`. -/
  | send (thread : Nat)

/-- The thread that takes a step. -/
def ControlEvent.thread : ControlEvent → Option Nat
  | .opened thread .. => some thread
  | .turn thread _ => some thread
  | .received thread _ => some thread
  | _ => none

/-- How many threads a step adds. -/
def ControlEvent.spawns : ControlEvent → Nat
  | .spawn _ true => 1
  | _ => 0

/-- The use a step makes of the flow table. -/
def Control.uses (control : Control) : ControlEvent → Option (Nat × LoopEvent)
  | .received thread (some packet) => some (thread, .packet packet)
  | .turn thread now =>
    match control.threads[thread]? with
    | some (.looping lastReap) =>
      if control.running ∧ now - lastReap > 15 * 1000000000 ∧
          (reapFlows control.flows flowIdle now).isSome then
        some (thread, .reap flowIdle now)
      else none
    | _ => none
  | _ => none

/-- What the threads have to do after a step: a new thread has nothing to do, one that has processed
a packet has to see to its fate. -/
def Capturing.errandsAfter (checksums : Checksums) (state : Capturing) :
    ControlEvent → List Errand
  | .spawn _ true => state.errands ++ [.idle]
  | .received thread (some packet) =>
    state.errands.set thread (packet.fate checksums state.control.flows).errand
  | _ => state.errands

/-- One more packet is counted. -/
def Stats.count (stats : Stats) : Fate → Stats
  | .passed _ => { stats with droppedUnparseable := stats.droppedUnparseable + 1 }
  | .redirected _ => { stats with outboundRedirected := stats.outboundRedirected + 1 }
  | .restored _ => { stats with inboundRewritten := stats.inboundRewritten + 1 }
  | .lost => stats

/-- One step; a thread goes on with its loop once it has seen to its packet. -/
def Capturing.step (capture : WinDivertCapture) (checksums : Checksums) (state : Capturing) :
    CapturingEvent → Option Capturing
  | .control event =>
    if event.thread.all fun thread => decide (state.errands[thread]? = some .idle) then
      (state.control.step capture event).map fun control => { state with
        control
        errands := state.errandsAfter checksums event
        history := state.history ++ (state.control.uses event).toList }
    else none
  | .count thread =>
    match state.errands[thread]? with
    | some (.counting fate) => some { state with
        errands := state.errands.set thread (fate.sent.elim .idle .sending)
        stats := state.stats.count fate }
    | _ => none
  | .send thread =>
    match state.errands[thread]? with
    | some (.sending data) => some { state with
        errands := state.errands.set thread .idle
        sent := state.sent ++ [(thread, data)] }
    | _ => none

/-! ## Accounts -/

/-- Whether a packet is sent on as it came. -/
def Fate.isPassed : Fate → Bool
  | .passed _ => true
  | _ => false

/-- Whether a packet is sent to a redirect target. -/
def Fate.isRedirected : Fate → Bool
  | .redirected _ => true
  | _ => false

/-- Whether a packet is sent on with its original source. -/
def Fate.isRestored : Fate → Bool
  | .restored _ => true
  | _ => false

/-- The counters over some fates. -/
def statsOf (fates : List Fate) : Stats where
  outboundRedirected := .ofNat (fates.countP Fate.isRedirected)
  inboundRewritten := .ofNat (fates.countP Fate.isRestored)
  droppedUnparseable := .ofNat (fates.countP Fate.isPassed)

/-- The packet processed in a use of the table. -/
def LoopEvent.captured : LoopEvent → Option CapturedPacket
  | .packet captured => some captured
  | .reap .. => none

/-- The packets of a history. -/
def packetsOf (history : List (Nat × LoopEvent)) : List CapturedPacket :=
  history.filterMap fun use => use.2.captured

/-- The packets of a history, with their threads. -/
def receiptsOf (history : List (Nat × LoopEvent)) : List (Nat × CapturedPacket) :=
  history.filterMap fun use => use.2.captured.map fun packet => (use.1, packet)

/-- The fates of the packets of a history, each with the table the uses before it lead to. -/
def fatesOf (checksums : Checksums) : FlowTable → List (Nat × LoopEvent) → List (Nat × Fate)
  | _, [] => []
  | flows, (thread, use) :: later =>
    (use.captured.map fun packet => (thread, packet.fate checksums flows)).toList ++
      fatesOf checksums ((loopStep flows use).getD flows) later

/-- What belongs to a thread. -/
def ofThread {α : Type} (thread : Nat) (items : List (Nat × α)) : List α :=
  items.filterMap fun item => if item.1 = thread then some item.2 else none

/-- The packets received in a schedule, with their threads. -/
def CapturingEvent.received : CapturingEvent → Option (Nat × CapturedPacket)
  | .control (.received thread (some packet)) => some (thread, packet)
  | _ => none

/-- A step of a call or of a thread apart from counting and sending. -/
def CapturingEvent.ofControl : CapturingEvent → Option ControlEvent
  | .control event => some event
  | _ => none

/-- What `process_packet` makes of a packet, after others and with a flow table: an outbound packet
with a redirection is patched with its target, an inbound one whose port has a flow with the
destination of the last redirected packet of its port. -/
inductive Modified (past : List CapturedPacket) (flows : FlowTable) (packet : CapturedPacket)
    (data : Bytes) : Prop where
  /-- An outbound packet. -/
  | outbound (fields : Fields) (redirection : Redirection) (ip : Ipv4Addr)
      (direction : packet.outbound = true) (has : HasFields packet.data fields)
      (redirects : packet.redirection = some redirection) (target : redirection.target.ip = .v4 ip)
      (patched : Patched packet.data data 16 ip (fields.ipHeaderLen + 2) redirection.target.port)
  /-- An inbound packet. -/
  | inbound (fields : Fields) (last : Redirection) (ip : Ipv4Addr)
      (direction : packet.outbound = false) (has : HasFields packet.data fields)
      (recorded : latest past fields.dstPort = some last)
      (present : flowOrigin flows fields.dstPort = some last.origin)
      (origin : last.origin.ip = .v4 ip)
      (patched : Patched packet.data data 12 ip fields.ipHeaderLen last.origin.port)

/-- What decides the fate of a packet, after others and with a flow table. -/
inductive Destined (checksums : Checksums) (past : List CapturedPacket) (flows : FlowTable)
    (packet : CapturedPacket) : Fate → Prop where
  /-- Nothing is made of an outbound packet that is not redirected. -/
  | unredirected (direction : packet.outbound = true) (unredirected : packet.redirection = none) :
      Destined checksums past flows packet (.passed packet.data)
  /-- Nothing is made of an inbound packet whose port has no flow. -/
  | unrecorded (direction : packet.outbound = false)
      (absent : ∀ fields, HasFields packet.data fields → flowOrigin flows fields.dstPort = none) :
      Destined checksums past flows packet (.passed packet.data)
  /-- It is outbound and modified. -/
  | redirected (modified data : Bytes) (direction : packet.outbound = true)
      (becomes : Modified past flows packet modified) (summed : checksums modified = some data) :
      Destined checksums past flows packet (.redirected data)
  /-- It is inbound and modified. -/
  | restored (modified data : Bytes) (direction : packet.outbound = false)
      (becomes : Modified past flows packet modified) (summed : checksums modified = some data) :
      Destined checksums past flows packet (.restored data)
  /-- It is modified and its checksums cannot be set. -/
  | lost (modified : Bytes) (becomes : Modified past flows packet modified)
      (failed : checksums modified = none) : Destined checksums past flows packet .lost

/-- What is on record for a port is where its last redirected packet was sent. -/
def Recorded (past : List CapturedPacket) (flows : FlowTable) : Prop :=
  ∀ port origin, flowOrigin flows port = some origin →
    (latest past port).map Redirection.origin = some origin

/-- What the threads owe and have done. -/
structure Capturing.Balanced (checksums : Checksums) (state : Capturing) : Prop where
  /-- Each thread has its errand. -/
  aligned : state.errands.length = state.control.threads.length
  /-- The flow table is that of a single loop. -/
  table : run loopStep ∅ (state.history.map Prod.snd) = some state.control.flows
  /-- Each counter counts one kind of fate, but for the packets processed and not yet counted. -/
  counted : state.stats + statsOf (state.errands.filterMap Errand.uncounted) =
    statsOf ((fatesOf checksums ∅ state.history).map Prod.snd)
  /-- Each thread sends its packets that are not lost, in order, but for the one it has in hand. -/
  sent : ∀ thread, ofThread thread state.sent ++
      (state.errands[thread]?.bind Errand.unsent).toList =
    (ofThread thread (fatesOf checksums ∅ state.history)).filterMap Fate.sent

section

variable {capture : WinDivertCapture} {checksums : Checksums} {control next : Control}
  {event : ControlEvent} {packet : CapturedPacket} {flows after : FlowTable}
  {past : List CapturedPacket} {result : Option Bytes} {history : List (Nat × LoopEvent)}

/-! ## The flow table -/

/-- `process_packet` never panics. -/
theorem process_total (packet : CapturedPacket) (flows : FlowTable) :
    ∃ after result, packet.process flows = some (after, result) := by
  obtain ⟨data, direction, resolver, now⟩ := packet
  obtain ⟨read, fieldsRead⟩ := Option.isSome_iff_exists.mp (readFields_isSome data)
  unfold CapturedPacket.process processPacket
  rw [fieldsRead, Option.bind_eq_bind, Option.bind_some]
  cases read with
  | none => exact ⟨flows, none, rfl⟩
  | some fields =>
    have has := readFields_iff.mp fieldsRead
    cases direction with
    | true =>
      obtain ⟨after, result, processed, _⟩ := rewriteOutbound_exact has resolver flows now
      exact ⟨after, result, processed⟩
    | false =>
      obtain ⟨after, result, processed, _⟩ := rewriteInbound_exact has flows now
      exact ⟨after, result, processed⟩

/-- The flow table goes on recording redirected packets. -/
theorem recorded_process (held : Recorded past flows)
    (processed : packet.process flows = some (after, result)) :
    Recorded (past ++ [packet]) after := by
  intro port origin found
  rw [flowOrigin_process processed] at found
  rw [latest_concat]
  cases redirection : packet.redirection.filter fun redirected =>
      decide (redirected.srcPort = port) with
  | none =>
    rw [redirection] at found
    rw [Option.none_or]
    exact held port origin found
  | some redirected =>
    rw [redirection] at found
    exact found

/-- After every history, what is on record for a port is where its last redirected packet was sent.
-/
theorem recorded_run (reached : run loopStep ∅ (history.map Prod.snd) = some flows) :
    Recorded (packetsOf history) flows := by
  induction history using List.reverseRecOn generalizing flows with
  | nil =>
    obtain rfl := Option.some.inj reached
    intro port origin found
    simp [flowOrigin] at found
  | append_singleton history use ih =>
    obtain ⟨thread, event⟩ := use
    rw [List.map_append, List.map_singleton, run_concat] at reached
    obtain ⟨before, reached, taken⟩ := Option.bind_eq_some_iff.mp reached
    have held := ih reached
    cases event with
    | packet packet =>
      obtain ⟨⟨_, result⟩, processed, rfl⟩ := Option.map_eq_some_iff.mp taken
      have grown : packetsOf (history ++ [(thread, .packet packet)]) =
          packetsOf history ++ [packet] := List.filterMap_append
      rw [grown]
      exact recorded_process held processed
    | reap idle now =>
      have same : packetsOf (history ++ [(thread, .reap idle now)]) = packetsOf history :=
        List.filterMap_append.trans (List.append_nil _)
      rw [same]
      exact fun port origin found => held port origin (flowOrigin_reaped taken found)

/-- The head of the loop uses the flow table to reap it, when it is time to and that succeeds. -/
theorem turn_uses {thread : Nat} {now : Instant} (taken : control.turn thread now = some next) :
    run loopStep control.flows ((control.uses (.turn thread now)).toList.map Prod.snd) =
        some next.flows ∧
      next.threads.length = control.threads.length := by
  simp only [Control.turn] at taken
  split at taken
  · rename_i lastReap point
    simp only [Control.uses, point]
    split at taken
    · rename_i set
      split at taken
      · rename_i due
        split at taken
        · rename_i flows reaped
          obtain rfl := Option.some.inj taken
          rw [if_pos ⟨set, due, by rw [reaped]; rfl⟩]
          have used : loopStep control.flows (.reap flowIdle now) = some flows := reaped
          exact ⟨run_cons used [], List.length_set⟩
        · rename_i reaped
          obtain rfl := Option.some.inj taken
          rw [if_neg (by rw [reaped]; simp)]
          exact ⟨rfl, List.length_set⟩
      · rename_i early
        obtain rfl := Option.some.inj taken
        rw [if_neg fun all => early all.2.1]
        exact ⟨rfl, List.length_set⟩
    · rename_i clear
      obtain rfl := Option.some.inj taken
      rw [if_neg fun all => clear all.1]
      exact ⟨rfl, List.length_set⟩
  · contradiction

/-- The rest of the loop uses the flow table for the packet that `recv` returned, if any. -/
theorem received_uses {thread : Nat} {received : Option CapturedPacket}
    (taken : control.received thread received = some next) :
    run loopStep control.flows ((control.uses (.received thread received)).toList.map Prod.snd) =
        some next.flows ∧
      next.threads.length = control.threads.length := by
  simp only [Control.received] at taken
  split at taken
  · split at taken
    · obtain rfl := Option.some.inj taken
      exact ⟨rfl, List.length_set⟩
    · rename_i packet
      obtain ⟨after, result, processed⟩ := process_total packet control.flows
      rw [processed] at taken
      obtain rfl := Option.some.inj taken
      have used : loopStep control.flows (.packet packet) = some after := by
        simp only [loopStep, captureStep, processed, Option.map_some]
      exact ⟨run_cons used [], List.length_set⟩
  · contradiction

/-- A step of a call or of a thread uses the flow table as a loop does, or leaves it, and only a
successful spawn adds a thread. -/
theorem control_uses (taken : control.step capture event = some next) :
    run loopStep control.flows ((control.uses event).toList.map Prod.snd) = some next.flows ∧
      next.threads.length = control.threads.length + event.spawns := by
  cases event with
  | start =>
    obtain rfl := Option.some.inj taken
    exact ⟨rfl, rfl⟩
  | stop =>
    obtain rfl := Option.some.inj taken
    exact ⟨rfl, rfl⟩
  | build call =>
    simp only [Control.step, Control.build] at taken
    split at taken
    · obtain rfl := Option.some.inj taken
      exact ⟨rfl, rfl⟩
    · contradiction
  | spawn call success =>
    simp only [Control.step, Control.spawn] at taken
    split at taken
    · cases success with
      | true =>
        obtain rfl := Option.some.inj taken
        exact ⟨rfl, List.length_append⟩
      | false =>
        obtain rfl := Option.some.inj taken
        exact ⟨rfl, rfl⟩
    · contradiction
  | opened thread success now =>
    simp only [Control.step, Control.opened] at taken
    split at taken
    · obtain rfl := Option.some.inj taken
      exact ⟨rfl, List.length_set⟩
    · contradiction
  | turn thread now => exact turn_uses taken
  | received thread packet => exact received_uses taken

/-- A packet that is modified becomes what the packets before it say. -/
theorem modified_process {modified : Bytes} (held : Recorded past flows)
    (processed : packet.process flows = some (after, some modified)) :
    Modified past flows packet modified := by
  obtain ⟨data, direction, resolver, now⟩ := packet
  obtain ⟨read, fieldsRead, rewritten⟩ := Option.bind_eq_some_iff.mp processed
  dsimp only at fieldsRead rewritten
  cases read with
  | none => exact nomatch (Prod.mk.inj (Option.some.inj rewritten)).2
  | some fields =>
    have has := readFields_iff.mp fieldsRead
    cases direction with
    | true =>
      simp only [↓reduceIte] at rewritten
      obtain ⟨_, _, rewrites, _, patched⟩ := rewriteOutbound_exact has resolver flows now
      obtain ⟨_, rfl⟩ := Prod.mk.inj (Option.some.inj (rewrites.symm.trans rewritten))
      obtain ⟨ip, port, resolved, patched⟩ := patched modified rfl
      have redirects : CapturedPacket.redirection ⟨data, true, resolver, now⟩ =
          some ⟨fields.srcPort, ⟨.v4 fields.dstIp, fields.dstPort⟩, ⟨.v4 ip, port⟩⟩ := by
        simp only [CapturedPacket.redirection, fieldsRead, resolved]
        rfl
      exact .outbound fields _ ip rfl has redirects rfl patched
    | false =>
      simp only [Bool.false_eq_true, ↓reduceIte] at rewritten
      obtain ⟨_, _, rewrites, _, _, patched⟩ := rewriteInbound_exact has flows now
      obtain ⟨_, rfl⟩ := Prod.mk.inj (Option.some.inj (rewrites.symm.trans rewritten))
      obtain ⟨entry, found, patched⟩ := patched modified rfl
      have origin : flowOrigin flows fields.dstPort = some entry.origin := by
        rw [flowOrigin, found]
        rfl
      obtain ⟨last, recorded, same⟩ := Option.map_eq_some_iff.mp (held _ _ origin)
      refine .inbound fields last entry.origDstIp rfl has recorded ?_ ?_ ?_
      · rw [same]
        exact origin
      · rw [same]
        rfl
      · rw [same]
        exact patched

/-- What becomes of a packet is decided by the packets before it and the table it finds. -/
theorem destined_fate (held : Recorded past flows) (packet : CapturedPacket) :
    Destined checksums past flows packet (packet.fate checksums flows) := by
  obtain ⟨after, result, processed⟩ := process_total packet flows
  unfold CapturedPacket.fate
  rw [processed]
  cases result with
  | none =>
    cases direction : packet.outbound with
    | true =>
      have unmodified := process_outbound direction processed
      rw [Option.isSome_none, Option.isSome_eq_false_iff, Option.isNone_iff_eq_none] at unmodified
      exact .unredirected direction unmodified
    | false =>
      refine .unrecorded direction fun fields has => ?_
      exact (process_inbound direction has processed).1.symm
  | some modified =>
    have becomes := modified_process held processed
    simp only [CapturedPacket.summed]
    cases summed : checksums modified with
    | none => exact .lost modified becomes summed
    | some data =>
      cases direction : packet.outbound with
      | true => exact .redirected modified data direction becomes summed
      | false => exact .restored modified data direction becomes summed

/-- A packet is modified in one way at most. -/
theorem modified_unique {left right : Bytes} (first : Modified past flows packet left)
    (second : Modified past flows packet right) : left = right := by
  have same {fields other : Fields} (has : HasFields packet.data fields)
      (too : HasFields packet.data other) : fields = other :=
    Option.some.inj (Option.some.inj ((readFields_iff.mpr has).symm.trans (readFields_iff.mpr too)))
  cases first with
  | outbound fields redirection ip direction has redirects target patched =>
    cases second with
    | outbound other redirection' ip' _ too redirects' target' patched' =>
      obtain rfl := same has too
      obtain rfl := Option.some.inj (redirects.symm.trans redirects')
      obtain rfl := IpAddr.v4.inj (target.symm.trans target')
      exact List.ext_getElem? fun position =>
        (patched.byte position).trans (patched'.byte position).symm
    | inbound _ _ _ inward => exact nomatch direction.symm.trans inward
  | inbound fields last ip direction has recorded present origin patched =>
    cases second with
    | outbound _ _ _ outward => exact nomatch direction.symm.trans outward
    | inbound other last' ip' _ too recorded' _ origin' patched' =>
      obtain rfl := same has too
      obtain rfl := Option.some.inj (recorded.symm.trans recorded')
      obtain rfl := IpAddr.v4.inj (origin.symm.trans origin')
      exact List.ext_getElem? fun position =>
        (patched.byte position).trans (patched'.byte position).symm

/-- A packet of which nothing is made is passed, one that is modified gets its checksums. -/
theorem destined_cases {fate : Fate} (destined : Destined checksums past flows packet fate) :
    (fate = .passed packet.data ∧ ∀ modified, ¬ Modified past flows packet modified) ∨
      ∃ modified, Modified past flows packet modified ∧
        fate = packet.summed checksums modified := by
  cases destined with
  | unredirected direction unredirected =>
    refine .inl ⟨rfl, fun modified becomes => ?_⟩
    cases becomes with
    | outbound _ _ _ _ _ redirects => exact nomatch unredirected.symm.trans redirects
    | inbound _ _ _ inward => exact nomatch direction.symm.trans inward
  | unrecorded direction absent =>
    refine .inl ⟨rfl, fun modified becomes => ?_⟩
    cases becomes with
    | outbound _ _ _ outward => exact nomatch direction.symm.trans outward
    | inbound fields _ _ _ has _ present => exact nomatch (absent fields has).symm.trans present
  | redirected modified data direction becomes summed =>
    exact .inr ⟨modified, becomes, by simp [CapturedPacket.summed, summed, direction]⟩
  | restored modified data direction becomes summed =>
    exact .inr ⟨modified, becomes, by simp [CapturedPacket.summed, summed, direction]⟩
  | lost modified becomes failed =>
    exact .inr ⟨modified, becomes, by simp [CapturedPacket.summed, failed]⟩

/-- What decides the fate of a packet decides one. -/
theorem destined_unique {left right : Fate}
    (first : Destined checksums past flows packet left)
    (second : Destined checksums past flows packet right) : left = right := by
  rcases destined_cases first with ⟨rfl, unmodified⟩ | ⟨modified, becomes, rfl⟩
  · rcases destined_cases second with ⟨rfl, _⟩ | ⟨modified, becomes, rfl⟩
    · rfl
    · exact absurd becomes (unmodified modified)
  · rcases destined_cases second with ⟨rfl, unmodified⟩ | ⟨other, too, rfl⟩
    · exact absurd becomes (unmodified modified)
    · rw [modified_unique becomes too]

/-- A fate is decided exactly when `run_capture_loop` finds it. -/
theorem destined_iff {fate : Fate} (held : Recorded past flows) :
    Destined checksums past flows packet fate ↔ packet.fate checksums flows = fate :=
  ⟨fun destined => destined_unique (destined_fate held packet) destined,
    fun same => same ▸ destined_fate held packet⟩

/-! ## The counters -/

/-- Counters add up. -/
theorem statsOf_append (left right : List Fate) :
    statsOf (left ++ right) = statsOf left + statsOf right := by
  simp only [statsOf, List.countP_append, UInt64.ofNat_add]
  rfl

/-- No fate counts for nothing. -/
theorem add_statsOf_nil (stats : Stats) : stats + statsOf [] = stats :=
  Stats.ext (UInt64.add_zero _) (UInt64.add_zero _) (UInt64.add_zero _)

/-- One more packet is counted as its fate. -/
theorem count_eq (stats : Stats) (fate : Fate) : stats.count fate = stats + statsOf [fate] := by
  cases fate with
  | passed data => exact Stats.ext (UInt64.add_zero _).symm (UInt64.add_zero _).symm rfl
  | redirected data => exact Stats.ext rfl (UInt64.add_zero _).symm (UInt64.add_zero _).symm
  | restored data => exact Stats.ext (UInt64.add_zero _).symm rfl (UInt64.add_zero _).symm
  | lost => exact (add_statsOf_nil stats).symm

/-- A thread that goes on to another errand exchanges what is to be counted for it. -/
theorem uncounted_set {errands : List Errand} {thread : Nat} {before : Errand}
    (present : errands[thread]? = some before) (later : Errand) :
    statsOf ((errands.set thread later).filterMap Errand.uncounted) +
        statsOf before.uncounted.toList =
      statsOf (errands.filterMap Errand.uncounted) + statsOf later.uncounted.toList := by
  have exchanged (chosen : Fate → Bool) :
      UInt64.ofNat (((errands.set thread later).filterMap Errand.uncounted).countP chosen) +
          .ofNat (before.uncounted.toList.countP chosen) =
        .ofNat ((errands.filterMap Errand.uncounted).countP chosen) +
          .ofNat (later.uncounted.toList.countP chosen) := by
    have counted := countP_set_add (fun errand : Errand =>
      (errand.uncounted.map chosen).getD false) present later
    have single (errand : Errand) : errand.uncounted.toList.countP chosen =
        ((errand.uncounted.map chosen).getD false).toNat := by
      cases errand.uncounted with
      | none => rfl
      | some fate =>
        show [fate].countP chosen = (chosen fate).toNat
        rw [List.countP_singleton]
        cases chosen fate <;> rfl
    rw [← UInt64.ofNat_add, ← UInt64.ofNat_add, single, single, List.countP_filterMap,
      List.countP_filterMap, counted]
  exact Stats.ext (exchanged _) (exchanged _) (exchanged _)

/-- What a lost packet leaves uncounted counts for nothing. -/
theorem statsOf_errand (fate : Fate) :
    statsOf fate.errand.uncounted.toList = statsOf [fate] := by
  cases fate <;> rfl

/-! ## The threads -/

/-- The fate of a further packet is that with the table the history leads to. -/
theorem fatesOf_concat {start : FlowTable}
    (reached : run loopStep start (history.map Prod.snd) = some flows) (use : Nat × LoopEvent) :
    fatesOf checksums start (history ++ [use]) = fatesOf checksums start history ++
      (use.2.captured.map fun packet => (use.1, packet.fate checksums flows)).toList := by
  induction history generalizing start with
  | nil =>
    obtain rfl := Option.some.inj reached
    exact List.append_nil _
  | cons first history ih =>
    obtain ⟨thread, event⟩ := first
    cases taken : loopStep start event with
    | none => simp [run, taken] at reached
    | some next =>
      have rest : run loopStep next (history.map Prod.snd) = some flows :=
        (run_cons taken _).symm.trans reached
      simp only [List.cons_append, fatesOf, taken, Option.getD_some, ih rest, List.append_assoc]

/-- What belongs to a thread of a list grown by something of a thread. -/
theorem ofThread_concat {α : Type} (thread other : Nat) (items : List (Nat × α)) (item : α) :
    ofThread thread (items ++ [(other, item)]) =
      ofThread thread items ++ if other = thread then [item] else [] := by
  rw [ofThread, List.filterMap_append]
  split
  · rename_i same
    simp [ofThread, same]
  · rename_i different
    simp [ofThread, different]

/-- Nothing changes for the accounts where no packet is processed and no errand changes. -/
theorem balanced_quiet {state : Capturing} (held : state.Balanced checksums)
    (taken : state.control.step capture event = some next)
    (quiet : ∀ use ∈ state.control.uses event, use.2.captured = none) {errands : List Errand}
    (aligned : errands.length = next.threads.length)
    (uncounted : errands.filterMap Errand.uncounted = state.errands.filterMap Errand.uncounted)
    (unsent : ∀ thread : Nat, errands[thread]?.bind Errand.unsent =
      state.errands[thread]?.bind Errand.unsent) :
    Capturing.Balanced checksums { state with
      control := next
      errands
      history := state.history ++ (state.control.uses event).toList } := by
  have table := (control_uses taken).1
  have same : fatesOf checksums ∅ (state.history ++ (state.control.uses event).toList) =
      fatesOf checksums ∅ state.history := by
    cases used : state.control.uses event with
    | none => rw [Option.toList_none, List.append_nil]
    | some use =>
      rw [Option.toList_some, fatesOf_concat held.table, quiet use used]
      exact List.append_nil _
  refine ⟨aligned, ?_, ?_, fun thread => ?_⟩
  · rw [List.map_append, run_append, held.table]
    exact table
  · rw [uncounted, same]
    exact held.counted
  · rw [unsent, same]
    exact held.sent thread

/-- A packet that is processed becomes the errand of its thread. -/
theorem balanced_received {state : Capturing} (held : state.Balanced checksums) {thread : Nat}
    (free : state.errands[thread]? = some .idle)
    (taken : state.control.step capture (.received thread (some packet)) = some next) :
    Capturing.Balanced checksums { state with
      control := next
      errands := state.errands.set thread (packet.fate checksums state.control.flows).errand
      history := state.history ++ [(thread, .packet packet)] } := by
  obtain ⟨table, threads⟩ := control_uses taken
  have grown : fatesOf checksums ∅ (state.history ++ [(thread, .packet packet)]) =
      fatesOf checksums ∅ state.history ++
        [(thread, packet.fate checksums state.control.flows)] :=
    fatesOf_concat held.table (thread, .packet packet)
  generalize packet.fate checksums state.control.flows = fate at grown ⊢
  refine ⟨?_, ?_, ?_, fun other => ?_⟩
  · rw [List.length_set, held.aligned, threads]
    rfl
  · rw [List.map_append, run_append, held.table]
    exact table
  · have exchanged := uncounted_set free fate.errand
    rw [statsOf_errand, show Errand.uncounted .idle = none from rfl, Option.toList_none,
      add_statsOf_nil] at exchanged
    rw [exchanged, grown, List.map_append, statsOf_append, ← held.counted, add_assoc]
    rfl
  · rw [grown, ofThread_concat, List.filterMap_append, ← held.sent other]
    by_cases same : thread = other
    · subst same
      have bound := (List.getElem?_eq_some_iff.mp free).1
      rw [if_pos rfl, List.getElem?_set_self bound, free]
      have sends : fate.errand.unsent.toList = [fate].filterMap Fate.sent := by
        cases fate <;> rfl
      have nothing : Errand.idle.unsent.toList = [] := rfl
      rw [Option.bind_some, Option.bind_some, sends, nothing, List.append_nil]
    · rw [if_neg same, List.getElem?_set_ne same]
      simp

/-- Counting a packet moves it from what is not counted to the counters. -/
theorem balanced_count {state : Capturing} (held : state.Balanced checksums) {thread : Nat}
    {fate : Fate} (counting : state.errands[thread]? = some (.counting fate)) :
    Capturing.Balanced checksums { state with
      errands := state.errands.set thread (fate.sent.elim .idle .sending)
      stats := state.stats.count fate } := by
  refine ⟨by rw [List.length_set, held.aligned], held.table, ?_, fun other => ?_⟩
  · have exchanged := uncounted_set counting (fate.sent.elim .idle .sending)
    have counted : (fate.sent.elim Errand.idle .sending).uncounted = none := by
      cases fate <;> rfl
    have uncounted : (Errand.counting fate).uncounted.toList = [fate] := rfl
    rw [counted, uncounted, Option.toList_none, add_statsOf_nil] at exchanged
    dsimp only
    rw [count_eq, add_right_comm, add_assoc, exchanged]
    exact held.counted
  · rw [← held.sent other]
    by_cases same : thread = other
    · subst same
      have bound := (List.getElem?_eq_some_iff.mp counting).1
      rw [List.getElem?_set_self bound, counting]
      cases fate <;> rfl
    · rw [List.getElem?_set_ne same]

/-- Sending a packet moves it from what a thread has in hand to what it has sent. -/
theorem balanced_send {state : Capturing} (held : state.Balanced checksums) {thread : Nat}
    {data : Bytes} (sending : state.errands[thread]? = some (.sending data)) :
    Capturing.Balanced checksums { state with
      errands := state.errands.set thread .idle
      sent := state.sent ++ [(thread, data)] } := by
  refine ⟨by rw [List.length_set, held.aligned], held.table, ?_, fun other => ?_⟩
  · have exchanged := uncounted_set sending .idle
    have nothing : (Errand.sending data).uncounted = none ∧ Errand.idle.uncounted = none :=
      ⟨rfl, rfl⟩
    rw [nothing.1, nothing.2, Option.toList_none, add_statsOf_nil, add_statsOf_nil] at exchanged
    rw [exchanged]
    exact held.counted
  · rw [← held.sent other, ofThread_concat]
    by_cases same : thread = other
    · subst same
      have bound := (List.getElem?_eq_some_iff.mp sending).1
      rw [if_pos rfl, List.getElem?_set_self bound, sending]
      exact List.append_nil _
    · rw [if_neg same, List.getElem?_set_ne same, List.append_nil]

/-- A new thread owes nothing. -/
theorem balanced_spawned {state : Capturing} (held : state.Balanced checksums) {call : Nat}
    (taken : state.control.step capture (.spawn call true) = some next) :
    Capturing.Balanced checksums { state with
      control := next
      errands := state.errands ++ [.idle]
      history := state.history ++ (state.control.uses (.spawn call true)).toList } := by
  refine balanced_quiet held taken nofun ?_ ?_ fun thread => ?_
  · rw [List.length_append, held.aligned, (control_uses taken).2]
    rfl
  · exact List.filterMap_append.trans (List.append_nil _)
  · by_cases old : thread < state.errands.length
    · rw [List.getElem?_append_left old]
    · rw [List.getElem?_eq_none (Nat.le_of_not_lt old)]
      cases found : (state.errands ++ [Errand.idle])[thread]? with
      | none => rfl
      | some errand =>
        rcases Update.getElem?_concat_cases found with ⟨_, rfl⟩ | before
        · rfl
        · exact absurd (List.getElem?_eq_some_iff.mp before).1 old

/-- The head of the loop processes no packet. -/
theorem turn_captured {thread : Nat} {now : Instant} :
    ∀ use ∈ control.uses (.turn thread now), use.2.captured = none := by
  intro use used
  simp only [Control.uses] at used
  split at used
  · split at used
    · obtain rfl := Option.some.inj used
      rfl
    · contradiction
  · contradiction

/-- Every step keeps the accounts. -/
theorem balanced_step {state later : Capturing} {step : CapturingEvent}
    (held : state.Balanced checksums)
    (taken : state.step capture checksums step = some later) : later.Balanced checksums := by
  cases step with
  | control event =>
    simp only [Capturing.step] at taken
    split at taken
    · rename_i free
      obtain ⟨control, stepped, rfl⟩ := Option.map_eq_some_iff.mp taken
      have threads : state.errands.length + event.spawns = control.threads.length :=
        (congrArg (· + event.spawns) held.aligned).trans (control_uses stepped).2.symm
      cases event with
      | received thread received =>
        cases received with
        | some packet =>
          rw [ControlEvent.thread, Option.all_some, decide_eq_true_iff] at free
          exact balanced_received held free stepped
        | none => exact balanced_quiet held stepped nofun threads rfl fun _ => rfl
      | spawn call success =>
        cases success with
        | true => exact balanced_spawned held stepped
        | false => exact balanced_quiet held stepped nofun threads rfl fun _ => rfl
      | turn thread now => exact balanced_quiet held stepped turn_captured threads rfl fun _ => rfl
      | start | build | stop | opened =>
        exact balanced_quiet held stepped nofun threads rfl fun _ => rfl
    · contradiction
  | count thread =>
    simp only [Capturing.step] at taken
    split at taken
    · rename_i fate counting
      obtain rfl := Option.some.inj taken
      exact balanced_count held counting
    · contradiction
  | send thread =>
    simp only [Capturing.step] at taken
    split at taken
    · rename_i data sending
      obtain rfl := Option.some.inj taken
      exact balanced_send held sending
    · contradiction

/-- Every run keeps the accounts. -/
theorem balanced_run {events : List CapturingEvent} {final : Capturing}
    (reached : run (Capturing.step capture checksums) .new events = some final) :
    final.Balanced checksums :=
  run_invariant_always (fun _ _ _ held taken => balanced_step held taken)
    ⟨rfl, rfl, rfl, fun _ => rfl⟩ reached

/-- The history of a state holds the packets received in a schedule, and its calls and threads are
where the schedule takes them without what they do to packets. -/
structure Capturing.Follows (capture : WinDivertCapture) (events : List CapturingEvent)
    (state : Capturing) : Prop where
  /-- Each packet is processed by the thread that receives it. -/
  receipts : receiptsOf state.history = events.filterMap CapturingEvent.received
  /-- Calls and threads go their way. -/
  control : run (Control.step capture) .new (events.filterMap CapturingEvent.ofControl) =
    some state.control

/-- Every step is followed. -/
theorem follows_step {state later : Capturing} {events : List CapturingEvent}
    {step : CapturingEvent} (held : state.Follows capture events)
    (taken : state.step capture checksums step = some later) :
    later.Follows capture (events ++ [step]) := by
  cases step with
  | control event =>
    simp only [Capturing.step] at taken
    split at taken
    · obtain ⟨control, stepped, rfl⟩ := Option.map_eq_some_iff.mp taken
      have received : receiptsOf (state.control.uses event).toList =
          [CapturingEvent.control event].filterMap CapturingEvent.received := by
        cases event with
        | received thread packet => cases packet <;> rfl
        | turn thread now =>
          simp only [Control.uses]
          split
          · split <;> rfl
          · rfl
        | _ => rfl
      refine ⟨?_, ?_⟩
      · rw [List.filterMap_append, ← held.receipts, ← received]
        exact List.filterMap_append
      · rw [List.filterMap_append, run_append, held.control]
        exact (run_cons stepped []).trans rfl
    · contradiction
  | count thread =>
    simp only [Capturing.step] at taken
    split at taken
    · obtain rfl := Option.some.inj taken
      refine ⟨?_, ?_⟩
      · rw [List.filterMap_append]
        exact held.receipts.trans (List.append_nil _).symm
      · rw [List.filterMap_append]
        exact (congrArg _ (List.append_nil _)).trans held.control
    · contradiction
  | send thread =>
    simp only [Capturing.step] at taken
    split at taken
    · obtain rfl := Option.some.inj taken
      refine ⟨?_, ?_⟩
      · rw [List.filterMap_append]
        exact held.receipts.trans (List.append_nil _).symm
      · rw [List.filterMap_append]
        exact (congrArg _ (List.append_nil _)).trans held.control
    · contradiction

/-- There are no more flows than ports. -/
theorem length_flows_le (flows : FlowTable) : flows.entries.length ≤ 65536 := by
  have distinct : (flows.keys.map UInt16.toNat).Nodup :=
    flows.keys_nodup.map fun left right same => UInt16.toNat_inj.mp same
  have bounded : flows.keys.map UInt16.toNat ⊆ List.range 65536 := by
    intro port member
    obtain ⟨key, _, rfl⟩ := List.mem_map.mp member
    exact List.mem_range.mpr key.toNat_lt
  have counted := (List.subperm_of_subset distinct bounded).length_le
  simpa [AList.keys, List.keys] using counted

/-- Each packet of a history finds a table, and what becomes of it is the one thing that the
packets before it and that table decide. -/
theorem destined_history (reached : run loopStep ∅ (history.map Prod.snd) = some flows)
    {past later : List (Nat × LoopEvent)} {thread : Nat}
    (split : history = past ++ (thread, .packet packet) :: later) :
    ∃ found, run loopStep ∅ (past.map Prod.snd) = some found ∧
      ∀ fate, Destined checksums (packetsOf past) found packet fate ↔
        packet.fate checksums found = fate := by
  rw [split, List.map_append, run_append] at reached
  obtain ⟨found, before, _⟩ := Option.bind_eq_some_iff.mp reached
  exact ⟨found, before, fun fate => destined_iff (recorded_run before)⟩

/-- In every run of calls and threads, the flow table is what a single loop makes of the packets and
reapings in the order in which they use it; what becomes of a packet is decided by the packets
before it and the table it finds; each thread sends its packets that are not lost in order, but for
the one it has in hand, and each counter counts one kind of fate, but for the packets not yet
counted. -/
theorem packets_accounted {events : List CapturingEvent} {final : Capturing}
    (reached : run (Capturing.step capture checksums) .new events = some final) :
    final.Balanced checksums ∧ final.Follows capture events ∧
    (∀ past thread packet later, final.history = past ++ (thread, .packet packet) :: later →
      ∃ found, run loopStep ∅ (past.map Prod.snd) = some found ∧
        ∀ fate, Destined checksums (packetsOf past) found packet fate ↔
          packet.fate checksums found = fate) ∧
    final.redirectStats.activeFlows.toNat = final.control.flows.entries.length := by
  have balanced := balanced_run reached
  have follows : final.Follows capture events :=
    run_history_invariant (fun _ _ _ _ held taken => follows_step held taken) ⟨rfl, rfl⟩ reached
  refine ⟨balanced, follows, fun past thread packet later split => ?_, ?_⟩
  · exact destined_history balanced.table split
  · have fits := length_flows_le final.control.flows
    simp only [Capturing.redirectStats, UInt64.toNat_ofNat']
    omega

end

/-- A capture is stopped and started again while its first loop is in `recv`: that loop redirects a
packet, the second restores the answer and sends it before the first has counted. -/
def oneExchange : List CapturingEvent :=
  [.control .start, .control (.build 0), .control (.spawn 0 true), .control (.opened 0 true 1),
    .control (.turn 0 2), .control .stop, .control .start, .control (.build 1),
    .control (.spawn 1 true), .control (.opened 1 true 3), .control (.turn 1 4),
    .control (.received 0 (some (gamePacket 9000 51000))),
    .control (.received 1 (some (listenerPacket 51000))), .count 1, .send 1, .count 0]

/-- Both packets are counted, and the first is still to be sent. -/
theorem oneExchange_accounted : ∃ final,
    run (Capturing.step oneRule some) .new oneExchange = some final ∧
    final.stats = ⟨1, 1, 0⟩ ∧ final.sent.map Prod.fst = [1] ∧
    (fatesOf some ∅ final.history).map Prod.fst = [0, 1] ∧
    final.Balanced some ∧ final.Follows oneRule oneExchange ∧
    (∀ past thread packet later, final.history = past ++ (thread, .packet packet) :: later →
      ∃ found, run loopStep ∅ (past.map Prod.snd) = some found ∧
        ∀ fate, Destined some (packetsOf past) found packet fate ↔
          packet.fate some found = fate) ∧
    final.redirectStats.activeFlows.toNat = final.control.flows.entries.length := by
  have sample : (run (Capturing.step oneRule some) .new oneExchange).map (fun final =>
      decide (final.stats = ⟨1, 1, 0⟩ ∧ final.sent.map Prod.fst = [1] ∧
        (fatesOf some ∅ final.history).map Prod.fst = [0, 1])) = some true := by
    decide +kernel
  obtain ⟨final, reached, verdict⟩ := Option.map_eq_some_iff.mp sample
  obtain ⟨counted, sent, fated⟩ := of_decide_eq_true verdict
  exact ⟨final, reached, counted, sent, fated, packets_accounted reached⟩

end LowPing.Capture
