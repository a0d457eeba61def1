import LowPing.Library.Machine
import LowPing.Capture.Attribution

/-!
# Exact rewriting, and its inverse

`process_packet` never indexes out of range, whatever the bytes. What it returns has the length of
the packet and differs from it in one address and one port; what it passes leaves the flow table as
it was. The rewriting of an answer undoes that of the question as long as the question's port is not
redirected anew and its entry is not reaped, and the entry is as young as the flow's last packet.
-/

namespace LowPing.Capture

open Library Library.Machine

/-! ## The bytes of a rewriting -/

/-- A packet with an address and a port written over its own, and every other byte kept. -/
structure Patched (data out : Bytes) (addressAt : Nat) (ip : Ipv4Addr) (portAt : Nat)
    (port : UInt16) : Prop where
  /-- The length is kept. -/
  length : out.length = data.length
  /-- Every byte is the written one or the packet's. -/
  byte : ∀ position, out[position]? =
    if addressAt ≤ position ∧ position < addressAt + 4 then
      ip.octets.toList[position - addressAt]?
    else if portAt ≤ position ∧ position < portAt + 2 then (beBytes16 port)[position - portAt]?
    else data[position]?

section

variable {data middle out : Bytes} {fields : Fields}

/-- Two writes patch a packet. -/
theorem patched_of_writeAt {addressAt portAt : Nat} {ip : Ipv4Addr} {port : UInt16}
    (address : writeAt data addressAt ip.octets.toList = some middle)
    (ports : writeAt middle portAt (beBytes16 port) = some out) (apart : addressAt + 4 ≤ portAt) :
    Patched data out addressAt ip portAt port := by
  have four : ip.octets.toList.length = 4 := ip.octets.toList_length
  have two : (beBytes16 port).length = 2 := length_beBytes16 port
  refine ⟨(length_writeAt ports).trans (length_writeAt address), fun position => ?_⟩
  by_cases inAddress : addressAt ≤ position ∧ position < addressAt + 4
  · rw [if_pos inAddress, getElem?_writeAt ports (.inl (by omega))]
    have inside := getElem?_writeAt_inside address (show position - addressAt < _ by omega)
    rwa [Nat.add_sub_cancel' inAddress.1] at inside
  · rw [if_neg inAddress]
    by_cases inPort : portAt ≤ position ∧ position < portAt + 2
    · rw [if_pos inPort]
      have inside := getElem?_writeAt_inside ports (show position - portAt < _ by omega)
      rwa [Nat.add_sub_cancel' inPort.1] at inside
    · rw [if_neg inPort, getElem?_writeAt ports (by omega), getElem?_writeAt address (by omega)]

/-- A byte within a slice. -/
theorem getElem?_of_lt {position : Nat} (bound : position < data.length) :
    ∃ byte, data[position]? = some byte :=
  ⟨_, List.getElem?_eq_getElem bound⟩

/-- An address within a slice can be read. -/
theorem readIpv4_fits {start : Nat} (fits : start + 4 ≤ data.length) :
    ∃ ip, readIpv4 data start = some ip := by
  obtain ⟨a, first⟩ := getElem?_of_lt (show start < data.length by omega)
  obtain ⟨b, second⟩ := getElem?_of_lt (show start + 1 < data.length by omega)
  obtain ⟨c, third⟩ := getElem?_of_lt (show start + 2 < data.length by omega)
  obtain ⟨d, fourth⟩ := getElem?_of_lt (show start + 3 < data.length by omega)
  refine ⟨Ipv4Addr.new a b c d, ?_⟩
  simp only [readIpv4, first, second, third, fourth, Option.bind_eq_bind, Option.bind_some]

/-- A port within a slice can be read. -/
theorem readPort_fits {start : Nat} (fits : start + 2 ≤ data.length) :
    ∃ port, readPort data start = some port := by
  obtain ⟨high, first⟩ := getElem?_of_lt (show start < data.length by omega)
  obtain ⟨low, second⟩ := getElem?_of_lt (show start + 1 < data.length by omega)
  refine ⟨ofBeBytes16 [high, low], ?_⟩
  simp only [readPort, first, second, Option.bind_eq_bind, Option.bind_some]

/-- The checks at the start of `process_packet` never index out of range. -/
theorem readFields_isSome (data : Bytes) : (readFields data).isSome = true := by
  unfold readFields
  by_cases short : data.length < 28
  · rw [if_pos short]
    rfl
  · obtain ⟨first, atZero⟩ := getElem?_of_lt (show 0 < data.length by omega)
    obtain ⟨proto, atNine⟩ := getElem?_of_lt (show 9 < data.length by omega)
    obtain ⟨dstIp, address⟩ := readIpv4_fits (show 16 + 4 ≤ data.length by omega)
    rw [if_neg short, atZero, Option.bind_eq_bind, Option.bind_some]
    split
    · rfl
    · dsimp only
      split
      · rfl
      · split
        · rfl
        · rename_i fits
          obtain ⟨srcPort, source⟩ :=
            readPort_fits (show (first &&& 0x0F).toNat * 4 + 2 ≤ data.length by omega)
          obtain ⟨dstPort, target⟩ :=
            readPort_fits (show (first &&& 0x0F).toNat * 4 + 2 + 2 ≤ data.length by omega)
          rw [atNine, Option.bind_eq_bind, Option.bind_some]
          split
          · rfl
          · rw [address, source, target]
            rfl

/-- An outbound packet is passed, or patched at its destination with the target it resolves to. -/
theorem rewriteOutbound_exact (has : HasFields data fields) (resolver : Resolver)
    (flows : FlowTable) (now : Instant) :
    ∃ after result, rewriteOutbound data fields resolver flows now = some (after, result) ∧
      (result = none → after = flows) ∧
      ∀ out, result = some out → ∃ ip port,
        resolver ⟨.v4 fields.dstIp, fields.dstPort⟩ fields.protocol = .rewriteTo ⟨.v4 ip, port⟩ ∧
          Patched data out 16 ip (fields.ipHeaderLen + 2) port := by
  have base := has.base
  have fits := has.fits
  unfold rewriteOutbound
  split
  · exact ⟨flows, none, rfl, fun _ => rfl, nofun⟩
  · rename_i target resolved
    obtain ⟨ip, port⟩ := target
    cases ip with
    | v6 ip => exact ⟨flows, none, rfl, fun _ => rfl, nofun⟩
    | v4 ip =>
      have four : ip.octets.toList.length = 4 := ip.octets.toList_length
      have two : (beBytes16 port).length = 2 := length_beBytes16 port
      obtain ⟨middle, address⟩ := writeAt_fits 16 ip.octets.toList
        (show 16 + ip.octets.toList.length ≤ data.length by omega)
      have same := length_writeAt address
      obtain ⟨out, ports⟩ := writeAt_fits (fields.ipHeaderLen + 2) (beBytes16 port)
        (show fields.ipHeaderLen + 2 + (beBytes16 port).length ≤ middle.length by omega)
      dsimp only
      rw [address, Option.bind_eq_bind, Option.bind_some, ports, Option.bind_some]
      refine ⟨_, some out, rfl, nofun, fun other returned => ⟨ip, port, resolved, ?_⟩⟩
      obtain rfl := Option.some.inj returned
      exact patched_of_writeAt address ports (by omega)

/-- An inbound packet is passed, or patched at its source with the destination on record. -/
theorem rewriteInbound_exact (has : HasFields data fields) (flows : FlowTable) (now : Instant) :
    ∃ after result, rewriteInbound data fields flows now = some (after, result) ∧
      (result = none → after = flows) ∧
      (∀ entry, flows.lookup fields.dstPort = some entry → result.isSome = true) ∧
      ∀ out, result = some out → ∃ entry, flows.lookup fields.dstPort = some entry ∧
        Patched data out 12 entry.origDstIp fields.ipHeaderLen entry.origDstPort := by
  have base := has.base
  have fits := has.fits
  unfold rewriteInbound
  split
  · rename_i absent
    refine ⟨flows, none, rfl, fun _ => rfl, fun entry found => ?_, nofun⟩
    rw [absent] at found
    contradiction
  · rename_i entry found
    have four : entry.origDstIp.octets.toList.length = 4 := entry.origDstIp.octets.toList_length
    have two : (beBytes16 entry.origDstPort).length = 2 := length_beBytes16 entry.origDstPort
    obtain ⟨middle, address⟩ := writeAt_fits 12 entry.origDstIp.octets.toList
      (show 12 + entry.origDstIp.octets.toList.length ≤ data.length by omega)
    have same := length_writeAt address
    obtain ⟨out, ports⟩ := writeAt_fits fields.ipHeaderLen (beBytes16 entry.origDstPort)
      (show fields.ipHeaderLen + (beBytes16 entry.origDstPort).length ≤ middle.length by omega)
    rw [address, Option.bind_eq_bind, Option.bind_some, ports, Option.bind_some]
    refine ⟨_, some out, rfl, nofun, fun _ _ => rfl, fun other returned => ⟨entry, found, ?_⟩⟩
    obtain rfl := Option.some.inj returned
    exact patched_of_writeAt address ports (by omega)

end

/-- `process_packet` never indexes out of range. When it returns no packet the flow table is as it
was; the packet it returns is the one given, with the address and the port of the target its
destination resolves to as destination when it is outbound, and with those of the flow entry of its
destination port as source when it is inbound. -/
theorem process_packet_exact (data : Bytes) (outbound : Bool) (resolver : Resolver)
    (flows : FlowTable) (now : Instant) :
    ∃ after result, processPacket data outbound resolver flows now = some (after, result) ∧
      (result = none → after = flows) ∧
      ∀ out, result = some out → ∃ fields, HasFields data fields ∧
        if outbound then ∃ ip port,
          resolver ⟨.v4 fields.dstIp, fields.dstPort⟩ fields.protocol =
              .rewriteTo ⟨.v4 ip, port⟩ ∧
            Patched data out 16 ip (fields.ipHeaderLen + 2) port
        else ∃ entry, flows.lookup fields.dstPort = some entry ∧
          Patched data out 12 entry.origDstIp fields.ipHeaderLen entry.origDstPort := by
  obtain ⟨read, fieldsRead⟩ := Option.isSome_iff_exists.mp (readFields_isSome data)
  unfold processPacket
  rw [fieldsRead, Option.bind_eq_bind, Option.bind_some]
  cases read with
  | none => exact ⟨flows, none, rfl, fun _ => rfl, nofun⟩
  | some fields =>
    have has := readFields_iff.mp fieldsRead
    cases outbound with
    | true =>
      obtain ⟨after, result, processed, passed, patched⟩ :=
        rewriteOutbound_exact has resolver flows now
      exact ⟨after, result, processed, passed, fun out returned =>
        ⟨fields, has, patched out returned⟩⟩
    | false =>
      obtain ⟨after, result, processed, passed, _, patched⟩ :=
        rewriteInbound_exact has flows now
      exact ⟨after, result, processed, passed, fun out returned =>
        ⟨fields, has, patched out returned⟩⟩

/-! ## The way back -/

/-- What the capture loop does to the flow table. -/
inductive LoopEvent where
  /-- It processes a packet. -/
  | packet (packet : CapturedPacket)
  /-- It reaps idle flows. -/
  | reap (idle : Nat) (now : Instant)

/-- The flow table after one more event. -/
def loopStep (flows : FlowTable) : LoopEvent → Option FlowTable
  | .packet packet => captureStep flows packet
  | .reap idle now => reapFlows flows idle now

/-- Whether an event leaves the flow of a port alone: the packet is not one redirected from that
port, the reaping does not remove its entry. -/
def leavesFlow (port : UInt16) (flows : FlowTable) : LoopEvent → Bool
  | .packet packet => packet.redirection.all fun redirected => decide (redirected.srcPort ≠ port)
  | .reap idle now => (reapFlows flows idle now).all fun after =>
      (flows.lookup port).isNone || (after.lookup port).isSome

/-- Whether a packet is one of the flow of a port: redirected from it, or inbound to it. -/
def CapturedPacket.ofFlow (packet : CapturedPacket) (port : UInt16) : Bool :=
  match packet.outbound, readFields packet.data with
  | true, _ => packet.redirection.any fun redirected => decide (redirected.srcPort = port)
  | false, some (some fields) => decide (fields.dstPort = port)
  | false, _ => false

/-- When the packet of an event passed, if it is one of the flow of a port. -/
def LoopEvent.packetAt (port : UInt16) : LoopEvent → Option Instant
  | .packet captured => if captured.ofFlow port then some captured.now else none
  | .reap .. => none

/-- When the last packet of the flow of a port passed, the first one at a given time. -/
def lastPacket (port : UInt16) (first : Instant) (events : List LoopEvent) : Instant :=
  (events.filterMap (LoopEvent.packetAt port)).getLast?.getD first

section

variable {flows after next : FlowTable} {packet : CapturedPacket} {port : UInt16}
  {result : Option Bytes}

/-- An event that leaves a flow alone keeps the origin on record. -/
theorem flowOrigin_leavesFlow {event : LoopEvent} {origin : SocketAddr}
    (recorded : flowOrigin flows port = some origin) (leaves : leavesFlow port flows event = true)
    (taken : loopStep flows event = some next) : flowOrigin next port = some origin := by
  cases event with
  | packet packet =>
    obtain ⟨⟨_, result⟩, processed, rfl⟩ := Option.map_eq_some_iff.mp taken
    rw [flowOrigin_process processed, recorded]
    dsimp only [leavesFlow] at leaves
    cases redirection : packet.redirection with
    | none => rfl
    | some redirected =>
      rw [redirection, Option.all_some, decide_eq_true_iff] at leaves
      rw [Option.filter_some, if_neg (by simpa using leaves)]
      rfl
  | reap idle now =>
    have reaped : reapFlows flows idle now = some next := taken
    obtain ⟨entry, found, _⟩ := Option.map_eq_some_iff.mp recorded
    dsimp only [leavesFlow] at leaves
    rw [reaped, found, Option.all_some] at leaves
    obtain ⟨kept, remains⟩ := Option.isSome_iff_exists.mp leaves
    have still : flowOrigin next port = some kept.origin := by
      rw [flowOrigin, remains, Option.map_some]
    rw [still, ← recorded, flowOrigin_reaped reaped still]

/-- A packet passed through is not one of a flow on record. -/
theorem ofFlow_passed {entry : FlowEntry} (processed : packet.process flows = some (after, none))
    (found : flows.lookup port = some entry) : packet.ofFlow port = false := by
  unfold CapturedPacket.ofFlow
  cases direction : packet.outbound with
  | true =>
    have unmodified := process_outbound direction processed
    rw [Option.isSome_none, Option.isSome_eq_false_iff, Option.isNone_iff_eq_none] at unmodified
    dsimp only
    rw [unmodified]
    rfl
  | false =>
    cases read : readFields packet.data with
    | none => rfl
    | some fields =>
      cases fields with
      | none => rfl
      | some fields =>
        obtain ⟨unattributed, _⟩ := process_inbound direction (readFields_iff.mp read) processed
        refine decide_eq_false fun same => ?_
        rw [same, flowOrigin, found] at unattributed
        contradiction

/-- An entry recorded now under one port is as young as that; other ports keep theirs. -/
theorem lookup_recorded {flows : FlowTable} {entry recorded : FlowEntry} {own port : UInt16}
    {now : Instant} (young : recorded.lastSeen = now)
    (found : (flows.insert own recorded).lookup port = some entry) :
    if decide (own = port) = true then entry.lastSeen = now
    else flows.lookup port = some entry := by
  by_cases same : own = port
  · rw [if_pos (decide_eq_true same)]
    rw [← same, AList.lookup_insert] at found
    rw [← Option.some.inj found]
    exact young
  · rw [if_neg (by simpa using same)]
    rwa [AList.lookup_insert_ne (Ne.symm same)] at found

/-- After a packet of a flow its entry is as young as the packet; another packet leaves it. -/
theorem lookup_process {entry : FlowEntry} (processed : packet.process flows = some (after, result))
    (found : after.lookup port = some entry) :
    if packet.ofFlow port then entry.lastSeen = packet.now else flows.lookup port = some entry := by
  obtain ⟨data, direction, resolver, now⟩ := packet
  cases processPacket_ok processed with
  | passed =>
    rw [ofFlow_passed processed found]
    exact found
  | redirected fields target _ out has resolved rewritten =>
    have ofFlow : CapturedPacket.ofFlow ⟨data, true, resolver, now⟩ port =
        decide (fields.srcPort = port) := by
      dsimp only [CapturedPacket.ofFlow]
      rw [redirection_rewritten has resolved rewritten, Option.any_some]
    rw [ofFlow]
    rw [rewritten.recorded] at found
    exact lookup_recorded rfl found
  | attributed fields recorded out has present =>
    have ofFlow : CapturedPacket.ofFlow ⟨data, false, resolver, now⟩ port =
        decide (fields.dstPort = port) := by
      dsimp only [CapturedPacket.ofFlow]
      rw [readFields_iff.mpr has]
    rw [ofFlow]
    exact lookup_recorded rfl found

/-- The last packet of a flow after one more event. -/
theorem lastPacket_concat (port : UInt16) (first : Instant) (events : List LoopEvent)
    (event : LoopEvent) : lastPacket port first (events ++ [event]) =
      (event.packetAt port).getD (lastPacket port first events) := by
  unfold lastPacket
  rw [List.filterMap_append, List.getLast?_append]
  cases passed : event.packetAt port with
  | none => simp [passed]
  | some time => simp [passed]

/-- A reaping keeps no entry but those it finds. -/
theorem lookup_reaped {idle : Nat} {now : Instant} {entry : FlowEntry}
    (reaped : reapFlows flows idle now = some after) :
    after.lookup port = some entry ↔
      flows.lookup port = some entry ∧ now ≤ entry.lastSeen + idle := by
  unfold reapFlows at reaped
  split at reaped
  · contradiction
  · obtain rfl := Option.some.inj reaped
    rw [Table.lookup_retain, decide_eq_true_iff, Nat.sub_le_iff_le_add]

/-- The entry of a port is as young as the last packet of its flow. -/
def SeenLast (port : UInt16) (first : Instant) (events : List LoopEvent) (flows : FlowTable) :
    Prop :=
  ∀ entry, flows.lookup port = some entry → entry.lastSeen = lastPacket port first events

/-- A flow stays stamped by its last packet at every event. -/
theorem seenLast_step {first : Instant} {past : List LoopEvent} {event : LoopEvent}
    (seen : SeenLast port first past flows) (taken : loopStep flows event = some next) :
    SeenLast port first (past ++ [event]) next := by
  intro entry found
  rw [lastPacket_concat]
  cases event with
  | packet captured =>
    obtain ⟨⟨_, result⟩, processed, rfl⟩ := Option.map_eq_some_iff.mp taken
    have kept := lookup_process processed found
    dsimp only [LoopEvent.packetAt]
    split at kept
    · rename_i ofFlow
      rw [if_pos ofFlow]
      exact kept
    · rename_i ofOther
      rw [if_neg ofOther]
      exact seen entry kept
  | reap idle now => exact seen entry ((lookup_reaped taken).mp found).1

/-- After every run it is so. -/
theorem seenLast_run {start : FlowTable} {first : Instant} {events : List LoopEvent}
    (initially : SeenLast port first [] start) (reached : run loopStep start events = some flows) :
    SeenLast port first events flows :=
  run_history_invariant (fun _ _ _ _ seen taken => seenLast_step seen taken) initially reached

/-- An outbound packet that is rewritten is redirected from its port. -/
theorem redirection_processed {fields : Fields} {out : Bytes} (outbound : packet.outbound = true)
    (has : HasFields packet.data fields)
    (processed : packet.process flows = some (after, some out)) :
    ∃ target, packet.redirection =
      some ⟨fields.srcPort, ⟨.v4 fields.dstIp, fields.dstPort⟩, target⟩ := by
  obtain ⟨data, direction, resolver, now⟩ := packet
  obtain rfl : direction = true := outbound
  cases processPacket_ok processed with
  | redirected found target _ _ hasFound resolved rewritten =>
    obtain rfl : found = fields := Option.some.inj (Option.some.inj
      ((readFields_iff.mpr hasFound).symm.trans (readFields_iff.mpr has)))
    exact ⟨target, redirection_rewritten has resolved rewritten⟩

/-- An inbound packet to a port with an origin on record gets that origin as its source. -/
theorem process_restores {fields : Fields} {dst : Ipv4Addr} {dstPort : UInt16}
    (inbound : packet.outbound = false) (has : HasFields packet.data fields)
    (recorded : flowOrigin flows fields.dstPort = some ⟨.v4 dst, dstPort⟩) :
    ∃ after out, packet.process flows = some (after, some out) ∧
      Patched packet.data out 12 dst fields.ipHeaderLen dstPort := by
  obtain ⟨data, direction, resolver, now⟩ := packet
  obtain rfl : direction = false := inbound
  obtain ⟨entry, found, origin⟩ := Option.map_eq_some_iff.mp recorded
  obtain ⟨sameIp, rfl⟩ := SocketAddr.mk.inj origin
  obtain rfl := IpAddr.v4.inj sameIp
  obtain ⟨after, result, rewritten, _, answered, patched⟩ := rewriteInbound_exact has flows now
  obtain ⟨out, rfl⟩ := Option.isSome_iff_exists.mp (answered entry found)
  obtain ⟨other, present, exact⟩ := patched out rfl
  obtain rfl : other = entry := Option.some.inj (present.symm.trans found)
  refine ⟨after, out, ?_, exact⟩
  unfold CapturedPacket.process processPacket
  rw [readFields_iff.mpr has, Option.bind_eq_bind, Option.bind_some]
  exact rewritten

end

/-- The rewriting of an answer undoes that of its question. Once an outbound packet has been
rewritten, and as long as no other one is redirected from its port and no reaping removes the entry
of that port, an inbound packet to the port is returned with the address and the port the first
packet was sent to as source, and every other byte kept. No reaping removes an entry within the
idle time of the last packet of its flow. -/
theorem answer_undoes_question (before asked flows : FlowTable) (question : CapturedPacket)
    (fields : Fields) (sent : Bytes) (events : List LoopEvent) (outbound : question.outbound = true)
    (has : HasFields question.data fields)
    (rewritten : question.process before = some (asked, some sent))
    (reached : run loopStep asked events = some flows) :
    (Along loopStep (fun flows event => leavesFlow fields.srcPort flows event = true) asked
      events →
      ∀ (answer : CapturedPacket) (back : Fields), answer.outbound = false →
        HasFields answer.data back → back.dstPort = fields.srcPort →
        ∃ after out, answer.process flows = some (after, some out) ∧
          Patched answer.data out 12 fields.dstIp back.ipHeaderLen fields.dstPort) ∧
      ∀ idle now after entry, now ≤ lastPacket fields.srcPort question.now events + idle →
        flows.lookup fields.srcPort = some entry → reapFlows flows idle now = some after →
        after.lookup fields.srcPort = some entry := by
  obtain ⟨target, redirection⟩ := redirection_processed outbound has rewritten
  constructor
  · intro left answer back inbound hasBack toPort
    have origin : flowOrigin asked fields.srcPort = some ⟨.v4 fields.dstIp, fields.dstPort⟩ := by
      rw [flowOrigin_process rewritten, redirection, Option.filter_some,
        if_pos (decide_eq_true rfl)]
      rfl
    have recorded := run_invariant
      (fun _ _ _ recorded leaves taken => flowOrigin_leavesFlow recorded leaves taken) origin left
      reached
    rw [← toPort] at recorded
    exact process_restores inbound hasBack recorded
  · intro idle now after entry young found reaped
    have asks : question.ofFlow fields.srcPort = true := by
      unfold CapturedPacket.ofFlow
      rw [outbound, redirection, Option.any_some]
      exact decide_eq_true rfl
    have initially : SeenLast fields.srcPort question.now [] asked := by
      intro entry found
      have seen := lookup_process rewritten found
      rwa [if_pos asks] at seen
    rw [lookup_reaped reaped, seenLast_run initially reached entry found]
    exact ⟨found, young⟩

/-- Half a second of idle time passes, and the listener answers. -/
def answeredOnce : List LoopEvent := [.reap 500 1400, .packet (listenerPacket 51000)]

/-- The game asks its server; the listener's second answer is given the server as its source, and a
reaping within the idle time of the first keeps the entry. -/
theorem second_answer_restored :
    ∃ asked flows, (∃ sent, (gamePacket 9000 51000).process ∅ = some (asked, some sent)) ∧
      run loopStep asked answeredOnce = some flows ∧
      (∃ after out, (listenerPacket 51000).process flows = some (after, some out) ∧
        Patched (listenerPacket 51000).data out 12 (Ipv4Addr.new 18 88 19 234) 20 9000) ∧
      ∀ after entry, flows.lookup 40000 = some entry → reapFlows flows 500 2500 = some after →
        after.lookup 40000 = some entry := by
  have outcome : (((gamePacket 9000 51000).process ∅).any fun processed =>
      processed.2.isSome && (run loopStep processed.1 answeredOnce).isSome &&
        decide (Along loopStep (fun flows event => leavesFlow 40000 flows event = true) processed.1
          answeredOnce)) = true := by
    decide +kernel
  obtain ⟨⟨asked, result⟩, processed, holds⟩ := (Option.any_eq_true _ _).mp outcome
  rw [Bool.and_eq_true, Bool.and_eq_true, decide_eq_true_iff] at holds
  obtain ⟨⟨sends, goesOn⟩, left⟩ := holds
  obtain ⟨sent, rfl⟩ := Option.isSome_iff_exists.mp sends
  obtain ⟨flows, reached⟩ := Option.isSome_iff_exists.mp goesOn
  have asks : HasFields (gamePacket 9000 51000).data
      ⟨20, .udp, Ipv4Addr.new 18 88 19 234, 40000, 9000⟩ := readFields_iff.mp rfl
  have answers : HasFields (listenerPacket 51000).data
      ⟨20, .udp, Ipv4Addr.new 192 168 1 10, 51000, 40000⟩ := readFields_iff.mp rfl
  obtain ⟨restored, kept⟩ := answer_undoes_question ∅ asked flows (gamePacket 9000 51000) _ sent
    answeredOnce rfl asks processed reached
  exact ⟨asked, flows, ⟨sent, processed⟩, reached,
    restored left (listenerPacket 51000) _ rfl answers rfl,
    fun after entry found reaped => kept 500 2500 after entry (by decide +kernel) found reaped⟩

end LowPing.Capture
