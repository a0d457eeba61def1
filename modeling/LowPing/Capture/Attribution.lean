import Mathlib.Data.List.Induction
import LowPing.Library.Machine
import LowPing.Capture.Packet

/-!
# Attribution of inbound packets

The NAT table holds one entry for each source port of the game, so it remembers the last redirected
packet of a port and nothing of those before it. An inbound packet is given the destination of that
last packet as its source, wherever it comes from. Which redirections a run contains is read off
its packets alone; the table of a run is related to them by an invariant.
-/

namespace LowPing.Capture

open Library Library.Machine

/-- A packet the capture loop processes, with the answers of its environment. -/
structure CapturedPacket where
  /-- IPv4 header first. -/
  data : Bytes
  /-- Its direction. -/
  outbound : Bool
  /-- The resolver at that moment. -/
  resolver : Resolver
  /-- The clock at that moment. -/
  now : Instant

/-- `process_packet` of a captured packet. -/
def CapturedPacket.process (packet : CapturedPacket) (flows : FlowTable) :
    Option (FlowTable × Option Bytes) :=
  processPacket packet.data packet.outbound packet.resolver flows packet.now

/-- The flow table after one more packet. -/
def captureStep (flows : FlowTable) (packet : CapturedPacket) : Option FlowTable :=
  (packet.process flows).map Prod.fst

/-- A redirected outbound packet. -/
structure Redirection where
  /-- The game's port. -/
  srcPort : UInt16
  /-- Where the game sent the packet. -/
  origin : SocketAddr
  /-- Where it was sent instead. -/
  target : SocketAddr
  deriving DecidableEq

/-- The redirection of a packet: it is outbound and its destination resolves to an IPv4 target. -/
def CapturedPacket.redirection (packet : CapturedPacket) : Option Redirection :=
  match packet.outbound, readFields packet.data with
  | true, some (some fields) =>
    let origin : SocketAddr := ⟨.v4 fields.dstIp, fields.dstPort⟩
    match packet.resolver origin fields.protocol with
    | .rewriteTo target => if target.isIpv4 then some ⟨fields.srcPort, origin, target⟩ else none
    | .passthrough => none
  | _, _ => none

/-- The last redirected packet of a port. -/
def latest (packets : List CapturedPacket) (port : UInt16) : Option Redirection :=
  ((packets.filterMap CapturedPacket.redirection).filter
    fun redirected => decide (redirected.srcPort = port)).getLast?

/-- The last packet of a port redirected to a target. -/
def latestTo (packets : List CapturedPacket) (port : UInt16) (target : SocketAddr) :
    Option Redirection :=
  ((packets.filterMap CapturedPacket.redirection).filter
    fun redirected => decide (redirected.srcPort = port ∧ redirected.target = target)).getLast?

/-- What a packet becomes is attributed if, where an inbound packet from a target to a port is
rewritten, its new source is the destination of the last packet of the port redirected to that
target, and the flow the port now has is to that target. -/
def Attributed (packets : List CapturedPacket) (packet : CapturedPacket) (result : Option Bytes) :
    Prop :=
  ∀ fields target out, packet.outbound = false → HasFields packet.data fields →
    packetSource packet.data = some target → result = some out →
    (∃ redirected, latestTo packets fields.dstPort target = some redirected ∧
      packetSource out = some redirected.origin) ∧
    (latest packets fields.dstPort).map Redirection.target = some target

/-- Whether an inbound packet comes from where the last redirected packet of its port went, if there
is one. -/
def fromLatest (packets : List CapturedPacket) (packet : CapturedPacket) : Bool :=
  match packet.outbound, readFields packet.data, packetSource packet.data with
  | false, some (some fields), some target =>
    (latest packets fields.dstPort).all fun last => decide (last.target = target)
  | _, _, _ => true

section

variable {flows after : FlowTable} {packet : CapturedPacket} {packets : List CapturedPacket}
  {port : UInt16} {result : Option Bytes}

/-- An outbound packet is modified exactly when it is redirected. -/
theorem process_outbound (outbound : packet.outbound = true)
    (processed : packet.process flows = some (after, result)) :
    packet.redirection.isSome = result.isSome := by
  obtain ⟨data, direction, resolver, now⟩ := packet
  obtain rfl : direction = true := outbound
  obtain ⟨read, fieldsRead, rewritten⟩ := Option.bind_eq_some_iff.mp processed
  dsimp only at fieldsRead rewritten
  unfold CapturedPacket.redirection
  dsimp only
  rw [fieldsRead]
  cases read with
  | none =>
    obtain ⟨_, rfl⟩ := Prod.mk.inj (Option.some.inj rewritten)
    rfl
  | some fields =>
    simp only [↓reduceIte, rewriteOutbound] at rewritten
    dsimp only
    cases resolved : resolver ⟨.v4 fields.dstIp, fields.dstPort⟩ fields.protocol with
    | passthrough =>
      rw [resolved] at rewritten
      obtain ⟨_, rfl⟩ := Prod.mk.inj (Option.some.inj rewritten)
      rfl
    | rewriteTo target =>
      rw [resolved] at rewritten
      obtain ⟨ip, targetPort⟩ := target
      cases ip with
      | v6 addr =>
        obtain ⟨_, rfl⟩ := Prod.mk.inj (Option.some.inj rewritten)
        rfl
      | v4 addr =>
        obtain ⟨middle, _, rewritten⟩ := Option.bind_eq_some_iff.mp rewritten
        obtain ⟨final, _, rewritten⟩ := Option.bind_eq_some_iff.mp rewritten
        obtain ⟨_, rfl⟩ := Prod.mk.inj (Option.some.inj rewritten)
        rfl

/-- A rewritten packet is redirected to its target. -/
theorem redirection_rewritten {data out : Bytes} {fields : Fields} {resolver : Resolver}
    {now : Instant} {target : SocketAddr} (has : HasFields data fields)
    (resolved : resolver ⟨.v4 fields.dstIp, fields.dstPort⟩ fields.protocol = .rewriteTo target)
    (rewritten : Rewritten data fields flows now target after out) :
    CapturedPacket.redirection ⟨data, true, resolver, now⟩ =
      some ⟨fields.srcPort, ⟨.v4 fields.dstIp, fields.dstPort⟩, target⟩ := by
  obtain ⟨ip, family, _⟩ := rewritten.written
  have ipv4 : target.isIpv4 = true := by rw [SocketAddr.isIpv4, family]
  simp only [CapturedPacket.redirection, readFields_iff.mpr has, resolved, ipv4, ↓reduceIte]

/-- A packet puts the destination of its redirection on record and changes no other origin. -/
theorem flowOrigin_process (processed : packet.process flows = some (after, result)) :
    flowOrigin after port =
      ((packet.redirection.filter fun redirected => decide (redirected.srcPort = port)).map
        Redirection.origin).or (flowOrigin flows port) := by
  obtain ⟨data, direction, resolver, now⟩ := packet
  have inbound : CapturedPacket.redirection ⟨data, false, resolver, now⟩ = none := rfl
  cases processPacket_ok processed with
  | passed =>
    cases direction with
    | false =>
      rw [inbound]
      rfl
    | true =>
      have unmodified := process_outbound rfl processed
      rw [Option.isSome_none, Option.isSome_eq_false_iff, Option.isNone_iff_eq_none] at unmodified
      rw [unmodified]
      rfl
  | redirected fields target _ out has resolved rewritten =>
    dsimp only at has resolved rewritten
    rw [redirection_rewritten has resolved rewritten, flowOrigin_redirected rewritten]
    by_cases same : port = fields.srcPort
    · rw [if_pos same, same]
      rw [Option.filter_some, if_pos (decide_eq_true rfl)]
      rfl
    · rw [if_neg same, Option.filter_some, if_neg (by simpa using Ne.symm same)]
      rfl
  | attributed fields entry out has found =>
    rw [inbound, flowOrigin_attributed found]
    rfl

/-- The last redirected packet of a port after one more packet. -/
theorem latest_concat : latest (packets ++ [packet]) port =
    (packet.redirection.filter fun redirected => decide (redirected.srcPort = port)).or
      (latest packets port) := by
  unfold latest
  rw [List.filterMap_append, List.filter_append, List.getLast?_append]
  congr 1
  cases redirection : packet.redirection with
  | none => simp [redirection]
  | some redirected =>
    by_cases same : redirected.srcPort = port
    · simp [redirection, same, Option.filter_some]
    · simp [redirection, same, Option.filter_some]

/-- The last redirected packet of a port is the last of those to its own target. -/
theorem latestTo_latest {last : Redirection} (recorded : latest packets port = some last) :
    latestTo packets port last.target = some last := by
  have narrowed : latestTo packets port last.target =
      (((packets.filterMap CapturedPacket.redirection).filter
        fun redirected => decide (redirected.srcPort = port)).filter
          fun redirected => decide (redirected.target = last.target)).getLast? := by
    rw [List.filter_filter, latestTo]
    congr 2
    funext redirected
    rw [Bool.decide_and, Bool.and_comm]
  obtain ⟨before, listed⟩ := List.getLast?_eq_some_iff.mp recorded
  rw [narrowed, listed, List.filter_append, List.filter_singleton, decide_eq_true rfl]
  exact List.getLast?_concat

/-- After every run the origin on record for a port is that of its last redirected packet. -/
theorem flowOrigin_run (reached : run captureStep ∅ packets = some flows) :
    flowOrigin flows port = (latest packets port).map Redirection.origin := by
  induction packets using List.reverseRecOn generalizing flows with
  | nil =>
    obtain rfl := Option.some.inj reached
    rfl
  | append_singleton packets packet ih =>
    rw [run_concat] at reached
    obtain ⟨before, earlier, taken⟩ := Option.bind_eq_some_iff.mp reached
    obtain ⟨⟨_, result⟩, processed, rfl⟩ := Option.map_eq_some_iff.mp taken
    rw [flowOrigin_process processed, latest_concat, ih earlier]
    cases packet.redirection.filter fun redirected => decide (redirected.srcPort = port) <;> rfl

/-- A rewritten inbound packet gets the origin on record for its port; without one it is not
rewritten. -/
theorem process_inbound {fields : Fields} (inbound : packet.outbound = false)
    (has : HasFields packet.data fields)
    (processed : packet.process flows = some (after, result)) :
    result.bind packetSource = flowOrigin flows fields.dstPort ∧
      (flowOrigin flows fields.dstPort = none → result = none) := by
  obtain ⟨data, direction, resolver, now⟩ := packet
  obtain rfl : direction = false := inbound
  obtain ⟨read, fieldsRead, rewritten⟩ := Option.bind_eq_some_iff.mp processed
  obtain rfl : read = some fields :=
    Option.some.inj (fieldsRead.symm.trans (readFields_iff.mpr has))
  simp only [Bool.false_eq_true, ↓reduceIte] at rewritten
  unfold flowOrigin
  rcases rewriteInbound_ok has rewritten with
    ⟨absent, _, rfl⟩ | ⟨entry, out, found, rfl, _, restored⟩
  · rw [absent]
    exact ⟨rfl, fun _ => rfl⟩
  · rw [found, Option.bind_some, packetSource_eq restored.written, restored.srcIp]
    exact ⟨rfl, nofun⟩

end

/-- After every run of packets, the next packet is attributed exactly when, if it is an inbound one
to a port with redirected packets, the last of these went to where it comes from. -/
theorem attributed_iff_fromLatest (packets : List CapturedPacket) (packet : CapturedPacket)
    (flows after : FlowTable) (result : Option Bytes)
    (reached : run captureStep ∅ packets = some flows)
    (processed : packet.process flows = some (after, result)) :
    Attributed packets packet result ↔ fromLatest packets packet = true := by
  unfold Attributed fromLatest
  cases direction : packet.outbound with
  | true => exact ⟨fun _ => rfl, fun _ _ _ _ inbound => by contradiction⟩
  | false =>
    cases read : readFields packet.data with
    | none => exact ⟨fun _ => rfl, fun _ _ _ _ _ has => by
        rw [readFields_iff.mpr has] at read
        contradiction⟩
    | some found =>
      cases found with
      | none => exact ⟨fun _ => rfl, fun _ _ _ _ _ has => by
          rw [readFields_iff.mpr has] at read
          exact nomatch Option.some.inj read⟩
      | some fields =>
        have has := readFields_iff.mp read
        have only (other : Fields) (hasOther : HasFields packet.data other) : other = fields :=
          Option.some.inj (Option.some.inj ((readFields_iff.mpr hasOther).symm.trans read))
        obtain ⟨rewritten, untouched⟩ := process_inbound direction has processed
        rw [flowOrigin_run reached] at rewritten untouched
        cases source : packetSource packet.data with
        | none => exact ⟨fun _ => rfl, fun _ _ _ _ _ _ known => by contradiction⟩
        | some target =>
          dsimp only
          cases recorded : latest packets fields.dstPort with
          | none =>
            rw [recorded] at untouched
            have dropped := untouched rfl
            exact ⟨fun _ => rfl, fun _ _ _ _ _ _ _ modified => by
              rw [dropped] at modified
              contradiction⟩
          | some last =>
            rw [recorded] at rewritten
            obtain ⟨out, rfl, attributed⟩ := Option.bind_eq_some_iff.mp rewritten
            rw [Option.all_some, decide_eq_true_iff]
            constructor
            · intro claimed
              obtain ⟨_, current⟩ := claimed fields target out rfl has rfl rfl
              rw [recorded] at current
              exact Option.some.inj current
            · rintro rfl other _ _ _ hasOther known modified
              obtain rfl := only other hasOther
              obtain rfl := Option.some.inj known
              obtain rfl := Option.some.inj modified
              exact ⟨⟨last, latestTo_latest recorded, attributed⟩, by rw [recorded]; rfl⟩

/-! ## Sample runs -/

/-- The IPv4 packet of an empty UDP datagram. -/
def udpPacket (srcIp : Ipv4Addr) (srcPort : UInt16) (dstIp : Ipv4Addr) (dstPort : UInt16) : Bytes :=
  [0x45, 0, 0, 28, 0, 0, 0, 0, 64, protoUdp, 0, 0] ++ srcIp.octets.toList ++ dstIp.octets.toList ++
    beBytes16 srcPort ++ beBytes16 dstPort ++ beBytes16 8 ++ [0, 0]

/-- The game sends from port 40000 to a port of its server; a listener's port gets the packet. -/
def gamePacket (serverPort listenPort : UInt16) : CapturedPacket where
  data := udpPacket (Ipv4Addr.new 192 168 1 10) 40000 (Ipv4Addr.new 18 88 19 234) serverPort
  outbound := true
  resolver := fun _ _ => .rewriteTo ⟨.v4 (Ipv4Addr.new 127 0 0 1), listenPort⟩
  now := 1000

/-- A listener answers the game's port. -/
def listenerPacket (listenPort : UInt16) : CapturedPacket where
  data := udpPacket (Ipv4Addr.new 127 0 0 1) listenPort (Ipv4Addr.new 192 168 1 10) 40000
  outbound := false
  resolver := fun _ _ => .passthrough
  now := 2000

/-- The game sends to two servers, redirected to two listeners. -/
def twoServers : List CapturedPacket := [gamePacket 9000 51000, gamePacket 9001 51001]

/-- The source an answer is given after a run. -/
def attributedSource (packets : List CapturedPacket) (answer : CapturedPacket) :
    Option SocketAddr :=
  ((run captureStep ∅ packets).bind answer.process).bind fun processed =>
    processed.2.bind packetSource

/-- The listener of the second server answers and is attributed to it. -/
theorem second_listener_attributed :
    ∃ flows after out, run captureStep ∅ twoServers = some flows ∧
      (listenerPacket 51001).process flows = some (after, some out) ∧
      Attributed twoServers (listenerPacket 51001) (some out) := by
  have outcome : (attributedSource twoServers (listenerPacket 51001)).isSome = true := by
    decide +kernel
  obtain ⟨source, answered⟩ := Option.isSome_iff_exists.mp outcome
  obtain ⟨⟨after, result⟩, processed, rewritten⟩ := Option.bind_eq_some_iff.mp answered
  obtain ⟨flows, reached, processed⟩ := Option.bind_eq_some_iff.mp processed
  obtain ⟨out, rfl, _⟩ := Option.bind_eq_some_iff.mp rewritten
  exact ⟨flows, after, out, reached, processed,
    (attributed_iff_fromLatest twoServers (listenerPacket 51001) flows after (some out) reached
      processed).mpr (by decide +kernel)⟩

/-- The listener of the first server answers too and is attributed to the second. -/
theorem first_listener_misattributed : ¬ ∀ (packets : List CapturedPacket)
    (packet : CapturedPacket) (flows after : FlowTable) (result : Option Bytes),
    run captureStep ∅ packets = some flows → packet.process flows = some (after, result) →
    Attributed packets packet result := by
  intro attributed
  have outcome : (attributedSource twoServers (listenerPacket 51000)) =
      some ⟨.v4 (Ipv4Addr.new 18 88 19 234), 9001⟩ := by
    decide +kernel
  obtain ⟨⟨after, result⟩, processed, rewritten⟩ := Option.bind_eq_some_iff.mp outcome
  obtain ⟨flows, reached, processed⟩ := Option.bind_eq_some_iff.mp processed
  obtain ⟨out, rfl, wrong⟩ := Option.bind_eq_some_iff.mp rewritten
  have sent : latestTo twoServers 40000 ⟨.v4 (Ipv4Addr.new 127 0 0 1), 51000⟩ =
      some ⟨40000, ⟨.v4 (Ipv4Addr.new 18 88 19 234), 9000⟩,
        ⟨.v4 (Ipv4Addr.new 127 0 0 1), 51000⟩⟩ := by
    decide +kernel
  have read : readFields (listenerPacket 51000).data =
      some (some ⟨20, .udp, Ipv4Addr.new 192 168 1 10, 51000, 40000⟩) := by
    rfl
  obtain ⟨⟨redirected, found, source⟩, _⟩ := attributed twoServers (listenerPacket 51000) flows
    after (some out) reached processed _ ⟨.v4 (Ipv4Addr.new 127 0 0 1), 51000⟩ out rfl
    (readFields_iff.mp read) (by decide +kernel) rfl
  obtain rfl := Option.some.inj (sent.symm.trans found)
  exact absurd (wrong.symm.trans source) (by decide)

end LowPing.Capture
