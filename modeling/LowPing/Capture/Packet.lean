import LowPing.Library.Table
import LowPing.Common.Net

/-!
# Packet rewriting

`gr-capture`'s destination NAT, packet by packet. `process_packet` reads the fields of a captured
IPv4 packet, records the original destination of an outbound packet under its source port and
writes the redirect target into it; an inbound packet gets the recorded destination as its source.
Slices are indexed as the code does, so a result `none` of a definition here is a panic.
-/

namespace LowPing.Capture

open Library

/-- A reading of the monotonic clock, in nanoseconds since its origin. -/
abbrev Instant := Nat

/-- `Protocol`. -/
inductive Protocol where
  | tcp
  | udp
  deriving DecidableEq

/-- `RouteAction`. -/
inductive RouteAction where
  /-- Leave the packet alone. -/
  | passthrough
  /-- Rewrite the destination. -/
  | rewriteTo (target : SocketAddr)
  deriving DecidableEq

/-- `RouteResolver::resolve` at one moment. -/
abbrev Resolver := SocketAddr → Protocol → RouteAction

/-- `FlowEntry`. -/
structure FlowEntry where
  /-- Where the game sent the packet. -/
  origDstIp : Ipv4Addr
  /-- Its port there. -/
  origDstPort : UInt16
  /-- What outbound traffic was rewritten to. -/
  redirectTarget : SocketAddr
  /-- Stamped by every packet of the flow. -/
  lastSeen : Instant
  deriving DecidableEq

/-- The NAT table; the key is the game's source port. -/
abbrev FlowTable := AList fun _ : UInt16 => FlowEntry

/-- The destination a flow entry records. -/
def FlowEntry.origin (entry : FlowEntry) : SocketAddr := ⟨.v4 entry.origDstIp, entry.origDstPort⟩

/-- `flow_origin`. -/
def flowOrigin (flows : FlowTable) (gameSrcPort : UInt16) : Option SocketAddr :=
  (flows.lookup gameSrcPort).map FlowEntry.origin

/-- `flow_idle`, in nanoseconds. -/
def flowIdle : Nat := 120 * 1000000000

/-- `reap_flows`; the subtraction panics before the clock's origin. -/
def reapFlows (flows : FlowTable) (idle : Nat) (now : Instant) : Option FlowTable :=
  if now < idle then none
  else some (Table.retain (fun _ entry => decide (now - idle ≤ entry.lastSeen)) flows)

/-! ## Fields of a packet -/

/-- `Ipv4Addr::new` of four bytes of a slice. -/
def readIpv4 (data : Bytes) (start : Nat) : Option Ipv4Addr := do
  let a ← data[start]?
  let b ← data[start + 1]?
  let c ← data[start + 2]?
  let d ← data[start + 3]?
  some (Ipv4Addr.new a b c d)

/-- `u16::from_be_bytes` of two bytes of a slice. -/
def readPort (data : Bytes) (start : Nat) : Option UInt16 := do
  let high ← data[start]?
  let low ← data[start + 1]?
  some (ofBeBytes16 [high, low])

/-- `copy_from_slice` into a range of a slice. -/
def writeAt (data : Bytes) (start : Nat) (bytes : Bytes) : Option Bytes :=
  if start + bytes.length ≤ data.length then
    some (data.take start ++ bytes ++ data.drop (start + bytes.length))
  else none

/-- `PROTO_TCP`. -/
def protoTcp : UInt8 := 6
/-- `PROTO_UDP`. -/
def protoUdp : UInt8 := 17

/-- What `process_packet` reads of a packet before it looks at the direction. -/
structure Fields where
  /-- Length of the IP header with its options. -/
  ipHeaderLen : Nat
  /-- TCP or UDP. -/
  protocol : Protocol
  /-- Destination address. -/
  dstIp : Ipv4Addr
  /-- Source port. -/
  srcPort : UInt16
  /-- Destination port. -/
  dstPort : UInt16

/-- The checks and reads at the start of `process_packet`; `some none` is a packet it makes no
sense of. -/
def readFields (data : Bytes) : Option (Option Fields) :=
  if data.length < 28 then some none
  else do
    let first : UInt8 ← data[0]?
    if first >>> 4 ≠ 4 then some none
    else
      let ihl := (first &&& 0x0F).toNat
      if ihl < 5 then some none
      else
        let ipHeaderLen := ihl * 4
        if data.length < ipHeaderLen + 8 then some none
        else do
          let proto : UInt8 ← data[9]?
          if proto ≠ protoTcp ∧ proto ≠ protoUdp then some none
          else
            let protocol := if proto = protoTcp then Protocol.tcp else Protocol.udp
            let dstIp ← readIpv4 data 16
            let srcPort ← readPort data ipHeaderLen
            let dstPort ← readPort data (ipHeaderLen + 2)
            some (some ⟨ipHeaderLen, protocol, dstIp, srcPort, dstPort⟩)

/-- The outbound half of `process_packet`. -/
def rewriteOutbound (data : Bytes) (fields : Fields) (resolver : Resolver) (flows : FlowTable)
    (now : Instant) : Option (FlowTable × Option Bytes) :=
  match resolver ⟨.v4 fields.dstIp, fields.dstPort⟩ fields.protocol with
  | .passthrough => some (flows, none)
  | .rewriteTo target =>
    match target.ip with
    | .v6 _ => some (flows, none)
    | .v4 newDstIp => do
      let entry := ⟨fields.dstIp, fields.dstPort, target, now⟩
      let out ← writeAt data 16 newDstIp.octets.toList
      let out ← writeAt out (fields.ipHeaderLen + 2) (beBytes16 target.port)
      some (flows.insert fields.srcPort entry, some out)

/-- The inbound half of `process_packet`. -/
def rewriteInbound (data : Bytes) (fields : Fields) (flows : FlowTable) (now : Instant) :
    Option (FlowTable × Option Bytes) :=
  match flows.lookup fields.dstPort with
  | none => some (flows, none)
  | some entry => do
    let out ← writeAt data 12 entry.origDstIp.octets.toList
    let out ← writeAt out fields.ipHeaderLen (beBytes16 entry.origDstPort)
    some (flows.insert fields.dstPort { entry with lastSeen := now }, some out)

/-- `process_packet`: the flow table after it, and the modified packet or `None`. -/
def processPacket (data : Bytes) (outbound : Bool) (resolver : Resolver) (flows : FlowTable)
    (now : Instant) : Option (FlowTable × Option Bytes) := do
  match ← readFields data with
  | none => some (flows, none)
  | some fields =>
    if outbound then rewriteOutbound data fields resolver flows now
    else rewriteInbound data fields flows now

/-! ## What a packet means -/

/-- A UDP datagram. -/
structure Datagram where
  /-- Sender. -/
  src : SocketAddr
  /-- Receiver. -/
  dst : SocketAddr
  /-- User bytes. -/
  payload : Bytes
  deriving DecidableEq

/-- The UDP datagram an IPv4 packet carries, for the local network stack: addresses, ports and as
many bytes as the length field of the UDP header counts. -/
def udpDatagram (packet : Bytes) : Option Datagram := do
  match ← readFields packet with
  | none => none
  | some fields =>
    if fields.protocol = .udp then
      let srcIp ← readIpv4 packet 12
      let length ← readPort packet (fields.ipHeaderLen + 4)
      some {
        src := ⟨.v4 srcIp, fields.srcPort⟩
        dst := ⟨.v4 fields.dstIp, fields.dstPort⟩
        payload := (packet.drop (fields.ipHeaderLen + 8)).take (length.toNat - 8) }
    else none

/-- Where an IPv4 packet comes from. -/
def packetSource (packet : Bytes) : Option SocketAddr := do
  match ← readFields packet with
  | none => none
  | some fields =>
    let srcIp ← readIpv4 packet 12
    some ⟨.v4 srcIp, fields.srcPort⟩

/-! ## Reading after writing -/

section

variable {data out bytes : Bytes} {start : Nat}

/-- A written slice keeps its length. -/
theorem length_writeAt (written : writeAt data start bytes = some out) :
    out.length = data.length := by
  unfold writeAt at written
  split at written
  · rename_i fits
    obtain rfl := Option.some.inj written
    simp only [List.length_append, List.length_take, List.length_drop]
    omega
  · contradiction

/-- Bytes outside the written range stay. -/
theorem getElem?_writeAt (written : writeAt data start bytes = some out) {position : Nat}
    (outside : position < start ∨ start + bytes.length ≤ position) :
    out[position]? = data[position]? := by
  unfold writeAt at written
  split at written
  · rename_i fits
    obtain rfl := Option.some.inj written
    have front : (data.take start).length = start := by
      rw [List.length_take]
      omega
    rw [List.append_assoc]
    rcases outside with before | after
    · rw [List.getElem?_append_left (by omega), List.getElem?_take_of_lt before]
    · rw [List.getElem?_append_right (by omega), List.getElem?_append_right (by omega),
        List.getElem?_drop, front]
      congr 1
      omega
  · contradiction

/-- Bytes inside the written range are the new ones. -/
theorem getElem?_writeAt_inside (written : writeAt data start bytes = some out) {offset : Nat}
    (inside : offset < bytes.length) : out[start + offset]? = bytes[offset]? := by
  unfold writeAt at written
  split at written
  · rename_i fits
    obtain rfl := Option.some.inj written
    have front : (data.take start).length = start := by
      rw [List.length_take]
      omega
    rw [List.append_assoc, List.getElem?_append_right (by omega), front, Nat.add_sub_cancel_left,
      List.getElem?_append_left inside]
  · contradiction

/-- The rest of the slice after the written range stays. -/
theorem drop_writeAt (written : writeAt data start bytes = some out) {position : Nat}
    (after : start + bytes.length ≤ position) : out.drop position = data.drop position := by
  apply List.ext_getElem?
  intro offset
  rw [List.getElem?_drop, List.getElem?_drop]
  exact getElem?_writeAt written (.inr (by omega))

/-- An address outside the written range stays. -/
theorem readIpv4_writeAt (written : writeAt data start bytes = some out) {position : Nat}
    (outside : position + 4 ≤ start ∨ start + bytes.length ≤ position) :
    readIpv4 out position = readIpv4 data position := by
  unfold readIpv4
  rw [getElem?_writeAt written (by omega), getElem?_writeAt written (by omega),
    getElem?_writeAt written (by omega), getElem?_writeAt written (by omega)]

/-- A port outside the written range stays. -/
theorem readPort_writeAt (written : writeAt data start bytes = some out) {position : Nat}
    (outside : position + 2 ≤ start ∨ start + bytes.length ≤ position) :
    readPort out position = readPort data position := by
  unfold readPort
  rw [getElem?_writeAt written (by omega), getElem?_writeAt written (by omega)]

/-- A written address is read back. -/
theorem readIpv4_written {ip : Ipv4Addr}
    (written : writeAt data start ip.octets.toList = some out) : readIpv4 out start = some ip := by
  obtain ⟨⟨octets, length⟩⟩ := ip
  obtain ⟨a, b, c, d, rfl⟩ : ∃ a b c d, octets = [a, b, c, d] := by
    match octets, length with
    | [a, b, c, d], _ => exact ⟨a, b, c, d, rfl⟩
  have read {offset : Nat} (inside : offset < 4) := getElem?_writeAt_inside written inside
  have first := read (Nat.zero_lt_succ 3)
  rw [Nat.add_zero] at first
  simp [readIpv4, first, read, Ipv4Addr.new]

/-- A written port is read back. -/
theorem readPort_written {port : UInt16}
    (written : writeAt data start (beBytes16 port) = some out) :
    readPort out start = some port := by
  obtain ⟨high, low, encoded⟩ := List.length_eq_two.mp (length_beBytes16 port)
  have decoded := ofBeBytes16_beBytes16 port
  rw [encoded] at written decoded
  have read {offset : Nat} (inside : offset < 2) := getElem?_writeAt_inside written inside
  have first := read (Nat.zero_lt_succ 1)
  rw [Nat.add_zero] at first
  simp [readPort, first, read, decoded]

end

/-! ## What is read and written -/

/-- The fields of a packet that passes every check. -/
structure HasFields (data : Bytes) (fields : Fields) : Prop where
  /-- An IPv4 and a UDP header fit. -/
  long : 28 ≤ data.length
  /-- The first byte holds the version and the header's length in words. -/
  header : ∃ first : UInt8, data[0]? = some first ∧ first >>> 4 = 4 ∧
    5 ≤ (first &&& 0x0F).toNat ∧ fields.ipHeaderLen = (first &&& 0x0F).toNat * 4
  /-- The ports and the rest of a UDP header fit after the IP header. -/
  fits : fields.ipHeaderLen + 8 ≤ data.length
  /-- The protocol byte. -/
  protocol : ∃ proto : UInt8, data[9]? = some proto ∧
    ((proto = protoTcp ∧ fields.protocol = .tcp) ∨ (proto = protoUdp ∧ fields.protocol = .udp))
  /-- The destination address. -/
  dstIp : readIpv4 data 16 = some fields.dstIp
  /-- The source port. -/
  srcPort : readPort data fields.ipHeaderLen = some fields.srcPort
  /-- The destination port. -/
  dstPort : readPort data (fields.ipHeaderLen + 2) = some fields.dstPort

/-- The IP header is at least as long as one without options. -/
theorem HasFields.base {data : Bytes} {fields : Fields} (has : HasFields data fields) :
    20 ≤ fields.ipHeaderLen := by
  obtain ⟨first, _, _, words, length⟩ := has.header
  omega

/-- A packet is read exactly when it passes every check. -/
theorem readFields_iff {data : Bytes} {fields : Fields} :
    readFields data = some (some fields) ↔ HasFields data fields := by
  constructor
  · intro read
    unfold readFields at read
    split at read
    · simp at read
    · rename_i long
      obtain ⟨first, atZero, read⟩ := Option.bind_eq_some_iff.mp read
      split at read
      · simp at read
      · rename_i version
        dsimp only at read
        split at read
        · simp at read
        · rename_i words
          split at read
          · simp at read
          · rename_i fits
            obtain ⟨proto, atNine, read⟩ := Option.bind_eq_some_iff.mp read
            split at read
            · simp at read
            · rename_i known
              obtain ⟨dstIp, atSixteen, read⟩ := Option.bind_eq_some_iff.mp read
              obtain ⟨srcPort, source, read⟩ := Option.bind_eq_some_iff.mp read
              obtain ⟨dstPort, target, read⟩ := Option.bind_eq_some_iff.mp read
              obtain rfl := Option.some.inj (Option.some.inj read)
              refine ⟨by omega, ⟨first, atZero, by simpa using version, by omega, rfl⟩, by
                dsimp only
                omega, ⟨proto, atNine, ?_⟩, atSixteen, source, target⟩
              by_cases tcp : proto = protoTcp
              · exact .inl ⟨tcp, by simp [tcp]⟩
              · have udp : proto = protoUdp := by
                  by_contra other
                  exact known ⟨tcp, other⟩
                exact .inr ⟨udp, by simp [tcp]⟩
  · intro has
    obtain ⟨long, ⟨first, atZero, version, words, length⟩, fits, ⟨proto, atNine, known⟩, dstIp,
      srcPort, dstPort⟩ := has
    obtain ⟨ipHeaderLen, protocol, ip, source, target⟩ := fields
    dsimp only at length fits known dstIp srcPort dstPort
    subst length
    have notShort : ¬ data.length < 28 := by omega
    have notFew : ¬ (first &&& 0x0F).toNat < 5 := by omega
    have notCut : ¬ data.length < (first &&& 0x0F).toNat * 4 + 8 := by omega
    have notTcp : protoUdp ≠ protoTcp := by decide
    rcases known with ⟨rfl, rfl⟩ | ⟨rfl, rfl⟩
    · simp only [readFields, notShort, atZero, version, notFew, notCut, atNine, dstIp, srcPort,
        dstPort, Option.bind_eq_bind, Option.bind_some, ↓reduceIte, ne_eq, not_true_eq_false,
        false_and]
    · simp only [readFields, notShort, atZero, version, notFew, notCut, atNine, dstIp, srcPort,
        dstPort, notTcp, Option.bind_eq_bind, Option.bind_some, ↓reduceIte, ne_eq,
        not_true_eq_false, and_false]

/-- A packet with an address of its header and a port behind it written goes on being one, with the
fields that are then read. -/
theorem HasFields.after_writes {data middle out : Bytes} {fields : Fields} {dstIp ip : Ipv4Addr}
    {srcPort dstPort port : UInt16} {address position : Nat} (has : HasFields data fields)
    (header : 12 ≤ address) (behind : fields.ipHeaderLen ≤ position)
    (first : writeAt data address ip.octets.toList = some middle)
    (second : writeAt middle position (beBytes16 port) = some out)
    (readDst : readIpv4 out 16 = some dstIp)
    (readSource : readPort out fields.ipHeaderLen = some srcPort)
    (readTarget : readPort out (fields.ipHeaderLen + 2) = some dstPort) :
    HasFields out { fields with dstIp, srcPort, dstPort } where
  long := by
    have long := has.long
    have middleLength := length_writeAt first
    have outLength := length_writeAt second
    omega
  header := by
    have base := has.base
    obtain ⟨byte, atZero, version⟩ := has.header
    refine ⟨byte, ?_, version⟩
    rw [getElem?_writeAt second (.inl (by omega)), getElem?_writeAt first (.inl (by omega)), atZero]
  fits := by
    have fits := has.fits
    have middleLength := length_writeAt first
    have outLength := length_writeAt second
    dsimp only
    omega
  protocol := by
    have base := has.base
    obtain ⟨proto, atNine, known⟩ := has.protocol
    refine ⟨proto, ?_, known⟩
    rw [getElem?_writeAt second (.inl (by omega)), getElem?_writeAt first (.inl (by omega)), atNine]
  dstIp := readDst
  srcPort := readSource
  dstPort := readTarget

/-- What an outbound rewrite records and produces. -/
structure Rewritten (data : Bytes) (fields : Fields) (flows : FlowTable) (now : Instant)
    (target : SocketAddr) (after : FlowTable) (out : Bytes) : Prop where
  /-- The original destination is recorded under the source port. -/
  recorded : after = flows.insert fields.srcPort ⟨fields.dstIp, fields.dstPort, target, now⟩
  /-- The target is written as destination, and nothing else that is read. -/
  written : ∃ ip, target.ip = .v4 ip ∧
    HasFields out { fields with dstIp := ip, dstPort := target.port }
  /-- The source address stays. -/
  srcIp : readIpv4 out 12 = readIpv4 data 12
  /-- Everything after the ports stays. -/
  rest : out.drop (fields.ipHeaderLen + 4) = data.drop (fields.ipHeaderLen + 4)

/-- An outbound packet is rewritten to the target its destination resolves to. -/
theorem rewriteOutbound_ok {data out : Bytes} {fields : Fields} {resolver : Resolver}
    {flows after : FlowTable} {now : Instant} (has : HasFields data fields)
    (rewritten : rewriteOutbound data fields resolver flows now = some (after, some out)) :
    ∃ target, resolver ⟨.v4 fields.dstIp, fields.dstPort⟩ fields.protocol = .rewriteTo target ∧
      Rewritten data fields flows now target after out := by
  unfold rewriteOutbound at rewritten
  split at rewritten
  · simp at rewritten
  · rename_i target resolved
    split at rewritten
    · simp at rewritten
    · rename_i ip family
      obtain ⟨middle, address, rewritten⟩ := Option.bind_eq_some_iff.mp rewritten
      obtain ⟨final, port, rewritten⟩ := Option.bind_eq_some_iff.mp rewritten
      simp only [Option.some.injEq, Prod.mk.injEq] at rewritten
      obtain ⟨rfl, rfl⟩ := rewritten
      have base := has.base
      have four : ip.octets.toList.length = 4 := ip.octets.toList_length
      have two : (beBytes16 target.port).length = 2 := length_beBytes16 target.port
      refine ⟨target, resolved, rfl, ⟨ip, family, ?_⟩, ?_, ?_⟩
      · refine has.after_writes (by omega) (by omega) address port ?_ ?_ (readPort_written port)
        · rw [readIpv4_writeAt port (.inl (by omega))]
          exact readIpv4_written address
        · rw [readPort_writeAt port (.inl (by omega)), readPort_writeAt address (.inr (by omega))]
          exact has.srcPort
      · rw [readIpv4_writeAt port (.inl (by omega)), readIpv4_writeAt address (.inl (by omega))]
      · rw [drop_writeAt port (by omega), drop_writeAt address (by omega)]

/-- A slice with room for them takes bytes. -/
theorem writeAt_fits {data : Bytes} (start : Nat) (bytes : Bytes)
    (fits : start + bytes.length ≤ data.length) : ∃ out, writeAt data start bytes = some out :=
  ⟨_, if_pos fits⟩

/-- What an inbound rewrite produces. -/
structure Restored (data : Bytes) (fields : Fields) (entry : FlowEntry) (out : Bytes) : Prop where
  /-- The original destination is written as source, and nothing else that is read. -/
  written : HasFields out { fields with srcPort := entry.origDstPort }
  /-- With its address. -/
  srcIp : readIpv4 out 12 = some entry.origDstIp
  /-- Everything after the source port stays. -/
  rest : out.drop (fields.ipHeaderLen + 2) = data.drop (fields.ipHeaderLen + 2)

/-- An inbound packet gets the destination on record for its port as source. -/
theorem rewriteInbound_ok {data : Bytes} {fields : Fields} {flows after : FlowTable}
    {now : Instant} {result : Option Bytes} (has : HasFields data fields)
    (rewritten : rewriteInbound data fields flows now = some (after, result)) :
    (flows.lookup fields.dstPort = none ∧ after = flows ∧ result = none) ∨
      ∃ entry out, flows.lookup fields.dstPort = some entry ∧ result = some out ∧
        after = flows.insert fields.dstPort { entry with lastSeen := now } ∧
        Restored data fields entry out := by
  unfold rewriteInbound at rewritten
  split at rewritten
  · rename_i absent
    obtain ⟨rfl, rfl⟩ := Prod.mk.inj (Option.some.inj rewritten)
    exact .inl ⟨absent, rfl, rfl⟩
  · rename_i entry found
    obtain ⟨middle, address, rewritten⟩ := Option.bind_eq_some_iff.mp rewritten
    obtain ⟨final, port, rewritten⟩ := Option.bind_eq_some_iff.mp rewritten
    obtain ⟨rfl, rfl⟩ := Prod.mk.inj (Option.some.inj rewritten)
    have base := has.base
    have four : entry.origDstIp.octets.toList.length = 4 := entry.origDstIp.octets.toList_length
    have two : (beBytes16 entry.origDstPort).length = 2 := length_beBytes16 entry.origDstPort
    refine .inr ⟨entry, final, found, rfl, rfl, ?_, ?_, ?_⟩
    · refine has.after_writes (by omega) (by omega) address port ?_ (readPort_written port) ?_
      · rw [readIpv4_writeAt port (.inl (by omega)), readIpv4_writeAt address (.inr (by omega))]
        exact has.dstIp
      · rw [readPort_writeAt port (.inr (by omega)), readPort_writeAt address (.inr (by omega))]
        exact has.dstPort
    · rw [readIpv4_writeAt port (.inl (by omega))]
      exact readIpv4_written address
    · rw [drop_writeAt port (by omega), drop_writeAt address (by omega)]

/-- The datagram of a packet with known fields. -/
theorem udpDatagram_eq {data : Bytes} {fields : Fields} (has : HasFields data fields) :
    udpDatagram data = if fields.protocol = .udp then do
      let srcIp ← readIpv4 data 12
      let length ← readPort data (fields.ipHeaderLen + 4)
      some ⟨⟨.v4 srcIp, fields.srcPort⟩, ⟨.v4 fields.dstIp, fields.dstPort⟩,
        (data.drop (fields.ipHeaderLen + 8)).take (length.toNat - 8)⟩ else none := by
  unfold udpDatagram
  rw [readFields_iff.mpr has]
  rfl

/-- The source of a packet with known fields. -/
theorem packetSource_eq {data : Bytes} {fields : Fields} (has : HasFields data fields) :
    packetSource data = (readIpv4 data 12).map fun srcIp => ⟨.v4 srcIp, fields.srcPort⟩ := by
  unfold packetSource
  rw [readFields_iff.mpr has]
  cases readIpv4 data 12 <;> rfl

/-- A datagram has the ports and the destination of its packet. -/
theorem udpDatagram_ok {data : Bytes} {fields : Fields} {datagram : Datagram}
    (has : HasFields data fields) (carried : udpDatagram data = some datagram) :
    fields.protocol = .udp ∧ datagram.src.port = fields.srcPort ∧
      datagram.dst = ⟨.v4 fields.dstIp, fields.dstPort⟩ := by
  rw [udpDatagram_eq has] at carried
  split at carried
  · rename_i udp
    obtain ⟨srcIp, _, carried⟩ := Option.bind_eq_some_iff.mp carried
    obtain ⟨length, _, carried⟩ := Option.bind_eq_some_iff.mp carried
    obtain rfl := Option.some.inj carried
    exact ⟨udp, rfl, rfl⟩
  · contradiction

/-- A port can be read from where a slice agrees. -/
theorem readPort_of_drop {left right : Bytes} {start : Nat}
    (same : left.drop start = right.drop start) : readPort left start = readPort right start := by
  have agree (offset : Nat) : left[start + offset]? = right[start + offset]? := by
    rw [← List.getElem?_drop, same, List.getElem?_drop]
  have first := agree 0
  rw [Nat.add_zero] at first
  unfold readPort
  rw [first, agree 1]

/-- Rewriting a UDP packet changes the destination of its datagram, and nothing else. -/
theorem udpDatagram_rewritten {data out : Bytes} {fields : Fields} {flows after : FlowTable}
    {now : Instant} {target : SocketAddr} (has : HasFields data fields)
    (rewritten : Rewritten data fields flows now target after out) :
    udpDatagram out = (udpDatagram data).map fun datagram => { datagram with dst := target } := by
  obtain ⟨ip, family, hasOut⟩ := rewritten.written
  have length : readPort out (fields.ipHeaderLen + 4) = readPort data (fields.ipHeaderLen + 4) :=
    readPort_of_drop rewritten.rest
  have payload : out.drop (fields.ipHeaderLen + 8) = data.drop (fields.ipHeaderLen + 8) := by
    have later := congrArg (List.drop 4) rewritten.rest
    rwa [List.drop_drop, List.drop_drop] at later
  obtain ⟨targetIp, targetPort⟩ := target
  obtain rfl : targetIp = .v4 ip := family
  rw [udpDatagram_eq has, udpDatagram_eq hasOut, rewritten.srcIp, length, payload]
  by_cases udp : fields.protocol = .udp
  · rw [if_pos udp, if_pos udp]
    cases readIpv4 data 12 with
    | none => rfl
    | some srcIp => cases readPort data (fields.ipHeaderLen + 4) <;> rfl
  · rw [if_neg udp, if_neg udp]
    rfl

/-- What `process_packet` does to the flow table and the packet. -/
inductive Processed (data : Bytes) (resolver : Resolver) (flows : FlowTable) (now : Instant) :
    Bool → FlowTable → Option Bytes → Prop where
  /-- The packet passes through. -/
  | passed (outbound : Bool) : Processed data resolver flows now outbound flows none
  /-- An outbound packet is redirected. -/
  | redirected (fields : Fields) (target : SocketAddr) (after : FlowTable) (out : Bytes)
      (has : HasFields data fields)
      (resolved : resolver ⟨.v4 fields.dstIp, fields.dstPort⟩ fields.protocol = .rewriteTo target)
      (rewritten : Rewritten data fields flows now target after out) :
      Processed data resolver flows now true after (some out)
  /-- An inbound packet of a flow on record is attributed to its original destination. -/
  | attributed (fields : Fields) (entry : FlowEntry) (out : Bytes) (has : HasFields data fields)
      (found : flows.lookup fields.dstPort = some entry) :
      Processed data resolver flows now false
        (flows.insert fields.dstPort { entry with lastSeen := now }) (some out)

/-- `process_packet` does one of these. -/
theorem processPacket_ok {data : Bytes} {outbound : Bool} {resolver : Resolver}
    {flows after : FlowTable} {now : Instant} {result : Option Bytes}
    (processed : processPacket data outbound resolver flows now = some (after, result)) :
    Processed data resolver flows now outbound after result := by
  obtain ⟨read, fieldsRead, processed⟩ := Option.bind_eq_some_iff.mp processed
  cases read with
  | none =>
    obtain ⟨rfl, rfl⟩ := Prod.mk.inj (Option.some.inj processed)
    exact .passed outbound
  | some fields =>
    have has := readFields_iff.mp fieldsRead
    cases outbound with
    | true =>
      cases result with
      | none =>
        have same : after = flows := by
          simp only [↓reduceIte, rewriteOutbound] at processed
          split at processed
          · exact (Prod.mk.inj (Option.some.inj processed)).1.symm
          · split at processed
            · exact (Prod.mk.inj (Option.some.inj processed)).1.symm
            · obtain ⟨_, _, processed⟩ := Option.bind_eq_some_iff.mp processed
              obtain ⟨_, _, processed⟩ := Option.bind_eq_some_iff.mp processed
              simp at processed
        rw [same]
        exact .passed true
      | some out =>
        obtain ⟨target, resolved, rewritten⟩ := rewriteOutbound_ok has processed
        exact .redirected fields target after out has resolved rewritten
    | false =>
      simp only [Bool.false_eq_true, ↓reduceIte, rewriteInbound] at processed
      split at processed
      · obtain ⟨rfl, rfl⟩ := Prod.mk.inj (Option.some.inj processed)
        exact .passed false
      · rename_i entry found
        obtain ⟨_, _, processed⟩ := Option.bind_eq_some_iff.mp processed
        obtain ⟨out, _, processed⟩ := Option.bind_eq_some_iff.mp processed
        obtain ⟨rfl, rfl⟩ := Prod.mk.inj (Option.some.inj processed)
        exact .attributed fields entry out has found

section

variable {flows after : FlowTable} {port : UInt16}

/-- A redirected packet puts its destination on record for its port, and for no other. -/
theorem flowOrigin_redirected {data out : Bytes} {fields : Fields} {now : Instant}
    {target : SocketAddr} (rewritten : Rewritten data fields flows now target after out) :
    flowOrigin after port = if port = fields.srcPort then some ⟨.v4 fields.dstIp, fields.dstPort⟩
      else flowOrigin flows port := by
  rw [rewritten.recorded]
  unfold flowOrigin
  by_cases same : port = fields.srcPort
  · rw [if_pos same, same, AList.lookup_insert]
    rfl
  · rw [if_neg same, AList.lookup_insert_ne same]

/-- An inbound packet changes no origin. -/
theorem flowOrigin_attributed {other : UInt16} {entry : FlowEntry} {now : Instant}
    (found : flows.lookup other = some entry) :
    flowOrigin (flows.insert other { entry with lastSeen := now }) port =
      flowOrigin flows port := by
  unfold flowOrigin
  by_cases same : port = other
  · rw [same, AList.lookup_insert, found]
    rfl
  · rw [AList.lookup_insert_ne same]

/-- A reaping only forgets. -/
theorem flowOrigin_reaped {idle : Nat} {now : Instant} {origin : SocketAddr}
    (reaped : reapFlows flows idle now = some after) (found : flowOrigin after port = some origin) :
    flowOrigin flows port = some origin := by
  unfold reapFlows at reaped
  split at reaped
  · contradiction
  · obtain rfl := Option.some.inj reaped
    obtain ⟨entry, present, rfl⟩ := Option.map_eq_some_iff.mp found
    exact Option.map_eq_some_iff.mpr ⟨entry, (Table.lookup_retain.mp present).1, rfl⟩

end

end LowPing.Capture
