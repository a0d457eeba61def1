import LowPing.Capture.Attribution
import LowPing.Capture.Driver
import LowPing.Client.Smart

/-!
# Installing the capture

`install_capture` builds a capture from the rules of a configuration, `run_smart_mode` from its
bridges. Neither gets a filter that the driver opens with: the client's own tunnels are never caught
in a loop, and no traffic is ever captured.
-/

namespace LowPing.Client

open LowPing.Capture
open LowPing.Library

/-! ## The captures -/

/-- A `Rule` of the configuration with the fields of its listener and its capture. -/
structure ForwardRule extends Rule where
  /-- Where the client listens. -/
  listen : SocketAddr
  /-- "tcp" or "udp". -/
  protocol : String
  /-- Whether matching traffic is redirected to the listener. -/
  capture : Bool
  /-- Lower port of the captured range; the destination's port if absent. -/
  captureDstPortLo : Option UInt16
  /-- Upper port of the captured range; the lower one if absent. -/
  captureDstPortHi : Option UInt16
  /-- The captured address; the destination's if absent. -/
  captureDstIp : Option IpAddr

/-- One turn of the loop of `install_capture`. -/
def ForwardRule.redirectRule (rule : ForwardRule) : Option RedirectRule :=
  if rule.capture then
    let protocol := match rule.protocol with
      | "tcp" => some Protocol.tcp
      | "udp" => some Protocol.udp
      | _ => none
    protocol.map fun protocol =>
      let lo := rule.captureDstPortLo.getD rule.destPort
      { protocol
        dstIp := rule.captureDstIp.getD rule.destIp
        dstPortLo := lo
        dstPortHi := rule.captureDstPortHi.getD lo
        redirectToIp := rule.listen.ip
        redirectToPort := rule.listen.port }
  else none

/-- The loop of `install_capture`. -/
def captureRules (rules : List ForwardRule) : List RedirectRule :=
  rules.filterMap ForwardRule.redirectRule

/-- The capture of `install_capture`, before it is started. -/
def installCapture (rules : List ForwardRule) : Option WinDivertCapture :=
  if (captureRules rules).isEmpty then none else some (.new (captureRules rules))

/-- The capture of `run_smart_mode` with its resolver at one moment, before it is started. -/
def smartCapture (resolver : Resolver) (bridges : List BridgeEntry) : Option WinDivertCapture :=
  if bridges.isEmpty then none
  else some (.withResolver resolver
    (bridges.map fun b => ⟨.v4 (Ipv4Addr.new 127 0 0 1), b.listenPort⟩)
    (bridges.map BridgeEntry.endpoint))

/-! ## Tunnel traffic -/

/-- A packet sent to an endpoint: an IPv4 packet to its address and port, or, for an IPv6 endpoint,
an IPv6 packet. -/
def AddressedTo (data : Bytes) (endpoint : SocketAddr) : Prop :=
  match endpoint.ip with
  | .v4 ip => ∃ fields, HasFields data fields ∧ fields.dstIp = ip ∧ fields.dstPort = endpoint.port
  | .v6 _ => ∃ first : UInt8, data[0]? = some first ∧ first >>> 4 = 6

/-- An outbound packet is not selected or left unchanged. -/
def Spares (capture : WinDivertCapture) (driver : Driver) (data : Bytes) : Prop :=
  ¬ capture.Selects driver true data ∨
    ∀ flows now after result,
      processPacket data true capture.resolver flows now = some (after, result) → result = none

/-- How a client captures. -/
inductive CaptureMode where
  /-- `install_capture` with the rules of a configuration. -/
  | legacy (rules : List ForwardRule)
  /-- `run_smart_mode` with its bridges. -/
  | smart (bridges : List BridgeEntry)

/-- The captures a mode can start with, over the states of the resolver. -/
def CaptureMode.Starts : CaptureMode → WinDivertCapture → Prop
  | .legacy rules, capture => installCapture rules = some capture
  | .smart bridges, capture => ∃ resolver, smartCapture resolver bridges = some capture

/-- The bridge endpoints a mode is configured with. -/
def CaptureMode.endpoints : CaptureMode → List SocketAddr
  | .legacy rules => rules.map fun rule => rule.bridge
  | .smart bridges => bridges.map BridgeEntry.endpoint

/-- No packet to a bridge is redirected. -/
def CaptureMode.NoLoop (mode : CaptureMode) (driver : Driver) : Prop :=
  ∀ capture, mode.Starts capture → ∀ endpoint ∈ mode.endpoints, ∀ data,
    AddressedTo data endpoint → Spares capture driver data

section

variable {driver : Driver} {capture : WinDivertCapture} {data : Bytes}

/-- What `install_capture` starts is the capture of its rules. -/
theorem installCapture_eq {rules : List ForwardRule}
    (installed : installCapture rules = some capture) : capture = .new (captureRules rules) := by
  unfold installCapture at installed
  split at installed
  · contradiction
  · exact (Option.some.inj installed).symm

/-- `install_capture` starts a capture as soon as a rule captures. -/
theorem installCapture_of_mem {rules : List ForwardRule} {redirect : RedirectRule}
    (listed : redirect ∈ captureRules rules) :
    installCapture rules = some (.new (captureRules rules)) := by
  rw [installCapture, if_neg (by simpa using List.ne_nil_of_mem listed)]

/-- The fields of a UDP packet from one address to another. -/
theorem udpPacket_fields (srcIp dstIp : Ipv4Addr) (srcPort dstPort : UInt16) :
    HasFields (udpPacket srcIp srcPort dstIp dstPort) ⟨20, .udp, dstIp, srcPort, dstPort⟩ := by
  obtain ⟨a, b, c, d, rfl⟩ := Ipv4Addr.exists_new srcIp
  obtain ⟨e, f, g, h, rfl⟩ := Ipv4Addr.exists_new dstIp
  obtain ⟨srcHigh, srcLow, srcBytes⟩ := List.length_eq_two.mp (length_beBytes16 srcPort)
  obtain ⟨dstHigh, dstLow, dstBytes⟩ := List.length_eq_two.mp (length_beBytes16 dstPort)
  have srcRead := ofBeBytes16_beBytes16 srcPort
  have dstRead := ofBeBytes16_beBytes16 dstPort
  rw [srcBytes] at srcRead
  rw [dstBytes] at dstRead
  rw [← readFields_iff, udpPacket, srcBytes, dstBytes, ← srcRead, ← dstRead]
  rfl

/-- A packet is selected by no capture whose filter `build_filter` writes. -/
theorem unselected (documented : driver.Documented) (outbound : Bool) :
    ¬ capture.Selects driver outbound data := by
  rintro ⟨text, built, opens, _⟩
  rw [buildFilter_unopened documented built] at opens
  contradiction

end

/-- In neither mode a packet to a bridge is redirected. -/
theorem no_tunnel_loop (driver : Driver) (documented : driver.Documented) (mode : CaptureMode) :
    mode.NoLoop driver :=
  fun _ _ _ _ _ _ => .inl (unselected documented true)

/-- A rule that captures a range of ports on the host of its bridge. -/
def sharedHost : ForwardRule where
  bridge := ⟨.v4 (Ipv4Addr.new 203 0 113 5), 51820⟩
  bridgeX25519PubkeyHex := "0000000000000000000000000000000000000000000000000000000000000000"
  licenseToken := "tok"
  destIp := .v4 (Ipv4Addr.new 203 0 113 5)
  destPort := 50000
  listen := ⟨.v4 (Ipv4Addr.new 127 0 0 1), 9000⟩
  protocol := "udp"
  capture := true
  captureDstPortLo := none
  captureDstPortHi := some 60000
  captureDstIp := none

/-- With its capture, whose range has the tunnel's own packets in it, they are spared. -/
theorem sharedHost_spared :
    ∃ capture, (CaptureMode.legacy [sharedHost]).Starts capture ∧
      capture.resolver sharedHost.bridge .udp = .rewriteTo sharedHost.listen ∧
      AddressedTo (udpPacket (Ipv4Addr.new 192 168 1 10) 40000 (Ipv4Addr.new 203 0 113 5) 51820)
        sharedHost.bridge ∧
      Spares capture referenceDriver
        (udpPacket (Ipv4Addr.new 192 168 1 10) 40000 (Ipv4Addr.new 203 0 113 5) 51820) := by
  have addressed : AddressedTo
      (udpPacket (Ipv4Addr.new 192 168 1 10) 40000 (Ipv4Addr.new 203 0 113 5) 51820)
      sharedHost.bridge :=
    ⟨_, udpPacket_fields _ _ _ _, rfl, rfl⟩
  exact ⟨_, rfl, by decide +kernel, addressed,
    no_tunnel_loop referenceDriver referenceDriver_documented (.legacy [sharedHost]) _ rfl
      sharedHost.bridge List.mem_cons_self _ addressed⟩

/-! ## Captured traffic -/

/-- An outbound packet that the rules of a configuration are to redirect: it is sent to no listener
and to no bridge, and this rule is the first that covers it. -/
structure Expected (rules : List ForwardRule) (data : Bytes) (fields : Fields)
    (first : RedirectRule) : Prop where
  /-- It is an IPv4 packet with these fields. -/
  has : HasFields data fields
  /-- The first rule that covers it. -/
  covered : (captureRules rules).find? (fun redirect =>
    redirect.covers ⟨.v4 fields.dstIp, fields.dstPort⟩ fields.protocol) = some first
  /-- No redirect target is its destination. -/
  notTarget : ∀ redirect ∈ captureRules rules,
    redirect.target ≠ ⟨.v4 fields.dstIp, fields.dstPort⟩
  /-- No bridge is its destination. -/
  notBridge : ∀ rule ∈ rules, rule.bridge ≠ ⟨.v4 fields.dstIp, fields.dstPort⟩

/-- An outbound packet is selected, and then redirected. -/
def Captures (capture : WinDivertCapture) (driver : Driver) (data : Bytes) : Prop :=
  capture.Selects driver true data ∧ ∀ flows now, ∃ after out,
    processPacket data true capture.resolver flows now = some (after, some out)

/-- The capture of the rules starts, and no packet they are to redirect is captured. -/
theorem expected_not_captured (driver : Driver) (documented : driver.Documented)
    (rules : List ForwardRule) (data : Bytes) (fields : Fields) (first : RedirectRule)
    (expected : Expected rules data fields first) :
    ∃ capture, installCapture rules = some capture ∧ ¬ Captures capture driver data :=
  ⟨_, installCapture_of_mem (List.mem_of_find?_eq_some expected.covered),
    fun captured => unselected documented true captured.1⟩

/-- A rule for the UDP traffic to a game server. -/
def gameRule : ForwardRule where
  bridge := ⟨.v4 (Ipv4Addr.new 203 0 113 5), 51820⟩
  bridgeX25519PubkeyHex := "0000000000000000000000000000000000000000000000000000000000000000"
  licenseToken := "tok"
  destIp := .v4 (Ipv4Addr.new 18 88 19 234)
  destPort := 22222
  listen := ⟨.v4 (Ipv4Addr.new 127 0 0 1), 9000⟩
  protocol := "udp"
  capture := true
  captureDstPortLo := none
  captureDstPortHi := none
  captureDstIp := none

/-- The redirection of the rule for the game server. -/
def gameRedirect : RedirectRule :=
  ⟨.udp, .v4 (Ipv4Addr.new 18 88 19 234), 22222, 22222, .v4 (Ipv4Addr.new 127 0 0 1), 9000⟩

/-- A UDP packet to the server. -/
def gamePacket : Bytes :=
  udpPacket (Ipv4Addr.new 192 168 1 10) 40000 (Ipv4Addr.new 18 88 19 234) 22222

/-- The rule is to redirect it. -/
theorem gameRule_expected : Expected [gameRule] gamePacket
    ⟨20, .udp, Ipv4Addr.new 18 88 19 234, 40000, 22222⟩ gameRedirect :=
  ⟨udpPacket_fields _ _ _ _, by decide +kernel, by decide +kernel, by decide +kernel⟩

/-- The rule does not capture it. -/
theorem gameRule_uncaptured : ∃ capture, installCapture [gameRule] = some capture ∧
    ¬ Captures capture referenceDriver gamePacket :=
  expected_not_captured referenceDriver referenceDriver_documented [gameRule] _ _ _
    gameRule_expected

/-- A plain rule has no effect. -/
theorem gameRule_ineffective : ¬ ∀ (driver : Driver), driver.Documented →
    ∀ (rules : List ForwardRule) (data : Bytes) (fields : Fields) (first : RedirectRule),
      Expected rules data fields first →
      ∃ capture, installCapture rules = some capture ∧ Captures capture driver data := by
  intro captured
  obtain ⟨capture, _, selects, _⟩ := captured referenceDriver referenceDriver_documented
    [gameRule] _ _ _ gameRule_expected
  exact unselected referenceDriver_documented true selects

end LowPing.Client
