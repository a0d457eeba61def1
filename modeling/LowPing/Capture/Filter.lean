import LowPing.Common.AwsRegions
import LowPing.Library.FilterLanguage
import LowPing.Capture.Packet

/-!
# The filter of the capture

`build_filter` writes the expression with which packets are to be selected. As an expression it is
read in the language of all boolean expressions over the three fields and three flags it uses; which
of these the driver takes is a question of its own.
-/

namespace LowPing.Capture

open Library

/-! ## The capture -/

/-- `RedirectRule`. -/
structure RedirectRule where
  /-- The transport. -/
  protocol : Protocol
  /-- The destination. -/
  dstIp : IpAddr
  /-- Inclusive lower port. -/
  dstPortLo : UInt16
  /-- Inclusive upper port. -/
  dstPortHi : UInt16
  /-- Where to redirect to. -/
  redirectToIp : IpAddr
  /-- The port there. -/
  redirectToPort : UInt16
  deriving DecidableEq

/-- Where a rule redirects to. -/
def RedirectRule.target (rule : RedirectRule) : SocketAddr :=
  ⟨rule.redirectToIp, rule.redirectToPort⟩

/-- Whether a rule applies to a packet. -/
def RedirectRule.covers (rule : RedirectRule) (dst : SocketAddr) (protocol : Protocol) : Bool :=
  rule.protocol = protocol && rule.dstIp = dst.ip && rule.dstPortLo ≤ dst.port &&
    dst.port ≤ rule.dstPortHi

/-- `FixedResolver`: the first rule that applies. -/
def fixedResolver : List RedirectRule → Resolver
  | [], _, _ => .passthrough
  | rule :: rules, dst, protocol =>
    if rule.covers dst protocol then .rewriteTo rule.target else fixedResolver rules dst protocol

/-- The fixed resolver answers with the first rule that covers the packet. -/
theorem fixedResolver_eq (rules : List RedirectRule) (dst : SocketAddr) (protocol : Protocol) :
    fixedResolver rules dst protocol =
      match rules.find? fun rule => rule.covers dst protocol with
      | none => .passthrough
      | some rule => .rewriteTo rule.target := by
  induction rules with
  | nil => rfl
  | cons rule rules ih =>
    rw [fixedResolver, List.find?_cons]
    cases rule.covers dst protocol with
    | true => rfl
    | false => exact ih

/-- What `WinDivertCapture` is built from, with its resolver at one moment. -/
structure WinDivertCapture where
  /-- The resolver. -/
  resolver : Resolver
  /-- What it might rewrite to. -/
  redirectTargets : List SocketAddr
  /-- Never captured. -/
  bridgeEndpoints : List SocketAddr

/-- `WinDivertCapture::with_rules`. -/
def WinDivertCapture.withRules (rules : List RedirectRule) (bridgeEndpoints : List SocketAddr) :
    WinDivertCapture where
  resolver := fixedResolver rules
  redirectTargets := rules.map RedirectRule.target
  bridgeEndpoints

/-- `WinDivertCapture::new`. -/
def WinDivertCapture.new (rules : List RedirectRule) : WinDivertCapture := .withRules rules []

/-- `WinDivertCapture::with_resolver`. -/
def WinDivertCapture.withResolver (resolver : Resolver) (redirectTargets : List SocketAddr)
    (bridgeEndpoints : List SocketAddr) : WinDivertCapture :=
  { resolver, redirectTargets, bridgeEndpoints }

/-- `CaptureError::Other`, the only error `build_filter` returns. -/
structure FilterError where
  /-- Its text. -/
  message : String
  deriving DecidableEq

/-- The text of an address. -/
def displayIpv4 (ip : Ipv4Addr) : String :=
  ".".intercalate (ip.octets.toList.map fun octet => octet.toNat.repr)

/-- One exclusion of the outbound clause. -/
def excludeText (addr : SocketAddr) : Option String :=
  match addr.ip with
  | .v4 ip => some ("ip.DstAddr == " ++ displayIpv4 ip)
  | .v6 _ => none

/-- One target of the inbound clause. -/
def inboundText (addr : SocketAddr) : Option String :=
  match addr.ip with
  | .v4 ip => some ("(ip.SrcAddr == " ++ displayIpv4 ip ++ " and udp.SrcPort == " ++
      addr.port.toNat.repr ++ ")")
  | .v6 _ => none

/-- `build_filter`. -/
def WinDivertCapture.buildFilter (capture : WinDivertCapture) : Except FilterError String :=
  if capture.redirectTargets.isEmpty then
    .error ⟨"no redirect targets — at least one is needed to capture inbound responses"⟩
  else
    let excludes := capture.bridgeEndpoints.filterMap excludeText ++
      capture.redirectTargets.filterMap excludeText
    let excludeClause :=
      if excludes.isEmpty then "" else " and not (" ++ " or ".intercalate excludes ++ ")"
    let inboundTargets := capture.redirectTargets.filterMap inboundText
    let inboundClause := " or ".intercalate inboundTargets
    .ok ("(udp and outbound" ++ excludeClause ++ ") or (udp and inbound and (" ++ inboundClause ++
      "))")

/-! ## The filter language -/

/-- A test of the filter language. -/
inductive PacketTest where
  /-- `udp`. -/
  | udp
  /-- `outbound`. -/
  | outbound
  /-- `inbound`. -/
  | inbound
  /-- `ip.DstAddr`. -/
  | dstAddr (ip : Ipv4Addr)
  /-- `ip.SrcAddr`. -/
  | srcAddr (ip : Ipv4Addr)
  /-- `udp.SrcPort`. -/
  | udpSrcPort (port : UInt16)
  deriving DecidableEq

/-- What the driver has parsed of a packet. -/
structure Headers where
  /-- Its direction. -/
  outbound : Bool
  /-- Source and destination of its IPv4 header. -/
  ipv4 : Option (Ipv4Addr × Ipv4Addr)
  /-- Source port of its UDP header. -/
  udpSrcPort : Option UInt16

/-- Whether a test holds; a test of a header the packet does not have fails. -/
def Headers.passes (headers : Headers) : PacketTest → Bool
  | .udp => headers.udpSrcPort.isSome
  | .outbound => headers.outbound
  | .inbound => !headers.outbound
  | .dstAddr ip => headers.ipv4.any fun addrs => addrs.2 = ip
  | .srcAddr ip => headers.ipv4.any fun addrs => addrs.1 = ip
  | .udpSrcPort port => headers.udpSrcPort = some port

/-- A decimal port. -/
def parsePort (digits : List Char) : Option UInt16 :=
  let value := Nat.ofDigitChars 10 digits 0
  if digits ≠ [] ∧ digits.all Char.isDigit ∧ value < 65536 then some (.ofNat value) else none

/-- A comparison of a field with a value. -/
def comparison (field value : String) : Option PacketTest :=
  if field = "ip.DstAddr" then (parseIpv4 value.toList).map .dstAddr
  else if field = "ip.SrcAddr" then (parseIpv4 value.toList).map .srcAddr
  else if field = "udp.SrcPort" then (parsePort value.toList).map .udpSrcPort
  else none

/-- The words that are tokens of their own. -/
def keywords : List (String × Token PacketTest) :=
  [("(", .opening), (")", .closing), ("and", .and), ("or", .or), ("not", .not),
    ("udp", .test .udp), ("outbound", .test .outbound), ("inbound", .test .inbound)]

/-- The tokens of a sequence of words. -/
def wordTokens : List String → Option (List (Token PacketTest))
  | [] => some []
  | word :: rest =>
    match keywords.lookup word with
    | some token => (wordTokens rest).map (token :: ·)
    | none =>
      match rest with
      | "==" :: value :: rest =>
        (comparison word value).bind fun compared =>
          (wordTokens rest).map (.test compared :: ·)
      | _ => none

/-- The expression a text spells; without one the text is malformed. -/
def parseFilter (text : String) : Option (FilterExpr PacketTest) :=
  (wordTokens (textWords text)).bind readTokens

/-! ## Values and their texts -/

/-- The digits of a number separate nothing and are no dots. -/
theorem digit_plain {n : Nat} {c : Char} (member : c ∈ n.repr.toList) :
    separates c = false ∧ c ≠ '.' := by
  rw [Nat.toList_repr] at member
  have digit := Nat.isDigit_of_mem_toDigits (by decide) (by decide) member
  constructor
  · by_contra separated
    rw [Bool.not_eq_false] at separated
    have cases : c = ' ' ∨ c = '(' ∨ c = ')' := by simpa [separates, or_assoc] using separated
    rcases cases with rfl | rfl | rfl
    · contradiction
    · contradiction
    · contradiction
  · rintro rfl
    contradiction

/-- A number is a word. -/
theorem plain_repr (n : Nat) : plain n.repr = true := by
  have digits : n.repr.toList ≠ [] := by
    rw [Nat.toList_repr]
    exact Nat.toDigits_ne_nil
  simp only [plain, Bool.and_eq_true, Bool.not_eq_true', List.isEmpty_eq_false_iff,
    List.all_eq_true]
  exact ⟨digits, fun c member => (digit_plain member).1⟩

/-- A port is read back from its text. -/
theorem parsePort_repr (port : UInt16) : parsePort port.toNat.repr.toList = some port := by
  rw [Nat.toList_repr]
  have value : Nat.ofDigitChars 10 (Nat.toDigits 10 port.toNat) 0 = port.toNat :=
    Nat.ofDigitChars_ten_toDigits
  have digits : (Nat.toDigits 10 port.toNat).all Char.isDigit = true := by
    rw [List.all_eq_true]
    intro c member
    exact Nat.isDigit_of_mem_toDigits (by decide) (by decide) member
  have bound : port.toNat < 65536 := port.toNat_lt
  rw [parsePort, value, if_pos ⟨Nat.toDigits_ne_nil, digits, bound⟩, UInt16.ofNat_toNat]

/-- An octet is read back from its text. -/
theorem parseOctet_repr (octet : UInt8) : parseOctet octet.toNat.repr.toList = some octet := by
  have every : ∀ n : Fin 256, parseOctet (Nat.toDigits 10 n.val) = some (UInt8.ofNat n.val) := by
    decide +kernel
  rw [Nat.toList_repr, every ⟨octet.toNat, octet.toNat_lt⟩, UInt8.ofNat_toNat]

/-- The four octets of an address. -/
theorem Ipv4Addr.exists_new (ip : Ipv4Addr) : ∃ a b c d, ip = Ipv4Addr.new a b c d := by
  obtain ⟨⟨octets, length⟩⟩ := ip
  match octets, length with
  | [a, b, c, d], _ => exact ⟨a, b, c, d, rfl⟩

/-- The characters of an address. -/
theorem displayIpv4_new (a b c d : UInt8) : (displayIpv4 (Ipv4Addr.new a b c d)).toList =
    ['.'].intercalate
      [a.toNat.repr.toList, b.toNat.repr.toList, c.toNat.repr.toList, d.toNat.repr.toList] := by
  rw [displayIpv4, String.toList_intercalate, List.map_map]
  rfl

/-- An address is read back from its text. -/
theorem parseIpv4_display (ip : Ipv4Addr) : parseIpv4 (displayIpv4 ip).toList = some ip := by
  obtain ⟨a, b, c, d, rfl⟩ := Ipv4Addr.exists_new ip
  have undotted : ∀ digits ∈ [a.toNat.repr.toList, b.toNat.repr.toList, c.toNat.repr.toList,
      d.toNat.repr.toList], '.' ∉ digits := by
    have numeral (n : Nat) : '.' ∉ n.repr.toList := fun dot => (digit_plain dot).2 rfl
    simp only [List.forall_mem_cons, List.not_mem_nil, false_implies, implies_true, and_true]
    exact ⟨numeral _, numeral _, numeral _, numeral _⟩
  have split := List.splitOn_intercalate '.' undotted (by simp)
  rw [parseIpv4, displayIpv4_new, split]
  simp only [parseOctet_repr, Option.bind_eq_bind, Option.bind_some]

/-- An address is a word. -/
theorem plain_display (ip : Ipv4Addr) : plain (displayIpv4 ip) = true := by
  obtain ⟨a, b, c, d, rfl⟩ := Ipv4Addr.exists_new ip
  have numeral (n : Nat) (e : Char) (member : e ∈ n.repr.toList) : separates e = false :=
    (digit_plain member).1
  have first : ['.'].intercalate [a.toNat.repr.toList, b.toNat.repr.toList, c.toNat.repr.toList,
      d.toNat.repr.toList] ≠ [] := by
    simp
  simp only [plain, displayIpv4_new, Bool.and_eq_true, Bool.not_eq_true',
    List.isEmpty_eq_false_iff, List.all_eq_true]
  refine ⟨first, ?_⟩
  intro e member
  simp only [List.intercalate_cons_cons, List.intercalate_singleton, List.mem_append,
    List.mem_singleton] at member
  rcases member with ((here | rfl) | (here | rfl) | (here | rfl) | here)
  · exact numeral _ e here
  · rfl
  · exact numeral _ e here
  · rfl
  · exact numeral _ e here
  · rfl
  · exact numeral _ e here

/-! ## What the filter says -/

/-- A text whose words are tokens. -/
def Phrase (text : String) (tokens : List (Token PacketTest)) : Prop :=
  ∃ words, Spells text words ∧ wordTokens words = some tokens

section

variable {text more : String} {tokens later : List (Token PacketTest)}

/-- A keyword comes first. -/
theorem wordTokens_keyword {word : String} {token : Token PacketTest}
    (known : keywords.lookup word = some token) (rest : List String) :
    wordTokens (word :: rest) = (wordTokens rest).map (token :: ·) := by
  rw [wordTokens.eq_def]
  dsimp only
  rw [known]

/-- Tokens before others are read as they are alone. -/
theorem wordTokens_append {words rest : List String} (first : wordTokens words = some tokens) :
    wordTokens (words ++ rest) = (wordTokens rest).map (tokens ++ ·) := by
  fun_induction wordTokens words generalizing tokens with
  | case1 =>
    obtain rfl := Option.some.inj first
    simp
  | case2 word words token known ih =>
    obtain ⟨after, read, rfl⟩ := Option.map_eq_some_iff.mp first
    rw [List.cons_append, wordTokens_keyword known, ih read, Option.map_map]
    rfl
  | case3 word unknown value words ih =>
    obtain ⟨compared, compares, first⟩ := Option.bind_eq_some_iff.mp first
    obtain ⟨after, read, rfl⟩ := Option.map_eq_some_iff.mp first
    rw [List.cons_append, List.cons_append, List.cons_append, wordTokens, unknown]
    dsimp only
    rw [compares, Option.bind_some, ih read, Option.map_map]
    rfl
  | case4 => contradiction

/-- A keyword is a token. -/
theorem Phrase.keyword {word : String} {token : Token PacketTest} (isPlain : plain word = true)
    (known : keywords.lookup word = some token) : Phrase word [token] := by
  refine ⟨[word], spells_word isPlain, ?_⟩
  rw [wordTokens_keyword known]
  rfl

/-- Texts with a blank between them. -/
theorem Phrase.blank (left : Phrase text tokens) (right : Phrase more later) :
    Phrase (text ++ " " ++ more) (tokens ++ later) := by
  obtain ⟨words, spells, read⟩ := left
  obtain ⟨others, spellsMore, readMore⟩ := right
  refine ⟨words ++ others, spells.blank spellsMore, ?_⟩
  rw [wordTokens_append read, readMore]
  rfl

/-- A text in parentheses. -/
theorem Phrase.parenthesised (inner : Phrase text tokens) :
    Phrase ("(" ++ text ++ ")") (.opening :: tokens ++ [.closing]) := by
  obtain ⟨words, spells, read⟩ := inner
  refine ⟨"(" :: words ++ [")"], spells.parenthesised, ?_⟩
  have opens : wordTokens ["("] = some [.opening] := rfl
  have closes : wordTokens [")"] = some [.closing] := rfl
  have inside : wordTokens (words ++ [")"]) = some (tokens ++ [.closing]) := by
    rw [wordTokens_append read, closes]
    rfl
  have whole : wordTokens (["("] ++ (words ++ [")"])) =
      (wordTokens (words ++ [")"])).map ([.opening] ++ ·) := wordTokens_append opens
  rw [inside] at whole
  exact whole

/-- The first of several texts joined by `or`. -/
theorem intercalate_or (first second : String) (rest : List String) :
    " or ".intercalate (first :: second :: rest) =
      first ++ " " ++ "or" ++ " " ++ " or ".intercalate (second :: rest) := by
  have spaced : " or " = " " ++ "or" ++ " " := by decide
  rw [String.intercalate_cons_cons, spaced]
  simp only [String.append_assoc]

/-- Texts joined by `or`. -/
theorem Phrase.join {ι : Type} (first : ι) (items : List ι) {text : ι → String}
    {spelled : ι → List (Token PacketTest)}
    (each : ∀ item ∈ first :: items, Phrase (text item) (spelled item)) :
    Phrase (" or ".intercalate ((first :: items).map text))
      (spelled first ++ items.flatMap fun item => .or :: spelled item) := by
  induction items generalizing first with
  | nil =>
    rw [List.map_singleton, String.intercalate_singleton, List.flatMap_nil, List.append_nil]
    exact each first List.mem_cons_self
  | cons second items ih =>
    have rest := ih second fun item listed => each item (List.mem_cons_of_mem _ listed)
    have disjunction : Phrase "or" [.or] := Phrase.keyword (by decide) rfl
    have joined := ((each first List.mem_cons_self).blank disjunction).blank rest
    have split : spelled first ++ (second :: items).flatMap (fun item => .or :: spelled item) =
        spelled first ++ [.or] ++
          (spelled second ++ items.flatMap fun item => .or :: spelled item) := by
      simp
    rw [List.map_cons, List.map_cons, intercalate_or, split]
    exact joined

/-- A comparison of a field with a word. -/
theorem Phrase.comparison {field value : String} {compared : PacketTest}
    (fieldPlain : plain field = true) (unknown : keywords.lookup field = none)
    (valuePlain : plain value = true)
    (compares : Capture.comparison field value = some compared) :
    Phrase (field ++ " " ++ "==" ++ " " ++ value) [.test compared] := by
  have equals : Spells "==" ["=="] := spells_word (by decide)
  refine ⟨[field] ++ ["=="] ++ [value],
    ((spells_word fieldPlain).blank equals).blank (spells_word valuePlain), ?_⟩
  have words : [field] ++ ["=="] ++ [value] = [field, "==", value] := rfl
  rw [words, wordTokens, unknown]
  dsimp only
  rw [compares]
  rfl

/-- A phrase that is read as an expression is parsed as it. -/
theorem Phrase.parse {expression : FilterExpr PacketTest} (phrase : Phrase text tokens)
    (reads : ReadsAll tokens expression) : parseFilter text = some expression := by
  obtain ⟨words, spells, read⟩ := phrase
  rw [parseFilter, spells.words, read, Option.bind_some, readTokens_of_readsAll reads]

end

/-- The IPv4 addresses of a list. -/
def ipv4Addrs (addrs : List SocketAddr) : List (Ipv4Addr × UInt16) :=
  addrs.filterMap fun addr =>
    match addr.ip with
    | .v4 ip => some (ip, addr.port)
    | .v6 _ => none

/-- A packet sent to an excluded address. -/
def excluded (addr : Ipv4Addr × UInt16) : FilterExpr PacketTest := .test (.dstAddr addr.1)

/-- A packet that comes from a target. -/
def fromTarget (addr : Ipv4Addr × UInt16) : FilterExpr PacketTest :=
  .and (.test (.srcAddr addr.1)) (.test (.udpSrcPort addr.2))

/-- The expression for lists of excluded addresses and of targets, each with its first member. -/
def captureFilter (out : Ipv4Addr × UInt16) (outs : List (Ipv4Addr × UInt16))
    (target : Ipv4Addr × UInt16) (targets : List (Ipv4Addr × UInt16)) : FilterExpr PacketTest :=
  .or
    (.and (.and (.test .udp) (.test .outbound)) (.not ((excluded out).any (outs.map excluded))))
    (.and (.and (.test .udp) (.test .inbound))
      ((fromTarget target).any (targets.map fromTarget)))

/-- The tokens of an alternative. -/
abbrev tokensOf (addr : Ipv4Addr × UInt16) : List (Token PacketTest) :=
  .opening :: [.test (.srcAddr addr.1), .and, .test (.udpSrcPort addr.2)] ++ [.closing]

section

variable {addr : Ipv4Addr × UInt16}

/-- The text of an exclusion. -/
theorem phrase_excluded (addr : Ipv4Addr × UInt16) :
    Phrase ("ip.DstAddr == " ++ displayIpv4 addr.1) [.test (.dstAddr addr.1)] := by
  have compares : comparison "ip.DstAddr" (displayIpv4 addr.1) = some (.dstAddr addr.1) := by
    rw [comparison, if_pos rfl, parseIpv4_display]
    rfl
  have text : "ip.DstAddr == " = "ip.DstAddr" ++ " " ++ "==" ++ " " := by decide
  rw [text]
  exact Phrase.comparison (by decide) (by decide) (plain_display addr.1) compares

/-- The text of a target. -/
theorem phrase_target (addr : Ipv4Addr × UInt16) :
    Phrase ("(ip.SrcAddr == " ++ displayIpv4 addr.1 ++ " and udp.SrcPort == " ++
      addr.2.toNat.repr ++ ")") (tokensOf addr) := by
  have source : comparison "ip.SrcAddr" (displayIpv4 addr.1) = some (.srcAddr addr.1) := by
    rw [comparison, if_neg (by decide), if_pos rfl, parseIpv4_display]
    rfl
  have port : comparison "udp.SrcPort" addr.2.toNat.repr = some (.udpSrcPort addr.2) := by
    rw [comparison, if_neg (by decide), if_neg (by decide), if_pos rfl, parsePort_repr]
    rfl
  have conjunction : Phrase "and" [.and] := Phrase.keyword (by decide) rfl
  have inner := ((Phrase.comparison (by decide) (by decide) (plain_display addr.1) source).blank
    conjunction).blank (Phrase.comparison (by decide) (by decide) (plain_repr _) port)
  have whole := inner.parenthesised
  have text : "(ip.SrcAddr == " ++ displayIpv4 addr.1 ++ " and udp.SrcPort == " ++
      addr.2.toNat.repr ++ ")" =
      "(" ++ ("ip.SrcAddr" ++ " " ++ "==" ++ " " ++ displayIpv4 addr.1 ++ " " ++ "and" ++ " " ++
        ("udp.SrcPort" ++ " " ++ "==" ++ " " ++ addr.2.toNat.repr)) ++ ")" := by
    have first : "(ip.SrcAddr == " = "(" ++ ("ip.SrcAddr" ++ " " ++ "==" ++ " ") := by decide
    have second : " and udp.SrcPort == " =
        " " ++ "and" ++ " " ++ ("udp.SrcPort" ++ " " ++ "==" ++ " ") := by decide
    rw [first, second]
    simp only [String.append_assoc]
  rw [text]
  exact whole

/-- An exclusion is an operand. -/
theorem reads_excluded (addr : Ipv4Addr × UInt16) :
    Reads [.test (.dstAddr addr.1)] (excluded addr) :=
  reads_test _

/-- A target is an operand. -/
theorem reads_target (addr : Ipv4Addr × UInt16) : Reads (tokensOf addr) (fromTarget addr) := by
  have first := (reads_test (PacketTest.srcAddr addr.1)).factor.factors
  have second := (reads_test (PacketTest.udpSrcPort addr.2)).factor
  exact reads_parenthesised (first.and second).all

/-- The outbound clause. -/
theorem phrase_outbound (out : Ipv4Addr × UInt16) (outs : List (Ipv4Addr × UInt16)) :
    ∃ tokens, Phrase ("(" ++ ("udp" ++ " " ++ "and" ++ " " ++ "outbound" ++ " " ++ "and" ++ " " ++
        "not" ++ " " ++ ("(" ++ " or ".intercalate
          ((out :: outs).map fun addr => "ip.DstAddr == " ++ displayIpv4 addr.1) ++ ")")) ++ ")")
        tokens ∧
      Reads tokens (.and (.and (.test .udp) (.test .outbound))
        (.not ((excluded out).any (outs.map excluded)))) := by
  have udp : Phrase "udp" [.test .udp] := Phrase.keyword (by decide) rfl
  have outbound : Phrase "outbound" [.test .outbound] := Phrase.keyword (by decide) rfl
  have conjunction : Phrase "and" [.and] := Phrase.keyword (by decide) rfl
  have negation : Phrase "not" [.not] := Phrase.keyword (by decide) rfl
  have exclusions := Phrase.join out outs fun addr _ => phrase_excluded addr
  have readsExclusions := (reads_excluded out).all.any outs fun addr _ => reads_excluded addr
  have whole := (((((udp.blank conjunction).blank outbound).blank conjunction).blank
    negation).blank exclusions.parenthesised).parenthesised
  have factors := ((reads_test PacketTest.udp).factor.factors.and
    (reads_test PacketTest.outbound).factor).and (reads_parenthesised readsExclusions).not
  exact ⟨_, whole, reads_parenthesised factors.all⟩

/-- The inbound clause. -/
theorem phrase_inbound (target : Ipv4Addr × UInt16) (targets : List (Ipv4Addr × UInt16)) :
    ∃ tokens, Phrase ("(" ++ ("udp" ++ " " ++ "and" ++ " " ++ "inbound" ++ " " ++ "and" ++ " " ++
        ("(" ++ " or ".intercalate ((target :: targets).map fun addr => "(ip.SrcAddr == " ++
          displayIpv4 addr.1 ++ " and udp.SrcPort == " ++ addr.2.toNat.repr ++ ")") ++ ")")) ++ ")")
        tokens ∧
      Reads tokens (.and (.and (.test .udp) (.test .inbound))
        ((fromTarget target).any (targets.map fromTarget))) := by
  have udp : Phrase "udp" [.test .udp] := Phrase.keyword (by decide) rfl
  have inbound : Phrase "inbound" [.test .inbound] := Phrase.keyword (by decide) rfl
  have conjunction : Phrase "and" [.and] := Phrase.keyword (by decide) rfl
  have alternatives := Phrase.join target targets fun addr _ => phrase_target addr
  have readsAlternatives := (reads_target target).all.any targets fun addr _ => reads_target addr
  have whole := ((((udp.blank conjunction).blank inbound).blank conjunction).blank
    alternatives.parenthesised).parenthesised
  have factors := ((reads_test PacketTest.udp).factor.factors.and
    (reads_test PacketTest.inbound).factor).and (reads_parenthesised readsAlternatives).factor
  exact ⟨_, whole, reads_parenthesised factors.all⟩

/-- The exclusions are those of the IPv4 addresses. -/
theorem filterMap_excludeText (addrs : List SocketAddr) : addrs.filterMap excludeText =
    (ipv4Addrs addrs).map fun addr => "ip.DstAddr == " ++ displayIpv4 addr.1 := by
  rw [ipv4Addrs, List.map_filterMap]
  congr 1
  funext addr
  obtain ⟨ip, port⟩ := addr
  cases ip with
  | v4 ip => rfl
  | v6 ip => rfl

/-- The parts of the inbound clause are written by the IPv4 addresses. -/
theorem filterMap_inboundText (addrs : List SocketAddr) : addrs.filterMap inboundText =
    (ipv4Addrs addrs).map fun addr => "(ip.SrcAddr == " ++ displayIpv4 addr.1 ++
      " and udp.SrcPort == " ++ addr.2.toNat.repr ++ ")" := by
  rw [ipv4Addrs, List.map_filterMap]
  congr 1
  funext addr
  obtain ⟨ip, port⟩ := addr
  cases ip with
  | v4 ip => rfl
  | v6 ip => rfl

/-- With an IPv4 target the filter is a disjunction of the two clauses. -/
theorem buildFilter_parses {capture : WinDivertCapture} {out target : Ipv4Addr × UInt16}
    {outs targets : List (Ipv4Addr × UInt16)}
    (excludes : ipv4Addrs (capture.bridgeEndpoints ++ capture.redirectTargets) = out :: outs)
    (includes : ipv4Addrs capture.redirectTargets = target :: targets) :
    ∃ text, capture.buildFilter = .ok text ∧
      parseFilter text = some (captureFilter out outs target targets) := by
  have present : ¬ capture.redirectTargets.isEmpty = true := by
    intro empty
    rw [List.isEmpty_iff.mp empty] at includes
    contradiction
  obtain ⟨outboundTokens, outbound, readsOutbound⟩ := phrase_outbound out outs
  obtain ⟨inboundTokens, inbound, readsInbound⟩ := phrase_inbound target targets
  have disjunction : Phrase "or" [.or] := Phrase.keyword (by decide) rfl
  have whole := (outbound.blank disjunction).blank inbound
  rw [List.append_assoc, List.singleton_append] at whole
  refine ⟨_, ?_, whole.parse (readsOutbound.all.or readsInbound)⟩
  have opens : "(udp and outbound" = "(" ++ ("udp" ++ " " ++ "and" ++ " " ++ "outbound") := by
    decide
  have excluding : " and not (" = " " ++ "and" ++ " " ++ "not" ++ " " ++ "(" := by decide
  have between : ") or (udp and inbound and (" = ")" ++ " " ++ "or" ++ " " ++ "(" ++
      ("udp" ++ " " ++ "and" ++ " " ++ "inbound" ++ " " ++ "and" ++ " ") ++ "(" := by
    decide
  have closes : "))" = ")" ++ ")" := by decide
  rw [WinDivertCapture.buildFilter, if_neg present]
  dsimp only
  rw [filterMap_inboundText, ← List.filterMap_append, filterMap_excludeText, excludes, includes,
    if_neg (by simp), opens, excluding, between, closes]
  simp only [String.append_assoc]

end

end LowPing.Capture
