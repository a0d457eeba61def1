import LowPing.Capture.Filter

/-!
# Well-formed filters

`build_filter` refuses an empty list of redirect targets, but drops the IPv6 ones only afterwards.
Its filter is an expression, whose inbound part selects what comes from the IPv4 targets, exactly
when there is one; otherwise the inbound clause is an empty pair of parentheses, which no reader
accepts.
-/

namespace LowPing.Capture

open Library

/-- What `build_filter` is for. -/
structure WinDivertCapture.FilterSound (capture : WinDivertCapture) : Prop where
  /-- A filter is an expression with a part for each direction, and the inbound part selects the
  UDP packets that come from an IPv4 target. -/
  selects : ∀ text, capture.buildFilter = .ok text → ∃ outboundPart inboundPart,
    parseFilter text = some (.or outboundPart inboundPart) ∧ ∀ headers : Headers,
      (headers.outbound = false → outboundPart.eval headers.passes = false) ∧
      (inboundPart.eval headers.passes = true ↔ headers.outbound = false ∧ ∃ ip dst port,
        ⟨.v4 ip, port⟩ ∈ capture.redirectTargets ∧ headers.ipv4 = some (ip, dst) ∧
          headers.udpSrcPort = some port)
  /-- Without an IPv4 target there is none. -/
  refuses : (∀ target ∈ capture.redirectTargets, target.isIpv4 = false) → capture.buildFilter =
    .error ⟨"no redirect targets — at least one is needed to capture inbound responses"⟩

section

variable {capture : WinDivertCapture}

/-- The IPv4 addresses of a list are its members. -/
theorem mem_ipv4Addrs {addrs : List SocketAddr} {ip : Ipv4Addr} {port : UInt16} :
    (ip, port) ∈ ipv4Addrs addrs ↔ ⟨.v4 ip, port⟩ ∈ addrs := by
  unfold ipv4Addrs
  rw [List.mem_filterMap]
  constructor
  · rintro ⟨⟨address, found⟩, listed, read⟩
    cases address with
    | v4 other =>
      obtain ⟨rfl, rfl⟩ := Prod.mk.inj (Option.some.inj read)
      exact listed
    | v6 other => contradiction
  · intro listed
    exact ⟨_, listed, rfl⟩

/-- A list has no IPv4 addresses if all of its members are of the other family. -/
theorem ipv4Addrs_eq_nil {addrs : List SocketAddr} :
    ipv4Addrs addrs = [] ↔ ∀ addr ∈ addrs, addr.isIpv4 = false := by
  unfold ipv4Addrs
  rw [List.filterMap_eq_nil_iff]
  refine forall₂_congr fun addr _ => ?_
  obtain ⟨ip, port⟩ := addr
  cases ip with
  | v4 ip => simp [SocketAddr.isIpv4]
  | v6 ip => simp [SocketAddr.isIpv4]

/-- The outbound part selects no inbound packet. -/
theorem outbound_eval {headers : Headers} (inbound : headers.outbound = false)
    (excluded : FilterExpr PacketTest) :
    FilterExpr.eval headers.passes
      (.and (.and (.test .udp) (.test .outbound)) (.not excluded)) = false := by
  simp [FilterExpr.eval, Headers.passes, inbound]

/-- The inbound part selects what comes from a target. -/
theorem inbound_eval (headers : Headers) (target : Ipv4Addr × UInt16)
    (targets : List (Ipv4Addr × UInt16)) :
    FilterExpr.eval headers.passes (.and (.and (.test .udp) (.test .inbound))
        ((fromTarget target).any (targets.map fromTarget))) = true ↔
      headers.outbound = false ∧ ∃ ip dst port, (ip, port) ∈ target :: targets ∧
        headers.ipv4 = some (ip, dst) ∧ headers.udpSrcPort = some port := by
  have comes (addr : Ipv4Addr × UInt16) : (fromTarget addr).eval headers.passes = true ↔
      ∃ dst, headers.ipv4 = some (addr.1, dst) ∧ headers.udpSrcPort = some addr.2 := by
    simp [fromTarget, FilterExpr.eval, Headers.passes, Option.any_eq_true]
  have any : ((fromTarget target).any (targets.map fromTarget)).eval headers.passes = true ↔
      ∃ addr ∈ target :: targets, (fromTarget addr).eval headers.passes = true := by
    rw [FilterExpr.eval_any, ← List.map_cons, List.any_map, List.any_eq_true]
    rfl
  simp only [FilterExpr.eval, Bool.and_eq_true]
  rw [any]
  constructor
  · rintro ⟨⟨_, inbound⟩, ⟨ip, port⟩, listed, passes⟩
    obtain ⟨dst, addresses, source⟩ := (comes (ip, port)).mp passes
    exact ⟨by simpa [Headers.passes] using inbound, ip, dst, port, listed, addresses, source⟩
  · rintro ⟨inbound, ip, dst, port, listed, addresses, source⟩
    refine ⟨⟨?_, ?_⟩, (ip, port), listed, (comes (ip, port)).mpr ⟨dst, addresses, source⟩⟩
    · rw [Headers.passes, source]
      rfl
    · rw [Headers.passes, inbound]
      rfl

/-- An empty text. -/
theorem Phrase.empty : Phrase "" [] := ⟨[], fun _ _ => rfl, rfl⟩

/-- A phrase with an empty pair of parentheses is malformed. -/
theorem Phrase.malformed {text : String} {before after : List (Token PacketTest)}
    (phrase : Phrase text (before ++ .opening :: .closing :: after)) : parseFilter text = none := by
  obtain ⟨words, spells, read⟩ := phrase
  rw [parseFilter, spells.words, read, Option.bind_some, readTokens_empty_parentheses]

/-- The outbound clause is a phrase, whatever it excludes. -/
theorem phrase_outboundClause (excludes : List (Ipv4Addr × UInt16)) :
    ∃ tokens, Phrase ("(udp and outbound" ++
      (if (excludes.map fun addr => "ip.DstAddr == " ++ displayIpv4 addr.1).isEmpty then "" else
        " and not (" ++ " or ".intercalate
          (excludes.map fun addr => "ip.DstAddr == " ++ displayIpv4 addr.1) ++ ")") ++ ")")
      tokens := by
  cases excludes with
  | nil =>
    have udp : Phrase "udp" [.test .udp] := Phrase.keyword (by decide) rfl
    have outbound : Phrase "outbound" [.test .outbound] := Phrase.keyword (by decide) rfl
    have conjunction : Phrase "and" [.and] := Phrase.keyword (by decide) rfl
    exact ⟨_, ((udp.blank conjunction).blank outbound).parenthesised⟩
  | cons out outs =>
    obtain ⟨tokens, phrase, _⟩ := phrase_outbound out outs
    refine ⟨tokens, ?_⟩
    have opens : "(udp and outbound" = "(" ++ ("udp" ++ " " ++ "and" ++ " " ++ "outbound") := by
      decide
    have excluding : " and not (" = " " ++ "and" ++ " " ++ "not" ++ " " ++ "(" := by decide
    rw [if_neg (by simp), opens, excluding]
    simpa only [String.append_assoc] using phrase

/-- Without an IPv4 target the text of a nonempty list is malformed. -/
theorem buildFilter_malformed (nonempty : capture.redirectTargets ≠ [])
    (unaddressed : ∀ target ∈ capture.redirectTargets, target.isIpv4 = false) :
    ∃ text, capture.buildFilter = .ok text ∧ parseFilter text = none := by
  have none : ipv4Addrs capture.redirectTargets = [] := ipv4Addrs_eq_nil.mpr unaddressed
  obtain ⟨outboundTokens, outbound⟩ := phrase_outboundClause (ipv4Addrs capture.bridgeEndpoints)
  have disjunction : Phrase "or" [.or] := Phrase.keyword (by decide) rfl
  have udp : Phrase "udp" [.test .udp] := Phrase.keyword (by decide) rfl
  have inbound : Phrase "inbound" [.test .inbound] := Phrase.keyword (by decide) rfl
  have conjunction : Phrase "and" [.and] := Phrase.keyword (by decide) rfl
  have inboundClause := ((((udp.blank conjunction).blank inbound).blank conjunction).blank
    Phrase.empty.parenthesised).parenthesised
  have whole := (outbound.blank disjunction).blank inboundClause
  simp only [List.append_assoc, List.cons_append, List.nil_append] at whole
  -- What stands before the empty parentheses follows the outbound clause.
  have split := List.append_assoc outboundTokens
    [Token.or, Token.opening, Token.test .udp, Token.and, Token.test .inbound, Token.and]
    [Token.opening, Token.closing, Token.closing]
  simp only [List.cons_append, List.nil_append] at split
  rw [← split] at whole
  refine ⟨_, ?_, whole.malformed⟩
  have between : ") or (udp and inbound and (" = ")" ++ " " ++ "or" ++ " " ++ "(" ++
      ("udp" ++ " " ++ "and" ++ " " ++ "inbound" ++ " " ++ "and" ++ " ") ++ "(" := by
    decide
  have closes : "))" = ")" ++ ")" := by decide
  rw [WinDivertCapture.buildFilter, if_neg (by simpa using nonempty)]
  dsimp only
  rw [filterMap_inboundText, filterMap_excludeText, filterMap_excludeText, none, List.map_nil,
    List.map_nil, List.append_nil, String.intercalate_nil, between, closes]
  simp only [String.append_assoc]

end

/-- The filter is sound exactly when some redirect target is an IPv4 one, or there is none at
all. -/
theorem filterSound_iff (capture : WinDivertCapture) :
    capture.FilterSound ↔
      (capture.redirectTargets ≠ [] →
        ∃ target ∈ capture.redirectTargets, target.isIpv4 = true) := by
  constructor
  · intro sound nonempty
    by_contra missing
    have unaddressed : ∀ target ∈ capture.redirectTargets, target.isIpv4 = false := by
      simpa using missing
    obtain ⟨text, built, _⟩ := buildFilter_malformed nonempty unaddressed
    rw [sound.refuses unaddressed] at built
    contradiction
  · intro addressed
    refine ⟨fun text built => ?_, fun unaddressed => ?_⟩
    · have nonempty : capture.redirectTargets ≠ [] := by
        intro empty
        rw [WinDivertCapture.buildFilter, if_pos (List.isEmpty_iff.mpr empty)] at built
        contradiction
      obtain ⟨target, listed, isIpv4⟩ := addressed nonempty
      have present : ipv4Addrs capture.redirectTargets ≠ [] := by
        intro none
        rw [ipv4Addrs_eq_nil.mp none target listed] at isIpv4
        contradiction
      obtain ⟨first, targets, includes⟩ := List.exists_cons_of_ne_nil present
      have excluding : ipv4Addrs (capture.bridgeEndpoints ++ capture.redirectTargets) ≠ [] := by
        intro none
        rw [ipv4Addrs, List.filterMap_append] at none
        exact present (List.append_eq_nil_iff.mp none).2
      obtain ⟨out, outs, excludes⟩ := List.exists_cons_of_ne_nil excluding
      obtain ⟨_, same, parsed⟩ := buildFilter_parses excludes includes
      obtain rfl := Except.ok.inj (built.symm.trans same)
      refine ⟨_, _, parsed, fun headers => ⟨fun inbound => outbound_eval inbound _, ?_⟩⟩
      rw [inbound_eval, ← includes]
      simp only [mem_ipv4Addrs]
    · have empty : capture.redirectTargets = [] := by
        by_contra nonempty
        obtain ⟨target, listed, isIpv4⟩ := addressed nonempty
        rw [unaddressed target listed] at isIpv4
        contradiction
      rw [WinDivertCapture.buildFilter, if_pos (List.isEmpty_iff.mpr empty)]

/-- A capture whose only listener is on the IPv6 loopback address. -/
def loopbackCapture : WinDivertCapture :=
  .withResolver (fun _ _ => .passthrough)
    [⟨.v6 ⟨[0, 0, 0, 0, 0, 0, 0, 0, 0, 0, 0, 0, 0, 0, 0, 1], rfl⟩, 51000⟩] []

/-- A filter for an IPv6 listener alone has an empty pair of parentheses. -/
theorem loopback_malformed : ¬ ∀ capture : WinDivertCapture, capture.redirectTargets ≠ [] →
    capture.FilterSound := by
  intro sound
  have built : loopbackCapture.buildFilter =
      .ok "(udp and outbound) or (udp and inbound and ())" := rfl
  have malformed : parseFilter "(udp and outbound) or (udp and inbound and ())" = none := by
    decide +kernel
  obtain ⟨_, _, parsed, _⟩ := (sound loopbackCapture (List.cons_ne_nil _ _)).selects _ built
  rw [malformed] at parsed
  contradiction

end LowPing.Capture
