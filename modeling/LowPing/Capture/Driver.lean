import LowPing.Capture.Filter
import LowPing.Library.FilterGrammar

/-!
# The driver

The driver that hands packets over is not part of the repository. It is a parameter, of which its
manual says what filters are: `not` stands before a test there, never before a parenthesis, and
parentheses are not empty. Every filter that `build_filter` writes has one or the other, so the
driver opens with none of them.
-/

namespace LowPing.Capture

open Library

/-- The words of a filter that are symbols by themselves. -/
def filterSymbols : List (String × FilterSymbol) :=
  [("true", .constant), ("false", .constant), ("and", .and), ("&&", .and), ("or", .or),
    ("||", .or), ("not", .not), ("!", .not), ("(", .opening), (")", .closing), ("?", .question),
    (":", .colon), ("==", .comparison), ("=", .comparison), ("!=", .comparison),
    ("<", .comparison), (">", .comparison), ("<=", .comparison), (">=", .comparison)]

/-- The symbol of a word. Letters, digits and dots make a field or a value; of a word with any other
character nothing is said. -/
def symbolOf (word : String) : FilterSymbol :=
  (filterSymbols.lookup word).getD
    (if word.toList.all fun c => c.isAlphanum || c = '.' then .word else .other)

/-- The symbols of a text. -/
def textSymbols (text : String) : List FilterSymbol := (textWords text).map symbolOf

/-- The driver. -/
structure Driver where
  /-- Whether `WinDivertOpen` returns a handle for a filter text. -/
  opens : String → Bool
  /-- Whether the handle then hands a packet over, by its direction and bytes. -/
  selects : (text : String) → (outbound : Bool) → (data : Bytes) → Bool

/-- What the driver is documented to do: a text that is no filter is an invalid parameter. -/
structure Driver.Documented (driver : Driver) : Prop where
  /-- It returns no handle for a text whose words are known but make no filter. -/
  refuses : ∀ text, .other ∉ textSymbols text → ¬ IsFilter (textSymbols text) →
    driver.opens text = false

/-- A packet is selected by the filter of a capture. -/
def WinDivertCapture.Selects (capture : WinDivertCapture) (driver : Driver) (outbound : Bool)
    (data : Bytes) : Prop :=
  ∃ text, capture.buildFilter = .ok text ∧ driver.opens text = true ∧
    driver.selects text outbound data = true

/-- A driver that opens with every filter and hands over what satisfies it, as far as it is an
expression over the fields of `build_filter`. -/
noncomputable def referenceDriver : Driver where
  opens text :=
    haveI := Classical.propDecidable (IsFilter (textSymbols text))
    decide (IsFilter (textSymbols text))
  selects text outbound data :=
    match parseFilter text, readFields data, readIpv4 data 12 with
    | some filter, some (some fields), some srcIp =>
      filter.eval (Headers.passes {
        outbound
        ipv4 := some (srcIp, fields.dstIp)
        udpSrcPort := if fields.protocol = .udp then some fields.srcPort else none })
    | _, _, _ => false

/-- The reference driver is as documented. -/
theorem referenceDriver_documented : referenceDriver.Documented where
  refuses _ _ unfit := by
    simp only [referenceDriver, unfit, decide_false]

/-! ## The words of a filter -/

/-- A text whose words are known. -/
def Recognised (text : String) : Prop :=
  ∃ words, Spells text words ∧ ∀ word ∈ words, symbolOf word ≠ .other

/-- A text whose words are known and of which two neighbours fit no filter. -/
def Unfit (text : String) : Prop :=
  ∃ words, Spells text words ∧ (∀ word ∈ words, symbolOf word ≠ .other) ∧ ∃ left right,
    mayFollow (symbolOf left) (symbolOf right) = false ∧ [left, right] <:+: words

section

variable {text more : String}

/-- A known word. -/
theorem recognised_word {word : String} (isPlain : plain word = true)
    (known : symbolOf word ≠ .other) : Recognised word := by
  refine ⟨[word], spells_word isPlain, fun other member => ?_⟩
  rw [List.mem_singleton.mp member]
  exact known

/-- Texts with a blank between them. -/
theorem Recognised.blank (left : Recognised text) (right : Recognised more) :
    Recognised (text ++ " " ++ more) := by
  obtain ⟨words, spells, known⟩ := left
  obtain ⟨others, spellsMore, knownMore⟩ := right
  exact ⟨words ++ others, spells.blank spellsMore, List.forall_mem_append.mpr ⟨known, knownMore⟩⟩

/-- A text in parentheses. -/
theorem Recognised.parenthesised (inner : Recognised text) : Recognised ("(" ++ text ++ ")") := by
  obtain ⟨words, spells, known⟩ := inner
  refine ⟨"(" :: words ++ [")"], spells.parenthesised, ?_⟩
  simp only [List.cons_append, List.forall_mem_cons, List.forall_mem_append, List.not_mem_nil,
    false_implies, implies_true, and_true]
  exact ⟨by decide, known, by decide⟩

/-- Texts joined by `or`, or none at all. -/
theorem recognised_join (texts : List String) (each : ∀ text ∈ texts, Recognised text) :
    Recognised (" or ".intercalate texts) := by
  induction texts with
  | nil => exact ⟨[], fun _ _ => rfl, nofun⟩
  | cons first rest ih =>
    have here := each first List.mem_cons_self
    have later := ih fun text member => each text (List.mem_cons_of_mem _ member)
    cases rest with
    | nil =>
      rw [String.intercalate_singleton]
      exact here
    | cons second rest =>
      rw [intercalate_or]
      exact (here.blank (recognised_word (by decide) (by decide))).blank later

/-- A word of letters, digits and dots is known. -/
theorem symbolOf_ne_other {word : String}
    (spelled : ∀ c ∈ word.toList, (c.isAlphanum || c = '.') = true) : symbolOf word ≠ .other := by
  unfold symbolOf
  rw [if_pos (List.all_eq_true.mpr spelled)]
  cases found : filterSymbols.lookup word with
  | none => simp
  | some symbol =>
    have listed : ∀ entry ∈ filterSymbols, entry.2 ≠ .other := by decide
    obtain ⟨before, after, split, _⟩ := List.lookup_eq_some_iff.mp found
    exact listed (word, symbol) (split ▸ by simp)

/-- A number is a known word. -/
theorem symbolOf_repr (n : Nat) : symbolOf n.repr ≠ .other := by
  refine symbolOf_ne_other fun c member => ?_
  rw [Nat.toList_repr] at member
  have digit := Nat.isDigit_of_mem_toDigits (by decide) (by decide) member
  simp [Char.isAlphanum, digit]

/-- An address is a known word. -/
theorem symbolOf_display (ip : Ipv4Addr) : symbolOf (displayIpv4 ip) ≠ .other := by
  obtain ⟨a, b, c, d, rfl⟩ := Ipv4Addr.exists_new ip
  have numeral (n : Nat) (e : Char) (member : e ∈ n.repr.toList) :
      (e.isAlphanum || e = '.') = true := by
    rw [Nat.toList_repr] at member
    have digit := Nat.isDigit_of_mem_toDigits (by decide) (by decide) member
    simp [Char.isAlphanum, digit]
  refine symbolOf_ne_other fun e member => ?_
  simp only [displayIpv4_new, List.intercalate_cons_cons, List.intercalate_singleton,
    List.mem_append, List.mem_singleton] at member
  rcases member with ((here | rfl) | (here | rfl) | (here | rfl) | here)
  · exact numeral _ e here
  · rfl
  · exact numeral _ e here
  · rfl
  · exact numeral _ e here
  · rfl
  · exact numeral _ e here

/-- A part of the outbound clause. -/
theorem recognised_exclude {addr : SocketAddr} (written : excludeText addr = some text) :
    Recognised text := by
  obtain ⟨ip, port⟩ := addr
  cases ip with
  | v6 ip => contradiction
  | v4 ip =>
    obtain rfl := Option.some.inj written
    have field : "ip.DstAddr == " = "ip.DstAddr" ++ " " ++ "==" ++ " " := by decide
    rw [field]
    exact ((recognised_word (by decide) (by decide)).blank
      (recognised_word (by decide) (by decide))).blank
        (recognised_word (plain_display ip) (symbolOf_display ip))

/-- A part of the inbound clause. -/
theorem recognised_inbound {addr : SocketAddr} (written : inboundText addr = some text) :
    Recognised text := by
  obtain ⟨ip, port⟩ := addr
  cases ip with
  | v6 ip => contradiction
  | v4 ip =>
    obtain rfl := Option.some.inj written
    have first : "(ip.SrcAddr == " = "(" ++ ("ip.SrcAddr" ++ " " ++ "==" ++ " ") := by decide
    have second : " and udp.SrcPort == " =
        " " ++ "and" ++ " " ++ ("udp.SrcPort" ++ " " ++ "==" ++ " ") := by decide
    have word (word : String) (isPlain : plain word = true) (known : symbolOf word ≠ .other) :=
      recognised_word isPlain known
    have whole := ((((((word "ip.SrcAddr" (by decide) (by decide)).blank
      (word "==" (by decide) (by decide))).blank
        (word _ (plain_display ip) (symbolOf_display ip))).blank
          (word "and" (by decide) (by decide))).blank
            (((word "udp.SrcPort" (by decide) (by decide)).blank
              (word "==" (by decide) (by decide))).blank
                (word _ (plain_repr _) (symbolOf_repr port.toNat)))).parenthesised)
    rw [first, second]
    simpa only [String.append_assoc] using whole

/-- A known text in parentheses after `not`. -/
theorem unfit_not (inner : Recognised text) : Unfit ("not" ++ " " ++ ("(" ++ text ++ ")")) := by
  obtain ⟨words, spells, known⟩ := inner
  have negation : Spells "not" ["not"] := spells_word (by decide)
  refine ⟨_, negation.blank spells.parenthesised, ?_, "not", "(", by decide, ?_⟩
  · simp only [List.cons_append, List.nil_append, List.forall_mem_cons, List.forall_mem_append,
      List.not_mem_nil, false_implies, implies_true, and_true]
    exact ⟨by decide, by decide, known, by decide⟩
  · exact ⟨[], words ++ [")"], rfl⟩

/-- An empty pair of parentheses. -/
theorem unfit_empty : Unfit ("(" ++ "" ++ ")") := by
  have nothing : Spells "" [] := fun _ _ => rfl
  exact ⟨_, nothing.parenthesised, by decide, "(", ")", by decide, [], [], rfl⟩

/-- A text with an unfit one at its start. -/
theorem Unfit.blank (left : Unfit text) (right : Recognised more) :
    Unfit (text ++ " " ++ more) := by
  obtain ⟨words, spells, known, first, second, apart, within⟩ := left
  obtain ⟨others, spellsMore, knownMore⟩ := right
  exact ⟨_, spells.blank spellsMore, List.forall_mem_append.mpr ⟨known, knownMore⟩, first, second,
    apart, within.trans (List.prefix_append _ _).isInfix⟩

/-- A text with an unfit one at its end. -/
theorem Unfit.after (right : Unfit more) (left : Recognised text) :
    Unfit (text ++ " " ++ more) := by
  obtain ⟨words, spells, known⟩ := left
  obtain ⟨others, spellsMore, knownMore, first, second, apart, within⟩ := right
  exact ⟨_, spells.blank spellsMore, List.forall_mem_append.mpr ⟨known, knownMore⟩, first, second,
    apart, within.trans (List.suffix_append _ _).isInfix⟩

/-- An unfit text in parentheses. -/
theorem Unfit.parenthesised (inner : Unfit text) : Unfit ("(" ++ text ++ ")") := by
  obtain ⟨words, spells, known, first, second, apart, within⟩ := inner
  refine ⟨_, spells.parenthesised, ?_, first, second, apart,
    within.trans ⟨["("], [")"], rfl⟩⟩
  simp only [List.cons_append, List.forall_mem_cons, List.forall_mem_append, List.not_mem_nil,
    false_implies, implies_true, and_true]
  exact ⟨by decide, known, by decide⟩

/-- An unfit text is no filter. -/
theorem Unfit.refused (unfit : Unfit text) :
    .other ∉ textSymbols text ∧ ¬ IsFilter (textSymbols text) := by
  obtain ⟨words, spells, known, first, second, apart, within⟩ := unfit
  unfold textSymbols
  rw [spells.words]
  refine ⟨fun listed => ?_, not_isFilter apart (within.map symbolOf)⟩
  obtain ⟨word, member, same⟩ := List.mem_map.mp listed
  exact known word member same

/-- Without an IPv4 address nothing is excluded and nothing selected. -/
theorem inboundText_eq_none {addr : SocketAddr} (unwritten : excludeText addr = none) :
    inboundText addr = none := by
  obtain ⟨ip, port⟩ := addr
  cases ip with
  | v4 ip => contradiction
  | v6 ip => rfl

end

/-- No filter that `build_filter` writes is one of the driver's: the exclusions stand in parentheses
after `not`, and where there are none the parentheses of the inbound clause are empty. -/
theorem buildFilter_refused {capture : WinDivertCapture} {text : String}
    (built : capture.buildFilter = .ok text) :
    .other ∉ textSymbols text ∧ ¬ IsFilter (textSymbols text) := by
  apply Unfit.refused
  unfold WinDivertCapture.buildFilter at built
  split at built
  · contradiction
  · obtain rfl := Except.ok.inj built
    have udp : Recognised "udp" := recognised_word (by decide) (by decide)
    have outbound : Recognised "outbound" := recognised_word (by decide) (by decide)
    have inbound : Recognised "inbound" := recognised_word (by decide) (by decide)
    have conjunction : Recognised "and" := recognised_word (by decide) (by decide)
    have disjunction : Recognised "or" := recognised_word (by decide) (by decide)
    have opens : "(udp and outbound" = "(" ++ ("udp" ++ " " ++ "and" ++ " " ++ "outbound") := by
      decide
    have excluding : " and not (" = " " ++ "and" ++ " " ++ ("not" ++ " " ++ "(") := by decide
    have between : ") or (udp and inbound and (" = ")" ++ " " ++ "or" ++ " " ++ "(" ++
        ("udp" ++ " " ++ "and" ++ " " ++ "inbound" ++ " " ++ "and" ++ " ") ++ "(" := by
      decide
    have closes : "))" = ")" ++ ")" := by decide
    rw [opens, between, closes]
    split
    · rename_i none
      -- No endpoint and no target is an IPv4 one.
      have nothing : capture.redirectTargets.filterMap inboundText = [] := by
        have excluded := (List.append_eq_nil_iff.mp (List.isEmpty_iff.mp none)).2
        rw [List.filterMap_eq_nil_iff] at excluded ⊢
        exact fun addr listed => inboundText_eq_none (excluded addr listed)
      have clause := (((((unfit_empty.after conjunction).after inbound).after conjunction).after
        udp)).parenthesised
      have whole := (clause.after disjunction).after
        (((udp.blank conjunction).blank outbound).parenthesised)
      rw [nothing]
      simpa only [String.intercalate_nil, String.append_assoc, String.append_empty] using whole
    · have exclusions : Recognised (" or ".intercalate
          (capture.bridgeEndpoints.filterMap excludeText ++
            capture.redirectTargets.filterMap excludeText)) := by
        refine recognised_join _ fun text member => ?_
        rw [← List.filterMap_append] at member
        obtain ⟨addr, _, written⟩ := List.mem_filterMap.mp member
        exact recognised_exclude written
      have alternatives : Recognised (" or ".intercalate
          (capture.redirectTargets.filterMap inboundText)) := by
        refine recognised_join _ fun text member => ?_
        obtain ⟨addr, _, written⟩ := List.mem_filterMap.mp member
        exact recognised_inbound written
      have clause := ((((unfit_not exclusions).after conjunction).after outbound).after
        conjunction).after udp
      have rest := ((((udp.blank conjunction).blank inbound).blank conjunction).blank
        alternatives.parenthesised).parenthesised
      have whole := (clause.parenthesised.blank disjunction).blank rest
      rw [excluding]
      simpa only [String.append_assoc] using whole

/-- A driver as documented opens with no filter that `build_filter` writes. -/
theorem buildFilter_unopened {driver : Driver} (documented : driver.Documented)
    {capture : WinDivertCapture} {text : String} (built : capture.buildFilter = .ok text) :
    driver.opens text = false := by
  obtain ⟨known, unfit⟩ := buildFilter_refused built
  exact documented.refuses text known unfit

end LowPing.Capture
