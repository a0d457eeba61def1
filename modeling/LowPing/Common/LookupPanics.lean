import LowPing.Common.Snapshot
import LowPing.Common.Containment

/-!
# When a lookup panics

`region_for` with every run-time check of the source: the position of the walk, the index into the
prefixes, the arithmetic of a prefix's length and the index into the regions. The bounds of all of
them follow from one fact, that the search points into the table, and a table without entries has
no position to point to.
-/

namespace LowPing

open Library (Checked)
open Library.Checked (index sub toOption_bind toOption_foldlM toOption_index)

/-- One turn of the walk. -/
def AwsLookup.walkChecked (lookup : AwsLookup) (v4 : UInt32) (idx : Nat) (best : Best)
    (back : Nat) : Checked Best := do
  let i ← sub idx back
  let p ← index lookup.prefixes i
  p.walkChecked v4 best

/-- `region_for` with a binary search. A vector has fewer entries than a word has values, so
`idx + 1` needs no check. -/
def AwsLookup.regionForChecked (lookup : AwsLookup) (search : UInt32 → Except Nat Nat) :
    IpAddr → Checked (Option String)
  | .v6 _ => pure none
  | .v4 v => do
    let idx := startIndex (search v.toU32)
    match ← (List.range (min 32 (idx + 1))).foldlM (lookup.walkChecked v.toU32 idx) none with
    | none => pure none
    | some (_, idx) => do
      let region ← index lookup.regions idx.toNat
      pure (some region)

section

variable {lookup : AwsLookup} {v4 : UInt32} {search : UInt32 → Except Nat Nat}

/-- The walk never goes back past the first entry, so a turn can only fail at its index. -/
theorem toOption_walkChecked {idx back : Nat} (inside : back ∈ List.range (min 32 (idx + 1)))
    (best : Best) :
    (lookup.walkChecked v4 idx best back).toOption = lookup.walk v4 idx best back := by
  have bound : back < min 32 (idx + 1) := List.mem_range.mp inside
  have ordered : back ≤ idx := by omega
  have moved : (sub idx back).toOption = some (idx - back) := by
    rw [Checked.sub_eq ordered]
    rfl
  have turned (entry : CompiledPrefix) :
      (entry.walkChecked v4 best).toOption = some (entry.walk v4 best) := by
    rw [walkChecked_eq]
    rfl
  simp only [AwsLookup.walkChecked, AwsLookup.walk, toOption_bind, moved, toOption_index, turned,
    Option.bind_some]
  cases lookup.prefixes[idx - back]? with
  | none => rfl
  | some entry => rfl

/-- The checked lookup is the lookup. -/
theorem toOption_regionForChecked (ip : Ipv4Addr) :
    (lookup.regionForChecked search (.v4 ip)).toOption =
      lookup.regionFor (search ip.toU32) (.v4 ip) := by
  have walked : ((List.range (min 32 (startIndex (search ip.toU32) + 1))).foldlM
      (lookup.walkChecked ip.toU32 (startIndex (search ip.toU32))) none).toOption =
        (List.range (min 32 (startIndex (search ip.toU32) + 1))).foldlM
          (lookup.walk ip.toU32 (startIndex (search ip.toU32))) none :=
    toOption_foldlM (fun _ inside best => toOption_walkChecked inside best) none
  simp only [AwsLookup.regionForChecked, AwsLookup.regionFor, toOption_bind, walked]
  cases (List.range (min 32 (startIndex (search ip.toU32) + 1))).foldlM
      (lookup.walk ip.toU32 (startIndex (search ip.toU32))) none with
  | none => rfl
  | some best =>
    cases best with
    | none => rfl
    | some held =>
      obtain ⟨maskLen, idx⟩ := held
      simp only [Option.bind_some, toOption_bind, toOption_index]
      cases lookup.regions[idx.toNat]? with
      | none => rfl
      | some region => rfl

/-- A search of a table without entries finds nothing at its only position. -/
theorem searched_nil {key : UInt32} {result : Except Nat Nat} (searched : Searched [] key result) :
    result = .error 0 := by
  cases searched with
  | found i entry present same => contradiction
  | absent i bound below above => rw [Nat.le_zero.mp bound]

/-- In a table without entries the walk looks at the first of them all the same. -/
theorem regionForChecked_empty (empty : lookup.prefixes = []) (ip : Ipv4Addr)
    (searched : Searched lookup.prefixes ip.toU32 (search ip.toU32)) :
    lookup.regionForChecked search (.v4 ip) = .error (.index 0 0) := by
  rw [empty] at searched
  have start : startIndex (search ip.toU32) = 0 := by
    rw [searched_nil searched]
    rfl
  have first : (List.range (min 32 (0 + 1))).foldlM (lookup.walkChecked ip.toU32 0) none =
      .error (.index 0 0) := by
    have once : List.range (min 32 (0 + 1)) = [0] := rfl
    rw [once, List.foldlM_cons, AwsLookup.walkChecked, empty]
    rfl
  simp only [AwsLookup.regionForChecked, start, first]
  rfl

/-- In a table with entries every check passes. -/
theorem regionForChecked_ok (nonempty : lookup.prefixes ≠ []) (ip : Ipv4Addr)
    (searched : Searched lookup.prefixes ip.toU32 (search ip.toU32)) :
    ∃ region, lookup.regionForChecked search (.v4 ip) = .ok region := by
  obtain ⟨region, answered⟩ := AwsLookup.regionFor_isSome nonempty searched
  rw [← toOption_regionForChecked] at answered
  cases outcome : lookup.regionForChecked search (.v4 ip) with
  | error failure =>
    rw [outcome] at answered
    contradiction
  | ok found => exact ⟨found, rfl⟩

end

/-- A document of which no prefix parses has a table without entries. -/
theorem AwsLookup.loadBundled_eq_nil {raw : List Prefix}
    (unparsed : ¬ ∃ p ∈ raw, (parseCidr p.ipPrefix).isSome = true) :
    (loadBundled raw).prefixes = [] := by
  apply List.eq_nil_iff_forall_not_mem.mpr
  intro entry member
  have compiled : entry.toCidr ∈ (raw.foldl Compiling.add .start).compiled.map
      CompiledPrefix.toCidr := List.mem_map_of_mem (mem_loadBundled.mp member)
  rw [Compiling.compiled_foldl] at compiled
  have parsed : entry.toCidr ∈ raw.filterMap fun p => parseCidr p.ipPrefix := compiled
  obtain ⟨p, source, found⟩ := List.mem_filterMap.mp parsed
  exact unparsed ⟨p, source, Option.isSome_iff_exists.mpr ⟨_, found⟩⟩

/-- For every document and every address, whatever the binary search returns: the lookup passes all
its checks if and only if some prefix of the document parses or the address is an IPv6 one. -/
theorem lookup_passes_iff (raw : List Prefix) (ip : IpAddr) :
    (∀ search : UInt32 → Except Nat Nat,
      (∀ key, Searched (AwsLookup.loadBundled raw).prefixes key (search key)) →
        ∃ region, (AwsLookup.loadBundled raw).regionForChecked search ip = .ok region) ↔
      (∃ p ∈ raw, (parseCidr p.ipPrefix).isSome = true) ∨ ∃ v6, ip = .v6 v6 := by
  cases ip with
  | v6 v6 => exact ⟨fun _ => .inr ⟨v6, rfl⟩, fun _ search _ => ⟨none, rfl⟩⟩
  | v4 v4 =>
    constructor
    · intro passes
      by_contra neither
      have unparsed : ¬ ∃ p ∈ raw, (parseCidr p.ipPrefix).isSome = true :=
        fun parses => neither (.inl parses)
      have allowed := (AwsLookup.loadBundled raw).searched_searchFront
      have panics := regionForChecked_empty (AwsLookup.loadBundled_eq_nil unparsed) v4
        (allowed v4.toU32)
      obtain ⟨region, passed⟩ := passes _ allowed
      rw [panics] at passed
      contradiction
    · rintro (parses | ⟨v6, impossible⟩) search allowed
      · exact regionForChecked_ok (AwsLookup.loadBundled_ne_nil parses) v4 (allowed v4.toU32)
      · contradiction

/-- A document without prefixes makes every IPv4 lookup panic. -/
theorem empty_document_panics : ¬ ∀ (raw : List Prefix) (ip : IpAddr)
    (search : UInt32 → Except Nat Nat),
    (∀ key, Searched (AwsLookup.loadBundled raw).prefixes key (search key)) →
      ∃ region, (AwsLookup.loadBundled raw).regionForChecked search ip = .ok region := by
  intro passes
  have allowed := (AwsLookup.loadBundled []).searched_searchFront
  obtain ⟨region, passed⟩ := passes [] (.v4 (Ipv4Addr.new 1 1 1 1)) _ allowed
  rw [regionForChecked_empty rfl (Ipv4Addr.new 1 1 1 1) (allowed _)] at passed
  contradiction

end LowPing
