import Mathlib.Data.List.AList
import Mathlib.Data.List.Sort
import Mathlib.Data.List.Destutter
import LowPing.Common.Net
import LowPing.Library.Blocks
import LowPing.Library.Dedup

/-!
# AWS region lookup

`gr-common`'s table of AWS address ranges: parsing of the CIDR texts, the table compiled from a
list of raw prefixes, and the lookup of an address in it. The slice's `binary_search_by_key` is the
standard library's; its result is an argument of `regionFor`.
-/

namespace LowPing

/-! ## Address prefixes -/

/-- The mask of a prefix length, as `parse_cidr` shifts it. -/
def networkMask (maskLen : UInt8) : UInt32 :=
  if maskLen = 0 then 0 else 0xFFFFFFFF <<< (32 - maskLen).toUInt32

/-- An IPv4 prefix as `parse_cidr` returns it: no bit of the network is below the mask. -/
structure Cidr where
  /-- First address of the prefix. -/
  network : UInt32
  /-- The number after the slash. -/
  maskLen : UInt8
  /-- At most all bits are masked. -/
  fits : maskLen.toNat ≤ 32
  /-- The network was masked. -/
  aligned : 2 ^ (32 - maskLen.toNat) ∣ network.toNat
  deriving DecidableEq

/-- A mask is shifted by the bits that follow the prefix. -/
theorem toNat_networkMask {maskLen : UInt8} (fits : maskLen.toNat ≤ 32) (nonzero : maskLen ≠ 0) :
    (networkMask maskLen).toNat = 0xFFFFFFFF <<< (32 - maskLen.toNat) % 2 ^ 32 := by
  have positive : 0 < maskLen.toNat :=
    UInt8.lt_iff_toNat_lt.mp (UInt8.pos_iff_ne_zero.mpr nonzero)
  have shift : (32 - maskLen).toUInt32.toNat % 32 = 32 - maskLen.toNat := by
    rw [UInt8.toNat_toUInt32, UInt8.toNat_sub_of_le _ _ (UInt8.le_iff_toNat_le.mpr fits)]
    exact Nat.mod_eq_of_lt (by simp; omega)
  rw [networkMask, if_neg nonzero, UInt32.toNat_shiftLeft, shift]
  rfl

/-- A masked address is a multiple of the prefix's length. -/
theorem dvd_and_networkMask (ip : UInt32) {maskLen : UInt8} (fits : maskLen.toNat ≤ 32) :
    2 ^ (32 - maskLen.toNat) ∣ (ip &&& networkMask maskLen).toNat := by
  by_cases zero : maskLen = 0
  · simp [networkMask, zero]
  · have masked : 0xFFFFFFFF <<< (32 - maskLen.toNat) % 2 ^ 32 % 2 ^ (32 - maskLen.toNat) = 0 := by
      rw [Nat.mod_mod_of_dvd _ (Nat.pow_dvd_pow 2 (by omega)), Nat.shiftLeft_eq,
        Nat.mul_mod_left]
    rw [UInt32.toNat_and, toNat_networkMask fits zero]
    apply Nat.dvd_of_mod_eq_zero
    rw [Nat.and_mod_two_pow, masked, Nat.and_zero]

/-- The value of a decimal digit. -/
def decimalDigit (c : Char) : Option Nat :=
  if '0' ≤ c ∧ c ≤ '9' then some (c.toNat - 48) else none

/-- Decimal digits as a byte; a larger number is an error. -/
def decimalByte (digits : List Char) : Option UInt8 :=
  (digits.foldlM (fun value c => (decimalDigit c).bind fun digit =>
    if value * 10 + digit < 256 then some (value * 10 + digit) else none) 0).map UInt8.ofNat

/-- `u8::from_str`: at least one digit, after an optional plus sign. -/
def parseU8 (s : List Char) : Option UInt8 :=
  let digits := match s with
    | '+' :: rest => rest
    | _ => s
  if digits = [] then none else decimalByte digits

/-- One octet of `Ipv4Addr::from_str`: up to three digits without a leading zero. -/
def parseOctet (s : List Char) : Option UInt8 :=
  if s = [] ∨ 3 < s.length ∨ (1 < s.length ∧ s.head? = some '0') then none else decimalByte s

/-- `Ipv4Addr::from_str`: four octets between dots. -/
def parseIpv4 (s : List Char) : Option Ipv4Addr :=
  match s.splitOn '.' with
  | [first, second, third, fourth] => do
    let a ← parseOctet first
    let b ← parseOctet second
    let c ← parseOctet third
    let d ← parseOctet fourth
    some (Ipv4Addr.new a b c d)
  | _ => none

/-- `str::split_once` at a character. -/
def splitOnce (delimiter : Char) (s : List Char) : Option (List Char × List Char) :=
  match s.dropWhile (· ≠ delimiter) with
  | [] => none
  | _ :: after => some (s.takeWhile (· ≠ delimiter), after)

/-- `u32::from_be_bytes(addr.octets())`. -/
def Ipv4Addr.toU32 (addr : Ipv4Addr) : UInt32 := ofBeBytes32 addr.octets.toList

/-- `parse_cidr`. -/
def parseCidr (s : String) : Option Cidr := do
  let (ip, mask) ← splitOnce '/' s.toList
  let maskLen ← parseU8 mask
  if fits : maskLen.toNat ≤ 32 then
    let ip ← parseIpv4 ip
    some ⟨ip.toU32 &&& networkMask maskLen, maskLen, fits, dvd_and_networkMask ip.toU32 fits⟩
  else none

/-- A text with host bits is masked; a long prefix, a leading zero and a fifth octet are errors. -/
example : (parseCidr "18.88.1.2/18").map (fun cidr => (cidr.network, cidr.maskLen)) =
      some (0x12580000, 18) ∧
    parseCidr "1.2.3.4/33" = none ∧ parseCidr "1.2.03.4/8" = none ∧
    parseCidr "1.2.3.4.5/8" = none ∧ (parseCidr "1.2.3.4/+08").isSome = true := by
  decide +kernel

/-! ## The table -/

/-- The fields of a raw `Prefix` that are compiled. -/
structure Prefix where
  /-- CIDR text. -/
  ipPrefix : String
  /-- Region name. -/
  region : String

/-- `CompiledPrefix`. -/
structure CompiledPrefix extends Cidr where
  /-- Index into the table of regions. -/
  regionIdx : UInt32
  deriving DecidableEq

/-- The order of `sort_by_key(|c| (c.network, c.mask_len))`. -/
def CompiledPrefix.Before (left right : CompiledPrefix) : Prop :=
  left.network < right.network ∨ (left.network = right.network ∧ left.maskLen ≤ right.maskLen)

instance : DecidableRel CompiledPrefix.Before := fun _ _ => inferInstanceAs (Decidable (_ ∨ _))

instance : Std.Total CompiledPrefix.Before where
  total left right := by
    simp only [CompiledPrefix.Before, UInt32.lt_iff_toNat_lt, ← UInt32.toNat_inj,
      UInt8.le_iff_toNat_le]
    omega

instance : IsTrans CompiledPrefix CompiledPrefix.Before where
  trans first second third := by
    simp only [CompiledPrefix.Before, UInt32.lt_iff_toNat_lt, ← UInt32.toNat_inj,
      UInt8.le_iff_toNat_le]
    omega

/-- The local variables of `load_bundled`'s loop. -/
structure Compiling where
  /-- Index of each region seen. -/
  regionToIdx : AList fun _ : String => UInt32
  /-- Regions in order of appearance. -/
  regions : List String
  /-- Prefixes in order of appearance. -/
  compiled : List CompiledPrefix

/-- Before the first prefix. -/
def Compiling.start : Compiling := ⟨∅, [], []⟩

/-- One turn of the loop. A prefix that does not parse is skipped; the index of a new region is
cut to 32 bits. -/
def Compiling.add (state : Compiling) (p : Prefix) : Compiling :=
  match parseCidr p.ipPrefix with
  | none => state
  | some cidr =>
    match state.regionToIdx.lookup p.region with
    | some idx => { state with compiled := state.compiled ++ [⟨cidr, idx⟩] }
    | none =>
      let id := UInt32.ofNat state.regions.length
      { regionToIdx := state.regionToIdx.insert p.region id
        regions := state.regions ++ [p.region]
        compiled := state.compiled ++ [⟨cidr, id⟩] }

/-- Every index the loop has given out is the position of a region. -/
structure Compiling.Indexed (state : Compiling) : Prop where
  /-- In the map. -/
  interned : ∀ region idx, state.regionToIdx.lookup region = some idx →
    idx.toNat < state.regions.length
  /-- In the prefixes. -/
  compiled : ∀ entry ∈ state.compiled, entry.regionIdx.toNat < state.regions.length

/-- One turn keeps the indices in range. -/
theorem Compiling.indexed_add {state : Compiling} (held : state.Indexed) (p : Prefix) :
    (state.add p).Indexed := by
  unfold Compiling.add
  split
  · exact held
  · rename_i cidr parsed
    split
    · rename_i idx known
      refine ⟨held.interned, fun entry member => ?_⟩
      rcases List.mem_append.mp member with before | added
      · exact held.compiled entry before
      · obtain rfl := List.mem_singleton.mp added
        exact held.interned p.region idx known
    · have fresh : (UInt32.ofNat state.regions.length).toNat < state.regions.length + 1 := by
        have cut : (UInt32.ofNat state.regions.length).toNat ≤ state.regions.length := by
          rw [UInt32.toNat_ofNat']
          exact Nat.mod_le _ _
        omega
      constructor
      · intro region idx found
        rw [List.length_append, List.length_singleton]
        by_cases same : region = p.region
        · rw [same, AList.lookup_insert] at found
          obtain rfl := Option.some.inj found
          exact fresh
        · rw [AList.lookup_insert_ne same] at found
          have old := held.interned region idx found
          omega
      · intro entry member
        rw [List.length_append, List.length_singleton]
        rcases List.mem_append.mp member with before | added
        · have old := held.compiled entry before
          omega
        · obtain rfl := List.mem_singleton.mp added
          exact fresh

/-- The whole loop keeps the indices in range. -/
theorem Compiling.indexed_foldl (raw : List Prefix) {state : Compiling} (held : state.Indexed) :
    (raw.foldl Compiling.add state).Indexed := by
  induction raw generalizing state with
  | nil => exact held
  | cons p raw ih => exact ih (indexed_add held p)

/-- No index is given out before the first prefix. -/
theorem Compiling.indexed_start : Compiling.start.Indexed :=
  ⟨fun _ _ found => by simp [start] at found, fun _ member => by contradiction⟩

/-- `AwsLookup`; the fields are private, so every value comes from `load_bundled`. -/
structure AwsLookup where
  /-- Region names. -/
  regions : List String
  /-- Sorted by network ascending, which supports binary search. -/
  prefixes : List CompiledPrefix
  /-- The sort. -/
  sorted : prefixes.Pairwise CompiledPrefix.Before
  /-- Every index is a position of a region. -/
  indexed : ∀ entry ∈ prefixes, entry.regionIdx.toNat < regions.length

/-- `AwsLookup::load_bundled` on the prefixes of the snapshot: a stable sort, then the removal of
consecutive equal entries. -/
def AwsLookup.loadBundled (raw : List Prefix) : AwsLookup where
  regions := (raw.foldl Compiling.add .start).regions
  prefixes := ((raw.foldl Compiling.add .start).compiled.insertionSort
    CompiledPrefix.Before).destutter (· ≠ ·)
  sorted := (List.pairwise_insertionSort CompiledPrefix.Before _).sublist
    (List.destutter_sublist _ _)
  indexed entry member := (Compiling.indexed_foldl raw Compiling.indexed_start).compiled entry
    ((List.mem_insertionSort _).mp ((List.destutter_sublist _ _).subset member))

/-- The region of an entry. -/
def AwsLookup.region (lookup : AwsLookup) (entry : CompiledPrefix) : Option String :=
  lookup.regions[entry.regionIdx.toNat]?

/-- The prefixes compiled so far, with the regions their indices stand for. -/
def Compiling.entries (state : Compiling) : List (Cidr × Option String) :=
  state.compiled.map fun entry => (entry.toCidr, state.regions[entry.regionIdx.toNat]?)

/-- What a raw prefix contributes to the table. -/
def Prefix.entry (p : Prefix) : Option (Cidr × Option String) :=
  (parseCidr p.ipPrefix).map fun cidr => (cidr, some p.region)

/-- The map sends each region to its position. -/
def Compiling.Interned (state : Compiling) : Prop :=
  ∀ region idx, state.regionToIdx.lookup region = some idx →
    state.regions[idx.toNat]? = some region

/-- Regions are only added. -/
theorem Compiling.regions_add (state : Compiling) (p : Prefix) :
    state.regions <+: (state.add p).regions := by
  unfold add
  split
  · exact List.prefix_rfl
  · split
    · exact List.prefix_rfl
    · exact List.prefix_append _ _

/-- Regions are only added by the whole loop. -/
theorem Compiling.regions_foldl (raw : List Prefix) (state : Compiling) :
    state.regions <+: (raw.foldl add state).regions := by
  induction raw generalizing state with
  | nil => exact List.prefix_rfl
  | cons p raw ih => exact (regions_add state p).trans (ih (state.add p))

/-- While indices fit 32 bits, one turn adds the entry of its prefix. -/
theorem Compiling.entries_add {state : Compiling} (indexed : state.Indexed)
    (interned : state.Interned) (p : Prefix) (few : (state.add p).regions.length ≤ 2 ^ 32) :
    (state.add p).Interned ∧ (state.add p).entries = state.entries ++ p.entry.toList := by
  cases parsed : parseCidr p.ipPrefix with
  | none =>
    simp only [add, Prefix.entry, parsed, Option.map_none, Option.toList_none, List.append_nil]
    exact ⟨interned, trivial⟩
  | some cidr =>
    cases known : state.regionToIdx.lookup p.region with
    | some idx =>
      have named := interned p.region idx known
      simp only [add, Prefix.entry, parsed, known, Option.map_some, Option.toList_some, entries,
        List.map_append, List.map_cons, List.map_nil, named]
      exact ⟨interned, trivial⟩
    | none =>
      simp only [add, parsed, known, List.length_append, List.length_singleton] at few
      have whole : (UInt32.ofNat state.regions.length).toNat = state.regions.length :=
        UInt32.toNat_ofNat_of_lt' few
      have old {idx : UInt32} (bound : idx.toNat < state.regions.length) :
          (state.regions ++ [p.region])[idx.toNat]? = state.regions[idx.toNat]? :=
        List.getElem?_append_left bound
      simp only [add, Prefix.entry, parsed, known, Option.map_some, Option.toList_some]
      constructor
      · intro region idx found
        dsimp only at found ⊢
        by_cases same : region = p.region
        · rw [same, AList.lookup_insert] at found
          obtain rfl := Option.some.inj found
          rw [whole, List.getElem?_concat_length, same]
        · rw [AList.lookup_insert_ne same] at found
          rw [old (indexed.interned region idx found)]
          exact interned region idx found
      · have kept : state.compiled.map (fun entry =>
            (entry.toCidr, (state.regions ++ [p.region])[entry.regionIdx.toNat]?)) =
            state.entries :=
          List.map_congr_left fun entry member => by rw [old (indexed.compiled entry member)]
        simp only [entries, List.map_append, List.map_cons, List.map_nil, whole,
          List.getElem?_concat_length]
        rw [kept]
        rfl

/-- While indices fit 32 bits, the loop compiles exactly the prefixes that parse. -/
theorem Compiling.entries_foldl (raw : List Prefix) {state : Compiling} (indexed : state.Indexed)
    (interned : state.Interned) (few : (raw.foldl add state).regions.length ≤ 2 ^ 32) :
    (raw.foldl add state).entries = state.entries ++ raw.filterMap Prefix.entry := by
  induction raw generalizing state with
  | nil => simp
  | cons p raw ih =>
    have fewer : (state.add p).regions.length ≤ 2 ^ 32 :=
      Nat.le_trans (regions_foldl raw (state.add p)).length_le few
    obtain ⟨internedNext, added⟩ := entries_add indexed interned p fewer
    rw [List.foldl_cons, ih (indexed_add indexed p) internedNext few, added, List.append_assoc]
    cases compiled : p.entry with
    | none => simp [compiled]
    | some entry => simp [compiled]

/-- The table holds what the loop compiled. -/
theorem AwsLookup.mem_loadBundled {raw : List Prefix} {entry : CompiledPrefix} :
    entry ∈ (loadBundled raw).prefixes ↔ entry ∈ (raw.foldl Compiling.add .start).compiled := by
  rw [loadBundled, Library.mem_destutter_ne, List.mem_insertionSort]

/-- The loop compiles every prefix that parses. -/
theorem Compiling.compiled_foldl (raw : List Prefix) (state : Compiling) :
    (raw.foldl add state).compiled.map CompiledPrefix.toCidr =
      state.compiled.map CompiledPrefix.toCidr ++ raw.filterMap fun p => parseCidr p.ipPrefix := by
  induction raw generalizing state with
  | nil => simp
  | cons p raw ih =>
    rw [List.foldl_cons, ih]
    cases parsed : parseCidr p.ipPrefix with
    | none => simp [add, parsed]
    | some cidr => cases known : state.regionToIdx.lookup p.region <;> simp [add, parsed, known]

/-- The table has entries as soon as some prefix parses. -/
theorem AwsLookup.loadBundled_ne_nil {raw : List Prefix}
    (parses : ∃ p ∈ raw, (parseCidr p.ipPrefix).isSome = true) :
    (loadBundled raw).prefixes ≠ [] := by
  obtain ⟨p, source, some⟩ := parses
  obtain ⟨cidr, parsed⟩ := Option.isSome_iff_exists.mp some
  have listed : cidr ∈ (raw.foldl Compiling.add .start).compiled.map CompiledPrefix.toCidr := by
    rw [Compiling.compiled_foldl]
    exact List.mem_append_right _ (List.mem_filterMap.mpr ⟨p, source, parsed⟩)
  obtain ⟨entry, compiled, _⟩ := List.mem_map.mp listed
  exact List.ne_nil_of_mem (mem_loadBundled.mpr compiled)

/-- The table holds exactly the raw prefixes that parse, with their regions, as long as there are
no more regions than indices. -/
theorem AwsLookup.loadBundled_entries {raw : List Prefix}
    (few : (loadBundled raw).regions.length ≤ 2 ^ 32) (cidr : Cidr) (region : String) :
    (∃ entry ∈ (loadBundled raw).prefixes, entry.toCidr = cidr ∧
        (loadBundled raw).region entry = some region) ↔
      ∃ p ∈ raw, parseCidr p.ipPrefix = some cidr ∧ p.region = region := by
  have listed := Compiling.entries_foldl raw Compiling.indexed_start
    (fun _ _ found => by simp [Compiling.start] at found) few
  have member : (cidr, some region) ∈ (raw.foldl Compiling.add .start).entries ↔
      (cidr, some region) ∈ raw.filterMap Prefix.entry := by
    rw [listed]
    simp [Compiling.entries, Compiling.start]
  simp only [Compiling.entries, List.mem_map, List.mem_filterMap, Prefix.entry,
    Option.map_eq_some_iff, Prod.mk.injEq, Option.some.injEq] at member
  simp only [mem_loadBundled]
  constructor
  · rintro ⟨entry, known, same, named⟩
    obtain ⟨p, source, _, parsed, rfl, rfl⟩ := member.mp ⟨entry, known, same, named⟩
    exact ⟨p, source, parsed, rfl⟩
  · rintro ⟨p, source, parsed, rfl⟩
    obtain ⟨entry, known, same, named⟩ := member.mpr ⟨p, source, cidr, parsed, rfl, rfl⟩
    exact ⟨entry, known, same, named⟩

/-! ## The lookup -/

/-- `u32::saturating_add`. -/
def saturatingAdd (left right : UInt32) : UInt32 :=
  if left.toNat + right.toNat < 2 ^ 32 then left + right else 0xFFFFFFFF

/-- `net_size`: the addresses of a prefix after its first. -/
def CompiledPrefix.netSize (entry : CompiledPrefix) : UInt32 :=
  let hostBits := 32 - entry.maskLen.toNat
  if hostBits = 32 then 0xFFFFFFFF else (1 <<< UInt32.ofNat hostBits) - 1

/-- The best entry so far, as mask length and region index. -/
abbrev Best := Option (UInt8 × UInt32)

/-- One turn of the walk at an entry: skip one that starts above the address or ends below it, keep
the longer mask. -/
def CompiledPrefix.walk (v4 : UInt32) (best : Best) (p : CompiledPrefix) : Best :=
  if p.network > v4 then best
  else if v4 ≤ saturatingAdd p.network p.netSize then
    if best.all fun held => decide (p.maskLen > held.1) then some (p.maskLen, p.regionIdx) else best
  else best

/-- One turn of the walk; `none` is the panic of an index out of range. -/
def AwsLookup.walk (lookup : AwsLookup) (v4 : UInt32) (idx : Nat) (best : Best) (back : Nat) :
    Option Best :=
  (lookup.prefixes[idx - back]?).map (CompiledPrefix.walk v4 best)

/-- Where the walk starts, given what the binary search returned. -/
def startIndex : Except Nat Nat → Nat
  | .ok i => i
  | .error i => i - 1

/-- `region_for`, given what the binary search returned; the outer `none` is a panic. -/
def AwsLookup.regionFor (lookup : AwsLookup) (search : Except Nat Nat) :
    IpAddr → Option (Option String)
  | .v6 _ => some none
  | .v4 v =>
    let idx := startIndex search
    match (List.range (min 32 (idx + 1))).foldlM (lookup.walk v.toU32 idx) none with
    | none => none
    | some none => some none
    | some (some (_, idx)) => (lookup.regions[idx.toNat]?).map some

/-- What `binary_search_by_key` may return on a sorted table: any entry with the key, or else the
position where it would be inserted. -/
inductive Searched (prefixes : List CompiledPrefix) (key : UInt32) : Except Nat Nat → Prop where
  /-- The key is there. -/
  | found (i : Nat) (entry : CompiledPrefix) (present : prefixes[i]? = some entry)
      (same : entry.network = key) : Searched prefixes key (.ok i)
  /-- It is not. -/
  | absent (i : Nat) (bound : i ≤ prefixes.length)
      (below : ∀ entry ∈ prefixes.take i, entry.network < key)
      (above : ∀ entry ∈ prefixes.drop i, key < entry.network) : Searched prefixes key (.error i)

end LowPing
