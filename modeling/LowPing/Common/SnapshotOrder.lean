import LowPing.Common.Compiled

/-!
# What a lookup depends on

The published list of ranges comes in no particular order, names a range once for each service and
has entries the program skips. As long as no range is listed for two regions, none of this shows: a
lookup depends on nothing but which ranges are listed for which regions.
-/

namespace LowPing

open Library

/-- No CIDR is listed for two regions. -/
def Unambiguous (raw : List Prefix) : Prop :=
  ∀ cidr first second, (cidr, some first) ∈ raw.filterMap Prefix.entry →
    (cidr, some second) ∈ raw.filterMap Prefix.entry → first = second

/-- A snapshot that lists no CIDR for two regions lists none again after another region. -/
theorem Unambiguous.noReturns {raw : List Prefix} (single : Unambiguous raw) : NoReturns raw := by
  intro cidr first second returns
  exact single cidr first second (returns.subset List.mem_cons_self) (returns.subset (by simp))

namespace AwsLookup

/-- The entries of a table with the names of their regions, in its order. -/
def listing (lookup : AwsLookup) : List (Cidr × Option String) :=
  lookup.prefixes.map fun entry => (entry.toCidr, lookup.region entry)

/-- The order of the table. -/
def ListedBefore (left right : Cidr × Option String) : Prop :=
  left.1.network < right.1.network ∨
    (left.1.network = right.1.network ∧ left.1.maskLen ≤ right.1.maskLen)

section

variable {raw : List Prefix}

/-- A listing is in the order of the table. -/
theorem listing_sorted (lookup : AwsLookup) : lookup.listing.Pairwise ListedBefore := by
  rw [listing, List.pairwise_map]
  exact lookup.sorted

/-- What is listed is what the snapshot lists. -/
theorem mem_listing (few : (loadBundled raw).regions.length ≤ 2 ^ 32)
    (listed : Cidr × Option String) :
    listed ∈ (loadBundled raw).listing ↔ listed ∈ raw.filterMap Prefix.entry := by
  obtain ⟨cidr, region⟩ := listed
  constructor
  · intro member
    obtain ⟨entry, present, same⟩ := List.mem_map.mp member
    obtain ⟨rfl, rfl⟩ := Prod.mk.inj same
    have bound := (loadBundled raw).indexed entry present
    have named : (loadBundled raw).region entry =
        some (loadBundled raw).regions[entry.regionIdx.toNat] := List.getElem?_eq_getElem bound
    obtain ⟨p, source, parsed, same⟩ :=
      (loadBundled_entries few entry.toCidr _).mp ⟨entry, present, rfl, named⟩
    refine List.mem_filterMap.mpr ⟨p, source, ?_⟩
    rw [Prefix.entry, parsed, Option.map_some, named, same]
  · intro member
    obtain ⟨p, source, made⟩ := List.mem_filterMap.mp member
    obtain ⟨parsed, read, same⟩ := Option.map_eq_some_iff.mp made
    obtain ⟨rfl, rfl⟩ := Prod.mk.inj same
    obtain ⟨entry, present, rfl, named⟩ :=
      (loadBundled_entries few parsed p.region).mpr ⟨p, source, read, rfl⟩
    exact List.mem_map.mpr ⟨entry, present, by rw [named]⟩

/-- An unambiguous snapshot is listed without repetitions. -/
theorem listing_nodup (few : (loadBundled raw).regions.length ≤ 2 ^ 32)
    (single : Unambiguous raw) : (loadBundled raw).listing.Nodup := by
  have distinct := (distinct_iff raw).mpr ((nodup_iff few).mpr single.noReturns)
  refine List.Nodup.of_map (fun listed => (listed.1.network, listed.1.maskLen, listed.2)) ?_
  rw [listing, List.map_map]
  exact distinct

/-- Two unambiguous snapshots that list the same give the same listing. -/
theorem listing_eq {other : List Prefix} (few : (loadBundled raw).regions.length ≤ 2 ^ 32)
    (fewOther : (loadBundled other).regions.length ≤ 2 ^ 32) (single : Unambiguous raw)
    (same : ∀ listed, listed ∈ raw.filterMap Prefix.entry ↔
      listed ∈ other.filterMap Prefix.entry) :
    (loadBundled raw).listing = (loadBundled other).listing := by
  have singleOther : Unambiguous other := fun cidr first second left right =>
    single cidr first second ((same _).mpr left) ((same _).mpr right)
  have perm : (loadBundled raw).listing.Perm (loadBundled other).listing :=
    (List.perm_ext_iff_of_nodup (listing_nodup few single)
      (listing_nodup fewOther singleOther)).mpr fun listed => by
        rw [mem_listing few, mem_listing fewOther, same]
  refine List.Perm.eq_of_pairwise ?_ (listing_sorted _) (listing_sorted _) perm
  -- Entries that stand in no order are of one CIDR, which has one region.
  rintro ⟨left, leftRegion⟩ ⟨right, rightRegion⟩ member memberOther before after
  have listedLeft := (mem_listing few _).mp member
  have listedRight := (same _).mpr ((mem_listing fewOther _).mp memberOther)
  have equal : left = right := by
    refine cidr_ext ?_ ?_
    · simp only [ListedBefore, UInt32.lt_iff_toNat_lt, ← UInt32.toNat_inj] at before after ⊢
      omega
    · simp only [ListedBefore, UInt32.lt_iff_toNat_lt, ← UInt32.toNat_inj,
        UInt8.le_iff_toNat_le, ← UInt8.toNat_inj] at before after ⊢
      omega
  subst equal
  obtain ⟨_, _, first⟩ := List.mem_filterMap.mp listedLeft
  obtain ⟨_, _, second⟩ := List.mem_filterMap.mp listedRight
  obtain ⟨_, _, namedLeft⟩ := Option.map_eq_some_iff.mp first
  obtain ⟨_, _, namedRight⟩ := Option.map_eq_some_iff.mp second
  obtain ⟨_, rfl⟩ := Prod.mk.inj namedLeft
  obtain ⟨_, rfl⟩ := Prod.mk.inj namedRight
  rw [single left _ _ listedLeft listedRight]

end

/-! ## The lookup in a listing -/

/-- One turn of the walk, with regions by name. -/
def walkListed (v4 : UInt32) (best : Option (UInt8 × Option String))
    (listed : Cidr × Option String) : Option (UInt8 × Option String) :=
  let p : CompiledPrefix := ⟨listed.1, 0⟩
  if p.network > v4 then best
  else if v4 ≤ saturatingAdd p.network p.netSize then
    if best.all fun held => decide (p.maskLen > held.1) then some (p.maskLen, listed.2) else best
  else best

/-- `region_for` in a listing. -/
def regionListed (listing : List (Cidr × Option String)) (search : Except Nat Nat) :
    IpAddr → Option (Option String)
  | .v6 _ => some none
  | .v4 v =>
    let idx := startIndex search
    match (List.range (min 32 (idx + 1))).foldlM (fun best back =>
        (listing[idx - back]?).map (walkListed v.toU32 best)) none with
    | none => none
    | some none => some none
    | some (some (_, region)) => region.map some

/-- The best entry so far with the name of its region. -/
def nameBest (lookup : AwsLookup) (best : Best) : Option (UInt8 × Option String) :=
  best.map fun (maskLen, idx) => (maskLen, lookup.regions[idx.toNat]?)

/-- A turn of the walk does the same with names. -/
theorem nameBest_walk (lookup : AwsLookup) (v4 : UInt32) (best : Best) (p : CompiledPrefix) :
    lookup.nameBest (CompiledPrefix.walk v4 best p) =
      walkListed v4 (lookup.nameBest best) (p.toCidr, lookup.region p) := by
  have size : (CompiledPrefix.mk p.toCidr 0).netSize = p.netSize := rfl
  have held : (lookup.nameBest best).all (fun held => decide (p.maskLen > held.1)) =
      best.all fun held => decide (p.maskLen > held.1) := by
    cases best with
    | none => rfl
    | some best => rfl
  simp only [CompiledPrefix.walk, walkListed, size, held]
  split
  · rfl
  · split
    · split
      · rfl
      · rfl
    · rfl

/-- The whole walk does the same with names. -/
theorem nameBest_foldlM (lookup : AwsLookup) (v4 : UInt32) (idx : Nat) (backs : List Nat)
    (best : Best) :
    (backs.foldlM (lookup.walk v4 idx) best).map lookup.nameBest =
      backs.foldlM (fun best back => (lookup.listing[idx - back]?).map (walkListed v4 best))
        (lookup.nameBest best) := by
  induction backs generalizing best with
  | nil => rfl
  | cons back backs ih =>
    rw [List.foldlM_cons, List.foldlM_cons, walk, listing, List.getElem?_map]
    cases lookup.prefixes[idx - back]? with
    | none => rfl
    | some p =>
      simp only [Option.map_some, Option.bind_eq_bind, Option.bind_some]
      rw [ih, nameBest_walk]
      rfl

/-- A lookup depends on the listing alone. -/
theorem regionFor_eq (lookup : AwsLookup) (search : Except Nat Nat) (ip : IpAddr) :
    lookup.regionFor search ip = regionListed lookup.listing search ip := by
  cases ip with
  | v6 v => rfl
  | v4 v =>
    have walked := lookup.nameBest_foldlM v.toU32 (startIndex search)
      (List.range (min 32 (startIndex search + 1))) none
    simp only [nameBest, Option.map_none] at walked
    simp only [regionFor, regionListed, ← walked]
    cases (List.range (min 32 (startIndex search + 1))).foldlM
        (lookup.walk v.toU32 (startIndex search)) none with
    | none => rfl
    | some best =>
      cases best with
      | none => rfl
      | some best => rfl

/-- What a search may return depends on the networks alone. -/
theorem searched_networks {left right : List CompiledPrefix} {key : UInt32}
    {search : Except Nat Nat}
    (same : left.map (fun entry => entry.network) = right.map fun entry => entry.network)
    (searched : Searched left key search) : Searched right key search := by
  have within {part other : List CompiledPrefix} {property : UInt32 → Prop}
      (equal : part.map (fun entry => entry.network) = other.map fun entry => entry.network)
      (all : ∀ entry ∈ part, property entry.network) : ∀ entry ∈ other, property entry.network := by
    intro entry member
    have listed : entry.network ∈ part.map fun entry => entry.network := by
      rw [equal]
      exact List.mem_map_of_mem member
    obtain ⟨first, present, network⟩ := List.mem_map.mp listed
    rw [← network]
    exact all first present
  cases searched with
  | found i entry present network =>
    have there : (right.map fun entry => entry.network)[i]? = some key := by
      rw [← same, List.getElem?_map, present, Option.map_some, network]
    rw [List.getElem?_map] at there
    obtain ⟨other, presentOther, networkOther⟩ := Option.map_eq_some_iff.mp there
    exact .found i other presentOther networkOther
  | absent i bound below above =>
    have lengths := congrArg List.length same
    rw [List.length_map, List.length_map] at lengths
    have first : (left.take i).map (fun entry => entry.network) =
        (right.take i).map fun entry => entry.network := by
      rw [List.map_take, List.map_take, same]
    have rest : (left.drop i).map (fun entry => entry.network) =
        (right.drop i).map fun entry => entry.network := by
      rw [List.map_drop, List.map_drop, same]
    exact .absent i (lengths ▸ bound) (@within _ _ (· < key) first below)
      (@within _ _ (key < ·) rest above)

/-- The networks of a table are those of its listing. -/
theorem networks_listing (lookup : AwsLookup) :
    lookup.prefixes.map (fun entry => entry.network) =
      lookup.listing.map fun listed => listed.1.network := by
  rw [listing, List.map_map]
  rfl

/-- Two tables with one listing are searched alike and answer alike. -/
structure Alike (left right : AwsLookup) : Prop where
  /-- They list the same in the same order. -/
  listed : left.listing = right.listing
  /-- A binary search may return the same in both. -/
  searched : ∀ key search, Searched left.prefixes key search ↔ Searched right.prefixes key search
  /-- After the same search an address has the same region, or the lookup panics in both. -/
  answers : ∀ search ip, left.regionFor search ip = right.regionFor search ip

/-- One listing is enough. -/
theorem alike_of_listing {left right : AwsLookup} (same : left.listing = right.listing) :
    left.Alike right where
  listed := same
  searched key search := by
    have networks : left.prefixes.map (fun entry => entry.network) =
        right.prefixes.map fun entry => entry.network := by
      rw [networks_listing, networks_listing, same]
    exact ⟨searched_networks networks, searched_networks networks.symm⟩
  answers search ip := by
    rw [regionFor_eq, regionFor_eq, same]

end AwsLookup

/-- The regions of a snapshot are those listed. -/
theorem mem_parsedRegions {raw : List Prefix} {region : String} :
    region ∈ parsedRegions raw ↔ ∃ cidr, (cidr, some region) ∈ raw.filterMap Prefix.entry := by
  simp only [parsedRegions, List.mem_map, List.mem_filter, Option.isSome_iff_exists,
    List.mem_filterMap, Prefix.entry, Option.map_eq_some_iff, Prod.mk.injEq, Option.some.injEq]
  constructor
  · rintro ⟨p, ⟨source, cidr, parsed⟩, rfl⟩
    exact ⟨cidr, p, source, cidr, parsed, rfl, rfl⟩
  · rintro ⟨_, p, source, cidr, parsed, rfl, rfl⟩
    exact ⟨p, ⟨source, cidr, parsed⟩, rfl⟩

/-- Snapshots that list the same ranges for the same regions, each in any order, any number of times
and among any that do not parse, compile to tables that answer alike, unless a range is listed for
two regions. -/
theorem snapshots_alike (left right : List Prefix)
    (same : ∀ listed, listed ∈ left.filterMap Prefix.entry ↔
      listed ∈ right.filterMap Prefix.entry)
    (single : Unambiguous left) (few : (parsedRegions left).dedup.length ≤ 2 ^ 32) :
    (AwsLookup.loadBundled left).Alike (AwsLookup.loadBundled right) := by
  have regions : (parsedRegions left).dedup.Perm (parsedRegions right).dedup :=
    (List.perm_ext_iff_of_nodup (List.nodup_dedup _) (List.nodup_dedup _)).mpr fun region => by
      rw [List.mem_dedup, List.mem_dedup, mem_parsedRegions, mem_parsedRegions]
      exact exists_congr fun cidr => same _
  have fewLeft : (AwsLookup.loadBundled left).regions.length ≤ 2 ^ 32 := by
    rw [AwsLookup.length_regions]
    exact few
  have fewRight : (AwsLookup.loadBundled right).regions.length ≤ 2 ^ 32 := by
    rw [AwsLookup.length_regions, ← regions.length_eq]
    exact few
  exact AwsLookup.alike_of_listing (AwsLookup.listing_eq fewLeft fewRight single same)

/-- Two ranges of two regions. -/
def twoRanges : List Prefix :=
  [⟨"10.0.0.0/8", "us-east-1"⟩, ⟨"18.88.0.0/18", "eu-west-1"⟩]

/-- The two ranges in another order, one for a second service, with a text that is no range. -/
def shuffledRanges : List Prefix :=
  [⟨"18.88.0.0/18", "eu-west-1"⟩, ⟨"2600::/32", "us-east-1"⟩, ⟨"10.0.0.0/8", "us-east-1"⟩,
    ⟨"18.88.1.2/18", "eu-west-1"⟩]

/-- The tables of the two lists answer alike. -/
theorem shuffledRanges_alike :
    (AwsLookup.loadBundled twoRanges).Alike (AwsLookup.loadBundled shuffledRanges) := by
  have forth : ∀ listed ∈ twoRanges.filterMap Prefix.entry,
      listed ∈ shuffledRanges.filterMap Prefix.entry := by
    decide +kernel
  have back : ∀ listed ∈ shuffledRanges.filterMap Prefix.entry,
      listed ∈ twoRanges.filterMap Prefix.entry := by
    decide +kernel
  have single : ∀ left ∈ twoRanges.filterMap Prefix.entry,
      ∀ right ∈ twoRanges.filterMap Prefix.entry, left.1 = right.1 → left.2 = right.2 := by
    decide +kernel
  refine snapshots_alike _ _ (fun listed => ⟨forth listed, back listed⟩) ?_ (by decide +kernel)
  intro cidr first second left right
  exact Option.some.inj (single _ left _ right rfl)

end LowPing
