import Mathlib.Data.List.Dedup
import LowPing.Common.AwsRegions

/-!
# The compiled table

`load_bundled` sorts by network and mask length, but removes an entry only if its neighbour is the
same, region included. Entries of one CIDR stay in the order of the snapshot, so one that is listed
for a region, then for another and then for the first again is kept twice. Up to that, and up to the
32 bits of a region's index, the table is what it should be.
-/

namespace LowPing

open Library

/-- The regions of the prefixes that parse. -/
def parsedRegions (raw : List Prefix) : List String :=
  (raw.filter fun p => (parseCidr p.ipPrefix).isSome).map Prefix.region

/-- What the table of a snapshot should be. -/
structure AwsLookup.Compiled (lookup : AwsLookup) (raw : List Prefix) : Prop where
  /-- Sorted by network and mask length. -/
  sorted : lookup.prefixes.Pairwise CompiledPrefix.Before
  /-- No two entries have the same network, mask and region. -/
  distinct : (lookup.prefixes.map fun entry =>
    (entry.network, entry.maskLen, lookup.region entry)).Nodup
  /-- The entries are those of the prefixes that parse. -/
  exact : ∀ network maskLen region,
    (∃ entry ∈ lookup.prefixes, entry.network = network ∧ entry.maskLen = maskLen ∧
        lookup.region entry = some region) ↔
      ∃ p ∈ raw, ∃ cidr, parseCidr p.ipPrefix = some cidr ∧ cidr.network = network ∧
        cidr.maskLen = maskLen ∧ p.region = region
  /-- Region names are distinct. -/
  regions : lookup.regions.Nodup
  /-- Every index is that of a region. -/
  indexed : ∀ entry ∈ lookup.prefixes, (lookup.region entry).isSome = true

/-- No CIDR is listed for a region, then for another and then for the first again. -/
def NoReturns (raw : List Prefix) : Prop :=
  ∀ cidr first second, [(cidr, some first), (cidr, some second), (cidr, some first)].Sublist
    (raw.filterMap Prefix.entry) → first = second

/-! ## Regions -/

namespace Compiling

/-- The map knows the regions seen, and each was pushed once. -/
structure Named (state : Compiling) : Prop where
  /-- The map. -/
  known : ∀ region, region ∈ state.regions ↔ (state.regionToIdx.lookup region).isSome = true
  /-- The regions. -/
  once : state.regions.Nodup

/-- One turn keeps that, and sees the region of a prefix that parses. -/
theorem named_add {state : Compiling} (named : state.Named) (p : Prefix) :
    (state.add p).Named ∧ ∀ region, region ∈ (state.add p).regions ↔
      region ∈ state.regions ∨ region ∈ parsedRegions [p] := by
  unfold add
  cases parsed : parseCidr p.ipPrefix with
  | none =>
    have unparsed : parsedRegions [p] = [] := by simp [parsedRegions, parsed]
    rw [unparsed]
    exact ⟨named, fun region => by simp⟩
  | some cidr =>
    have own : parsedRegions [p] = [p.region] := by simp [parsedRegions, parsed]
    rw [own]
    cases found : state.regionToIdx.lookup p.region with
    | some idx =>
      have here : p.region ∈ state.regions := (named.known _).mpr (by rw [found]; rfl)
      refine ⟨⟨named.known, named.once⟩, fun region => ⟨.inl, ?_⟩⟩
      rintro (before | again)
      · exact before
      · rwa [List.mem_singleton.mp again]
    | none =>
      have unseen : p.region ∉ state.regions := by
        rw [named.known, found]
        exact Bool.false_ne_true
      refine ⟨⟨fun region => ?_, ?_⟩, fun region => List.mem_append⟩
      · dsimp only
        rw [List.mem_append, List.mem_singleton, named.known]
        by_cases same : region = p.region
        · rw [same, AList.lookup_insert]
          exact ⟨fun _ => rfl, fun _ => .inr rfl⟩
        · rw [AList.lookup_insert_ne same]
          exact ⟨fun seen => seen.resolve_right same, .inl⟩
      · rw [List.nodup_append]
        refine ⟨named.once, List.nodup_singleton _, fun region seen other again => ?_⟩
        rw [List.mem_singleton.mp again]
        rintro rfl
        exact unseen seen

/-- The whole loop names every region it has seen. -/
theorem named_foldl (raw : List Prefix) {state : Compiling} (named : state.Named) :
    (raw.foldl add state).Named ∧ ∀ region, region ∈ (raw.foldl add state).regions ↔
      region ∈ state.regions ∨ region ∈ parsedRegions raw := by
  induction raw generalizing state with
  | nil => exact ⟨named, fun region => by simp [parsedRegions]⟩
  | cons p raw ih =>
    obtain ⟨next, added⟩ := named_add named p
    obtain ⟨final, later⟩ := ih next
    have split : parsedRegions (p :: raw) = parsedRegions [p] ++ parsedRegions raw := by
      unfold parsedRegions
      rw [← List.map_append, ← List.filter_append, List.singleton_append]
    refine ⟨final, fun region => ?_⟩
    rw [List.foldl_cons, later, added, split, List.mem_append, or_assoc]

/-- Nothing is named before the first prefix. -/
theorem named_start : start.Named :=
  ⟨fun region => by simp [start], List.nodup_nil⟩

end Compiling

namespace AwsLookup

variable {raw : List Prefix}

/-- The regions of the table are distinct. -/
theorem regions_nodup (raw : List Prefix) : (loadBundled raw).regions.Nodup :=
  (Compiling.named_foldl raw Compiling.named_start).1.once

/-- The regions of the table are those of the prefixes that parse. -/
theorem mem_regions {region : String} :
    region ∈ (loadBundled raw).regions ↔ region ∈ parsedRegions raw := by
  have named := (Compiling.named_foldl raw Compiling.named_start).2 region
  exact named.trans ⟨fun seen => seen.resolve_left List.not_mem_nil, .inr⟩

/-- The table has as many regions as the prefixes that parse. -/
theorem length_regions (raw : List Prefix) :
    (loadBundled raw).regions.length = (parsedRegions raw).dedup.length := by
  refine ((List.perm_ext_iff_of_nodup (regions_nodup raw) (List.nodup_dedup _)).mpr ?_).length_eq
  intro region
  rw [mem_regions, List.mem_dedup]

/-- A prefix is its network and mask length. -/
theorem cidr_ext {left right : Cidr} (network : left.network = right.network)
    (maskLen : left.maskLen = right.maskLen) : left = right := by
  obtain ⟨_, _, _, _⟩ := left
  obtain ⟨_, _, _, _⟩ := right
  dsimp only at network maskLen
  subst network maskLen
  rfl

/-- Entries of one CIDR and one region are the same. -/
theorem entry_ext {left right : CompiledPrefix} (bound : left.regionIdx.toNat <
      (loadBundled raw).regions.length) (network : left.network = right.network)
    (maskLen : left.maskLen = right.maskLen)
    (region : (loadBundled raw).region left = (loadBundled raw).region right) : left = right := by
  have index : left.regionIdx = right.regionIdx :=
    UInt32.toNat_inj.mp ((List.getElem?_inj bound (regions_nodup raw)).mp region)
  have cidr := cidr_ext network maskLen
  obtain ⟨_, _⟩ := left
  obtain ⟨_, _⟩ := right
  dsimp only at cidr index
  subst cidr index
  rfl

/-- The table has no two entries with the same network, mask and region if it has no entry twice. -/
theorem distinct_iff (raw : List Prefix) :
    ((loadBundled raw).prefixes.map fun entry =>
        (entry.network, entry.maskLen, (loadBundled raw).region entry)).Nodup ↔
      (loadBundled raw).prefixes.Nodup := by
  refine ⟨List.Nodup.of_map _, List.Nodup.map_on fun left inLeft right _ same => ?_⟩
  obtain ⟨network, rest⟩ := Prod.mk.inj same
  obtain ⟨maskLen, region⟩ := Prod.mk.inj rest
  exact entry_ext ((loadBundled raw).indexed left inLeft) network maskLen region

/-- With more regions than indices some region has no entry. -/
theorem few_of_exact (compiled : (loadBundled raw).Compiled raw) :
    (loadBundled raw).regions.length ≤ 2 ^ 32 := by
  by_contra many
  have bound : 2 ^ 32 < (loadBundled raw).regions.length := Nat.lt_of_not_le many
  have last : (loadBundled raw).regions[2 ^ 32]? = some (loadBundled raw).regions[2 ^ 32] :=
    List.getElem?_eq_getElem bound
  have seen := mem_regions.mp (List.getElem_mem bound)
  obtain ⟨p, listed, named⟩ := List.mem_map.mp seen
  obtain ⟨source, parses⟩ := List.mem_filter.mp listed
  obtain ⟨cidr, parsed⟩ := Option.isSome_iff_exists.mp parses
  obtain ⟨entry, member, _, _, region⟩ :=
    (compiled.exact cidr.network cidr.maskLen p.region).mpr ⟨p, source, cidr, parsed, rfl, rfl, rfl⟩
  rw [named, ← last] at region
  have index : entry.regionIdx.toNat = 2 ^ 32 :=
    (List.getElem?_inj ((loadBundled raw).indexed entry member) (regions_nodup raw)).mp region
  have small := entry.regionIdx.toNat_lt
  omega

/-- The entries compiled, with their regions, are the prefixes that parse. -/
theorem compiled_entries (few : (loadBundled raw).regions.length ≤ 2 ^ 32) :
    ((raw.foldl Compiling.add .start).compiled.map fun entry =>
      (entry.toCidr, (loadBundled raw).region entry)) = raw.filterMap Prefix.entry := by
  have interned : Compiling.start.Interned := fun _ _ found => by
    simp [Compiling.start] at found
  exact Compiling.entries_foldl raw Compiling.indexed_start interned few

/-- Entries that stand in no order have the same network and mask. -/
theorem network_of_before {left right : CompiledPrefix} (before : left.Before right)
    (after : right.Before left) : left.network = right.network ∧ left.maskLen = right.maskLen := by
  simp only [CompiledPrefix.Before, UInt32.lt_iff_toNat_lt, ← UInt32.toNat_inj,
    UInt8.le_iff_toNat_le, ← UInt8.toNat_inj] at *
  omega

/-- With few regions no entry is kept twice exactly if no region returns. -/
theorem nodup_iff (few : (loadBundled raw).regions.length ≤ 2 ^ 32) :
    (loadBundled raw).prefixes.Nodup ↔ NoReturns raw := by
  have indexed (entry : CompiledPrefix)
      (member : entry ∈ (raw.foldl Compiling.add .start).compiled) :
      entry.regionIdx.toNat < (loadBundled raw).regions.length :=
    (loadBundled raw).indexed entry (mem_loadBundled.mpr member)
  have kept : (loadBundled raw).prefixes =
      ((raw.foldl Compiling.add .start).compiled.insertionSort
        CompiledPrefix.Before).destutter (· ≠ ·) := rfl
  rw [kept, nodup_destutter_insertionSort_iff, NoReturns, ← compiled_entries few]
  constructor
  · intro once cidr first second returns
    obtain ⟨entries, within, same⟩ := List.sublist_map_iff.mp returns
    obtain ⟨left, middle, right, rfl⟩ : ∃ left middle right, entries = [left, middle, right] := by
      have three := congrArg List.length same
      rw [List.length_map] at three
      exact List.length_eq_three.mp three.symm
    simp only [List.map_cons, List.map_nil, List.cons.injEq, Prod.mk.injEq, and_true] at same
    obtain ⟨⟨cidrLeft, regionLeft⟩, ⟨cidrMiddle, regionMiddle⟩, cidrRight, regionRight⟩ := same
    have bound := indexed left (within.subset List.mem_cons_self)
    have back : left = right := by
      refine entry_ext bound ?_ ?_ (regionLeft.symm.trans regionRight)
      · rw [← cidrLeft, ← cidrRight]
      · rw [← cidrLeft, ← cidrRight]
    subst back
    have level : left.Before middle ∧ middle.Before left := by
      simp only [CompiledPrefix.Before, ← cidrLeft, ← cidrMiddle, UInt32.lt_irrefl,
        UInt8.le_refl, and_self, or_true]
    have equal := once left middle level.1 level.2 within
    rw [← equal, ← regionLeft] at regionMiddle
    exact (Option.some.inj regionMiddle).symm
  · intro once first second before after returns
    obtain ⟨network, maskLen⟩ := network_of_before before after
    have bound := indexed first (returns.subset List.mem_cons_self)
    have boundOther := indexed second (returns.subset (by simp))
    have cidr : first.toCidr = second.toCidr := cidr_ext network maskLen
    have named := List.getElem?_eq_getElem bound
    have namedOther := List.getElem?_eq_getElem boundOther
    have listed := returns.map fun entry => (entry.toCidr, (loadBundled raw).region entry)
    simp only [List.map_cons, List.map_nil, ← cidr, region, named, namedOther] at listed
    have region := once _ _ _ listed
    exact entry_ext bound network maskLen (by rw [AwsLookup.region, AwsLookup.region, named,
      namedOther, region])

end AwsLookup

/-- The compiled table is what it should be exactly if no CIDR is listed for a region, then for
another and then for the first again, and the prefixes that parse have no more regions than there
are indices. -/
theorem compiled_iff (raw : List Prefix) : (AwsLookup.loadBundled raw).Compiled raw ↔
    NoReturns raw ∧ (parsedRegions raw).dedup.length ≤ 2 ^ 32 := by
  rw [← AwsLookup.length_regions]
  constructor
  · intro compiled
    have few := AwsLookup.few_of_exact compiled
    have distinct := (AwsLookup.distinct_iff raw).mp compiled.distinct
    exact ⟨(AwsLookup.nodup_iff few).mp distinct, few⟩
  · rintro ⟨once, few⟩
    refine ⟨(AwsLookup.loadBundled raw).sorted,
      (AwsLookup.distinct_iff raw).mpr ((AwsLookup.nodup_iff few).mpr once), ?_,
      AwsLookup.regions_nodup raw, fun entry member => ?_⟩
    · intro network maskLen region
      constructor
      · rintro ⟨entry, member, rfl, rfl, named⟩
        obtain ⟨p, source, parsed, same⟩ := (AwsLookup.loadBundled_entries few entry.toCidr
          region).mp ⟨entry, member, rfl, named⟩
        exact ⟨p, source, entry.toCidr, parsed, rfl, rfl, same⟩
      · rintro ⟨p, source, cidr, parsed, rfl, rfl, same⟩
        obtain ⟨entry, member, rfl, named⟩ := (AwsLookup.loadBundled_entries few cidr region).mpr
          ⟨p, source, parsed, same⟩
        exact ⟨entry, member, rfl, rfl, named⟩
    · have bound := (AwsLookup.loadBundled raw).indexed entry member
      rw [AwsLookup.region, List.getElem?_eq_getElem bound]
      rfl

/-- A prefix listed for one region, for another and for the first again. -/
def returningPrefixes : List Prefix :=
  [⟨"10.0.0.0/8", "us-east-1"⟩, ⟨"10.0.0.0/8", "eu-west-1"⟩, ⟨"10.0.0.0/8", "us-east-1"⟩]

/-- The first and the last of three entries are the same, and the table keeps both. -/
theorem returning_entry_kept_twice : ¬ ∀ raw, (AwsLookup.loadBundled raw).Compiled raw := by
  intro compiled
  have distinct := (compiled returningPrefixes).distinct
  have again : ¬ ((AwsLookup.loadBundled returningPrefixes).prefixes.map fun entry =>
      (entry.network, entry.maskLen,
        (AwsLookup.loadBundled returningPrefixes).region entry)).Nodup := by
    decide +kernel
  exact again distinct

end LowPing
