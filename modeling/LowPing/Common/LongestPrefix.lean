import Mathlib.Data.List.TakeWhile
import LowPing.Common.AwsRegions

/-!
# Longest-prefix match

What `region_for` should answer, and exactly when it does. The walk looks at the 32 entries that
end where the binary search points, so it misses a longer prefix further back; and the search may
point at any of several entries that start at the address itself, of which only the last is longest.
-/

namespace LowPing

open Library

/-! ## What the answer should be -/

/-- The addresses of a prefix, as a block of numbers. -/
def CompiledPrefix.block (entry : CompiledPrefix) : AlignedBlock :=
  ⟨entry.network.toNat, 32 - entry.maskLen.toNat, entry.aligned⟩

/-- The CIDR range of an entry contains an address. -/
def CompiledPrefix.Contains (v4 : UInt32) (entry : CompiledPrefix) : Prop :=
  entry.block.Contains v4.toNat

instance (v4 : UInt32) : DecidablePred (CompiledPrefix.Contains v4) := fun _ =>
  inferInstanceAs (Decidable (_ ∧ _))

/-- The rank of an entry in the walk. -/
def CompiledPrefix.rank (entry : CompiledPrefix) : Nat := entry.maskLen.toNat

/-- An entry whose mask is longest among all entries that contain an address. -/
def AwsLookup.Longest (lookup : AwsLookup) (v4 : UInt32) (entry : CompiledPrefix) : Prop :=
  entry ∈ lookup.prefixes ∧ entry.Contains v4 ∧
    ∀ other ∈ lookup.prefixes, other.Contains v4 → other.rank ≤ entry.rank

/-- The region of a longest entry is the answer, and there is no region exactly when no entry
contains the address. -/
structure AwsLookup.Matched (lookup : AwsLookup) (v4 : UInt32) (answer : Option (Option String)) :
    Prop where
  /-- `None` means an address outside the table. -/
  absent : answer = some none ↔ ∀ entry ∈ lookup.prefixes, ¬ entry.Contains v4
  /-- An address inside the table gets the region of a longest entry. -/
  present : (∃ entry ∈ lookup.prefixes, entry.Contains v4) →
    ∃ entry, lookup.Longest v4 entry ∧ answer = some (lookup.region entry)

/-! ## What the walk computes -/

/-- The length of a prefix is one more than the addresses after its first. -/
theorem netSize_toNat (entry : CompiledPrefix) :
    entry.netSize.toNat + 1 = 2 ^ (32 - entry.maskLen.toNat) := by
  unfold CompiledPrefix.netSize
  have small : 32 - entry.maskLen.toNat ≤ 32 := by omega
  generalize 32 - entry.maskLen.toNat = hostBits at small ⊢
  by_cases whole : hostBits = 32
  · subst whole
    rfl
  · have below : hostBits < 32 := by omega
    have power : 2 ^ hostBits < 2 ^ 32 := Nat.pow_lt_pow_right (by decide) below
    have positive : 0 < 2 ^ hostBits := Nat.two_pow_pos hostBits
    have shifted : ((1 : UInt32) <<< UInt32.ofNat hostBits).toNat = 2 ^ hostBits := by
      have cut : (UInt32.ofNat hostBits).toNat % 32 = hostBits := by
        rw [UInt32.toNat_ofNat']
        omega
      rw [UInt32.toNat_shiftLeft, cut, UInt32.toNat_one, Nat.shiftLeft_eq, Nat.one_mul]
      exact Nat.mod_eq_of_lt power
    have one : (1 : UInt32) ≤ 1 <<< UInt32.ofNat hostBits := by
      rw [UInt32.le_iff_toNat_le, shifted, UInt32.toNat_one]
      exact positive
    rw [if_neg whole, UInt32.toNat_sub_of_le _ _ one, shifted, UInt32.toNat_one]
    omega

/-- The test of the walk is membership in the CIDR range. -/
theorem walk_contains (entry : CompiledPrefix) (v4 : UInt32) :
    (¬ entry.network > v4 ∧ v4 ≤ saturatingAdd entry.network entry.netSize) ↔
      entry.Contains v4 := by
  have size := netSize_toNat entry
  have bound := v4.toNat_lt
  have total : (saturatingAdd entry.network entry.netSize).toNat =
      min (entry.network.toNat + entry.netSize.toNat) (2 ^ 32 - 1) := by
    unfold saturatingAdd
    by_cases fits : entry.network.toNat + entry.netSize.toNat < 2 ^ 32
    · rw [if_pos fits, UInt32.toNat_add, Nat.mod_eq_of_lt fits]
      omega
    · rw [if_neg fits]
      have last : (0xFFFFFFFF : UInt32).toNat = 2 ^ 32 - 1 := by decide
      rw [last]
      omega
  rw [gt_iff_lt, UInt32.not_lt, UInt32.le_iff_toNat_le, UInt32.le_iff_toNat_le, total]
  show _ ↔ entry.network.toNat ≤ v4.toNat ∧
    v4.toNat < entry.network.toNat + 2 ^ (32 - entry.maskLen.toNat)
  omega

/-- The entries the walk looks at, in its order. -/
def AwsLookup.window (lookup : AwsLookup) (idx : Nat) : List CompiledPrefix :=
  (lookup.prefixes.take (idx + 1)).reverse.take 32

/-- The walk from a position in the table goes through the window. -/
theorem window_getElem? (lookup : AwsLookup) {idx : Nat} (bound : idx < lookup.prefixes.length) :
    (List.range (min 32 (idx + 1))).map (fun back => lookup.prefixes[idx - back]?) =
      (lookup.window idx).map some := by
  have taken : (lookup.prefixes.take (idx + 1)).length = idx + 1 := by
    rw [List.length_take]
    omega
  apply List.ext_getElem
  · simp only [AwsLookup.window, List.length_map, List.length_range, List.length_take,
      List.length_reverse]
    omega
  · intro back inRange inWindow
    simp only [List.length_map, List.length_range] at inRange
    simp only [AwsLookup.window, List.getElem_map, List.getElem_range, List.getElem_take,
      List.getElem_reverse, taken]
    rw [List.getElem?_eq_getElem (by omega)]
    congr 2

/-- Within the table the walk folds over the entries it looks at. -/
theorem foldlM_walk (lookup : AwsLookup) (v4 : UInt32) (idx : Nat) {backs : List Nat}
    {entries : List CompiledPrefix} (best : Best)
    (present : backs.map (fun back => lookup.prefixes[idx - back]?) = entries.map some) :
    backs.foldlM (lookup.walk v4 idx) best =
      some (entries.foldl (CompiledPrefix.walk v4) best) := by
  induction backs generalizing entries best with
  | nil =>
    obtain rfl : entries = [] := by simpa using present.symm
    rfl
  | cons back backs ih =>
    cases entries with
    | nil => simp at present
    | cons entry entries =>
      obtain ⟨here, later⟩ := List.cons.inj present
      have looked : lookup.prefixes[idx - back]? = some entry := here
      rw [List.foldlM_cons, AwsLookup.walk, looked]
      exact ih _ later

/-- The entry behind the best so far. -/
def CompiledPrefix.asBest (entry : CompiledPrefix) : UInt8 × UInt32 :=
  (entry.maskLen, entry.regionIdx)

/-- One turn of the walk keeps the better entry. -/
theorem walk_better (v4 : UInt32) (best : Option CompiledPrefix) (entry : CompiledPrefix) :
    CompiledPrefix.walk v4 (best.map CompiledPrefix.asBest) entry =
      (better (fun p => decide (p.Contains v4)) CompiledPrefix.rank best entry).map
        CompiledPrefix.asBest := by
  have longer : (best.map CompiledPrefix.asBest).all (fun held => decide (entry.maskLen > held.1)) =
      best.all (fun held => decide (held.rank < entry.rank)) := by
    cases best with
    | none => rfl
    | some held => exact decide_eq_decide.mpr UInt8.lt_iff_toNat_lt
  have covered := walk_contains entry v4
  unfold CompiledPrefix.walk better
  beta_reduce
  rw [longer]
  by_cases inside : entry.Contains v4
  · obtain ⟨starts, ends⟩ := covered.mpr inside
    rw [if_neg starts, if_pos ends, decide_eq_true inside, Bool.true_and]
    split
    · rfl
    · rfl
  · rw [decide_eq_false inside, Bool.false_and]
    by_cases starts : entry.network > v4
    · rw [if_pos starts]
      rfl
    · have ends : ¬ v4 ≤ saturatingAdd entry.network entry.netSize :=
        fun reached => inside (covered.mp ⟨starts, reached⟩)
      rw [if_neg starts, if_neg ends]
      rfl

/-- The walk finds the first entry of longest mask among those that contain the address. -/
theorem foldl_walk (v4 : UInt32) (entries : List CompiledPrefix) :
    entries.foldl (CompiledPrefix.walk v4) none =
      ((entries.filter (·.Contains v4)).argmax CompiledPrefix.rank).map CompiledPrefix.asBest := by
  rw [← foldl_better]
  calc entries.foldl (CompiledPrefix.walk v4) none =
        entries.foldl (CompiledPrefix.walk v4) (Option.map CompiledPrefix.asBest none) := rfl
    _ = _ := List.foldl_hom (Option.map CompiledPrefix.asBest) (walk_better v4)

/-- What the lookup answers, in terms of the entries the walk looks at. -/
theorem regionFor_window (lookup : AwsLookup) {search : Except Nat Nat} (ip : Ipv4Addr)
    (bound : startIndex search < lookup.prefixes.length) :
    lookup.regionFor search (.v4 ip) =
      match ((lookup.window (startIndex search)).filter (·.Contains ip.toU32)).argmax
        CompiledPrefix.rank with
      | none => some none
      | some entry => some (lookup.region entry) := by
  have walked := foldlM_walk lookup ip.toU32 (startIndex search) none (window_getElem? lookup bound)
  rw [foldl_walk] at walked
  simp only [AwsLookup.regionFor, walked]
  cases found : ((lookup.window (startIndex search)).filter (·.Contains ip.toU32)).argmax
      CompiledPrefix.rank with
  | none => rfl
  | some entry =>
    have member : entry ∈ lookup.prefixes := by
      have inWindow := (List.mem_filter.mp (List.argmax_mem found)).1
      exact List.mem_of_mem_take (List.mem_reverse.mp (List.mem_of_mem_take inWindow))
    have indexed := lookup.indexed entry member
    simp [AwsLookup.region, CompiledPrefix.asBest, indexed]

/-! ## When the answer is right -/

/-- The entries the walk looks at, nearest first, for an address at which no entry starts: the last
32 that start below it. -/
def AwsLookup.nearest (lookup : AwsLookup) (v4 : UInt32) : List CompiledPrefix :=
  (lookup.prefixes.filter fun entry => decide (entry.network ≤ v4)).reverse.take 32

/-- An entry has the region of a longest one. -/
def AwsLookup.LongestRegion (lookup : AwsLookup) (v4 : UInt32) (entry : CompiledPrefix) : Prop :=
  ∃ longest, lookup.Longest v4 longest ∧ lookup.region longest = lookup.region entry

/-- No entry contains the address; or some entries start at it, each with the region of a longest
one; or none starts at it, and of the nearest entries the first longest one has such a region. -/
def AwsLookup.Reachable (lookup : AwsLookup) (v4 : UInt32) : Prop :=
  (∀ entry ∈ lookup.prefixes, ¬ entry.Contains v4) ∨
  ((∃ entry ∈ lookup.prefixes, entry.network = v4) ∧
    ∀ entry ∈ lookup.prefixes, entry.network = v4 → lookup.LongestRegion v4 entry) ∨
  ((∀ entry ∈ lookup.prefixes, entry.network ≠ v4) ∧
    ∃ entry ∈ ((lookup.nearest v4).filter (·.Contains v4)).argmax CompiledPrefix.rank,
      lookup.LongestRegion v4 entry)

section

variable {lookup : AwsLookup} {v4 : UInt32} {search : Except Nat Nat} {entry : CompiledPrefix}

/-- An entry contains the address it starts at. -/
theorem contains_network (entry : CompiledPrefix) : entry.Contains entry.network :=
  entry.block.contains_base

/-- Of the entries up to one that starts at the address, none with the address has a longer mask. -/
theorem rank_le_of_before {other : CompiledPrefix} (order : other.Before entry)
    (inside : other.Contains entry.network) : other.rank ≤ entry.rank := by
  rcases order with below | ⟨_, shorter⟩
  · have smaller : 32 - entry.maskLen.toNat < 32 - other.maskLen.toNat :=
      AlignedBlock.size_lt_of_base_lt inside (contains_network entry)
        (UInt32.lt_iff_toNat_lt.mp below)
    unfold CompiledPrefix.rank
    omega
  · exact UInt8.le_iff_toNat_le.mp shorter

/-- A search that finds an entry makes it the best of the walk. -/
theorem found_best {i : Nat} (present : lookup.prefixes[i]? = some entry) :
    ((lookup.window i).filter (·.Contains entry.network)).argmax CompiledPrefix.rank =
      some entry := by
  obtain ⟨bound, here⟩ := List.getElem?_eq_some_iff.mp present
  have upTo : lookup.prefixes.take (i + 1) = lookup.prefixes.take i ++ [entry] := by
    rw [List.take_add_one, present]
    rfl
  have ordered : (lookup.prefixes.take i ++ [entry]).Pairwise CompiledPrefix.Before := by
    rw [← upTo]
    exact lookup.sorted.sublist (List.take_sublist _ _)
  have window : lookup.window i = entry :: (lookup.prefixes.take i).reverse.take 31 := by
    rw [AwsLookup.window, upTo, List.reverse_append]
    rfl
  have itself : decide (entry.Contains entry.network) = true :=
    decide_eq_true (contains_network entry)
  rw [window, List.filter_cons, if_pos itself]
  apply argmax_cons_of_le
  intro other member
  obtain ⟨near, inside⟩ := List.mem_filter.mp member
  have earlier : other ∈ lookup.prefixes.take i :=
    List.mem_reverse.mp (List.mem_of_mem_take near)
  have before :=
    (List.pairwise_append.mp ordered).2.2 other earlier entry (List.mem_singleton_self _)
  exact rank_le_of_before before (of_decide_eq_true inside)

/-- A search that finds nothing points the walk at the nearest entries. -/
theorem absent_window {i : Nat} (below : ∀ entry ∈ lookup.prefixes.take i, entry.network < v4)
    (above : ∀ entry ∈ lookup.prefixes.drop i, v4 < entry.network) :
    (lookup.window (i - 1)).filter (·.Contains v4) =
      (lookup.nearest v4).filter (·.Contains v4) := by
  have kept : lookup.prefixes.filter (fun entry => decide (entry.network ≤ v4)) =
      lookup.prefixes.take i := by
    have low : (lookup.prefixes.take i).filter (fun entry => decide (entry.network ≤ v4)) =
        lookup.prefixes.take i := List.filter_eq_self.mpr fun entry member =>
      decide_eq_true (UInt32.le_of_lt (below entry member))
    have high : (lookup.prefixes.drop i).filter (fun entry => decide (entry.network ≤ v4)) = [] :=
      List.filter_eq_nil_iff.mpr fun entry member => by
        simpa using above entry member
    conv_lhs => rw [← List.take_append_drop i lookup.prefixes]
    rw [List.filter_append, low, high, List.append_nil]
  rw [AwsLookup.nearest, kept, AwsLookup.window]
  cases i with
  | zero =>
    rw [List.take_zero, List.reverse_nil, List.take_nil, List.filter_nil]
    apply List.filter_eq_nil_iff.mpr
    intro entry member inside
    have somewhere := List.mem_of_mem_take (List.mem_reverse.mp (List.mem_of_mem_take member))
    have starts : entry.network.toNat ≤ v4.toNat := (of_decide_eq_true inside).1
    have later := UInt32.lt_iff_toNat_lt.mp (above entry somewhere)
    omega
  | succ i => rfl

/-- A search of a table with entries points into the table. -/
theorem startIndex_lt (nonempty : lookup.prefixes ≠ [])
    (searched : Searched lookup.prefixes v4 search) :
    startIndex search < lookup.prefixes.length := by
  have positive := List.length_pos_iff.mpr nonempty
  cases searched with
  | found i entry present same => exact (List.getElem?_eq_some_iff.mp present).1
  | absent i bound below above =>
    show i - 1 < lookup.prefixes.length
    omega

/-- Some result is allowed for every address at which no entry starts. -/
theorem absent_exists (apart : ∀ entry ∈ lookup.prefixes, entry.network ≠ v4) :
    ∃ i, Searched lookup.prefixes v4 (.error i) := by
  let low := fun entry : CompiledPrefix => decide (entry.network < v4)
  have split : lookup.prefixes.takeWhile low ++ lookup.prefixes.dropWhile low = lookup.prefixes :=
    List.takeWhile_append_dropWhile
  have sorted : (lookup.prefixes.dropWhile low).Pairwise CompiledPrefix.Before :=
    lookup.sorted.sublist (List.dropWhile_sublist low)
  have above : ∀ entry ∈ lookup.prefixes.dropWhile low, v4 < entry.network := by
    cases rest : lookup.prefixes.dropWhile low with
    | nil => simp
    | cons first later =>
      have notLow : ¬ first.network < v4 := by
        have nonempty : lookup.prefixes.dropWhile low ≠ [] := by simp [rest]
        have stopped := List.head_dropWhile_not low nonempty
        simpa [rest, low] using stopped
      have member : first ∈ lookup.prefixes :=
        (List.dropWhile_sublist low).subset (rest ▸ List.mem_cons_self)
      have different := apart first member
      have firstAbove : v4.toNat < first.network.toNat := by
        rw [UInt32.lt_iff_toNat_lt] at notLow
        rw [ne_eq, ← UInt32.toNat_inj] at different
        omega
      rw [rest, List.pairwise_cons] at sorted
      intro entry listed
      rw [UInt32.lt_iff_toNat_lt]
      rcases List.mem_cons.mp listed with rfl | after
      · exact firstAbove
      · rcases sorted.1 entry after with greater | ⟨same, _⟩
        · exact Nat.lt_trans firstAbove (UInt32.lt_iff_toNat_lt.mp greater)
        · rwa [← same]
  have below : ∀ entry ∈ lookup.prefixes.takeWhile low, entry.network < v4 := by
    intro entry listed
    have lower : low entry = true := List.mem_takeWhile_imp listed
    exact of_decide_eq_true lower
  generalize lookup.prefixes.takeWhile low = initial at split below
  generalize lookup.prefixes.dropWhile low = later at split above
  rw [← split]
  refine ⟨initial.length, .absent _ ?_ ?_ ?_⟩
  · rw [List.length_append]
    exact Nat.le_add_right _ _
  · rwa [List.take_left]
  · rwa [List.drop_left]

/-- A region of the table is a region. -/
theorem region_isSome (member : entry ∈ lookup.prefixes) : lookup.region entry ≠ none := by
  have indexed := lookup.indexed entry member
  simp [AwsLookup.region, indexed]

/-- The region of an entry that contains the address is right when a longest one has it. -/
theorem matched_of_region (member : entry ∈ lookup.prefixes) (inside : entry.Contains v4)
    (shared : lookup.LongestRegion v4 entry) :
    lookup.Matched v4 (some (lookup.region entry)) where
  absent := by
    constructor
    · intro none
      exact absurd (Option.some.inj none) (region_isSome member)
    · intro empty
      exact absurd inside (empty entry member)
  present _ := by
    obtain ⟨longest, found, same⟩ := shared
    exact ⟨longest, found, by rw [same]⟩

/-- A right answer that is the region of an entry is the region of a longest one. -/
theorem region_of_matched {holder : CompiledPrefix} (member : holder ∈ lookup.prefixes)
    (inside : holder.Contains v4) (right : lookup.Matched v4 (some (lookup.region entry))) :
    lookup.LongestRegion v4 entry := by
  obtain ⟨longest, found, same⟩ := right.present ⟨holder, member, inside⟩
  exact ⟨longest, found, (Option.some.inj same).symm⟩

/-- Where the search finds an entry, the answer is that entry's region. -/
theorem regionFor_found {ip : Ipv4Addr} {i : Nat} (present : lookup.prefixes[i]? = some entry)
    (same : entry.network = ip.toU32) :
    lookup.regionFor (.ok i) (.v4 ip) = some (lookup.region entry) := by
  have bound : startIndex (.ok i) < lookup.prefixes.length :=
    (List.getElem?_eq_some_iff.mp present).1
  rw [regionFor_window lookup ip bound, ← same, startIndex, found_best present]

/-- Where the search finds no entry, the answer is that of the nearest entries. -/
theorem regionFor_absent {ip : Ipv4Addr} {i : Nat} (nonempty : lookup.prefixes ≠ [])
    (searched : Searched lookup.prefixes ip.toU32 (.error i)) :
    lookup.regionFor (.error i) (.v4 ip) =
      match ((lookup.nearest ip.toU32).filter (·.Contains ip.toU32)).argmax
        CompiledPrefix.rank with
      | none => some none
      | some entry => some (lookup.region entry) := by
  rw [regionFor_window lookup ip (startIndex_lt nonempty searched)]
  cases searched with
  | absent i bound below above => rw [startIndex, absent_window below above]

/-- Outside the table the answer is `None`, whatever the search returns. -/
theorem regionFor_outside {ip : Ipv4Addr} (nonempty : lookup.prefixes ≠ [])
    (searched : Searched lookup.prefixes ip.toU32 search)
    (outside : ∀ entry ∈ lookup.prefixes, ¬ entry.Contains ip.toU32) :
    lookup.regionFor search (.v4 ip) = some none := by
  have nothing : (lookup.window (startIndex search)).filter (·.Contains ip.toU32) = [] := by
    apply List.filter_eq_nil_iff.mpr
    intro entry member inside
    have listed := List.mem_of_mem_take (List.mem_reverse.mp (List.mem_of_mem_take member))
    exact outside entry listed (of_decide_eq_true inside)
  rw [regionFor_window lookup ip (startIndex_lt nonempty searched), nothing]
  rfl

/-- If every allowed search is answered rightly, the right region is reachable. -/
theorem reachable_of_matched {ip : Ipv4Addr} (nonempty : lookup.prefixes ≠ [])
    (right : ∀ search, Searched lookup.prefixes ip.toU32 search →
      lookup.Matched ip.toU32 (lookup.regionFor search (.v4 ip))) :
    lookup.Reachable ip.toU32 := by
  by_cases outside : ∀ entry ∈ lookup.prefixes, ¬ entry.Contains ip.toU32
  · exact .inl outside
  · obtain ⟨holder, member, inside⟩ : ∃ entry ∈ lookup.prefixes, entry.Contains ip.toU32 := by
      simpa using outside
    by_cases starts : ∃ entry ∈ lookup.prefixes, entry.network = ip.toU32
    · refine .inr (.inl ⟨starts, fun entry listed same => ?_⟩)
      obtain ⟨i, present⟩ := List.mem_iff_getElem?.mp listed
      have answer := right (.ok i) (.found i entry present same)
      rw [regionFor_found present same] at answer
      exact region_of_matched member inside answer
    · have apart : ∀ entry ∈ lookup.prefixes, entry.network ≠ ip.toU32 :=
        fun entry listed same => starts ⟨entry, listed, same⟩
      obtain ⟨i, searched⟩ := absent_exists apart
      have answer := right (.error i) searched
      rw [regionFor_absent nonempty searched] at answer
      refine .inr (.inr ⟨apart, ?_⟩)
      cases best : ((lookup.nearest ip.toU32).filter (·.Contains ip.toU32)).argmax
          CompiledPrefix.rank with
      | none =>
        rw [best] at answer
        exact absurd inside (answer.absent.mp rfl holder member)
      | some entry =>
        rw [best] at answer
        exact ⟨entry, rfl, region_of_matched member inside answer⟩

/-- If the right region is reachable, every allowed search is answered rightly. -/
theorem matched_of_reachable {ip : Ipv4Addr} (nonempty : lookup.prefixes ≠ [])
    (reachable : lookup.Reachable ip.toU32)
    (searched : Searched lookup.prefixes ip.toU32 search) :
    lookup.Matched ip.toU32 (lookup.regionFor search (.v4 ip)) := by
  rcases reachable with outside | ⟨⟨start, listed, starts⟩, shared⟩ | ⟨apart, entry, best, shared⟩
  · rw [regionFor_outside nonempty searched outside]
    exact ⟨⟨fun _ => outside, fun _ => rfl⟩, fun ⟨entry, member, inside⟩ =>
      absurd inside (outside entry member)⟩
  · cases searched with
    | found i entry present same =>
      rw [regionFor_found present same]
      have member := List.mem_of_getElem? present
      have inside : entry.Contains ip.toU32 := by
        rw [← same]
        exact contains_network entry
      exact matched_of_region member inside (shared entry member same)
    | absent i bound below above =>
      -- The table has an entry that starts here, so it is below or above the insertion point.
      exfalso
      rw [← List.take_append_drop i lookup.prefixes, List.mem_append] at listed
      rcases listed with before | after
      · have lower := below start before
        rw [starts] at lower
        exact UInt32.lt_irrefl _ lower
      · have higher := above start after
        rw [starts] at higher
        exact UInt32.lt_irrefl _ higher
  · cases searched with
    | found i other present same =>
      exact absurd same (apart other (List.mem_of_getElem? present))
    | absent i bound below above =>
      have answer := regionFor_absent nonempty (.absent i bound below above)
      rw [Option.mem_def.mp best] at answer
      rw [answer]
      obtain ⟨near, inside⟩ := List.mem_filter.mp (List.argmax_mem best)
      have member : entry ∈ lookup.prefixes := List.mem_of_mem_filter
        (List.mem_reverse.mp (List.mem_of_mem_take near))
      exact matched_of_region member (of_decide_eq_true inside) shared

/-- The right region is reachable whenever a longest entry is among the nearest. -/
theorem reachable_of_nearest (apart : ∀ entry ∈ lookup.prefixes, entry.network ≠ v4)
    (longest : lookup.Longest v4 entry) (near : entry ∈ lookup.nearest v4) :
    lookup.Reachable v4 := by
  obtain ⟨member, inside, highest⟩ := longest
  have candidate : entry ∈ (lookup.nearest v4).filter (·.Contains v4) :=
    List.mem_filter.mpr ⟨near, decide_eq_true inside⟩
  cases best : ((lookup.nearest v4).filter (·.Contains v4)).argmax CompiledPrefix.rank with
  | none =>
    rw [List.argmax_eq_none.mp best] at candidate
    contradiction
  | some first =>
    obtain ⟨nearFirst, insideFirst⟩ := List.mem_filter.mp (List.argmax_mem best)
    have listed : first ∈ lookup.prefixes := List.mem_of_mem_filter
      (List.mem_reverse.mp (List.mem_of_mem_take nearFirst))
    have rank := List.le_of_mem_argmax candidate best
    have longestFirst : lookup.Longest v4 first :=
      ⟨listed, of_decide_eq_true insideFirst, fun other known within =>
        Nat.le_trans (highest other known within) rank⟩
    exact .inr (.inr ⟨apart, first, best, first, longestFirst, rfl⟩)

end

/-- The lookup of an address in any table compiled from prefixes of which some parse returns the
region of a longest entry that contains it, and `None` exactly when no entry does, whatever position
the binary search returns, if and only if the right region is reachable. -/
theorem longest_prefix_iff (raw : List Prefix) (ip : Ipv4Addr)
    (parses : ∃ p ∈ raw, (parseCidr p.ipPrefix).isSome = true) :
    (∀ search, Searched (AwsLookup.loadBundled raw).prefixes ip.toU32 search →
      (AwsLookup.loadBundled raw).Matched ip.toU32
        ((AwsLookup.loadBundled raw).regionFor search (.v4 ip))) ↔
      (AwsLookup.loadBundled raw).Reachable ip.toU32 := by
  have nonempty := AwsLookup.loadBundled_ne_nil parses
  exact ⟨reachable_of_matched nonempty, fun reachable _ => matched_of_reachable nonempty reachable⟩

/-- A wide prefix of one region with many narrow ones of another inside. -/
def crowdedPrefixes (narrow : Nat) : List Prefix :=
  ⟨"10.0.0.0/8", "us-east-1"⟩ ::
    (List.range narrow).map fun host => ⟨"10.0.0." ++ toString (host + 1) ++ "/32", "eu-west-1"⟩

/-- An address of the wide prefix, above the narrow ones. -/
def crowdedAddress : Ipv4Addr := Ipv4Addr.new 10 0 1 0

/-- With three narrow prefixes the address gets its region. -/
theorem crowded_matched : (∃ p ∈ crowdedPrefixes 3, (parseCidr p.ipPrefix).isSome = true) ∧
    ∀ search,
      Searched (AwsLookup.loadBundled (crowdedPrefixes 3)).prefixes crowdedAddress.toU32 search →
        (AwsLookup.loadBundled (crowdedPrefixes 3)).Matched crowdedAddress.toU32
          ((AwsLookup.loadBundled (crowdedPrefixes 3)).regionFor search (.v4 crowdedAddress)) := by
  let wide : CompiledPrefix := ⟨⟨0x0A000000, 8, by decide, by decide⟩, 0⟩
  have near : wide ∈ (AwsLookup.loadBundled (crowdedPrefixes 3)).nearest crowdedAddress.toU32 := by
    decide +kernel
  have apart : ∀ entry ∈ (AwsLookup.loadBundled (crowdedPrefixes 3)).prefixes,
      entry.network ≠ crowdedAddress.toU32 := by
    decide +kernel
  have longest : wide ∈ (AwsLookup.loadBundled (crowdedPrefixes 3)).prefixes ∧
      wide.Contains crowdedAddress.toU32 ∧
      ∀ other ∈ (AwsLookup.loadBundled (crowdedPrefixes 3)).prefixes,
        other.Contains crowdedAddress.toU32 → other.rank ≤ wide.rank := by
    decide +kernel
  have parses : ∃ p ∈ crowdedPrefixes 3, (parseCidr p.ipPrefix).isSome = true := by
    decide +kernel
  exact ⟨parses, (longest_prefix_iff (crowdedPrefixes 3) crowdedAddress parses).mpr
    (reachable_of_nearest apart longest near)⟩

/-- With 32 of them the walk stops before the wide prefix and the address gets no region. -/
theorem crowded_missed : ¬ ∀ (raw : List Prefix) (ip : Ipv4Addr),
    (∃ p ∈ raw, (parseCidr p.ipPrefix).isSome = true) →
    ∀ search, Searched (AwsLookup.loadBundled raw).prefixes ip.toU32 search →
      (AwsLookup.loadBundled raw).Matched ip.toU32
        ((AwsLookup.loadBundled raw).regionFor search (.v4 ip)) := by
  intro right
  -- The table is compiled once for all that is needed of it.
  have sample : (∃ p ∈ crowdedPrefixes 32, (parseCidr p.ipPrefix).isSome = true) ∧
      33 ≤ (AwsLookup.loadBundled (crowdedPrefixes 32)).prefixes.length ∧
      (∀ entry ∈ (AwsLookup.loadBundled (crowdedPrefixes 32)).prefixes.take 33,
        entry.network < crowdedAddress.toU32) ∧
      (∀ entry ∈ (AwsLookup.loadBundled (crowdedPrefixes 32)).prefixes.drop 33,
        crowdedAddress.toU32 < entry.network) ∧
      (AwsLookup.loadBundled (crowdedPrefixes 32)).regionFor (.error 33) (.v4 crowdedAddress) =
        some none ∧
      ¬ ∀ entry ∈ (AwsLookup.loadBundled (crowdedPrefixes 32)).prefixes,
        ¬ entry.Contains crowdedAddress.toU32 := by
    decide +kernel
  obtain ⟨parses, bound, below, above, missed, inside⟩ := sample
  have searched : Searched (AwsLookup.loadBundled (crowdedPrefixes 32)).prefixes
      crowdedAddress.toU32 (.error 33) := .absent 33 bound below above
  have answer := right (crowdedPrefixes 32) crowdedAddress parses (.error 33) searched
  exact inside (answer.absent.mp missed)

end LowPing
