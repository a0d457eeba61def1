import LowPing.Common.LongestPrefix

/-!
# The bundled snapshot

`load_bundled` and `region_for` as the client uses them. Every `AwsLookup` it builds holds the table
of the one snapshot in the program, which is not empty, so no lookup panics.
-/

namespace LowPing

/-- The table of the snapshot and the binary search in it. -/
structure Snapshot where
  /-- What `load_bundled` returns. -/
  table : AwsLookup
  /-- The snapshot has prefixes that parse. -/
  nonempty : table.prefixes ≠ []
  /-- What `binary_search_by_key` returns for a key. -/
  search : UInt32 → Except Nat Nat
  /-- It searches the table. -/
  searched : ∀ key, Searched table.prefixes key (search key)

/-- `region_for`. -/
def Snapshot.regionFor (aws : Snapshot) : IpAddr → Option String
  | .v4 v => (aws.table.regionFor (aws.search v.toU32) (.v4 v)).join
  | .v6 _ => none

/-- A search of a table that is not empty ends without a panic. -/
theorem AwsLookup.regionFor_isSome {lookup : AwsLookup} {search : Except Nat Nat} {ip : Ipv4Addr}
    (nonempty : lookup.prefixes ≠ []) (searched : Searched lookup.prefixes ip.toU32 search) :
    ∃ region, lookup.regionFor search (.v4 ip) = some region := by
  cases searched with
  | found i entry present same => exact ⟨_, regionFor_found present same⟩
  | absent i bound below above =>
    rw [regionFor_absent nonempty (.absent i bound below above)]
    split
    · exact ⟨_, rfl⟩
    · exact ⟨_, rfl⟩

/-- The first position whose network is not below a key. -/
def AwsLookup.position (lookup : AwsLookup) (key : UInt32) : Nat :=
  lookup.prefixes.findIdx fun entry => decide (key ≤ entry.network)

/-- A search from the front. -/
def AwsLookup.searchFront (lookup : AwsLookup) (key : UInt32) : Except Nat Nat :=
  match lookup.prefixes[lookup.position key]? with
  | none => .error (lookup.position key)
  | some entry =>
    if entry.network = key then .ok (lookup.position key) else .error (lookup.position key)

/-- Networks before the position are below the key. -/
theorem AwsLookup.below_position (lookup : AwsLookup) (key : UInt32) :
    ∀ entry ∈ lookup.prefixes.take (lookup.position key), entry.network < key := by
  intro entry member
  obtain ⟨i, bound, rfl⟩ := List.getElem_of_mem member
  rw [List.getElem_take]
  have before : i < lookup.position key := by
    rw [List.length_take] at bound
    omega
  have failed := List.not_of_lt_findIdx before
  simpa using failed

/-- Networks from the position on are not below that at the position. -/
theorem AwsLookup.above_position (lookup : AwsLookup) {key : UInt32} {entry : CompiledPrefix}
    (here : lookup.prefixes[lookup.position key]? = some entry) (above : key < entry.network) :
    ∀ later ∈ lookup.prefixes.drop (lookup.position key), key < later.network := by
  obtain ⟨bound, rfl⟩ := List.getElem?_eq_some_iff.mp here
  have sorted := lookup.sorted.drop (i := lookup.position key)
  rw [List.drop_eq_getElem_cons bound] at sorted ⊢
  intro later member
  rcases List.mem_cons.mp member with rfl | after
  · exact above
  · rcases (List.pairwise_cons.mp sorted).1 later after with network | network
    · exact UInt32.lt_trans above network
    · rwa [← network.1]

/-- A search from the front is an allowed one. -/
theorem AwsLookup.searched_searchFront (lookup : AwsLookup) (key : UInt32) :
    Searched lookup.prefixes key (lookup.searchFront key) := by
  have bound : lookup.position key ≤ lookup.prefixes.length := List.findIdx_le_length
  have below := lookup.below_position key
  unfold searchFront
  cases here : lookup.prefixes[lookup.position key]? with
  | none =>
    refine .absent _ bound below ?_
    rw [List.drop_eq_nil_of_le (List.getElem?_eq_none_iff.mp here)]
    exact fun _ member => absurd member List.not_mem_nil
  | some entry =>
    dsimp only
    by_cases same : entry.network = key
    · rw [if_pos same]
      exact .found _ entry here same
    · have reached : key ≤ entry.network := by
        simpa using List.findIdx_of_getElem?_eq_some here
      have above : key < entry.network := UInt32.lt_of_le_of_ne reached (Ne.symm same)
      rw [if_neg same]
      exact .absent _ bound below (lookup.above_position here above)

/-- The snapshot compiled from prefixes of which some parses. -/
def Snapshot.ofPrefixes (raw : List Prefix)
    (parses : ∃ p ∈ raw, (parseCidr p.ipPrefix).isSome = true) : Snapshot where
  table := .loadBundled raw
  nonempty := AwsLookup.loadBundled_ne_nil parses
  search := (AwsLookup.loadBundled raw).searchFront
  searched := (AwsLookup.loadBundled raw).searched_searchFront

end LowPing
