import Mathlib.Data.List.AList

/-!
# Finite tables

Sizes and lookups of an association list with distinct keys after an insertion, after the removal
of a list of keys and after the removal of the entries that fail a test.
-/

namespace LowPing.Library.Table

variable {κ : Type*} {ν : κ → Type*} [DecidableEq κ]

/-- Remove every key of a list. -/
abbrev eraseAll (table : AList ν) (keys : List κ) : AList ν :=
  keys.foldl (fun table key => table.erase key) table

/-- An insertion adds at most one entry. -/
theorem length_insert_le (table : AList ν) (key : κ) (value : ν key) :
    (table.insert key value).entries.length ≤ table.entries.length + 1 := by
  rw [AList.entries_insert, List.length_cons]
  have rest := (List.kerase_sublist key table.entries).length_le
  omega

/-- A removal adds no entry. -/
theorem length_erase_le (table : AList ν) (key : κ) :
    (table.erase key).entries.length ≤ table.entries.length :=
  (List.kerase_sublist key table.entries).length_le

/-- Removing many keys adds no entry. -/
theorem length_eraseAll_le (table : AList ν) (keys : List κ) :
    (eraseAll table keys).entries.length ≤ table.entries.length := by
  induction keys generalizing table with
  | nil => exact Nat.le_refl _
  | cons key keys ih => exact Nat.le_trans (ih (table.erase key)) (length_erase_le table key)

/-- A removed key is absent. -/
theorem lookup_eraseAll_of_mem (table : AList ν) {keys : List κ} {key : κ} (listed : key ∈ keys) :
    (eraseAll table keys).lookup key = none := by
  have absent (table : AList ν) (keys : List κ) (missing : table.lookup key = none) :
      (eraseAll table keys).lookup key = none := by
    induction keys generalizing table with
    | nil => exact missing
    | cons other keys ih =>
      apply ih
      by_cases same : key = other
      · rw [same, AList.lookup_erase]
      · rw [AList.lookup_erase_ne same, missing]
  induction keys generalizing table with
  | nil => contradiction
  | cons other keys ih =>
    rcases List.mem_cons.mp listed with rfl | later
    · exact absent (table.erase key) keys (AList.lookup_erase key table)
    · exact ih _ later

/-- Every other key keeps its value. -/
theorem lookup_eraseAll_of_notMem (table : AList ν) {keys : List κ} {key : κ}
    (unlisted : key ∉ keys) : (eraseAll table keys).lookup key = table.lookup key := by
  induction keys generalizing table with
  | nil => rfl
  | cons other keys ih =>
    obtain ⟨different, later⟩ := List.ne_and_not_mem_of_not_mem_cons unlisted
    rw [eraseAll, List.foldl_cons, ← eraseAll, ih _ later, AList.lookup_erase_ne different]

/-- What is found after a removal was there before. -/
theorem lookup_of_lookup_eraseAll {table : AList ν} {keys : List κ} {key : κ} {value : ν key}
    (found : (eraseAll table keys).lookup key = some value) :
    key ∉ keys ∧ table.lookup key = some value := by
  by_cases listed : key ∈ keys
  · rw [lookup_eraseAll_of_mem table listed] at found
    contradiction
  · exact ⟨listed, lookup_eraseAll_of_notMem table listed ▸ found⟩

/-- `HashMap::retain`: keep the entries that pass a test. -/
def retain (keep : (key : κ) → ν key → Bool) (table : AList ν) : AList ν :=
  ⟨table.entries.filter fun entry => keep entry.1 entry.2,
    table.nodupKeys.sublist List.filter_sublist⟩

/-- An entry is found after a retention exactly when it was there and passed. -/
theorem lookup_retain {keep : (key : κ) → ν key → Bool} {table : AList ν} {key : κ}
    {value : ν key} : (retain keep table).lookup key = some value ↔
      table.lookup key = some value ∧ keep key value = true := by
  have listed (entries : AList ν) :
      entries.lookup key = some value ↔ ⟨key, value⟩ ∈ entries.entries := AList.mem_lookup_iff
  rw [listed, listed]
  exact List.mem_filter

/-- After values are inserted under the names of a list, a key holds its value exactly if it is a
name. -/
theorem lookup_insertAll {α : Type*} (name : α → κ) (value : (key : κ) → ν key) (items : List α)
    (table : AList ν) (key : κ) :
    (items.foldl (fun table item => table.insert (name item) (value (name item)))
      table).lookup key =
      if key ∈ items.map name then some (value key) else table.lookup key := by
  induction items generalizing table with
  | nil => simp
  | cons item items ih =>
    rw [List.foldl_cons, ih, List.map_cons]
    by_cases later : key ∈ items.map name
    · rw [if_pos later, if_pos (List.mem_cons_of_mem _ later)]
    · by_cases here : key = name item
      · rw [if_neg later, here, AList.lookup_insert, if_pos List.mem_cons_self]
      · have unnamed : key ∉ name item :: items.map name := by
          simpa [here] using later
        rw [if_neg later, if_neg unnamed, AList.lookup_insert_ne here]

end LowPing.Library.Table
