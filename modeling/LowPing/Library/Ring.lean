import Mathlib.Data.List.DropRight
import Mathlib.Data.List.Perm.Basic

/-!
# Bounded logs

A log of bounded size drops its oldest entry to make room for a new one, and so holds the newest
of all entries it was given. `latest` is the newest entry with a property.
-/

namespace LowPing.Library.Ring

variable {α : Type*}

/-- A log with one more entry, without its oldest one if it was full. -/
def push (capacity : Nat) (kept : List α) (entry : α) : List α :=
  (if kept.length ≥ capacity then kept.tail else kept) ++ [entry]

/-- The newest entry with a property. -/
def latest (property : α → Bool) (entries : List α) : Option α := entries.reverse.find? property

/-- A log holds the newest entries, and goes on holding them. -/
theorem push_rtake {capacity : Nat} (positive : 0 < capacity) (entries : List α) (entry : α) :
    push capacity (entries.rtake capacity) entry = (entries ++ [entry]).rtake capacity := by
  obtain ⟨room, rfl⟩ := Nat.exists_eq_add_one.mpr positive
  rw [List.rtake_concat_succ, push]
  congr 1
  unfold List.rtake
  split
  · rename_i full
    rw [List.length_drop] at full
    rw [List.tail_drop]
    congr 1
    omega
  · rename_i free
    rw [List.length_drop] at free
    have few : entries.length - (room + 1) = entries.length - room := by omega
    rw [few]

/-- The newest entries of the newest ones. -/
theorem take_reverse_rtake (capacity : Nat) (entries : List α) (n : Nat) :
    (entries.rtake capacity).reverse.take n = entries.reverse.take (min n capacity) := by
  rw [List.rtake_eq_reverse_take_reverse, List.reverse_reverse, List.take_take]

/-- A new entry is the newest one if it has the property. -/
theorem latest_concat (property : α → Bool) (entries : List α) (entry : α) :
    latest property (entries ++ [entry]) =
      if property entry then some entry else latest property entries := by
  unfold latest
  rw [List.reverse_append, List.reverse_singleton, List.singleton_append, List.find?_cons]
  cases property entry with
  | true => rfl
  | false => rfl

/-- There is a newest entry with a property if there is one at all. -/
theorem latest_isSome {property : α → Bool} {entries : List α} :
    (latest property entries).isSome ↔ ∃ entry ∈ entries, property entry := by
  rw [latest, List.find?_isSome]
  simp only [List.mem_reverse]

/-- No entry with the property is related to the newest the wrong way round. -/
theorem latest_related {property : α → Bool} {relation : α → α → Prop} {entries : List α}
    {newest entry : α} (ordered : entries.Pairwise relation)
    (found : latest property entries = some newest) (member : entry ∈ entries)
    (holds : property entry = true) : entry = newest ∨ relation entry newest := by
  obtain ⟨_, later, earlier, split, none⟩ := List.find?_eq_some_iff_append.mp found
  rw [← List.pairwise_reverse, split, List.pairwise_append, List.pairwise_cons] at ordered
  rw [← List.mem_reverse, split, List.mem_append, List.mem_cons] at member
  rcases member with after | same | before
  · have lacks := none entry after
    rw [holds] at lacks
    contradiction
  · exact .inl same
  · exact .inr (ordered.2.1.1 entry before)

end LowPing.Library.Ring
