import Mathlib.Data.List.Count

/-!
# Replacing one element of a list

A list of tasks or cells changes one position at a time. What such a replacement does to a count
and to a member, and how a prefix grows.
-/

namespace LowPing.Library.Update

variable {α : Type*}

/-- A replacement changes a count by the two elements exchanged. -/
theorem countP_set_add (chosen : α → Bool) {items : List α} {position : Nat} {before : α}
    (present : items[position]? = some before) (after : α) :
    (items.set position after).countP chosen + (chosen before).toNat =
      items.countP chosen + (chosen after).toNat := by
  obtain ⟨bound, rfl⟩ := List.getElem?_eq_some_iff.mp present
  have counted : (chosen items[position]).toNat ≤ items.countP chosen := by
    by_cases included : chosen items[position] = true
    · rw [included]
      exact List.countP_pos_iff.mpr ⟨_, List.getElem_mem bound, included⟩
    · rw [Bool.not_eq_true] at included
      rw [included]
      exact Nat.zero_le _
  rw [List.countP_set bound]
  by_cases included : chosen items[position] = true <;>
    by_cases chosenAfter : chosen after = true <;>
    simp only [included, chosenAfter, ↓reduceIte, Bool.toNat_true, Bool.toNat_false,
      Bool.false_eq_true] at counted ⊢ <;>
    omega

/-- A member after a replacement is the new element or was a member before. -/
theorem getElem?_set_cases {items : List α} {position other : Nat} {after found : α}
    (member : (items.set position after)[other]? = some found) :
    (other = position ∧ found = after) ∨ (other ≠ position ∧ items[other]? = some found) := by
  by_cases same : other = position
  · subst same
    have bound : other < items.length := by
      have := (List.getElem?_eq_some_iff.mp member).1
      rwa [List.length_set] at this
    rw [List.getElem?_set_self bound] at member
    exact .inl ⟨rfl, (Option.some.inj member).symm⟩
  · rw [List.getElem?_set_ne (Ne.symm same)] at member
    exact .inr ⟨same, member⟩

/-- A property of every member stays one after a replacement exactly if the new member has it. -/
theorem forall_set_iff {holds : α → Prop} {items : List α} {position : Nat} {before : α}
    (present : items[position]? = some before) (held : ∀ item ∈ items, holds item) (after : α) :
    (∀ item ∈ items.set position after, holds item) ↔ holds after := by
  have bound := (List.getElem?_eq_some_iff.mp present).1
  constructor
  · intro every
    exact every after (List.mem_of_getElem? (List.getElem?_set_self bound))
  · intro good item member
    rcases List.mem_or_eq_of_mem_set member with old | rfl
    · exact held item old
    · exact good

/-- A member after an append is the new element at the end or was a member before. -/
theorem getElem?_concat_cases {items : List α} {position : Nat} {added found : α}
    (member : (items ++ [added])[position]? = some found) :
    (position = items.length ∧ found = added) ∨ items[position]? = some found := by
  by_cases old : position < items.length
  · rw [List.getElem?_append_left old] at member
    exact .inr member
  · have bound := (List.getElem?_eq_some_iff.mp member).1
    rw [List.length_append, List.length_singleton] at bound
    obtain rfl : position = items.length := by omega
    rw [List.getElem?_concat_length] at member
    exact .inl ⟨rfl, (Option.some.inj member).symm⟩

/-- A prefix grows by the next element. -/
theorem prefix_concat {items : List α} {initial : List α} {found : α} (old : initial <+: items)
    (present : items[initial.length]? = some found) : initial ++ [found] <+: items := by
  have grown : initial ++ [found] = items.take (initial.length + 1) := by
    rw [List.take_add_one, present, ← List.prefix_iff_eq_take.mp old]
    rfl
  rw [grown]
  exact List.take_prefix _ items

end LowPing.Library.Update
