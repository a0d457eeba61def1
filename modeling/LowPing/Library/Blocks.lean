import Mathlib.Data.Nat.Basic
import Mathlib.Algebra.Order.Group.Nat
import Mathlib.Data.List.MinMax

/-!
# Aligned blocks and longest matches

A block of `2 ^ size` numbers that starts at a multiple of its length, as an address prefix is. Two
blocks with a number in common are nested. A table of blocks is searched by a loop that keeps the
best candidate so far; that loop computes `List.argmax` of the candidates.
-/

namespace LowPing.Library

/-- An aligned power-of-two block of numbers. -/
structure AlignedBlock where
  /-- The first number. -/
  base : Nat
  /-- Logarithm of the length. -/
  size : Nat
  /-- The block starts at a multiple of its length. -/
  aligned : 2 ^ size ∣ base

namespace AlignedBlock

/-- The numbers of a block. -/
def Contains (block : AlignedBlock) (value : Nat) : Prop :=
  block.base ≤ value ∧ value < block.base + 2 ^ block.size

/-- A block has the numbers that agree with its base above its size. -/
theorem contains_iff (block : AlignedBlock) (value : Nat) :
    block.Contains value ↔ value / 2 ^ block.size = block.base / 2 ^ block.size := by
  obtain ⟨count, multiple⟩ := block.aligned
  have positive : 0 < 2 ^ block.size := Nat.two_pow_pos block.size
  have quotient : block.base / 2 ^ block.size = count := by
    rw [multiple, Nat.mul_div_cancel_left count positive]
  have next : 2 ^ block.size * count + 2 ^ block.size = (count + 1) * 2 ^ block.size := by
    rw [Nat.add_mul, Nat.one_mul, Nat.mul_comm]
  rw [quotient, Nat.div_eq_iff positive, Contains, multiple]
  have product : count * 2 ^ block.size = 2 ^ block.size * count := Nat.mul_comm _ _
  omega

/-- The numbers of a block are those that have the bits of the base from its size on. -/
theorem contains_iff_testBit (block : AlignedBlock) (value : Nat) : block.Contains value ↔
    ∀ position, block.size ≤ position → value.testBit position = block.base.testBit position := by
  rw [contains_iff]
  constructor
  · intro same position high
    obtain ⟨offset, rfl⟩ := Nat.exists_eq_add_of_le' high
    rw [← Nat.testBit_div_two_pow, ← Nat.testBit_div_two_pow, same]
  · intro agree
    refine Nat.eq_of_testBit_eq fun offset => ?_
    rw [Nat.testBit_div_two_pow, Nat.testBit_div_two_pow]
    exact agree _ (Nat.le_add_left _ _)

/-- The smaller of two blocks with a common number lies in the larger. -/
theorem nested {small large : AlignedBlock} {value : Nat} (sizes : small.size ≤ large.size)
    (inSmall : small.Contains value) (inLarge : large.Contains value) (other : Nat)
    (member : small.Contains other) : large.Contains other := by
  rw [contains_iff] at inSmall inLarge member ⊢
  obtain ⟨gap, larger⟩ := Nat.exists_eq_add_of_le sizes
  have split : ∀ number, number / 2 ^ large.size = number / 2 ^ small.size / 2 ^ gap := by
    intro number
    rw [larger, Nat.pow_add, Nat.div_div_eq_div_mul]
  calc other / 2 ^ large.size = other / 2 ^ small.size / 2 ^ gap := split other
    _ = value / 2 ^ small.size / 2 ^ gap := by rw [member, inSmall]
    _ = value / 2 ^ large.size := (split value).symm
    _ = large.base / 2 ^ large.size := inLarge

/-- A block contains its base. -/
theorem contains_base (block : AlignedBlock) : block.Contains block.base := by
  have positive : 0 < 2 ^ block.size := Nat.two_pow_pos block.size
  exact ⟨Nat.le_refl _, by omega⟩

/-- Of two blocks with a common number, the one that starts later is smaller. -/
theorem size_lt_of_base_lt {early late : AlignedBlock} {value : Nat}
    (inEarly : early.Contains value) (inLate : late.Contains value)
    (order : early.base < late.base) : late.size < early.size := by
  by_contra larger
  have sizes : early.size ≤ late.size := by omega
  have inside := nested sizes inEarly inLate early.base early.contains_base
  have above : late.base ≤ early.base := inside.1
  omega

end AlignedBlock

/-! ## Keeping the best so far -/

section

variable {α β : Type*} [LinearOrder β]

/-- One turn of the loop: a chosen item replaces a best one of lower rank. -/
def better (chosen : α → Bool) (rank : α → β) (best : Option α) (item : α) : Option α :=
  if chosen item && best.all (fun held => decide (rank held < rank item)) then some item else best

/-- The loop ends with the first chosen item of the highest rank. -/
theorem foldl_better (chosen : α → Bool) (rank : α → β) (items : List α) :
    items.foldl (better chosen rank) none = (items.filter chosen).argmax rank := by
  induction items using List.reverseRecOn with
  | nil => rfl
  | append_singleton items item ih =>
    rw [List.foldl_append, ih, List.filter_append]
    by_cases included : chosen item = true
    · rw [List.filter_cons_of_pos included, List.filter_nil, List.argmax_concat]
      cases found : (items.filter chosen).argmax rank with
      | none => simp [better, included]
      | some held => simp [better, included]
    · rw [List.filter_cons_of_neg included, List.filter_nil, List.append_nil]
      simp [better, included]

/-- An item that no later one outranks is the best. -/
theorem argmax_cons_of_le {rank : α → β} {item : α} {items : List α}
    (highest : ∀ other ∈ items, rank other ≤ rank item) :
    (item :: items).argmax rank = some item := by
  rw [List.argmax_cons]
  cases found : items.argmax rank with
  | none => rfl
  | some held =>
    have lower := highest held (List.argmax_mem found)
    simp [not_lt_of_ge lower]

end

end LowPing.Library
