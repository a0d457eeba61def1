import Mathlib.Algebra.Group.Nat.Defs
import Mathlib.Data.Vector.Defs

/-!
# Operations that can abort a program

Slicing, indexing, conversion to an array, copying into a slice and unsigned arithmetic, each with
the check that a checked language makes at run time. A computation is `Checked` when it either
yields a value or stops at the first check that fails. Each operation has a rule that turns a proof
of its check into its value.
-/

namespace LowPing.Library

/-- A run-time check that failed. -/
inductive Panic where
  /-- An index at or past the length. -/
  | index (position length : Nat)
  /-- A range out of order or past the length. -/
  | range (start stop length : Nat)
  /-- A conversion to an array of another length. -/
  | arrayLength (need got : Nat)
  /-- A copy between slices of different lengths. -/
  | copyLength (dest src : Nat)
  /-- A sum or difference that does not fit its word, or a shift by its width or more. -/
  | overflow (left right : Nat)
  /-- An assertion. -/
  | assertion
  deriving DecidableEq

/-- A value, unless a check failed. -/
abbrev Checked := Except Panic

namespace Checked

variable {α : Type} {items : List α} {start stop : Nat}

/-- The element at a position. -/
def index (items : List α) (position : Nat) : Checked α :=
  match items[position]? with
  | some item => .ok item
  | none => .error (.index position items.length)

/-- The elements from one position up to another. -/
def slice (items : List α) (start stop : Nat) : Checked (List α) :=
  if start ≤ stop ∧ stop ≤ items.length then .ok ((items.drop start).take (stop - start))
  else .error (.range start stop items.length)

/-- A slice as an array of a fixed length. -/
def toArray (length : Nat) (items : List α) : Checked (List.Vector α length) :=
  if exact : items.length = length then .ok ⟨items, exact⟩
  else .error (.arrayLength length items.length)

/-- Overwrite the elements from one position up to another with as many others. -/
def copyInto (dest : List α) (start stop : Nat) (src : List α) : Checked (List α) := do
  let target ← slice dest start stop
  if target.length = src.length then .ok (dest.take start ++ src ++ dest.drop stop)
  else .error (.copyLength target.length src.length)

/-- A sum in words of a width. -/
def add (width left right : Nat) : Checked Nat :=
  if left + right < 2 ^ width then .ok (left + right) else .error (.overflow left right)

/-- A difference in words of any width. -/
def sub (left right : Nat) : Checked Nat :=
  if right ≤ left then .ok (left - right) else .error (.overflow left right)

/-- A word of a width shifted to the left by less than that. -/
def shiftLeft (width word amount : Nat) : Checked Nat :=
  if amount < width then .ok (word <<< amount % 2 ^ width) else .error (.overflow word amount)

/-- Stop unless a condition holds. -/
def require (condition : Bool) : Checked Unit :=
  if condition then .ok () else .error .assertion

/-- A position in bounds has an element. -/
theorem index_eq {position : Nat} (bound : position < items.length) :
    index items position = .ok items[position] := by
  simp [index, bound]

/-- A range in bounds is a slice. -/
theorem slice_eq (ordered : start ≤ stop) (bound : stop ≤ items.length) :
    slice items start stop = .ok ((items.drop start).take (stop - start)) := by
  rw [slice, if_pos ⟨ordered, bound⟩]

/-- A slice of the right length is an array. -/
theorem toArray_eq {length : Nat} (exact : items.length = length) :
    toArray length items = .ok ⟨items, exact⟩ := by
  rw [toArray, dif_pos exact]

/-- As many elements as the range has can be copied there. -/
theorem copyInto_eq {src : List α} (ordered : start ≤ stop) (bound : stop ≤ items.length)
    (exact : src.length = stop - start) :
    copyInto items start stop src = .ok (items.take start ++ src ++ items.drop stop) := by
  have target : ((items.drop start).take (stop - start)).length = src.length := by
    rw [List.length_take, List.length_drop]
    omega
  simp only [copyInto, slice_eq ordered bound, bind, Except.bind, target, ↓reduceIte]

/-- A sum that fits is computed. -/
theorem add_eq {width left right : Nat} (fits : left + right < 2 ^ width) :
    add width left right = .ok (left + right) := by
  rw [add, if_pos fits]

/-- A number is subtracted from one that is not smaller. -/
theorem sub_eq {left right : Nat} (ordered : right ≤ left) :
    sub left right = .ok (left - right) := by
  rw [sub, if_pos ordered]

/-- A word is shifted by less than its width. -/
theorem shiftLeft_eq {width word amount : Nat} (bound : amount < width) :
    shiftLeft width word amount = .ok (word <<< amount % 2 ^ width) := by
  rw [shiftLeft, if_pos bound]

/-- An index without its check. -/
theorem toOption_index (items : List α) (position : Nat) :
    (index items position).toOption = items[position]? := by
  rw [index]
  cases items[position]? with
  | none => rfl
  | some item => rfl

/-- A computation goes on as its first part has ended. -/
theorem toOption_bind {β : Type} (first : Checked α) (rest : α → Checked β) :
    (first >>= rest).toOption = first.toOption.bind fun value => (rest value).toOption := by
  cases first with
  | error failure => rfl
  | ok value => rfl

/-- A loop passes its checks when each turn does, and then has the same value. -/
theorem toOption_foldlM {β : Type} {checked : β → α → Checked β} {plain : β → α → Option β}
    (turn : ∀ item ∈ items, ∀ state, (checked state item).toOption = plain state item)
    (state : β) : (items.foldlM checked state).toOption = items.foldlM plain state := by
  induction items generalizing state with
  | nil => rfl
  | cons item items ih =>
    have first := turn item List.mem_cons_self state
    have later : ∀ other ∈ items, ∀ state, (checked state other).toOption = plain state other :=
      fun other member => turn other (List.mem_cons_of_mem _ member)
    rw [List.foldlM_cons, List.foldlM_cons, toOption_bind, first]
    simp only [ih later]
    rfl

end Checked

end LowPing.Library
