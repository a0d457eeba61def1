import Mathlib.Data.Finset.Range
import Mathlib.Data.Nat.Count
import Mathlib.Data.List.Forall2

/-!
# Erasures

A word whose symbols are partly lost is a list of slots. Two words that agree with the same slots
differ at most where a symbol is lost, so a code whose words are pairwise farther apart than the
number of losses has only one word that agrees with what is left.
-/

namespace LowPing.Library.Erasure

variable {α : Type*}

/-- The slots of a word after the loss of some positions. -/
def erase (lost : ℕ → Prop) [DecidablePred lost] (word : List α) : List (Option α) :=
  word.mapIdx fun position symbol => if lost position then none else some symbol

/-- How many slots are filled. -/
def present (slots : List (Option α)) : ℕ := slots.countP Option.isSome

/-- Each filled slot holds the symbol of a word. -/
def Agrees (slots : List (Option α)) (word : List α) : Prop :=
  List.Forall₂ (fun slot symbol => slot = none ∨ slot = some symbol) slots word

/-- At how many positions two words differ. -/
def distance [DecidableEq α] (left right : List α) : ℕ :=
  (left.zip right).countP fun pair => decide (pair.1 ≠ pair.2)

/-- Any two words of a code are farther apart than a number. -/
def Separated [DecidableEq α] (losses : ℕ) (code : List α → Prop) : Prop :=
  ∀ left right, code left → code right → left ≠ right → losses < distance left right

/-- A lost symbol fills no slot. -/
theorem present_none (slots : List (Option α)) : present (none :: slots) = present slots :=
  List.countP_cons_of_neg Bool.false_ne_true

/-- A kept one fills its own. -/
theorem present_some (symbol : α) (slots : List (Option α)) :
    present (some symbol :: slots) = present slots + 1 :=
  List.countP_cons_of_pos rfl

section

variable (lost : ℕ → Prop) [DecidablePred lost]

/-- The slot of each position. -/
theorem erase_cons (symbol : α) (word : List α) : erase lost (symbol :: word) =
    (if lost 0 then none else some symbol) :: erase (fun position => lost (position + 1)) word :=
  List.mapIdx_cons

/-- Slots keep the length of the word. -/
@[simp] theorem length_erase (word : List α) : (erase lost word).length = word.length :=
  List.length_mapIdx

/-- What is left of a word agrees with it. -/
theorem agrees_erase (word : List α) : Agrees (erase lost word) word := by
  induction word generalizing lost with
  | nil => exact .nil
  | cons symbol word ih =>
    rw [erase_cons]
    refine .cons ?_ (ih _)
    by_cases missing : lost 0
    · exact .inl (if_pos missing)
    · exact .inr (if_neg missing)

/-- Each position is filled or lost. -/
theorem present_erase (word : List α) :
    present (erase lost word) + Nat.count lost word.length = word.length := by
  induction word generalizing lost with
  | nil => simp [present, erase]
  | cons symbol word ih =>
    have rest := ih fun position => lost (position + 1)
    rw [erase_cons, List.length_cons, Nat.count_succ']
    by_cases missing : lost 0
    · rw [if_pos missing, if_pos missing, present_none]
      omega
    · rw [if_neg missing, if_neg missing, present_some]
      omega

end

/-- The number of lost positions is that of a set within the word. -/
theorem count_mem {lost : Finset ℕ} {length : ℕ} (within : ∀ position ∈ lost, position < length) :
    Nat.count (fun position => position ∈ lost) length = lost.card := by
  rw [Nat.count_eq_card_filter_range, Finset.filter_mem_eq_inter, Finset.inter_eq_right.mpr]
  intro position listed
  exact Finset.mem_range.mpr (within position listed)

section

variable [DecidableEq α] {slots : List (Option α)} {left right : List α}

/-- One more position of each word. -/
theorem distance_cons (symbol other : α) (left right : List α) :
    distance (symbol :: left) (other :: right) =
      distance left right + if symbol = other then 0 else 1 := by
  unfold distance
  rw [List.zip_cons_cons, List.countP_cons]
  by_cases same : symbol = other
  · rw [if_pos same, if_neg (by simpa using same)]
  · rw [if_neg same, if_pos (by simpa using same)]

/-- Two words that agree with the same slots differ only where one is empty. -/
theorem distance_le (first : Agrees slots left) (second : Agrees slots right) :
    distance left right + present slots ≤ slots.length := by
  induction first generalizing right with
  | nil =>
    cases second
    rfl
  | cons holds first ih =>
    cases second with
    | cons holdsOther second =>
      have rest := ih second
      rw [distance_cons, List.length_cons]
      rcases holds with rfl | rfl
      · -- A lost symbol: the words may differ here.
        rw [present_none]
        split
        · omega
        · omega
      · rw [present_some, if_pos (by simpa using holdsOther)]
        omega

/-- A code whose words are farther apart than the number of empty slots has one word that agrees
with them. -/
theorem Separated.unique {losses : ℕ} {code : List α → Prop} (separated : Separated losses code)
    (few : slots.length ≤ present slots + losses) (inCode : code left) (agrees : Agrees slots left)
    (otherInCode : code right) (otherAgrees : Agrees slots right) : left = right := by
  by_contra different
  have far := separated left right inCode otherInCode different
  have near := distance_le agrees otherAgrees
  omega

end

end LowPing.Library.Erasure
