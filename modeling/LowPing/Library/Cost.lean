import Mathlib.Data.Int.Cast.Lemmas
import Mathlib.Data.Int.ConditionallyCompleteOrder
import Mathlib.Data.List.MinMax
import Mathlib.Data.Prod.Lex
import Mathlib.Order.ConditionallyCompleteLattice.Basic

/-!
# Least costs

A search for the least cost keeps the best so far and replaces it by a candidate below it. Costs
may be floating-point numbers, compared as IEEE 754 does: NaN is below nothing and nothing is below
it, so a search that starts at a number ends at the first of the least ones, and one that starts at
NaN ends there.
-/

namespace LowPing.Library

/-! ## Searches -/

section Search

variable {ι F β : Type*} [LT F] [DecidableLT F] [LinearOrder β]

/-- One turn of a search. -/
def keepLess (best : Option (ι × F)) (item : ι × F) : Option (ι × F) :=
  if best.all fun held => decide (item.2 < held.2) then some item else best

/-- A search that holds a cost with nothing below it keeps it. -/
theorem foldl_keepLess_bottom (items : List (ι × F)) {best : ι × F}
    (bottom : ∀ item ∈ items, ¬ item.2 < best.2) :
    items.foldl keepLess (some best) = some best := by
  induction items with
  | nil => rfl
  | cons item items ih =>
    have kept : keepLess (some best) item = some best :=
      if_neg (by simpa using bottom item List.mem_cons_self)
    rw [List.foldl_cons, kept]
    exact ih fun later member => bottom later (List.mem_cons_of_mem _ member)

/-- The comparison is that of ranks as long as the cost held is comparable. -/
structure Ranks (comparable : F → Prop) (rank : F → β) : Prop where
  /-- Below is lower in rank. -/
  lt_iff : ∀ {cost held}, comparable held → (cost < held ↔ rank cost < rank held)
  /-- What is below something is comparable. -/
  below : ∀ {cost held}, cost < held → comparable cost

variable {comparable : F → Prop} {rank : F → β}

/-- From a comparable cost on, a search compares ranks. -/
theorem Ranks.foldl_keepLess (ranks : Ranks comparable rank) (items : List (ι × F))
    {best : ι × F} (held : comparable best.2) :
    items.foldl keepLess (some best) =
      items.foldl (List.argAux fun left right => rank left.2 < rank right.2) (some best) := by
  induction items generalizing best with
  | nil => rfl
  | cons item items ih =>
    have compared : item.2 < best.2 ↔ rank item.2 < rank best.2 := ranks.lt_iff held
    by_cases less : item.2 < best.2
    · have kept : keepLess (some best) item = some item := if_pos (by simpa using less)
      have lower : List.argAux (fun left right => rank left.2 < rank right.2) (some best) item =
          some item := if_pos (compared.mp less)
      rw [List.foldl_cons, List.foldl_cons, kept, lower]
      exact ih (ranks.below less)
    · have kept : keepLess (some best) item = some best := if_neg (by simpa using less)
      have lower : List.argAux (fun left right => rank left.2 < rank right.2) (some best) item =
          some best := if_neg fun lower => less (compared.mpr lower)
      rw [List.foldl_cons, List.foldl_cons, kept, lower]
      exact ih held

/-- A search that starts at a comparable cost finds the first of the lowest ranks. -/
theorem Ranks.search_eq_argmin (ranks : Ranks comparable rank) {items : List (ι × F)}
    (started : ∀ first ∈ items.head?, comparable first.2) :
    items.foldl keepLess none = items.argmin fun item => rank item.2 := by
  cases items with
  | nil => rfl
  | cons first items => exact ranks.foldl_keepLess items (started first rfl)

/-- Nothing among the candidates is below what a search has found. -/
theorem Ranks.search_least (ranks : Ranks comparable rank) {items : List (ι × F)}
    (started : ∀ first ∈ items.head?, comparable first.2) {best : ι × F}
    (found : items.foldl keepLess none = some best) :
    best ∈ items ∧ ∀ item ∈ items, rank best.2 ≤ rank item.2 := by
  rw [ranks.search_eq_argmin started] at found
  exact ⟨List.argmin_mem found, fun item member =>
    List.le_of_mem_argmin (f := fun item : ι × F => rank item.2) member found⟩

/-- A search finds a candidate or what it began with. -/
theorem mem_of_search {items : List (ι × F)} {start : Option (ι × F)} {best : ι × F}
    (found : items.foldl keepLess start = some best) : best ∈ items ∨ start = some best := by
  induction items generalizing start with
  | nil => exact .inr found
  | cons item items ih =>
    rcases ih found with later | first
    · exact .inl (List.mem_cons_of_mem _ later)
    · unfold keepLess at first
      split at first
      · obtain rfl := Option.some.inj first
        exact .inl List.mem_cons_self
      · exact .inr first

/-- A search finds nothing only where there is nothing. -/
theorem search_eq_none {items : List (ι × F)} :
    items.foldl keepLess none = none ↔ items = [] := by
  have kept (items : List (ι × F)) (best : ι × F) : items.foldl keepLess (some best) ≠ none := by
    induction items generalizing best with
    | nil => simp
    | cons item items ih =>
      rw [List.foldl_cons, keepLess]
      split
      · exact ih item
      · exact ih best
  cases items with
  | nil => simp
  | cons first items => simpa [keepLess] using kept items first

end Search

section Numbered

variable {F β : Type*} [LinearOrder β] {rank : F → β}

/-- A numbered candidate that no other beats, and no earlier one equals. -/
def Lowest (rank : F → β) (items : List (ℕ × F)) (best : ℕ × F) : Prop :=
  best ∈ items ∧ ∀ item ∈ items,
    rank best.2 ≤ rank item.2 ∧ (rank item.2 ≤ rank best.2 → best.1 ≤ item.1)

/-- Earlier candidates of a numbered list have smaller numbers. -/
theorem numbered_le [BEq (ℕ × F)] [LawfulBEq (ℕ × F)] {items : List (ℕ × F)}
    (numbered : items.Pairwise fun a b => a.1 < b.1) {left right : ℕ × F} (first : left ∈ items)
    (second : right ∈ items) (before : items.idxOf left ≤ items.idxOf right) :
    left = right ∨ left.1 < right.1 := by
  have firstBound := List.idxOf_lt_length_of_mem first
  have secondBound := List.idxOf_lt_length_of_mem second
  have firstAt : items[items.idxOf left] = left := List.getElem_idxOf firstBound
  have secondAt : items[items.idxOf right] = right := List.getElem_idxOf secondBound
  rcases Nat.lt_or_eq_of_le before with earlier | same
  · have smaller := List.pairwise_iff_getElem.mp numbered _ _ firstBound secondBound earlier
    rw [firstAt, secondAt] at smaller
    exact .inr smaller
  · simp only [same, secondAt] at firstAt
    exact .inl firstAt.symm

/-- In a numbered list a number determines the candidate. -/
theorem eq_of_numbered {items : List (ℕ × F)} (numbered : items.Pairwise fun a b => a.1 < b.1)
    {left right : ℕ × F} (first : left ∈ items) (second : right ∈ items)
    (same : left.1 = right.1) : left = right := by
  have : DecidableEq (ℕ × F) := Classical.decEq _
  rcases le_total (items.idxOf left) (items.idxOf right) with before | before
  · rcases numbered_le numbered first second before with equal | smaller
    · exact equal
    · omega
  · rcases numbered_le numbered second first before with equal | smaller
    · exact equal.symm
    · omega

/-- A search of numbered candidates finds the lowest. -/
theorem Ranks.search_eq_some_iff [LT F] [DecidableLT F] (ranks : Ranks (fun _ => True) rank)
    {items : List (ℕ × F)} (numbered : items.Pairwise fun a b => a.1 < b.1) {best : ℕ × F} :
    items.foldl keepLess none = some best ↔ Lowest rank items best := by
  have found_lowest {found : ℕ × F} (search : items.foldl keepLess none = some found) :
      Lowest rank items found := by
    have : DecidableEq (ℕ × F) := Classical.decEq _
    rw [ranks.search_eq_argmin fun _ _ => trivial] at search
    obtain ⟨member, least, first⟩ := List.argmin_eq_some_iff.mp search
    refine ⟨member, fun item listed => ⟨least item listed, fun lower => ?_⟩⟩
    rcases numbered_le numbered member listed (first item listed lower) with equal | smaller
    · rw [equal]
    · exact Nat.le_of_lt smaller
  constructor
  · exact found_lowest
  · intro lowest
    cases search : items.foldl keepLess none with
    | none =>
      rw [search_eq_none.mp search] at lowest
      exact absurd lowest.1 List.not_mem_nil
    | some found =>
      obtain ⟨member, least⟩ := found_lowest search
      have below := lowest.2 found member
      have above := least best lowest.1
      have same : found.1 = best.1 := le_antisymm (above.2 below.1) (below.2 above.1)
      rw [eq_of_numbered numbered member lowest.1 same]

end Numbered

/-! ## Binary64 -/

instance instNatCastFloat : NatCast Float := ⟨Float.ofNat⟩

instance instTopFloat : Top Float := ⟨Float.ofBits 0x7FF0000000000000⟩

open Float.Model (UnpackedFloat)

/-- Where a number stands among all: infinities outside, then by exponent and mantissa. -/
def unpackedRank : UnpackedFloat → WithTop (ℤ ×ₗ ℤ ×ₗ ℤ)
  | .notANumber => ⊤
  | .infinity .positive => ↑(toLex (2, toLex (0, 0)) : ℤ ×ₗ ℤ ×ₗ ℤ)
  | .infinity .negative => ↑(toLex (-2, toLex (0, 0)) : ℤ ×ₗ ℤ ×ₗ ℤ)
  | .zero _ => ↑(toLex (0, toLex (0, 0)) : ℤ ×ₗ ℤ ×ₗ ℤ)
  | .finite .positive m e _ => ↑(toLex (1, toLex (e, (m : ℤ))) : ℤ ×ₗ ℤ ×ₗ ℤ)
  | .finite .negative m e _ => ↑(toLex (-1, toLex (-e, -(m : ℤ))) : ℤ ×ₗ ℤ ×ₗ ℤ)

/-- Comparison with a number is comparison of ranks. -/
theorem unpacked_lt_iff {x y : UnpackedFloat} (number : y.isNaN = false) :
    x.lt y = true ↔ unpackedRank x < unpackedRank y := by
  delta UnpackedFloat.lt UnpackedFloat.compare unpackedRank
  cases y with
  | notANumber => contradiction
  | infinity t =>
    cases t <;> rcases x with (_ | _) | _ | _ | ⟨_ | _, _, _, _⟩ <;> dsimp only <;>
      simp [compare, Prod.Lex.toLex_lt_toLex]
  | zero t =>
    rcases x with (_ | _) | _ | _ | ⟨_ | _, _, _, _⟩ <;> dsimp only <;>
      simp [Prod.Lex.toLex_lt_toLex]
  | finite t m e positive =>
    cases t <;> rcases x with (_ | _) | _ | _ | ⟨_ | _, _, _, _⟩ <;> dsimp only <;>
      simp [Prod.Lex.toLex_lt_toLex, Ordering.then_eq_lt, Ordering.then_eq_gt,
        Ordering.swap_eq_lt, compare_lt_iff_lt, compare_gt_iff_gt]

/-- A rank determines the number up to the sign of zero. -/
theorem unpackedRank_inj {x y : UnpackedFloat} (same : unpackedRank x = unpackedRank y) :
    x = y ∨ (∃ s, x = .zero s) ∧ ∃ t, y = .zero t := by
  delta unpackedRank at same
  rcases x with (_ | _) | _ | _ | ⟨_ | _, _, _, _⟩ <;>
    rcases y with (_ | _) | _ | _ | ⟨_ | _, _, _, _⟩ <;>
    dsimp only at same <;>
    first
    | exact .inl rfl
    | exact .inr ⟨⟨_, rfl⟩, _, rfl⟩
    | simp at same
  -- two finite numbers of one sign are left
  all_goals
    obtain ⟨rfl, rfl⟩ := same
    exact .inl rfl

/-- The rank of a binary64. -/
def floatRank (x : Float) : WithTop (ℤ ×ₗ ℤ ×ₗ ℤ) := unpackedRank x.toModel.unpack

/-- The comparison of binary64. -/
theorem float_lt_iff {x y : Float} :
    x < y ↔ UnpackedFloat.lt x.toModel.unpack y.toModel.unpack = true := by
  change decide (x.toModel < y.toModel) = true ↔ _
  rw [decide_eq_true_iff]
  rfl

/-- Only NaN is not a number. -/
theorem float_isNaN_iff {x : Float} : x.isNaN = true ↔ x.toModel.unpack = .notANumber := by
  change x.toModel.unpack.isNaN = true ↔ _
  cases x.toModel.unpack with
  | notANumber => exact iff_of_true rfl rfl
  | infinity s => exact iff_of_false nofun nofun
  | zero s => exact iff_of_false nofun nofun
  | finite s m e positive => exact iff_of_false nofun nofun

/-- NaN is below nothing. -/
theorem float_number_of_lt {x y : Float} (less : x < y) : x.isNaN = false := by
  by_contra notNumber
  have nan := float_isNaN_iff.mp (Bool.not_eq_false _ ▸ notNumber)
  rw [float_lt_iff, nan] at less
  contradiction

/-- Nothing is below NaN. -/
theorem float_number_of_gt {x y : Float} (less : x < y) : y.isNaN = false := by
  by_contra notNumber
  have nan := float_isNaN_iff.mp (Bool.not_eq_false _ ▸ notNumber)
  rw [float_lt_iff, nan] at less
  revert less
  cases x.toModel.unpack with
  | notANumber => exact nofun
  | infinity s => exact nofun
  | zero s => exact nofun
  | finite s m e positive => exact nofun

/-- Binary64 ranks all numbers but NaN. -/
theorem float_ranks : Ranks (fun x : Float => x.isNaN = false) floatRank where
  lt_iff number := float_lt_iff.trans (unpacked_lt_iff number)
  below := float_number_of_lt

/-- A sum in binary64. -/
theorem float_add (x y : Float) :
    x + y = ⟨Float.Model.pack (x.toModel.unpack.add .binary64 y.toModel.unpack)⟩ :=
  rfl

/-- A sum with NaN is below nothing. -/
theorem float_number_of_add_lt {x y z : Float} (less : x + y < z) : x.isNaN = false := by
  by_contra notNumber
  have nan := float_isNaN_iff.mp (Bool.not_eq_false _ ▸ notNumber)
  have number := float_number_of_lt less
  have absorbed : x + y = ⟨Float.Model.pack .notANumber⟩ := by
    rw [float_add, nan]
    rfl
  rw [absorbed] at number
  revert number
  decide +kernel

/-- The rank of a sum depends on the ranks alone. -/
theorem floatRank_add {x y : Float} (same : floatRank x = floatRank y) (z : Float) :
    floatRank (x + z) = floatRank (y + z) := by
  rw [float_add, float_add]
  rcases unpackedRank_inj same with equal | ⟨⟨s, left⟩, t, right⟩
  · rw [equal]
  · rw [left, right]
    cases z.toModel.unpack with
    | notANumber => rfl
    | infinity r => rfl
    | zero r => cases s <;> cases t <;> cases r <;> rfl
    | finite r m e positive => rfl

/-- Whether a number is below another depends on its rank alone. -/
theorem float_lt_of_rank_le {x y z : Float} (lower : floatRank x ≤ floatRank y) (less : y < z) :
    x < z := by
  have number := float_number_of_gt less
  rw [float_ranks.lt_iff number] at less ⊢
  exact lower.trans_lt less

/-- A search that ends at a number began at one. -/
theorem float_search_started {ι : Type*} {items : List (ι × Float)} {best : ι × Float}
    (found : items.foldl keepLess none = some best) (number : best.2.isNaN = false) :
    ∀ first ∈ items.head?, first.2.isNaN = false := by
  intro first head
  cases items with
  | nil => contradiction
  | cons item items =>
    obtain rfl := Option.some.inj head
    by_contra notNumber
    have stuck : items.foldl keepLess (some item) = some item :=
      foldl_keepLess_bottom items fun _ _ below => notNumber (float_number_of_gt below)
    have same : some item = some best := stuck.symm.trans found
    rw [Option.some.inj same] at notNumber
    exact notNumber number

/-- What a search among binary64 costs finds is below a limit by a margin exactly if the first cost
is a number and some least cost is below it by the margin. -/
theorem float_search_add_lt {ι : Type*} {items : List (ι × Float)} {costs : List Float}
    (listed : items.map Prod.snd = costs) {margin limit : Float} :
    (∃ best, items.foldl keepLess none = some best ∧ best.2 + margin < limit) ↔
      (∀ first ∈ costs.head?, first.isNaN = false) ∧
        ∃ cost ∈ costs, (∀ other ∈ costs, ¬ other < cost) ∧ cost + margin < limit := by
  subst listed
  constructor
  · rintro ⟨best, found, less⟩
    have number := float_number_of_add_lt less
    have started := float_search_started found number
    obtain ⟨member, least⟩ := float_ranks.search_least started found
    refine ⟨?_, best.2, List.mem_map_of_mem member, ?_, less⟩
    · intro first head
      rw [List.head?_map] at head
      obtain ⟨item, here, rfl⟩ := Option.map_eq_some_iff.mp head
      exact started item here
    · intro other member below
      obtain ⟨item, present, rfl⟩ := List.mem_map.mp member
      exact absurd ((float_ranks.lt_iff number).mp below) (least item present).not_gt
  · rintro ⟨started, cost, member, least, less⟩
    have begun : ∀ first ∈ items.head?, first.2.isNaN = false := by
      intro first head
      exact started first.2 (by rw [List.head?_map, Option.mem_def.mp head]; rfl)
    have number := float_number_of_add_lt less
    obtain ⟨item, present, rfl⟩ := List.mem_map.mp member
    cases found : items.foldl keepLess none with
    | none =>
      rw [search_eq_none.mp found] at present
      contradiction
    | some best =>
      obtain ⟨kept, lowest⟩ := float_ranks.search_least begun found
      have higher : floatRank item.2 ≤ floatRank best.2 := by
        by_contra lower
        have below := (float_ranks.lt_iff number).mpr (not_le.mp lower)
        exact least best.2 (List.mem_map_of_mem kept) below
      have same := floatRank_add (le_antisymm (lowest item present) higher) margin
      exact ⟨best, rfl, float_lt_of_rank_le same.le less⟩

end LowPing.Library
