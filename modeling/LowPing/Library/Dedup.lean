import Mathlib.Data.List.Destutter
import Mathlib.Data.List.Sort

/-!
# Removal of consecutive duplicates

Removing equal neighbours keeps every value and leaves a value twice exactly when another stands
between two occurrences of it. A stable sort brings the elements of one key together and keeps their
order, so after it the values between are those of the same key.
-/

namespace LowPing.Library

variable {α : Type*} {items : List α}

/-- A value comes back in a longer sequence if it does so already, or if it is the first one. -/
theorem returns_cons {first second head : α} :
    [first, second, first].Sublist (head :: items) ↔
      [first, second, first].Sublist items ∨
        (first = head ∧ [second, first].Sublist items) := by
  rw [List.sublist_cons_iff]
  refine or_congr_right ⟨?_, ?_⟩
  · rintro ⟨rest, same, later⟩
    obtain ⟨rfl, rfl⟩ := List.cons.inj same
    exact ⟨rfl, later⟩
  · rintro ⟨rfl, later⟩
    exact ⟨_, rfl, later⟩

/-- Of each key a stable sort keeps the order. -/
theorem filter_insertionSort (r : α → α → Prop) [DecidableRel r] [Std.Total r] [IsTrans α r]
    (p : α → Bool) (alike : (items.filter p).Pairwise r) :
    (items.insertionSort r).filter p = items.filter p := by
  have kept : (items.filter p).Sublist (items.insertionSort r) :=
    List.sublist_insertionSort alike List.filter_sublist
  have within := kept.filter p
  rw [List.filter_filter] at within
  simp only [Bool.and_self] at within
  exact (within.eq_of_length ((List.perm_insertionSort r items).filter p).length_eq.symm).symm

section

variable [DecidableEq α]

/-- Removing consecutive equal elements removes no value. -/
theorem mem_destutter_ne {item : α} :
    item ∈ items.destutter (· ≠ ·) ↔ item ∈ items := by
  have kept (first : α) (items : List α) (member : item ∈ first :: items) :
      item ∈ items.destutter' (· ≠ ·) first := by
    induction items generalizing first with
    | nil => simpa using member
    | cons next items ih =>
      by_cases same : first = next
      · rw [List.destutter'_cons_neg _ (by simpa using same)]
        apply ih first
        rcases List.mem_cons.mp member with rfl | later
        · exact List.mem_cons_self
        · rwa [same]
      · rw [List.destutter'_cons_pos _ same]
        rcases List.mem_cons.mp member with rfl | later
        · exact List.mem_cons_self
        · exact List.mem_cons_of_mem _ (ih next later)
  constructor
  · exact fun member => (List.destutter_sublist _ _).subset member
  · intro member
    cases items with
    | nil => contradiction
    | cons first items => exact kept first items member

/-- What is left has no duplicate exactly if no value comes back after another one. -/
theorem nodup_destutter_iff : (items.destutter (· ≠ ·)).Nodup ↔
    ∀ first second, [first, second, first].Sublist items → first = second := by
  cases items with
  | nil => simp
  | cons head items =>
    induction items generalizing head with
    | nil => simp
    | cons next items ih =>
      rw [List.destutter_cons_cons]
      by_cases same : head = next
      · -- The neighbour is dropped: what comes back after it comes back after the head.
        subst same
        rw [if_neg (by simp), ← List.destutter_cons', ih]
        constructor
        · intro distinct first second returns
          rcases returns_cons.mp returns with later | ⟨rfl, later⟩
          · exact distinct first second later
          · rcases List.sublist_cons_iff.mp later with past | ⟨rest, here, _⟩
            · exact distinct first second (returns_cons.mpr (.inr ⟨rfl, past⟩))
            · exact (List.cons.inj here).1.symm
        · intro distinct first second returns
          exact distinct first second (.cons _ returns)
      · -- The head stays, and must not come back.
        rw [if_pos same, ← List.destutter_cons', List.nodup_cons, mem_destutter_ne, ih]
        constructor
        · rintro ⟨gone, distinct⟩ first second returns
          rcases returns_cons.mp returns with later | ⟨rfl, later⟩
          · exact distinct first second later
          · exact absurd (later.subset (by simp)) gone
        · intro distinct
          refine ⟨fun back => ?_, fun first second returns => ?_⟩
          · rcases List.mem_cons.mp back with here | later
            · exact same here
            · have returns : [head, next, head].Sublist (head :: next :: items) :=
                .cons_cons _ (.cons_cons _ (List.singleton_sublist.mpr later))
              exact same (distinct head next returns)
          · exact distinct first second (.cons _ returns)

/-- After a sort what is left has no duplicate exactly if no value comes back after another one of
its key. -/
theorem nodup_destutter_insertionSort_iff (r : α → α → Prop) [DecidableRel r] [Std.Total r]
    [IsTrans α r] : ((items.insertionSort r).destutter (· ≠ ·)).Nodup ↔
      ∀ first second, r first second → r second first →
        [first, second, first].Sublist items → first = second := by
  have refl (item : α) : r item item := (Std.Total.total item item).elim id id
  rw [nodup_destutter_iff]
  constructor
  · intro distinct first second before after returns
    have alike : [first, second, first].Pairwise r := by
      simp [before, after, refl]
    exact distinct first second (List.sublist_insertionSort alike returns)
  · intro distinct first second returns
    have sorted := (List.pairwise_insertionSort r items).sublist returns
    rw [List.pairwise_cons] at sorted
    have before : r first second := sorted.1 second List.mem_cons_self
    have after : r second first := List.rel_of_pairwise_cons sorted.2 List.mem_cons_self
    let alike (item : α) : Bool := decide (r item first) && decide (r first item)
    have same : (items.insertionSort r).filter alike = items.filter alike := by
      refine filter_insertionSort r alike ?_
      refine List.pairwise_of_forall_mem_list fun left inLeft right inRight => ?_
      have below : r left first ∧ r first left := by
        simpa [alike] using (List.mem_filter.mp inLeft).2
      have above : r right first ∧ r first right := by
        simpa [alike] using (List.mem_filter.mp inRight).2
      exact IsTrans.trans left first right below.1 above.2
    have kept := returns.filter alike
    have whole : [first, second, first].filter alike = [first, second, first] := by
      simp [alike, before, after, refl]
    rw [whole, same] at kept
    exact distinct first second before after (kept.trans List.filter_sublist)

end

end LowPing.Library
