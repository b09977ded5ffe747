import Mathlib.Data.Finset.Card
import Std.Data.ExtTreeSet.Lemmas

namespace Sentinel5G.Base

variable {α : Type} {cmp : α → α → Ordering} [Std.TransCmp cmp] [DecidableEq α]

structure Collects (limit : Nat) (set : Std.ExtTreeSet α cmp) (xs : List α) : Prop where
  inside : ∀ x, x ∈ set → x ∈ xs
  size : set.size = min limit xs.toFinset.card
  whole : set.size < limit → ∀ x ∈ xs, x ∈ set

theorem collects_empty (limit : Nat) : Collects limit (∅ : Std.ExtTreeSet α cmp) [] where
  inside x member := by simp at member
  size := by simp
  whole _ x member := by simp at member

theorem Collects.concat [Std.LawfulEqCmp cmp] {limit : Nat} {set : Std.ExtTreeSet α cmp}
    {xs : List α} (collected : Collects limit set xs) (x : α) :
    Collects limit (if set.size < limit then set.insert x else set) (xs ++ [x]) := by
  have size := collected.size
  have card : (xs ++ [x]).toFinset.card =
      if x ∈ xs then xs.toFinset.card else xs.toFinset.card + 1 := by
    rw [List.toFinset_append, Finset.union_comm, List.toFinset_cons, List.toFinset_nil,
      insert_empty_eq, ← Finset.insert_eq]
    split
    · rename_i seen
      rw [Finset.insert_eq_self.mpr (List.mem_toFinset.mpr seen)]
    · rename_i new
      rw [Finset.card_insert_of_notMem (fun member => new (List.mem_toFinset.mp member))]
  split
  · rename_i room
    have same : x ∈ set ↔ x ∈ xs := ⟨collected.inside x, collected.whole room x⟩
    have grown : (set.insert x).size = if x ∈ xs then set.size else set.size + 1 := by
      simp only [Std.ExtTreeSet.size_insert, ← same]
      rfl
    constructor
    · intro y member
      rw [Std.ExtTreeSet.mem_insert, Std.LawfulEqCmp.compare_eq_iff_eq] at member
      rcases member with rfl | old
      · simp
      · exact List.mem_append_left _ (collected.inside y old)
    · rw [grown, card]
      split <;> omega
    · intro _ y member
      rw [Std.ExtTreeSet.mem_insert, Std.LawfulEqCmp.compare_eq_iff_eq]
      rcases List.mem_append.mp member with old | new
      · exact .inr (collected.whole room y old)
      · exact .inl (List.mem_singleton.mp new).symm
  · rename_i full
    constructor
    · intro y member
      exact List.mem_append_left _ (collected.inside y member)
    · rw [card]
      split <;> omega
    · intro room
      omega

end Sentinel5G.Base
