import Mathlib.Data.List.Induction

namespace Sentinel5G.Base

variable {μ : Type} (overrides : μ → μ → Prop)

def Stands (move : μ) (history : List μ) : Prop :=
  ∃ before after, history = before ++ move :: after ∧ ∀ later ∈ after, ¬ overrides later move

variable {overrides} {move last : μ} {history : List μ}

theorem not_stands_nil : ¬ Stands overrides move [] := by
  rintro ⟨before, after, split, -⟩
  simp at split

theorem stands_concat :
    Stands overrides move (history ++ [last]) ↔
      move = last ∨ Stands overrides move history ∧ ¬ overrides last move := by
  constructor
  · rintro ⟨before, after, split, standing⟩
    rcases List.eq_nil_or_concat after with rfl | ⟨front, final, rfl⟩
    · obtain ⟨-, same⟩ := List.append_inj' split rfl
      exact .inl (List.singleton_inj.mp same).symm
    · rw [List.concat_eq_append, ← List.cons_append, ← List.append_assoc] at split
      obtain ⟨whole, same⟩ := List.append_inj' split rfl
      cases List.singleton_inj.mp same
      refine .inr ⟨⟨before, front, whole, fun later member => ?_⟩, ?_⟩
      · exact standing later (by simp [member])
      · exact standing last (by simp)
  · rintro (rfl | ⟨⟨before, after, rfl, standing⟩, kept⟩)
    · exact ⟨history, [], rfl, by simp⟩
    · refine ⟨before, after ++ [last], by simp, fun later member => ?_⟩
      rcases List.mem_append.mp member with old | new
      · exact standing later old
      · rw [List.mem_singleton.mp new]
        exact kept

end Sentinel5G.Base
