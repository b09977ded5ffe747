import Mathlib.Data.List.Dedup
import Mathlib.Data.Finset.Card
import Sentinel5G.Base.Window

/-! Reports on the edge: a measure of a sequence grows step by step, and the
element with which it reaches a threshold is reported, no other. -/

namespace Sentinel5G.Base

variable {α β : Type}

structure Gauge (measure : List α → Nat) : Prop where
  zero : measure [] = 0
  grows : ∀ xs x, measure xs ≤ measure (xs ++ [x])
  slow : ∀ xs x, measure (xs ++ [x]) ≤ measure xs + 1

def Reaches (measure : List α → Nat) (threshold : Nat) (before : List α) (x : α) : Prop :=
  measure before < threshold ∧ threshold ≤ measure (before ++ [x])

instance (measure : List α → Nat) (threshold : Nat) (before : List α) (x : α) :
    Decidable (Reaches measure threshold before x) :=
  inferInstanceAs (Decidable (_ ∧ _))

/-- One report in a sequence that reaches the threshold, at the element with
which it does, if there is room for it; none in any other. -/
structure EdgeTriggered (measure : List α → Nat) (threshold : Nat) (reports : α → Nat)
    (room : α → Bool) (xs : List α) : Prop where
  below : measure xs < threshold → ∀ x ∈ xs, reports x = 0
  reached : threshold ≤ measure xs → ∃ before x after, xs = before ++ x :: after ∧
    Reaches measure threshold before x ∧ reports x = (room x).toNat ∧
    ∀ y ∈ before ++ after, reports y = 0

namespace Gauge

variable {measure : List α → Nat}

theorem mono (gauge : Gauge measure) (xs ys : List α) : measure xs ≤ measure (xs ++ ys) := by
  induction ys using List.reverseRecOn with
  | nil => rw [List.append_nil]
  | append_singleton ys last ih =>
      rw [← List.append_assoc]
      exact ih.trans (gauge.grows _ last)

theorem exists_reaches (gauge : Gauge measure) {threshold : Nat} (positive : 0 < threshold)
    {xs : List α} (high : threshold ≤ measure xs) :
    ∃ before x after, xs = before ++ x :: after ∧ Reaches measure threshold before x := by
  induction xs using List.reverseRecOn with
  | nil =>
      rw [gauge.zero] at high
      omega
  | append_singleton xs last ih =>
      by_cases reached : threshold ≤ measure xs
      · obtain ⟨before, x, after, split, edge⟩ := ih reached
        exact ⟨before, x, after ++ [last], by rw [split]; simp, edge⟩
      · exact ⟨xs, last, [], rfl, by omega, high⟩

/-- A rule that reports what reaches the threshold reports once. -/
theorem edgeTriggered (gauge : Gauge measure) {threshold : Nat} (positive : 0 < threshold)
    {reports : α → Nat} {room : α → Bool} {xs : List α}
    (rule : Throughout (fun before x =>
      reports x = if Reaches measure threshold before x then (room x).toNat else 0) xs) :
    EdgeTriggered measure threshold reports room xs := by
  have silent : ∀ before x after, xs = before ++ x :: after →
      ¬ Reaches measure threshold before x → reports x = 0 := by
    intro before x after split quiet
    rw [rule before x after split, if_neg quiet]
  constructor
  · intro low x member
    obtain ⟨before, after, split⟩ := List.append_of_mem member
    apply silent before x after split
    intro edge
    have bound := gauge.mono (before ++ [x]) after
    rw [List.append_assoc, List.singleton_append, ← split] at bound
    have := edge.2
    omega
  · intro high
    obtain ⟨before, x, after, split, edge⟩ := gauge.exists_reaches positive high
    refine ⟨before, x, after, split, edge, ?_, ?_⟩
    · rw [rule before x after split, if_pos edge]
    · intro y member
      rcases List.mem_append.mp member with early | late
      · obtain ⟨front, back, rfl⟩ := List.append_of_mem early
        apply silent front y (back ++ x :: after) (by rw [split]; simp)
        intro other
        have bound := gauge.mono (front ++ [y]) back
        rw [List.append_assoc, List.singleton_append] at bound
        have := edge.1
        have := other.2
        omega
      · obtain ⟨front, back, rfl⟩ := List.append_of_mem late
        apply silent (before ++ x :: front) y back (by rw [split]; simp)
        intro other
        have bound := gauge.mono (before ++ [x]) front
        rw [List.append_assoc, List.singleton_append] at bound
        have := edge.2
        have := other.1
        omega

end Gauge

theorem gauge_length : Gauge (fun xs : List α => xs.length) where
  zero := rfl
  grows := by simp
  slow := by simp

section Distinct

variable [DecidableEq β]

theorem eraseDups_concat (ys : List β) (y : β) :
    (ys ++ [y]).eraseDups = if y ∈ ys then ys.eraseDups else ys.eraseDups ++ [y] := by
  rw [List.eraseDups_append]
  by_cases seen : y ∈ ys
  · simp [seen, List.removeAll]
  · simp [seen, List.removeAll, List.eraseDups_cons]

theorem nodup_eraseDups (ys : List β) : ys.eraseDups.Nodup := by
  induction ys using List.reverseRecOn with
  | nil => exact List.nodup_nil
  | append_singleton ys last ih =>
      rw [eraseDups_concat]
      split
      · exact ih
      · rename_i new
        apply List.Nodup.append ih (List.nodup_singleton last)
        simpa [List.disjoint_singleton] using new

theorem card_toFinset_eq (ys : List β) : ys.toFinset.card = ys.eraseDups.length := by
  rw [← List.toFinset_card_of_nodup (nodup_eraseDups ys)]
  congr 1
  ext y
  simp

theorem gauge_distinct (f : α → β) : Gauge (fun xs : List α => (xs.map f).toFinset.card) where
  zero := rfl
  grows xs x := by
    apply Finset.card_le_card
    intro y
    simp only [List.mem_toFinset, List.map_append, List.mem_append]
    exact .inl
  slow xs x := by
    rw [List.map_append, List.map_singleton, List.toFinset_append]
    exact Finset.card_union_le _ _

end Distinct

end Sentinel5G.Base
