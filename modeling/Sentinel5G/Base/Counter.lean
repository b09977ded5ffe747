import Mathlib.Algebra.BigOperators.Group.List.Basic
import Mathlib.Algebra.Ring.Nat
import Mathlib.Data.List.Nodup
import Std.Data.ExtTreeMap.Lemmas

namespace Sentinel5G.Base

abbrev Counter (K : Type) (cmp : K → K → Ordering) [Std.TransCmp cmp] := Std.ExtTreeMap K Nat cmp

namespace Counter

variable {K : Type} {cmp : K → K → Ordering} [Std.TransCmp cmp]

def count (counter : Counter K cmp) (key : K) : Nat := counter.getD key 0

def add (counter : Counter K cmp) (key : K) : Counter K cmp :=
  counter.insert key (counter.count key + 1)

def raise (counter : Counter K cmp) (key : K) (value : Nat) : Counter K cmp :=
  counter.insert key (max (counter.count key) value)

def total (counter : Counter K cmp) : Nat := (counter.toList.map Prod.snd).sum

theorem total_empty : total (∅ : Counter K cmp) = 0 := by
  rw [total, show (∅ : Counter K cmp).toList = [] from Std.ExtTreeMap.toList_eq_nil_iff.mpr rfl]
  rfl

variable [Std.LawfulEqCmp cmp]

theorem nodup_toList (counter : Counter K cmp) : counter.toList.Nodup := by
  apply Std.ExtTreeMap.distinct_keys_toList.imp
  intro first second different same
  rw [same] at different
  exact different Std.ReflCmp.compare_self

theorem mem_raise {counter : Counter K cmp} {key other : K} {value : Nat} :
    other ∈ counter.raise key value ↔ key = other ∨ other ∈ counter := by
  rw [raise, Std.ExtTreeMap.mem_insert, Std.LawfulEqCmp.compare_eq_iff_eq]

variable [DecidableEq K]

theorem mem_others {counter : Counter K cmp} {key : K} {entry : K × Nat} :
    entry ∈ counter.toList.filter (fun entry => decide (entry.1 ≠ key)) ↔
      counter[entry.1]? = some entry.2 ∧ entry.1 ≠ key := by
  rw [List.mem_filter, Std.ExtTreeMap.mem_toList_iff_getElem?_eq_some, decide_eq_true_iff]

theorem perm_others (counter : Counter K cmp) (key : K) :
    counter.toList.Perm (counter[key]?.toList.map (fun value => (key, value)) ++
      counter.toList.filter (fun entry => decide (entry.1 ≠ key))) := by
  rw [List.perm_ext_iff_of_nodup counter.nodup_toList]
  · intro entry
    rw [List.mem_append, mem_others, Std.ExtTreeMap.mem_toList_iff_getElem?_eq_some, List.mem_map]
    simp only [Option.mem_toList]
    by_cases same : entry.1 = key
    · subst same
      constructor
      · intro present
        exact .inl ⟨entry.2, present, rfl⟩
      · rintro (⟨value, present, whole⟩ | ⟨_, other⟩)
        · rw [← whole]
          exact present
        · exact absurd rfl other
    · constructor
      · intro present
        exact .inr ⟨present, same⟩
      · rintro (⟨value, _, whole⟩ | ⟨present, _⟩)
        · exact absurd (congrArg Prod.fst whole).symm same
        · exact present
  · apply List.Nodup.append
    · cases counter[key]? <;> simp
    · exact counter.nodup_toList.filter _
    · intro entry own other
      obtain ⟨value, _, rfl⟩ := List.mem_map.mp own
      exact (mem_others.mp other).2 rfl

theorem total_eq (counter : Counter K cmp) (key : K) :
    counter.total = counter.count key +
      ((counter.toList.filter (fun entry => decide (entry.1 ≠ key))).map Prod.snd).sum := by
  rw [total, ((counter.perm_others key).map Prod.snd).sum_eq, List.map_append, List.sum_append,
    count, Std.ExtTreeMap.getD_eq_getD_getElem?]
  cases counter[key]? <;> simp

theorem others_insert (counter : Counter K cmp) (key : K) (value : Nat) :
    ((counter.insert key value).toList.filter (fun entry => decide (entry.1 ≠ key))).Perm
      (counter.toList.filter (fun entry => decide (entry.1 ≠ key))) := by
  rw [List.perm_ext_iff_of_nodup ((nodup_toList _).filter _) ((nodup_toList _).filter _)]
  intro entry
  simp only [mem_others, Std.ExtTreeMap.getElem?_insert, Std.LawfulEqCmp.compare_eq_iff_eq]
  by_cases same : key = entry.1
  · simp [same]
  · rw [if_neg same]

theorem count_insert (counter : Counter K cmp) (key other : K) (value : Nat) :
    count (counter.insert key value) other = if key = other then
      value else counter.count other := by
  simp only [count, Std.ExtTreeMap.getD_insert, Std.LawfulEqCmp.compare_eq_iff_eq]

theorem total_add (counter : Counter K cmp) (key : K) :
    (counter.add key).total = counter.total + 1 := by
  rw [add, total_eq _ key, count_insert, if_pos rfl,
    ((others_insert counter key _).map Prod.snd).sum_eq, counter.total_eq key]
  omega

theorem count_raise (counter : Counter K cmp) (key other : K) (value : Nat) :
    (counter.raise key value).count other =
      if key = other then max (counter.count key) value else counter.count other :=
  count_insert _ _ _ _

end Counter

end Sentinel5G.Base
