import Mathlib.Data.Set.Function
import Std.Data.ExtTreeMap.Lemmas

namespace Sentinel5G.Base

open Std

variable {κ κ' v : Type} {cmp : κ → κ → Ordering} {cmp' : κ' → κ' → Ordering} [TransCmp cmp]
  [LawfulEqCmp cmp] [TransCmp cmp'] [LawfulEqCmp cmp'] [DecidableEq κ']

def rekey (g : κ → κ') (map : ExtTreeMap κ v cmp) : ExtTreeMap κ' v cmp' :=
  ExtTreeMap.ofList (map.toList.map (fun entry => (g entry.1, entry.2))) cmp'

section Injective

variable {g : κ → κ'} {domain : Set κ} (injective : Set.InjOn g domain)
  {map : ExtTreeMap κ v cmp} (inside : ∀ key ∈ map, key ∈ domain)

include injective inside

omit [TransCmp cmp'] [DecidableEq κ'] in
theorem rekey_distinct :
    (map.toList.map (fun entry => (g entry.1, entry.2))).Pairwise
      (fun first second => ¬ cmp' first.1 second.1 = .eq) := by
  rw [List.pairwise_map]
  refine (ExtTreeMap.distinct_keys_toList (t := map)).imp_of_mem ?_
  intro first second memFirst memSecond different same
  have present : ∀ entry ∈ map.toList, entry.1 ∈ domain := by
    intro entry member
    apply inside
    rw [ExtTreeMap.mem_iff_isSome_getElem?, ExtTreeMap.mem_toList_iff_getElem?_eq_some.mp member]
    rfl
  have keys := injective (present first memFirst) (present second memSecond)
    (LawfulEqCmp.compare_eq_iff_eq.mp same)
  exact different (LawfulEqCmp.compare_eq_iff_eq.mpr keys)

theorem getElem?_rekey_eq_some {key' : κ'} {value : v} :
    (rekey g map : ExtTreeMap κ' v cmp')[key']? = some value ↔
      ∃ key ∈ domain, g key = key' ∧ map[key]? = some value := by
  have entry : ∀ {other : v}, (key', other) ∈ map.toList.map (fun entry => (g entry.1, entry.2)) ↔
      ∃ key, g key = key' ∧ map[key]? = some other := by
    intro other
    simp only [List.mem_map, Prod.mk.injEq, Prod.exists, ExtTreeMap.mem_toList_iff_getElem?_eq_some]
    constructor
    · rintro ⟨key, _, found, same, rfl⟩
      exact ⟨key, same, found⟩
    · rintro ⟨key, same, found⟩
      exact ⟨key, other, found, same, rfl⟩
  have stored : ∀ {other : v}, (∃ key, g key = key' ∧ map[key]? = some other) →
      (rekey g map : ExtTreeMap κ' v cmp')[key']? = some other := by
    intro other found
    exact ExtTreeMap.getElem?_ofList_of_mem ReflCmp.compare_self
      (rekey_distinct injective inside) (entry.mpr found)
  constructor
  · intro found
    by_cases listed : ∃ other key, g key = key' ∧ map[key]? = some other
    · obtain ⟨other, key, same, held⟩ := listed
      have equal := (stored ⟨key, same, held⟩).symm.trans found
      cases equal
      refine ⟨key, inside key ?_, same, held⟩
      rw [ExtTreeMap.mem_iff_isSome_getElem?, held]
      rfl
    · have absent : (rekey g map : ExtTreeMap κ' v cmp')[key']? = none := by
        apply ExtTreeMap.getElem?_ofList_of_contains_eq_false
        rw [Bool.eq_false_iff, ne_eq, List.contains_iff_mem, List.mem_map]
        rintro ⟨⟨_, other⟩, member, rfl⟩
        exact listed ⟨other, entry.mp member⟩
      rw [absent] at found
      cases found
  · rintro ⟨key, -, same, held⟩
    exact stored ⟨key, same, held⟩

theorem getElem?_rekey {key : κ} (member : key ∈ domain) :
    (rekey g map : ExtTreeMap κ' v cmp')[g key]? = map[key]? := by
  apply Option.ext
  intro value
  rw [getElem?_rekey_eq_some injective inside]
  constructor
  · rintro ⟨other, inDomain, same, found⟩
    rwa [← injective inDomain member same]
  · exact fun found => ⟨key, member, rfl, found⟩

theorem rekey_insert [DecidableEq κ] {key : κ} (member : key ∈ domain) (value : v) :
    (rekey g (map.insert key value) : ExtTreeMap κ' v cmp') =
      (rekey g map).insert (g key) value := by
  have grown : ∀ other ∈ map.insert key value, other ∈ domain := by
    intro other present
    rcases ExtTreeMap.mem_insert.mp present with same | old
    · rwa [← LawfulEqCmp.compare_eq_iff_eq.mp same]
    · exact inside other old
  apply ExtTreeMap.ext_getElem?
  intro key'
  apply Option.ext
  intro held
  rw [getElem?_rekey_eq_some injective grown]
  simp only [ExtTreeMap.getElem?_insert, LawfulEqCmp.compare_eq_iff_eq]
  by_cases here : g key = key'
  · rw [if_pos here]
    constructor
    · rintro ⟨other, inDomain, same, found⟩
      rwa [if_pos (injective member inDomain (here.trans same.symm))] at found
    · exact fun found => ⟨key, member, here, by rwa [if_pos rfl]⟩
  · rw [if_neg here, getElem?_rekey_eq_some injective inside]
    have elsewhere : ∀ other, g other = key' → key ≠ other := by
      rintro other same rfl
      exact here same
    constructor
    · rintro ⟨other, inDomain, same, found⟩
      rw [if_neg (elsewhere other same)] at found
      exact ⟨other, inDomain, same, found⟩
    · rintro ⟨other, inDomain, same, found⟩
      exact ⟨other, inDomain, same, by rwa [if_neg (elsewhere other same)]⟩

end Injective

end Sentinel5G.Base
