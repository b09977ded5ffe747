import Sentinel5G.Api.Policy

namespace Sentinel5G.Controller

open Api

structure PolicyIndex where
  byNamespace :
    Std.ExtTreeMap String (Std.ExtTreeMap String TelecomSecurityPolicy compare) compare
  keyed : ∀ (ns name : String) (byName : Std.ExtTreeMap String TelecomSecurityPolicy compare)
    (policy : TelecomSecurityPolicy), byNamespace[ns]? = some byName →
    byName[name]? = some policy → policy.key = ⟨ns, name⟩

namespace PolicyIndex

def new : PolicyIndex where
  byNamespace := ∅
  keyed := by simp

def names (index : PolicyIndex) (ns : String) :
    Std.ExtTreeMap String TelecomSecurityPolicy compare :=
  index.byNamespace[ns]?.getD ∅

theorem key_of_names {index : PolicyIndex} {ns name : String} {policy : TelecomSecurityPolicy}
    (found : (index.names ns)[name]? = some policy) : policy.key = ⟨ns, name⟩ := by
  rw [names] at found
  cases present : index.byNamespace[ns]? with
  | none => simp [present] at found
  | some byName =>
      rw [present, Option.getD_some] at found
      exact index.keyed ns name byName policy present found

def withNames (index : PolicyIndex) (ns : String)
    (byName : Std.ExtTreeMap String TelecomSecurityPolicy compare)
    (keyed : ∀ (name : String) (policy : TelecomSecurityPolicy), byName[name]? = some policy →
      policy.key = ⟨ns, name⟩) : PolicyIndex where
  byNamespace := index.byNamespace.insert ns byName
  keyed := by
    intro other name found policy present member
    simp only [Std.ExtTreeMap.getElem?_insert, Std.LawfulEqCmp.compare_eq_iff_eq] at present
    split at present
    · rename_i same
      cases present
      rw [← same]
      exact keyed name policy member
    · exact index.keyed other name found policy present member

def put (index : PolicyIndex) (policy : TelecomSecurityPolicy) : PolicyIndex :=
  index.withNames policy.key.ns ((index.names policy.key.ns).insert policy.key.name policy) (by
    intro name other found
    simp only [Std.ExtTreeMap.getElem?_insert, Std.LawfulEqCmp.compare_eq_iff_eq] at found
    split at found
    · rename_i same
      cases found
      rw [← same]
    · exact key_of_names found)

def remove (index : PolicyIndex) (key : NamespacedName) : PolicyIndex :=
  match index.byNamespace[key.ns]? with
  | none => index
  | some _ =>
      if ((index.names key.ns).erase key.name).size = 0 then
        { byNamespace := index.byNamespace.erase key.ns
          keyed := by
            intro ns name byName policy present found
            simp only [Std.ExtTreeMap.getElem?_erase] at present
            split at present
            · cases present
            · exact index.keyed ns name byName policy present found }
      else index.withNames key.ns ((index.names key.ns).erase key.name) (by
        intro name policy found
        simp only [Std.ExtTreeMap.getElem?_erase] at found
        split at found
        · cases found
        · exact key_of_names found)

def lookup (index : PolicyIndex) (key : NamespacedName) : Option TelecomSecurityPolicy :=
  (index.names key.ns)[key.name]?

theorem lookup_key {index : PolicyIndex} {key : NamespacedName} {policy : TelecomSecurityPolicy}
    (found : index.lookup key = some policy) : policy.key = key :=
  key_of_names found

end PolicyIndex

def selectorMatchesOne (selector : WorkloadSelector) (podLabels : Labels) : Bool :=
  if selector.app = "" ∧ selector.matchLabels.size = 0 then false
  else if selector.app ≠ "" ∧ label podLabels "app" ≠ selector.app then false
  else selector.matchLabels.toList.all (fun pair => decide (label podLabels pair.1 = pair.2))

def selectorMatches (selectors : List WorkloadSelector) (podLabels : Labels) : Bool :=
  selectors.any (fun selector => selectorMatchesOne selector podLabels)

/-- The matches in the order of their names; the source's map iteration gives
them in any order. -/
def PolicyIndex.matchingPolicies (index : PolicyIndex) (ns : String) (podLabels : Labels) :
    List TelecomSecurityPolicy :=
  ((index.names ns).toList.map Prod.snd).filter
    (fun policy => selectorMatches policy.spec.targetWorkloads podLabels)

namespace PolicyIndex

theorem names_put (index : PolicyIndex) (policy : TelecomSecurityPolicy) (ns : String) :
    (index.put policy).names ns =
      if policy.key.ns = ns then (index.names ns).insert policy.key.name policy
      else index.names ns := by
  simp only [put, withNames, names, Std.ExtTreeMap.getElem?_insert,
    Std.LawfulEqCmp.compare_eq_iff_eq]
  split
  · rename_i same
    rw [same, Option.getD_some]
  · rfl

theorem lookup_put_self (index : PolicyIndex) (policy : TelecomSecurityPolicy) :
    (index.put policy).lookup policy.key = some policy := by
  rw [lookup, names_put, if_pos rfl, Std.ExtTreeMap.getElem?_insert_self]

theorem lookup_put_of_ne (index : PolicyIndex) (policy : TelecomSecurityPolicy)
    (key : NamespacedName) (different : key ≠ policy.key) :
    (index.put policy).lookup key = index.lookup key := by
  rw [lookup, names_put]
  split
  · rename_i sameNs
    have otherName : ¬ policy.key.name = key.name := by
      intro sameName
      apply different
      cases key
      cases shape : policy.key
      simp_all
    simp only [Std.ExtTreeMap.getElem?_insert, Std.LawfulEqCmp.compare_eq_iff_eq, otherName,
      if_false]
    rfl
  · rfl

theorem lookup_put_cases {index : PolicyIndex} {policy found : TelecomSecurityPolicy}
    {key : NamespacedName} (present : (index.put policy).lookup key = some found) :
    found = policy ∨ index.lookup key = some found := by
  by_cases same : key = policy.key
  · rw [same, lookup_put_self, Option.some.injEq] at present
    exact .inl present.symm
  · rw [lookup_put_of_ne index policy key same] at present
    exact .inr present

theorem lookup_remove (index : PolicyIndex) (key other : NamespacedName) :
    (index.remove key).lookup other = if other = key then none else index.lookup other := by
  have apart : other = key ↔ key.ns = other.ns ∧ key.name = other.name := by
    cases other
    cases key
    simp [eq_comm]
  have erased : ∀ name, ((index.names key.ns).erase key.name)[name]? =
      if key.name = name then none else (index.names key.ns)[name]? := by
    intro name
    simp only [Std.ExtTreeMap.getElem?_erase, Std.LawfulEqCmp.compare_eq_iff_eq]
  rw [remove]
  split
  · rename_i absent
    split
    · rename_i same
      rw [lookup, names, same, absent]
      simp
    · rfl
  · split
    · rename_i emptied
      have bare : (index.names key.ns).erase key.name = ∅ :=
        Std.ExtTreeMap.eq_empty_iff_size_eq_zero.mpr emptied
      simp only [lookup, names, Std.ExtTreeMap.getElem?_erase, Std.LawfulEqCmp.compare_eq_iff_eq,
        apart]
      by_cases sameNs : key.ns = other.ns
      · have gone := erased other.name
        rw [bare, sameNs, names] at gone
        simp only [sameNs, if_true, true_and, Option.getD_none]
        exact gone
      · simp only [sameNs, if_false, false_and]
    · simp only [lookup, names, withNames, Std.ExtTreeMap.getElem?_insert,
        Std.LawfulEqCmp.compare_eq_iff_eq, apart]
      by_cases sameNs : key.ns = other.ns
      · have left := erased other.name
        rw [sameNs, names] at left
        simp only [sameNs, if_true, true_and, Option.getD_some]
        exact left
      · simp only [sameNs, if_false, false_and]

theorem lookup_of_remove {index : PolicyIndex} {key other : NamespacedName}
    {found : TelecomSecurityPolicy} (present : (index.remove key).lookup other = some found) :
    index.lookup other = some found := by
  rw [lookup_remove] at present
  split at present
  · cases present
  · exact present

theorem mem_matchingPolicies {index : PolicyIndex} {ns : String} {podLabels : Labels}
    {policy : TelecomSecurityPolicy} :
    policy ∈ index.matchingPolicies ns podLabels ↔
      policy.key.ns = ns ∧ index.lookup policy.key = some policy ∧
        selectorMatches policy.spec.targetWorkloads podLabels = true := by
  rw [matchingPolicies, List.mem_filter, ← and_assoc, and_congr_left_iff]
  intro _
  constructor
  · intro member
    obtain ⟨⟨name, found⟩, listed, rfl⟩ := List.mem_map.mp member
    have present := Std.ExtTreeMap.mem_toList_iff_getElem?_eq_some.mp listed
    have key := key_of_names present
    simp only [lookup, key]
    exact ⟨trivial, present⟩
  · rintro ⟨rfl, found⟩
    exact List.mem_map.mpr ⟨(policy.key.name, policy),
      Std.ExtTreeMap.mem_toList_iff_getElem?_eq_some.mpr found, rfl⟩

theorem matchingPolicies_nodup (index : PolicyIndex) (ns : String) (podLabels : Labels) :
    ((index.matchingPolicies ns podLabels).map TelecomSecurityPolicy.key).Nodup := by
  have distinct : ((index.names ns).toList.map Prod.snd).Pairwise
      (fun first second => first.key ≠ second.key) := by
    rw [List.pairwise_map]
    refine (Std.ExtTreeMap.distinct_keys_toList (t := index.names ns)).imp_of_mem ?_
    intro first second memberFirst memberSecond different same
    have keyFirst := key_of_names (Std.ExtTreeMap.mem_toList_iff_getElem?_eq_some.mp memberFirst)
    have keySecond := key_of_names (Std.ExtTreeMap.mem_toList_iff_getElem?_eq_some.mp memberSecond)
    rw [same, keySecond] at keyFirst
    refine different (Std.LawfulEqCmp.compare_eq_iff_eq.mpr ?_)
    exact (NamespacedName.mk.inj keyFirst).2.symm
  rw [List.Nodup, List.pairwise_map]
  exact distinct.filter _

end PolicyIndex

end Sentinel5G.Controller
