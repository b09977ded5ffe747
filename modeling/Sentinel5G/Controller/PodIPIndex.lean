import Sentinel5G.Api.Policy

namespace Sentinel5G.Controller

open Api

abbrev PodRef := NamespacedName

structure PodIPIndex where
  byIP : Std.ExtTreeMap String PodRef compare
  byPod : Std.ExtTreeMap PodRef String NamespacedName.cmp
  /-- Every entry can be found again from its Pod. -/
  owned : ∀ (ip : String) (ref : PodRef), byIP[ip]? = some ref → byPod[ref]? = some ip

namespace PodIPIndex

def new : PodIPIndex where
  byIP := ∅
  byPod := ∅
  owned := by simp

/-- The forward map without the entry of `ref` under `ip`, if that is whose it is. -/
def evict (byIP : Std.ExtTreeMap String PodRef compare) (ip : String) (ref : PodRef) :
    Std.ExtTreeMap String PodRef compare :=
  if byIP[ip]? = some ref then byIP.erase ip else byIP

theorem getElem?_evict (byIP : Std.ExtTreeMap String PodRef compare) (ip other : String)
    (ref : PodRef) :
    (evict byIP ip ref)[other]? =
      if other = ip ∧ byIP[other]? = some ref then none else byIP[other]? := by
  rw [evict]
  by_cases same : other = ip
  · subst same
    split
    · rename_i held
      simp [held]
    · rename_i foreign
      simp [foreign]
  · have apart : ¬ ip = other := Ne.symm same
    split
    · simp [Std.ExtTreeMap.getElem?_erase, Std.LawfulEqCmp.compare_eq_iff_eq, same, apart]
    · simp [same]

theorem without_eq_some_iff {held : Option PodRef} {owner ref : PodRef} :
    (if held = some owner then none else held) = some ref ↔ held = some ref ∧ ¬ owner = ref := by
  split
  · rename_i same
    simp [same]
  · rename_i foreign
    rw [iff_self_and]
    rintro same rfl
    exact foreign same

theorem getElem?_evict_known (index : PodIPIndex) {ip : String} {ref : PodRef}
    (known : index.byPod[ref]? = some ip) (other : String) :
    (evict index.byIP ip ref)[other]? =
      if index.byIP[other]? = some ref then none else index.byIP[other]? := by
  rw [getElem?_evict]
  by_cases held : index.byIP[other]? = some ref
  · have same := known.symm.trans (index.owned other ref held)
    rw [if_pos ⟨(Option.some.inj same).symm, held⟩, if_pos held]
  · rw [if_neg (fun both => held both.2), if_neg held]

def moved (index : PodIPIndex) (ip : String) (ref : PodRef) :
    Std.ExtTreeMap String PodRef compare :=
  match index.byPod[ref]? with
  | some oldIP => if oldIP ≠ ip then evict index.byIP oldIP ref else index.byIP
  | none => index.byIP

/-- Under another address, a put takes away what the Pod had there. -/
theorem getElem?_moved (index : PodIPIndex) {ip other : String} (ref : PodRef)
    (elsewhere : other ≠ ip) :
    (index.moved ip ref)[other]? =
      if index.byIP[other]? = some ref then none else index.byIP[other]? := by
  have owned := index.owned other ref
  rw [moved]
  cases known : index.byPod[ref]? with
  | none =>
      rw [if_neg]
      intro held
      cases known.symm.trans (owned held)
  | some oldIP =>
      dsimp only
      by_cases still : oldIP = ip
      · rw [if_neg (not_not.mpr still), if_neg]
        intro held
        have same := known.symm.trans (owned held)
        rw [Option.some.injEq, still] at same
        exact elsewhere same.symm
      · rw [if_pos still, getElem?_evict_known index known]

def put (index : PodIPIndex) (ip : String) (ref : PodRef) : PodIPIndex :=
  if ip = "" then index
  else
    { byIP := (index.moved ip ref).insert ip ref
      byPod := index.byPod.insert ref ip
      owned := by
        intro other owner found
        simp only [Std.ExtTreeMap.getElem?_insert, Std.LawfulEqCmp.compare_eq_iff_eq] at found ⊢
        split at found
        · rename_i same
          cases found
          rw [if_pos rfl, same]
        · rename_i elsewhere
          rw [getElem?_moved index ref (Ne.symm elsewhere), without_eq_some_iff] at found
          rw [if_neg found.2]
          exact index.owned other owner found.1 }

def lookup (index : PodIPIndex) (ip : String) : Option PodRef := index.byIP[ip]?

def remove (index : PodIPIndex) (key : PodRef) : PodIPIndex :=
  match known : index.byPod[key]? with
  | none => index
  | some ip =>
      { byIP := evict index.byIP ip key
        byPod := index.byPod.erase key
        owned := by
          intro other owner found
          rw [getElem?_evict_known index known, without_eq_some_iff] at found
          simp only [Std.ExtTreeMap.getElem?_erase, Std.LawfulEqCmp.compare_eq_iff_eq]
          rw [if_neg found.2]
          exact index.owned other owner found.1 }

end PodIPIndex

end Sentinel5G.Controller
