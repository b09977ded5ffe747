import Mathlib.Data.Fintype.EquivFin
import Sentinel5G.Controller.Watcher

/-! Which workloads a quarantine hits. A score is matched against a list of
selectors, each a conjunction; the quarantine is one set of labels. -/

namespace Sentinel5G.Api.WorkloadSelector

def isEmpty (selector : WorkloadSelector) : Bool :=
  decide (selector.app = "") && decide (selector.matchLabels.size = 0)

def quarantineLabels (selector : WorkloadSelector) : Labels :=
  if selector.app ≠ "" then (∅ : Labels).insert "app" selector.app else selector.matchLabels

def AsksOnlyForApp (selector : WorkloadSelector) (app : String) : Prop :=
  selector.isEmpty = false ∧ (selector.app = "" ∨ selector.app = app) ∧
    ∀ key value, selector.matchLabels[key]? = some value → key = "app" ∧ value = app

end Sentinel5G.Api.WorkloadSelector

namespace Sentinel5G.Controller

open Api

def MatchLabels (matchLabels podLabels : Labels) : Prop :=
  ∀ key value : String, matchLabels[key]? = some value → podLabels[key]? = some value

theorem MatchLabels.label {matchLabels podLabels : Labels}
    (selects : MatchLabels matchLabels podLabels) {key value : String}
    (asked : matchLabels[key]? = some value) :
    label podLabels key = value := by
  rw [Api.label, selects key value asked, Option.getD_some]

theorem selectorMatchesOne_iff (selector : WorkloadSelector) (podLabels : Labels) :
    selectorMatchesOne selector podLabels = true ↔
      selector.isEmpty = false ∧
        (selector.app = "" ∨ label podLabels "app" = selector.app) ∧
        ∀ key value, selector.matchLabels[key]? = some value → label podLabels key = value := by
  have conditions : selector.matchLabels.toList.all
      (fun pair => decide (label podLabels pair.1 = pair.2)) = true ↔
      ∀ key value, selector.matchLabels[key]? = some value → label podLabels key = value := by
    rw [List.all_eq_true]
    constructor
    · intro all key value asked
      exact of_decide_eq_true
        (all (key, value) (Std.ExtTreeMap.mem_toList_iff_getElem?_eq_some.mpr asked))
    · intro all pair member
      exact decide_eq_true
        (all pair.1 pair.2 (Std.ExtTreeMap.mem_toList_iff_getElem?_eq_some.mp member))
  rw [selectorMatchesOne, WorkloadSelector.isEmpty]
  split
  · rename_i nothing
    simp [nothing]
  · rename_i something
    split
    · rename_i otherApp
      simp [otherApp.1, otherApp.2]
    · rename_i sameApp
      rw [conditions]
      grind

theorem selectorMatches_iff (selectors : List WorkloadSelector) (podLabels : Labels) :
    selectorMatches selectors podLabels = true ↔
      ∃ selector ∈ selectors, selectorMatchesOne selector podLabels = true := by
  rw [selectorMatches, List.any_eq_true]

theorem firstMatchLabels_eq (selectors : List WorkloadSelector) :
    firstMatchLabels selectors =
      (selectors.find? (fun selector => !selector.isEmpty)).map
        WorkloadSelector.quarantineLabels := by
  induction selectors with
  | nil => rfl
  | cons selector rest ih =>
      rw [firstMatchLabels, List.find?_cons]
      by_cases app : selector.app = ""
      · by_cases empty : selector.matchLabels.size = 0
        · have skipped : selector.isEmpty = true := by simp [WorkloadSelector.isEmpty, app, empty]
          simp only [app, empty, skipped, ih]
          rfl
        · have chosen : selector.isEmpty = false := by simp [WorkloadSelector.isEmpty, empty]
          simp [chosen, WorkloadSelector.quarantineLabels, app, Nat.pos_of_ne_zero empty]
      · have chosen : selector.isEmpty = false := by simp [WorkloadSelector.isEmpty, app]
        simp [chosen, WorkloadSelector.quarantineLabels, app]

/-- The quarantine selects the Pod, and only Pods the selectors match. -/
def QuarantineHits (selectors : List WorkloadSelector) (podLabels : Labels) : Prop :=
  ∃ matchLabels, firstMatchLabels selectors = some matchLabels ∧
    MatchLabels matchLabels podLabels ∧
    ∀ other : Labels, MatchLabels matchLabels other → selectorMatches selectors other = true

/-- The first selector with a condition stands for the list and for the Pod:
either it has no `app` and the Pod carries its labels, or the Pod has its `app`
and some selector asks for nothing but that. -/
def OneSelectorSuffices (selectors : List WorkloadSelector) (podLabels : Labels) : Prop :=
  ∃ first, selectors.find? (fun selector => !selector.isEmpty) = some first ∧
    if first.app = "" then MatchLabels first.matchLabels podLabels
    else label podLabels "app" = first.app ∧
      ∃ selector ∈ selectors, selector.AsksOnlyForApp first.app

def uniformLabels (keys : List String) (value : String) : Labels :=
  keys.foldr (fun key labels => labels.insert key value) ∅

theorem uniformLabels_of_mem {keys : List String} (value : String) {key : String}
    (listed : key ∈ keys) : (uniformLabels keys value)[key]? = some value := by
  induction keys with
  | nil => cases listed
  | cons head rest ih =>
      have step : (uniformLabels (head :: rest) value)[key]? =
          if compare head key = .eq then some value else (uniformLabels rest value)[key]? :=
        Std.ExtTreeMap.getElem?_insert
      rw [step]
      split
      · rfl
      · rename_i different
        rw [Std.LawfulEqCmp.compare_eq_iff_eq] at different
        exact ih ((List.mem_cons.mp listed).resolve_left (fun same => different same.symm))

theorem exists_unlisted (values : List String) : ∃ value, value ∉ values := by
  have infinite : Infinite String :=
    Infinite.of_injective String.ofList (fun _ _ => String.ofList_inj.mp)
  obtain ⟨value, unlisted⟩ := Infinite.exists_notMem_finset values.toFinset
  exact ⟨value, fun listed => unlisted (List.mem_toFinset.mpr listed)⟩

theorem label_insert (labels : Labels) (key value other : String) :
    label (labels.insert key value) other = if key = other then value else label labels other := by
  simp only [label, Std.ExtTreeMap.getElem?_insert, Std.LawfulEqCmp.compare_eq_iff_eq]
  split <;> rfl

/-- A Pod with the given `app` whose other labels suit no selector. -/
theorem exists_stranger (selectors : List WorkloadSelector) (app : String) :
    ∃ podLabels : Labels, podLabels["app"]? = some app ∧
      ∀ selector ∈ selectors, ∀ key value, selector.matchLabels[key]? = some value →
        label podLabels key = value → key = "app" ∧ value = app := by
  let asked := selectors.flatMap (fun selector => selector.matchLabels.toList)
  obtain ⟨fresh, unlisted⟩ := exists_unlisted (asked.map Prod.snd)
  refine ⟨(uniformLabels (asked.map Prod.fst) fresh).insert "app" app,
    Std.ExtTreeMap.getElem?_insert_self, ?_⟩
  intro selector member key value condition matched
  have listed : (key, value) ∈ asked := List.mem_flatMap.mpr
    ⟨selector, member, Std.ExtTreeMap.mem_toList_iff_getElem?_eq_some.mpr condition⟩
  rw [label_insert] at matched
  split at matched
  · rename_i same
    exact ⟨same.symm, matched.symm⟩
  · rw [label, uniformLabels_of_mem fresh (List.mem_map_of_mem listed), Option.getD_some] at matched
    exact absurd (List.mem_map_of_mem listed) (matched ▸ unlisted)

theorem app_matches_iff (selectors : List WorkloadSelector) (app : String) :
    (∀ other : Labels, other["app"]? = some app → selectorMatches selectors other = true) ↔
      ∃ selector ∈ selectors, selector.AsksOnlyForApp app := by
  constructor
  · intro all
    obtain ⟨stranger, named, unsuited⟩ := exists_stranger selectors app
    obtain ⟨selector, member, matched⟩ := (selectorMatches_iff _ _).mp (all stranger named)
    obtain ⟨something, sameApp, conditions⟩ := (selectorMatchesOne_iff _ _).mp matched
    have labelled : label stranger "app" = app := by rw [label, named, Option.getD_some]
    refine ⟨selector, member, something, sameApp.imp_right (fun same => ?_), ?_⟩
    · rw [← same, labelled]
    · intro key value asked
      exact unsuited selector member key value asked (conditions key value asked)
  · rintro ⟨selector, member, something, sameApp, conditions⟩ other named
    have labelled : label other "app" = app := by rw [label, named, Option.getD_some]
    refine (selectorMatches_iff _ _).mpr ⟨selector, member, (selectorMatchesOne_iff _ _).mpr
      ⟨something, sameApp.imp_right (fun same => labelled.trans same.symm), ?_⟩⟩
    intro key value asked
    obtain ⟨rfl, rfl⟩ := conditions key value asked
    exact labelled

theorem matchLabels_app (app : String) (podLabels : Labels) :
    MatchLabels ((∅ : Labels).insert "app" app) podLabels ↔ podLabels["app"]? = some app := by
  constructor
  · intro selects
    exact selects "app" app Std.ExtTreeMap.getElem?_insert_self
  · intro named key value asked
    simp only [Std.ExtTreeMap.getElem?_insert, Std.LawfulEqCmp.compare_eq_iff_eq,
      Std.ExtTreeMap.getElem?_empty] at asked
    split at asked
    · rename_i same
      cases asked
      rw [← same, named]
    · cases asked

theorem getElem?_eq_some_of_label {podLabels : Labels} {key value : String} (present : value ≠ "")
    (labelled : label podLabels key = value) : podLabels[key]? = some value := by
  rw [label] at labelled
  cases found : podLabels[key]? with
  | none =>
      rw [found, Option.getD_none] at labelled
      exact absurd labelled.symm present
  | some stored =>
      rw [found, Option.getD_some] at labelled
      rw [labelled]

/-- For a Pod whose score triggers the mitigation. -/
theorem quarantine_hits_iff (selectors : List WorkloadSelector) (podLabels : Labels)
    (matched : selectorMatches selectors podLabels = true) :
    QuarantineHits selectors podLabels ↔ OneSelectorSuffices selectors podLabels := by
  obtain ⟨first, found⟩ : ∃ first,
      selectors.find? (fun selector => !selector.isEmpty) = some first := by
    obtain ⟨selector, member, one⟩ := (selectorMatches_iff _ _).mp matched
    obtain ⟨something, -⟩ := (selectorMatchesOne_iff _ _).mp one
    rw [← Option.isSome_iff_exists, List.find?_isSome]
    exact ⟨selector, member, by rw [something]; rfl⟩
  have member := List.mem_of_find?_eq_some found
  have something : first.isEmpty = false := by
    have chosen := List.find?_some found
    simpa using chosen
  simp only [QuarantineHits, OneSelectorSuffices, firstMatchLabels_eq, found, Option.map_some,
    Option.some.injEq, exists_eq_left', WorkloadSelector.quarantineLabels]
  by_cases app : first.app = ""
  · -- Without an `app` the quarantine is the selector itself.
    simp only [app, ne_eq, not_true_eq_false, if_false, if_true, and_iff_left_iff_imp]
    intro _ other selects
    exact (selectorMatches_iff _ _).mpr ⟨first, member, (selectorMatchesOne_iff _ _).mpr
      ⟨something, .inl app, fun key value asked => selects.label asked⟩⟩
  · simp only [app, ne_eq, not_false_eq_true, if_true, if_false, matchLabels_app, app_matches_iff]
    apply and_congr_left'
    constructor
    · intro named
      rw [label, named, Option.getD_some]
    · exact getElem?_eq_some_of_label app

def coreAmf : List WorkloadSelector := [⟨"amf", (∅ : Labels).insert "tier" "core"⟩]

def amfAndSmf : List WorkloadSelector := [⟨"amf", ∅⟩, ⟨"smf", ∅⟩]

theorem quarantine_hits_amf :
    selectorMatches amfAndSmf ((∅ : Labels).insert "app" "amf") = true ∧
      OneSelectorSuffices amfAndSmf ((∅ : Labels).insert "app" "amf") ∧
      QuarantineHits amfAndSmf ((∅ : Labels).insert "app" "amf") := by
  have one : OneSelectorSuffices amfAndSmf ((∅ : Labels).insert "app" "amf") := by
    refine ⟨⟨"amf", ∅⟩, rfl, ?_⟩
    rw [if_neg (by decide)]
    refine ⟨by decide +kernel, ⟨"amf", ∅⟩, List.mem_cons_self, rfl, .inr rfl, ?_⟩
    intro key value asked
    rw [Std.ExtTreeMap.getElem?_empty] at asked
    cases asked
  exact ⟨by decide +kernel, one, (quarantine_hits_iff _ _ (by decide +kernel)).mpr one⟩

/-- The quarantine of `coreAmf` also hits an `amf` of another tier, and the one
of `amfAndSmf` misses the `smf` that triggered it. -/
theorem quarantine_misses :
    (∃ podLabels, selectorMatches coreAmf podLabels = true ∧ ¬ QuarantineHits coreAmf podLabels) ∧
    ∃ podLabels, selectorMatches amfAndSmf podLabels = true ∧
      ¬ QuarantineHits amfAndSmf podLabels := by
  have core : firstMatchLabels coreAmf = some ((∅ : Labels).insert "app" "amf") := rfl
  have both : firstMatchLabels amfAndSmf = some ((∅ : Labels).insert "app" "amf") := rfl
  refine ⟨⟨((∅ : Labels).insert "app" "amf").insert "tier" "core", by decide +kernel, ?_⟩,
    ⟨(∅ : Labels).insert "app" "smf", by decide +kernel, ?_⟩⟩
  · rintro ⟨matchLabels, chosen, -, only⟩
    cases core.symm.trans chosen
    have edge : selectorMatches coreAmf ((∅ : Labels).insert "app" "amf") = false := by
      decide +kernel
    have hit := only ((∅ : Labels).insert "app" "amf") ((matchLabels_app _ _).mpr
      Std.ExtTreeMap.getElem?_insert_self)
    cases edge.symm.trans hit
  · rintro ⟨matchLabels, chosen, selects, -⟩
    cases both.symm.trans chosen
    have named := (matchLabels_app _ _).mp selects
    rw [Std.ExtTreeMap.getElem?_insert_self] at named
    exact absurd (Option.some.inj named) (by decide)

end Sentinel5G.Controller
