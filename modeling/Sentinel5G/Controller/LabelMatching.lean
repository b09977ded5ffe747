import Sentinel5G.Base.History
import Sentinel5G.Base.Trace
import Sentinel5G.Controller.Targeting

/-! What the policy index finds for a Pod after any history of puts and removals,
and where its match departs from the way Kubernetes reads labels: a key the Pod
does not carry reads as an empty value. -/

namespace Sentinel5G.Api.WorkloadSelector

open Controller

structure Selects (selector : WorkloadSelector) (podLabels : Labels) : Prop where
  criterion : selector.isEmpty = false
  app : selector.app ≠ "" → podLabels["app"]? = some selector.app
  pairs : MatchLabels selector.matchLabels podLabels

def Lacks (selector : WorkloadSelector) (podLabels : Labels) (key : String) : Prop :=
  selector.matchLabels[key]? = some "" ∧ podLabels[key]? = none

structure LacksOnlyEmpty (selector : WorkloadSelector) (podLabels : Labels) : Prop where
  criterion : selector.isEmpty = false
  app : selector.app ≠ "" → podLabels["app"]? = some selector.app
  pairs : ∀ key value, selector.matchLabels[key]? = some value →
    podLabels[key]? = some value ∨ selector.Lacks podLabels key
  lacking : ∃ key, selector.Lacks podLabels key

end Sentinel5G.Api.WorkloadSelector

namespace Sentinel5G.Controller

open Base Api

theorem label_eq_iff {podLabels : Labels} {key value : String} :
    label podLabels key = value ↔
      podLabels[key]? = some value ∨ value = "" ∧ podLabels[key]? = none := by
  rw [label]
  cases podLabels[key]? with
  | none => simp [eq_comm]
  | some stored => simp

/-- A selector takes the Pods it selects, and those that lack only empty values. -/
theorem selectorMatchesOne_iff_selects (selector : WorkloadSelector) (podLabels : Labels) :
    selectorMatchesOne selector podLabels = true ↔
      selector.Selects podLabels ∨ selector.LacksOnlyEmpty podLabels := by
  rw [selectorMatchesOne_iff]
  have named : (selector.app = "" ∨ label podLabels "app" = selector.app) ↔
      (selector.app ≠ "" → podLabels["app"]? = some selector.app) := by
    rw [label_eq_iff]
    tauto
  rw [named]
  constructor
  · rintro ⟨criterion, app, pairs⟩
    have each : ∀ key value, selector.matchLabels[key]? = some value →
        podLabels[key]? = some value ∨ selector.Lacks podLabels key := by
      intro key value asked
      rcases label_eq_iff.mp (pairs key value asked) with carried | ⟨rfl, absent⟩
      · exact .inl carried
      · exact .inr ⟨asked, absent⟩
    by_cases lacking : ∃ key, selector.Lacks podLabels key
    · exact .inr ⟨criterion, app, each, lacking⟩
    · refine .inl ⟨criterion, app, fun key value asked => ?_⟩
      exact (each key value asked).resolve_right (fun lacks => lacking ⟨key, lacks⟩)
  · rintro (⟨criterion, app, pairs⟩ | ⟨criterion, app, pairs, -⟩)
    · exact ⟨criterion, app, fun key value asked => label_eq_iff.mpr (.inl (pairs key value asked))⟩
    · refine ⟨criterion, app, fun key value asked => label_eq_iff.mpr ?_⟩
      rcases pairs key value asked with carried | ⟨empty, absent⟩
      · exact .inl carried
      · rw [asked, Option.some.injEq] at empty
        exact .inr ⟨empty, absent⟩

namespace PolicyIndex

inductive Call
  | put (policy : TelecomSecurityPolicy)
  | remove (key : NamespacedName)

def Call.key : Call → NamespacedName
  | .put policy => policy.key
  | .remove key => key

def apply (index : PolicyIndex) : Call → PolicyIndex
  | .put policy => index.put policy
  | .remove key => index.remove key

def Call.Overrides (later call : Call) : Prop := later.key = call.key

def after (history : List Call) : PolicyIndex := runMoves apply new history

theorem after_concat (history : List Call) (last : Call) :
    after (history ++ [last]) = (after history).apply last :=
  runMoves_concat new history last

theorem lookup_after_iff (history : List Call) (policy : TelecomSecurityPolicy) :
    (after history).lookup policy.key = some policy ↔
      Stands Call.Overrides (.put policy) history := by
  induction history using List.reverseRecOn with
  | nil =>
      have empty : (after []).lookup policy.key = none := by
        simp [after, runMoves, lookup, names, new]
      rw [empty]
      exact iff_of_false (by simp) not_stands_nil
  | append_singleton history last ih =>
      rw [after_concat, stands_concat, ← ih]
      cases last with
      | put other =>
          by_cases same : policy.key = other.key
          · rw [apply, same, lookup_put_self]
            simp [Call.Overrides, Call.key, same, eq_comm]
          · have different : policy ≠ other := fun equal => same (congrArg _ equal)
            rw [apply, lookup_put_of_ne _ _ _ same]
            simp [Call.Overrides, Call.key, Ne.symm same, different]
      | remove key =>
          rw [apply, lookup_remove]
          by_cases same : policy.key = key
          · simp [Call.Overrides, Call.key, same]
          · simp [Call.Overrides, Call.key, same, Ne.symm same]

/-- A Pod with these labels gets exactly the policies of the namespace that were
last put, not removed since, and select it. -/
structure MatchesLabels (history : List Call) (ns : String) (podLabels : Labels) : Prop where
  exact : ∀ policy, policy ∈ (after history).matchingPolicies ns podLabels ↔
    policy.key.ns = ns ∧ Stands Call.Overrides (.put policy) history ∧
      ∃ selector ∈ policy.spec.targetWorkloads, selector.Selects podLabels
  once : (((after history).matchingPolicies ns podLabels).map TelecomSecurityPolicy.key).Nodup

/-- Every policy with a selector the Pod meets but for empty values has one that
selects it. -/
def NoEmptyValueDecides (history : List Call) (ns : String) (podLabels : Labels) : Prop :=
  ∀ policy, policy.key.ns = ns → Stands Call.Overrides (.put policy) history →
    (∃ selector ∈ policy.spec.targetWorkloads, selector.LacksOnlyEmpty podLabels) →
    ∃ selector ∈ policy.spec.targetWorkloads, selector.Selects podLabels

theorem matches_labels_iff (history : List Call) (ns : String) (podLabels : Labels) :
    MatchesLabels history ns podLabels ↔ NoEmptyValueDecides history ns podLabels := by
  have found : ∀ policy, policy ∈ (after history).matchingPolicies ns podLabels ↔
      policy.key.ns = ns ∧ Stands Call.Overrides (.put policy) history ∧
        ∃ selector ∈ policy.spec.targetWorkloads,
          selector.Selects podLabels ∨ selector.LacksOnlyEmpty podLabels := by
    intro policy
    simp only [mem_matchingPolicies, lookup_after_iff, selectorMatches_iff,
      selectorMatchesOne_iff_selects]
  constructor
  · rintro ⟨exact, -⟩ policy here standing ⟨selector, member, lacks⟩
    exact ((exact policy).mp ((found policy).mpr
      ⟨here, standing, selector, member, .inr lacks⟩)).2.2
  · intro decided
    refine ⟨fun policy => ?_, matchingPolicies_nodup _ _ _⟩
    rw [found]
    constructor
    · rintro ⟨here, standing, selector, member, selects | lacks⟩
      · exact ⟨here, standing, selector, member, selects⟩
      · exact ⟨here, standing, decided policy here standing ⟨selector, member, lacks⟩⟩
    · rintro ⟨here, standing, selector, member, selects⟩
      exact ⟨here, standing, selector, member, .inl selects⟩

def untiered : TelecomSecurityPolicy where
  key := ⟨"core", "untiered"⟩
  resourceVersion := 1
  generation := 1
  deletionTimestamp := none
  finalizers := []
  spec := ⟨[⟨"", (∅ : Labels).insert "tier" ""⟩], ⟨.medium, true⟩, ⟨true, true, true⟩⟩
  status := .initial

/-- The policy is found for a Pod that has no `tier` label. -/
theorem absent_label_is_matched :
    ¬ MatchesLabels [.put untiered] "core" ((∅ : Labels).insert "app" "upf") := by
  have found : untiered ∈ (after [.put untiered]).matchingPolicies "core"
      ((∅ : Labels).insert "app" "upf") := by
    decide +kernel
  intro exact
  obtain ⟨-, -, selector, member, selects⟩ := (exact.exact untiered).mp found
  cases List.mem_singleton.mp member
  have carried := selects.pairs "tier" "" Std.ExtTreeMap.getElem?_insert_self
  exact absurd carried (by decide +kernel)

end PolicyIndex

end Sentinel5G.Controller
