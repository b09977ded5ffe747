import Sentinel5G.Base.Error
import Mathlib.Data.Rat.Defs

namespace Sentinel5G.Api

open Base

abbrev Time := Int

abbrev Duration := Int

def second : Duration := 1000000000

def minute : Duration := 60 * second

/-- What is left of a time in an API object, whose text has whole seconds. -/
def wholeSeconds (time : Time) : Time := time - time % second

theorem wholeSeconds_idem (time : Time) : wholeSeconds (wholeSeconds time) = wholeSeconds time := by
  simp only [wholeSeconds]
  have whole : (time - time % second) % second = 0 :=
    Int.emod_eq_zero_of_dvd (Int.dvd_self_sub_emod)
  rw [whole, Int.sub_zero]

theorem wholeSeconds_eq (time : Time) : wholeSeconds time = second * (time / second) := by
  rw [wholeSeconds, Int.emod_def, Int.sub_sub_self]

theorem wholeSeconds_mono {first later : Time} (order : first ≤ later) :
    wholeSeconds first ≤ wholeSeconds later := by
  rw [wholeSeconds_eq, wholeSeconds_eq]
  exact Int.mul_le_mul_of_nonneg_left (Int.ediv_le_ediv (by decide) order) (by decide)

theorem wholeSeconds_le (time : Time) : wholeSeconds time ≤ time :=
  Int.sub_le_self time (Int.emod_nonneg time (by decide))

structure NamespacedName where
  ns : String
  name : String
  deriving DecidableEq, Repr

namespace NamespacedName

def cmp : NamespacedName → NamespacedName → Ordering :=
  compareLex (compareOn NamespacedName.ns) (compareOn NamespacedName.name)

instance : Std.TransCmp cmp :=
  inferInstanceAs
    (Std.TransCmp (compareLex (compareOn NamespacedName.ns) (compareOn NamespacedName.name)))

instance : Std.LawfulEqCmp cmp where
  eq_of_compare := by
    intro first second same
    rw [cmp, compareLex_eq_eq] at same
    obtain ⟨sameNs, sameName⟩ := same
    cases first
    cases second
    simp only [compareOn, Std.LawfulEqCmp.compare_eq_iff_eq] at sameNs sameName
    rw [sameNs, sameName]

def text (key : NamespacedName) : String := key.ns ++ "/" ++ key.name

end NamespacedName

abbrev Labels := Std.ExtTreeMap String String compare

def label (labels : Labels) (key : String) : String := labels[key]?.getD ""

inductive Sensitivity
  | unset
  | low
  | medium
  | high
  deriving DecidableEq, Repr

structure WorkloadSelector where
  app : String
  matchLabels : Labels
  deriving DecidableEq

structure ThreatDetectionSpec where
  sensitivity : Sensitivity
  autoMitigate : Bool
  deriving DecidableEq, Repr

structure ActionsSpec where
  ebpfBlock : Bool
  ebpfBlockTunnel : Bool
  isolatePod : Bool
  deriving DecidableEq, Repr

structure PolicySpec where
  targetWorkloads : List WorkloadSelector
  threatDetection : ThreatDetectionSpec
  actions : ActionsSpec
  deriving DecidableEq

inductive PolicyPhase
  | unset
  | pending
  | monitoring
  | alerting
  | mitigating
  | degraded
  deriving DecidableEq, Repr

inductive ConditionStatus
  | isTrue
  | isFalse
  | unknown
  deriving DecidableEq, Repr

structure Condition where
  type : String
  status : ConditionStatus
  observedGeneration : Nat
  lastTransitionTime : Time
  reason : String
  message : String
  deriving DecidableEq, Repr

structure PolicyStatus where
  phase : PolicyPhase
  observedThreatScore : String
  lastMitigationTime : Option Time
  blockedSourceIPs : List String
  blockedTunnels : List String
  conditions : List Condition
  deriving DecidableEq, Repr

def PolicyStatus.initial : PolicyStatus where
  phase := .unset
  observedThreatScore := ""
  lastMitigationTime := none
  blockedSourceIPs := []
  blockedTunnels := []
  conditions := []

/-- The status as the API server stores it and sends it back. -/
def PolicyStatus.stored (status : PolicyStatus) : PolicyStatus :=
  { status with
    lastMitigationTime := status.lastMitigationTime.map wholeSeconds
    conditions := status.conditions.map fun condition =>
      { condition with lastTransitionTime := wholeSeconds condition.lastTransitionTime } }

structure TelecomSecurityPolicy where
  key : NamespacedName
  resourceVersion : Nat
  generation : Nat
  deletionTimestamp : Option Time
  finalizers : List String
  spec : PolicySpec
  status : PolicyStatus
  deriving DecidableEq

structure Pod where
  key : NamespacedName
  labels : Labels
  /-- The `containerPort` values its non-init containers declare. -/
  containerPorts : List Int
  deriving DecidableEq

@[simp] theorem stored_blockedSourceIPs (status : PolicyStatus) :
    status.stored.blockedSourceIPs = status.blockedSourceIPs := rfl

@[simp] theorem stored_lastMitigationTime (status : PolicyStatus) :
    status.stored.lastMitigationTime = status.lastMitigationTime.map wholeSeconds := rfl

end Sentinel5G.Api
