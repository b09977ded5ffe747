import Sentinel5G.Controller.Delivery
import Sentinel5G.Detect.Gtpu

namespace Sentinel5G.Ingestion

open Base Api Ebpf Program Controller Controller.ThreatScoreWatcher Detect Mesh

/-- The Pod indexed under `ip` exists, and `policy`, as the watcher has it, selects it. -/
def SelectedAt (podIndex : PodIPIndex) (world : World) (ip : IP) (policy : TelecomSecurityPolicy) :
    Prop :=
  ∃ ref pod, podIndex.lookup ip.string = some ref ∧ world.pods[ref]? = some pod ∧
    policy ∈ world.index.matchingPolicies ref.ns pod.labels

/-- `policy` selects the Pod that an event with this source is attributed to; an address
without a Pod is attributed to one without a name. -/
def AttributedTo (podIndex : PodIPIndex) (world : World) (ip : IP)
    (policy : TelecomSecurityPolicy) : Prop :=
  ∃ pod, world.pods[(podIndex.lookup ip.string).getD ⟨"", ""⟩]? = some pod ∧
    policy ∈ world.index.matchingPolicies ((podIndex.lookup ip.string).getD ⟨"", ""⟩).ns pod.labels

def Detected (tunnels : GTPUFloodDetector) (sources : GTPUSourceFloodDetector)
    (event : NormalizedEvent) (now : Time) (score : ThreatScoreEvent) : Prop :=
  (tunnels.evaluate event now).1 = some score ∨ (sources.evaluate event now).1 = some score

def BlocksSources (policy : TelecomSecurityPolicy) : Prop :=
  policy.spec.threatDetection.autoMitigate = true ∧ policy.spec.actions.ebpfBlock = true

/-- Every call of the delivery succeeds. A Pod that does not exist is an answer. -/
structure Succeeds (watcher : ThreatScoreWatcher) (score : ThreatScoreEvent)
    (script : Nat → Choice) (world : World) : Prop where
  answered : ((watcher.handle score).run exec script world).1 = .ok ()
  smooth : ∀ exchange ∈ (watcher.handle score).exchanges exec script world,
    ¬ Fails exchange.op exchange.answer

section Mitigated

variable {watcher : ThreatScoreWatcher} {score : ThreatScoreEvent} {script : Nat → Choice}
  {world : World} {policy : TelecomSecurityPolicy} {drop : Drop}

/-- A delivery in which every call succeeds mitigates each policy it concerns. -/
theorem delivery_mitigates (succeeds : Succeeds watcher score script world)
    (concerned : Concerns score world policy) :
    watcher.Mitigated score policy world ((watcher.handle score).run exec script world).2 := by
  rcases watcher.attempts_cases score script world with
    unmatched | ⟨pod, policies, later, reads, matched⟩
  · obtain ⟨pod, known, -⟩ := concerned
    rcases unmatched.result with ⟨-, absent⟩ | ⟨err, failed⟩
    · rw [(watcher.observed_frame world).2.1, known] at absent
      cases absent
    · have answered := succeeds.answered
      rw [handle_run, failed] at answered
      cases answered
  · have success := matched.outcomes_ok_iff.mpr succeeds.smooth
    exact matched.mitigated success concerned

theorem succeeds_of_outcomes {outcomes : List (Except Err Unit)}
    (ended : ((watcher.attempts score).run exec script world).1 = .ok outcomes)
    (success : ∀ outcome ∈ outcomes, outcome = .ok ()) :
    Succeeds watcher score script world := by
  refine ⟨by rw [handle_run, ended], ?_⟩
  rcases watcher.attempts_cases score script world with
    unmatched | ⟨pod, policies, later, reads, matched⟩
  · rw [handle_exchanges]
    exact unmatched.smooth
  · rw [matched.looped] at ended
    cases ended
    exact matched.outcomes_ok_iff.mp success

/-- The status of a policy that the delivery does not concern stays as it is. -/
theorem records_of_unconcerned (indexed : world.index.lookup policy.key = some policy)
    (unconcerned : ¬ Concerns score world policy) :
    Records ((watcher.handle score).run exec script world).2 policy drop ↔
      Records world policy drop := by
  have same := (watcher.handle_delivered score script world).others policy.key
    (fun other concerned sameKey => by
      obtain ⟨pod, known, matching⟩ := concerned
      have found := (PolicyIndex.mem_matchingPolicies.mp matching).2.1
      rw [sameKey, indexed, Option.some.injEq] at found
      exact unconcerned ⟨pod, known, found ▸ matching⟩)
  rw [Records, Records, same]

theorem threshold_le_one (watcher : ThreatScoreWatcher) (policy : TelecomSecurityPolicy) :
    watcher.threshold policy ≤ 1 := by
  rw [ThreatScoreWatcher.threshold]
  split
  · exact le_rfl
  · rename_i below
    exact not_lt.mp below

/-- A reported event is above every threshold and asks for its source. -/
theorem acts_of_reported {event : NormalizedEvent} {address : Address}
    (reported : Reported event score) (parsed : parseIP event.sourceIP = some address.val)
    (disengaged : world.engaged = false) :
    watcher.Armed policy score world.engaged ∧ Wants policy score (.source address) ↔
      BlocksSources policy := by
  have above : ¬ score.score < watcher.threshold policy := by
    rw [reported.certain]
    exact not_lt.mpr (threshold_le_one watcher policy)
  rw [← reported.sourceIP] at parsed
  simp only [ThreatScoreWatcher.Armed, Wants, intent, BlocksSources, above, disengaged, parsed,
    Option.isSome_some, Bool.and_true, not_false_eq_true, true_and, and_true]

theorem concerns_iff_attributed {event : SignalingEvent} {podIndex : PodIPIndex}
    {rateLookup : SignalRateLookup} {nodeName eventID : String}
    (reported : Reported (fromSignalingEvent event podIndex rateLookup nodeName eventID) score) :
    Concerns score world policy ↔ AttributedTo podIndex world event.sourceIP policy := by
  rw [Concerns, AttributedTo, reported.ns, reported.podName]
  rfl

end Mitigated

section Flood

variable (watcher : ThreatScoreWatcher) (tunnels : GTPUFloodDetector)
  (sources : GTPUSourceFloodDetector) (podIndex : PodIPIndex) (rateLookup : SignalRateLookup)
  (nodeName eventID : String) (event : SignalingEvent) (address : Address) (now : Time)
  (score : ThreatScoreEvent) (policy : TelecomSecurityPolicy) (script : Nat → Choice)
  (world : World)

/-- A flood reported by either detector is blocked and recorded by every policy
that selects the Pod its source address belongs to. -/
theorem attributed_flood_is_blocked (source : event.sourceIP.to16 = some address.val)
    (attributed : AttributedTo podIndex world event.sourceIP policy)
    (blocks : BlocksSources policy)
    (detected : Detected tunnels sources
      (fromSignalingEvent event podIndex rateLookup nodeName eventID) now score)
    (disengaged : world.engaged = false) (succeeds : Succeeds watcher score script world)
    (withheld : watcher.SkipsWrite policy score world →
      Records world policy (.source address)) :
    ((watcher.handle score).run exec script world).2.loader.Holds (.source address) ∧
      Records ((watcher.handle score).run exec script world).2 policy (.source address) := by
  have reported : Reported (fromSignalingEvent event podIndex rateLookup nodeName eventID) score :=
    detected.elim GTPUFloodDetector.evaluate_reports GTPUSourceFloodDetector.evaluate_reports
  obtain ⟨armed, wants⟩ := (acts_of_reported reported (parseIP_string _ _ source) disengaged).mpr
    blocks
  have concerned : Concerns score world policy := (concerns_iff_attributed reported).mpr attributed
  exact (delivery_mitigates succeeds concerned).recorded armed wants withheld

/-- The policy hears of the flood and writes its source down; or it has it on record
already, and the source is dropped already or by some policy that hears of the flood. -/
def HeardByPolicy (drop : Drop) : Prop :=
  AttributedTo podIndex world event.sourceIP policy ∧ ¬ watcher.SkipsWrite policy score world ∨
    Records world policy drop ∧ (world.loader.Holds drop ∨
      ∃ other, AttributedTo podIndex world event.sourceIP other ∧ BlocksSources other)

/-- The policy that guards the attacked Pod blocks the source of a reported flood and
records it exactly if the flood is attributed to a Pod of its own, or had no need of it. -/
theorem reported_flood_is_blocked_iff (source : event.sourceIP.to16 = some address.val)
    (attacked : SelectedAt podIndex world event.destIP policy) (blocks : BlocksSources policy)
    (detected : Detected tunnels sources
      (fromSignalingEvent event podIndex rateLookup nodeName eventID) now score)
    (disengaged : world.engaged = false) (succeeds : Succeeds watcher score script world) :
    ((watcher.handle score).run exec script world).2.loader.Holds (.source address) ∧
        Records ((watcher.handle score).run exec script world).2 policy (.source address) ↔
      HeardByPolicy watcher podIndex event score policy world (.source address) := by
  have reported : Reported (fromSignalingEvent event podIndex rateLookup nodeName eventID) score :=
    detected.elim GTPUFloodDetector.evaluate_reports GTPUSourceFloodDetector.evaluate_reports
  have hears : ∀ other, Concerns score world other ↔
      AttributedTo podIndex world event.sourceIP other :=
    fun other => concerns_iff_attributed reported
  have acts : ∀ other, watcher.Armed other score world.engaged ∧
      Wants other score (.source address) ↔ BlocksSources other :=
    fun other => acts_of_reported reported (parseIP_string _ _ source) disengaged
  have mitigates := fun attributed => attributed_flood_is_blocked watcher tunnels sources podIndex
    rateLookup nodeName eventID event address now score policy script world source attributed blocks
    detected disengaged succeeds
  have grows := (watcher.handle_delivered score script world).grows
  by_cases attributed : AttributedTo podIndex world event.sourceIP policy
  · constructor
    · rintro ⟨-, recorded⟩
      by_cases skips : watcher.SkipsWrite policy score world
      · obtain ⟨armed, wants⟩ := (acts policy).mpr blocks
        have mitigated := delivery_mitigates succeeds ((hears policy).mpr attributed)
        rw [Records, (mitigated armed _ wants).2.1 skips] at recorded
        exact .inr ⟨recorded, .inr ⟨policy, attributed, blocks⟩⟩
      · exact .inl ⟨attributed, skips⟩
    · rintro (⟨-, writes⟩ | ⟨recorded, -⟩)
      · exact mitigates attributed (fun skips => absurd skips writes)
      · exact mitigates attributed (fun _ => recorded)
  · obtain ⟨ref, pod, -, -, matching⟩ := attacked
    have indexed := (PolicyIndex.mem_matchingPolicies.mp matching).2.1
    rw [records_of_unconcerned indexed (mt (hears policy).mp attributed)]
    constructor
    · rintro ⟨held, recorded⟩
      refine .inr ⟨recorded, (grows.added _ held).imp_right ?_⟩
      rintro ⟨other, concerned, acting⟩
      exact ⟨other, (hears other).mp concerned, (acts other).mp acting⟩
    · rintro (⟨heard, -⟩ | ⟨recorded, held | ⟨other, heard, blocking⟩⟩)
      · exact absurd heard attributed
      · exact ⟨grows.kept _ held, recorded⟩
      · obtain ⟨armed, wants⟩ := (acts other).mpr blocking
        have mitigated := delivery_mitigates succeeds ((hears other).mpr heard)
        exact ⟨(mitigated armed _ wants).1, recorded⟩

end Flood

/-- Tunnel 7 of `source`, far above the rate, towards the Pod `upf-0` at 10.0.0.9. -/
def flood (source : IP) : SignalingEvent where
  observedAt := 0
  sourceIP := source
  destIP := [10, 0, 0, 9]
  destPort := 2152
  payloadSize := 64
  protocol := signalProtoGTPU
  malformed := false
  vlanID := 0
  teid := 7
  tunnelRate := 3000

def floodDetector : GTPUFloodDetector := newGTPUFloodDetector ⟨true, 1000, 0, 4⟩

def peerDetector : GTPUSourceFloodDetector := newGTPUSourceFloodDetector ⟨true, 1, 0, 0, 0, 4, 4⟩

def corePods : PodIPIndex :=
  (PodIPIndex.new.put "10.0.0.9" ⟨"core", "upf-0"⟩).put "10.0.0.1" ⟨"core", "upf-1"⟩

def twoPods : World :=
  { watched with
    pods := watched.pods.insert ⟨"core", "upf-1"⟩ { upfPod with key := ⟨"core", "upf-1"⟩ } }

def normalized (source : IP) : NormalizedEvent :=
  fromSignalingEvent (flood source) corePods (fun _ _ => none) "node" "event"

def floodScore (source : IP) : ThreatScoreEvent where
  sourceEventID := "event"
  ns := (normalized source).ns
  podName := (normalized source).podName
  sourceIP := source.string
  teid := 7
  score := 1
  model := modelGTPUTunnelFlood
  detectedAt := 0

theorem flood_detected (source : IP) :
    Detected floodDetector peerDetector (normalized source) 0 (floodScore source) := by
  have unseen : floodDetector.lastFired.lookup ⟨source.string, 7⟩ = none :=
    Std.ExtTreeMap.getElem?_empty
  refine .inl ?_
  rw [GTPUFloodDetector.evaluate, if_neg (by decide),
    if_neg (by simp [normalized, fromSignalingEvent, flood, protocolFromSignal]), if_neg ?_,
      GTPUFloodDetector.claim]
  · have same : (⟨(normalized source).sourceIP, (normalized source).teid⟩ : TunnelID) =
        ⟨source.string, 7⟩ := rfl
    rw [same, unseen]
    rfl
  · change ¬ (((3000 : Nat) : ℚ) < ((1000 : Nat) : ℚ))
    norm_num

theorem reported_flood_is_blocked_inside : ∃ policy,
    SelectedAt corePods twoPods (flood [10, 0, 0, 1]).destIP policy ∧
    AttributedTo corePods twoPods (flood [10, 0, 0, 1]).sourceIP policy ∧
    ((plainOperator.watcher.handle (floodScore [10, 0, 0, 1])).run exec quietly
      twoPods).2.loader.Holds (.source attacker) ∧
    Records ((plainOperator.watcher.handle (floodScore [10, 0, 0, 1])).run exec quietly
      twoPods).2 policy (.source attacker) := by
  have facts : (twoPods.index.matchingPolicies "core" upfPod.labels).any (fun policy =>
      policy.spec.threatDetection.autoMitigate && policy.spec.actions.ebpfBlock) = true := by
    decide +kernel
  simp only [List.any_eq_true, Bool.and_eq_true] at facts
  obtain ⟨policy, matching, auto, blocks⟩ := facts
  have attacked : SelectedAt corePods twoPods (flood [10, 0, 0, 1]).destIP policy :=
    ⟨⟨"core", "upf-0"⟩, upfPod, by decide +kernel, by decide +kernel, matching⟩
  have attributed : AttributedTo corePods twoPods (flood [10, 0, 0, 1]).sourceIP policy := by
    have owner : corePods.lookup (flood [10, 0, 0, 1]).sourceIP.string =
        some ⟨"core", "upf-1"⟩ := by decide +kernel
    rw [AttributedTo, owner]
    exact ⟨{ upfPod with key := ⟨"core", "upf-1"⟩ }, Std.ExtTreeMap.getElem?_insert_self, matching⟩
  have ended : ((plainOperator.watcher.attempts (floodScore [10, 0, 0, 1])).run exec quietly
      twoPods).1 = .ok [.ok ()] := by decide +kernel
  refine ⟨policy, attacked, attributed, (reported_flood_is_blocked_iff plainOperator.watcher
    floodDetector peerDetector corePods (fun _ _ => none) "node" "event" (flood [10, 0, 0, 1])
    attacker 0 (floodScore [10, 0, 0, 1]) policy quietly twoPods rfl attacked ⟨auto, blocks⟩
    (flood_detected _) rfl (succeeds_of_outcomes ended (by simp))).mpr (.inl ⟨attributed, ?_⟩)⟩
  intro skips
  exact Bool.noConfusion skips.2

/-- An address outside the cluster: 203.0.113.7. -/
def outsider : Address := ⟨[0, 0, 0, 0, 0, 0, 0, 0, 0, 0, 255, 255, 203, 0, 113, 7], rfl⟩

/-- The flood from 10.0.0.1 was mitigated, the stored status was cleared since,
the index has not heard of it, and the rate limiter lets no further write through. -/
def cleared : World :=
  let scored := ((plainOperator.watcher.handle (floodScore [10, 0, 0, 1])).run exec quietly
    twoPods).2
  match scored.server.persisted upfGuard with
  | none => scored
  | some policy =>
      { scored with
        server := (scored.server.updateStatus { policy with status := .initial }).2
        allows := fun _ => false }

/-- The attacked Pod is selected by a policy that drops sources, and its flood is
reported. From outside the cluster no policy hears of it; and from inside, a stale
index and a withheld write leave a drop that is not recorded. -/
theorem reported_flood_is_missed :
    (∃ policy, SelectedAt corePods twoPods (flood [203, 0, 113, 7]).destIP policy ∧
      BlocksSources policy ∧ twoPods.engaged = false ∧
      Detected floodDetector peerDetector (normalized [203, 0, 113, 7]) 0
        (floodScore [203, 0, 113, 7]) ∧
      Succeeds plainOperator.watcher (floodScore [203, 0, 113, 7]) quietly twoPods ∧
      ¬ ((plainOperator.watcher.handle (floodScore [203, 0, 113, 7])).run exec quietly
        twoPods).2.loader.Holds (.source outsider) ∧
      ¬ Records ((plainOperator.watcher.handle (floodScore [203, 0, 113, 7])).run exec quietly
        twoPods).2 policy (.source outsider)) ∧
    ∃ policy, SelectedAt corePods cleared (flood [10, 0, 0, 1]).destIP policy ∧
      SelectedAt corePods cleared (flood [10, 0, 0, 1]).sourceIP policy ∧
      BlocksSources policy ∧ cleared.engaged = false ∧
      Detected floodDetector peerDetector (normalized [10, 0, 0, 1]) 0
        (floodScore [10, 0, 0, 1]) ∧
      Succeeds plainOperator.watcher (floodScore [10, 0, 0, 1]) quietly cleared ∧
      ¬ Records ((plainOperator.watcher.handle (floodScore [10, 0, 0, 1])).run exec quietly
        cleared).2 policy (.source attacker) := by
  constructor
  · have facts : (twoPods.index.matchingPolicies "core" upfPod.labels).any (fun policy =>
        policy.spec.threatDetection.autoMitigate && policy.spec.actions.ebpfBlock &&
        !decide (Records ((plainOperator.watcher.handle (floodScore [203, 0, 113, 7])).run exec
          quietly twoPods).2 policy (.source outsider))) = true := by
      decide +kernel
    simp only [List.any_eq_true, Bool.and_eq_true, Bool.not_eq_true', decide_eq_false_iff_not]
      at facts
    obtain ⟨policy, matching, ⟨auto, blocks⟩, unrecorded⟩ := facts
    have ended : ((plainOperator.watcher.attempts (floodScore [203, 0, 113, 7])).run exec quietly
        twoPods).1 = .ok [] := by decide +kernel
    exact ⟨policy, ⟨⟨"core", "upf-0"⟩, upfPod, by decide +kernel, by decide +kernel, matching⟩,
      ⟨auto, blocks⟩, rfl, flood_detected _, succeeds_of_outcomes ended (by simp),
      by decide +kernel, unrecorded⟩
  · have facts : (cleared.index.matchingPolicies "core" upfPod.labels).any (fun policy =>
        policy.spec.threatDetection.autoMitigate && policy.spec.actions.ebpfBlock &&
        !decide (Records ((plainOperator.watcher.handle (floodScore [10, 0, 0, 1])).run exec
          quietly cleared).2 policy (.source attacker))) = true := by
      decide +kernel
    simp only [List.any_eq_true, Bool.and_eq_true, Bool.not_eq_true', decide_eq_false_iff_not]
      at facts
    obtain ⟨policy, matching, ⟨auto, blocks⟩, unrecorded⟩ := facts
    have ended : ((plainOperator.watcher.attempts (floodScore [10, 0, 0, 1])).run exec quietly
        cleared).1 = .ok [.ok ()] := by decide +kernel
    exact ⟨policy, ⟨⟨"core", "upf-0"⟩, upfPod, by decide +kernel, by decide +kernel, matching⟩,
      ⟨⟨"core", "upf-1"⟩, { upfPod with key := ⟨"core", "upf-1"⟩ }, by decide +kernel,
        by decide +kernel, matching⟩,
      ⟨auto, blocks⟩, by decide +kernel, flood_detected _,
      succeeds_of_outcomes ended (by simp), unrecorded⟩

end Sentinel5G.Ingestion
