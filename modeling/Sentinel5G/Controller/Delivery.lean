import Sentinel5G.Controller.Lifecycle
import Sentinel5G.Controller.Mitigation
import Sentinel5G.Events.Bus

/-! One delivery of a score: which failures `applyPolicy` reports, which of them
`handle` passes on, and what an acknowledged delivery has achieved. -/

namespace Sentinel5G.Mesh

open Base Api Controller Program

/-- The answers that make a call of the watcher fail. Only the Linkerd adapter
lists Pods, and it fails when they declare no port. -/
def Fails : (op : Op) → op.Answer → Prop
  | .updateStatus _, .error _ => True
  | .block _, .error _ => True
  | .blockTunnel _ _, .error _ => True
  | .meshGet _, .error err => err.kind ≠ .notFound
  | .meshCreate _, .error _ => True
  | .meshUpdate _, .error _ => True
  | .listPods _ _, .error _ => True
  | .listPods _ _, .ok pods => pods.flatMap Pod.containerPorts = []
  | _, _ => False

theorem createOrUpdateUnstructured_reports (object : Object) :
    (createOrUpdateUnstructured object).Reports Fails := by
  intro answer
  cases answer with
  | error err =>
      dsimp only [Program.bind]
      refine ⟨fun failed => ?_, fun passed => ?_⟩
      · rw [if_neg failed]
        exact ⟨_, rfl⟩
      · rw [if_pos (not_not.mp passed)]
        intro created
        cases created with
        | error err => exact ⟨fun _ => ⟨_, rfl⟩, fun passed => absurd trivial passed⟩
        | ok done => exact ⟨fun failed => failed.elim, fun _ => ⟨_, rfl⟩⟩
  | ok existing =>
      refine ⟨fun failed => failed.elim, fun _ updated => ?_⟩
      cases updated with
      | error err => exact ⟨fun _ => ⟨_, rfl⟩, fun passed => absurd trivial passed⟩
      | ok done => exact ⟨fun failed => failed.elim, fun _ => ⟨_, rfl⟩⟩

theorem quarantinePorts_reports (ns : String) (selector : Labels) (ports : List Int) :
    (quarantinePorts ns selector ports).Reports Fails := by
  induction ports with
  | nil => exact ⟨(), rfl⟩
  | cons port rest ih =>
      exact (createOrUpdateUnstructured_reports _).bind (fun _ => ⟨_, rfl⟩) (fun _ => ih)

theorem ports_length_eq_zero (ports : List Int) :
    (Std.ExtTreeSet.ofList ports compare).toList.length = 0 ↔ ports = [] := by
  rw [List.length_eq_zero_iff, Std.ExtTreeSet.toList_eq_nil_iff,
    Std.ExtTreeSet.ofList_eq_empty_iff]

theorem Adapter.quarantine_reports (adapter : Adapter) (ns : String) (selector : Labels) :
    (adapter.quarantine ns selector).Reports Fails := by
  cases adapter with
  | istio => exact createOrUpdateUnstructured_reports _
  | cilium => exact createOrUpdateUnstructured_reports _
  | noop => exact ⟨(), rfl⟩
  | linkerd =>
      intro answer
      cases answer with
      | error err => exact ⟨fun _ => ⟨_, rfl⟩, fun passed => absurd trivial passed⟩
      | ok pods =>
          change (pods.flatMap Pod.containerPorts = [] → Fatal (if
              (Std.ExtTreeSet.ofList (pods.flatMap Pod.containerPorts) compare).toList.length = 0
              then _ else _)) ∧ (¬ pods.flatMap Pod.containerPorts = [] → Reports Fails (if
              (Std.ExtTreeSet.ofList (pods.flatMap Pod.containerPorts) compare).toList.length = 0
              then _ else _))
          refine ⟨fun none => ?_, fun some => ?_⟩
          · rw [if_pos ((ports_length_eq_zero _).mpr none)]
            exact ⟨_, rfl⟩
          · rw [if_neg (fun none => some ((ports_length_eq_zero _).mp none))]
            exact quarantinePorts_reports ns selector _

end Sentinel5G.Mesh

namespace Sentinel5G.Controller

open Base Api Ebpf Program Mesh Events

theorem updateStatus_reports (policy : TelecomSecurityPolicy) :
    (updateStatus policy).Reports Fails := by
  intro answer
  cases answer with
  | error err => exact ⟨fun _ => ⟨_, rfl⟩, fun passed => absurd trivial passed⟩
  | ok updated =>
      exact ⟨fun failed => failed.elim, fun _ _ => ⟨fun failed => failed.elim, fun _ => ⟨_, rfl⟩⟩⟩

theorem writeStatus_reports (prev next : TelecomSecurityPolicy) :
    (writeStatus prev next).Reports Fails := by
  rw [writeStatus]
  split
  · exact updateStatus_reports next
  · refine fun allowed => ⟨fun failed => failed.elim, fun _ => ?_⟩
    cases allowed with
    | true => exact updateStatus_reports next
    | false => exact ⟨(), rfl⟩

theorem executeBlockTunnel_reports (wanted : Intent) (event : ThreatScoreEvent) :
    (executeBlockTunnel wanted event).Reports Fails := by
  rw [executeBlockTunnel]
  split
  · intro answer
    cases answer with
    | error err => exact ⟨fun _ => ⟨_, rfl⟩, fun passed => absurd trivial passed⟩
    | ok done => exact ⟨fun failed => failed.elim, fun _ => ⟨(), rfl⟩⟩
  · exact ⟨(), rfl⟩

theorem executeBlock_reports (wanted : Intent) (event : ThreatScoreEvent) :
    (executeBlock wanted event).Reports Fails := by
  rw [executeBlock]
  split
  · intro answer
    cases answer with
    | error err => exact ⟨fun _ => ⟨_, rfl⟩, fun passed => absurd trivial passed⟩
    | ok done => exact ⟨fun failed => failed.elim, fun _ => ⟨(), rfl⟩⟩
  · exact ⟨(), rfl⟩

theorem executeQuarantine_reports (adapter : Adapter) (policy : TelecomSecurityPolicy)
    (wanted : Intent) : (executeQuarantine adapter policy wanted).Reports Fails := by
  rw [executeQuarantine]
  split
  · exact ⟨(), rfl⟩
  · exact (adapter.quarantine_reports _ _).bind (fun _ => ⟨_, rfl⟩) (fun _ => ⟨(), rfl⟩)

namespace ThreatScoreWatcher

theorem execute_reports (watcher : ThreatScoreWatcher) (policy : TelecomSecurityPolicy)
    (wanted : Intent) (event : ThreatScoreEvent) :
    (watcher.execute policy wanted event).Reports Fails :=
  (executeBlockTunnel_reports wanted event).bind (fun _ => ⟨_, rfl⟩) (fun _ =>
    (executeBlock_reports wanted event).bind (fun _ => ⟨_, rfl⟩) (fun _ =>
      executeQuarantine_reports watcher.mesh policy wanted))

theorem applyPolicy_reports (watcher : ThreatScoreWatcher) (policy : TelecomSecurityPolicy)
    (event : ThreatScoreEvent) : (watcher.applyPolicy policy event).Reports Fails := by
  rw [applyPolicy]
  split
  · exact writeStatus_reports _ _
  · split
    · exact writeStatus_reports _ _
    · refine fun engaged => ⟨fun failed => failed.elim, fun _ => ?_⟩
      cases engaged with
      | true => exact writeStatus_reports _ _
      | false =>
          refine fun now => ⟨fun failed => failed.elim, fun _ => ?_⟩
          exact (writeStatus_reports _ _).bind (fun _ => ⟨_, rfl⟩)
            (fun _ => watcher.execute_reports _ _ _)

theorem applyAll_run_ok (watcher : ThreatScoreWatcher) (event : ThreatScoreEvent)
    (policies : List TelecomSecurityPolicy) (script : Nat → Choice) (world : World) :
    (∀ outcome ∈ ((watcher.applyAll event policies).run exec script world).1, outcome = .ok ()) ↔
      ∀ exchange ∈ (watcher.applyAll event policies).exchanges exec script world,
        ¬ Fails exchange.op exchange.answer := by
  induction policies generalizing script world with
  | nil => exact ⟨fun _ _ member => (by cases member), fun _ _ member => by cases member⟩
  | cons policy rest ih =>
      have first := (watcher.applyPolicy_reports policy event).run exec script world
      rw [applyAll, run_bind, exchanges_bind, run_bind, exchanges_bind]
      simp only [pure_eq, run, exchanges, List.append_nil, List.forall_mem_append,
        List.forall_mem_cons, ← ih, ← first]
      refine and_congr_left' ⟨fun success => ⟨(), success⟩, ?_⟩
      rintro ⟨_, success⟩
      exact success

section Batch

variable (watcher : ThreatScoreWatcher) (event : ThreatScoreEvent)

theorem armed_congr {before after : World} (ambient : Ambient before after)
    (policy : TelecomSecurityPolicy) :
    watcher.Armed policy event after.engaged ↔ watcher.Armed policy event before.engaged := by
  rw [ambient.engaged]

theorem skipsWrite_congr {before after : World} (ambient : Ambient before after)
    (policy : TelecomSecurityPolicy) :
    watcher.SkipsWrite policy event after ↔ watcher.SkipsWrite policy event before := by
  rw [SkipsWrite, SkipsWrite, Skips, Skips, scored, scored, ambient.engaged, ambient.clock,
    ambient.allows]

/-- `policy` is mitigated: its drops are in the kernel, and its status records
them unless its write was withheld. -/
def Mitigated (policy : TelecomSecurityPolicy) (before after : World) : Prop :=
  watcher.Armed policy event before.engaged → ∀ drop, Wants policy event drop →
    after.loader.Holds drop ∧
    (watcher.SkipsWrite policy event before →
      after.server.persisted policy.key = before.server.persisted policy.key) ∧
    (¬ watcher.SkipsWrite policy event before →
      ∃ current, after.server.persisted policy.key = some current ∧ Claims current.status drop)

structure AllApplied (policies : List TelecomSecurityPolicy) (before : World)
    (outcomes : List (Except Err Unit)) (after : World) : Prop where
  ambient : Ambient before after
  others : ∀ key, key ∉ policies.map TelecomSecurityPolicy.key →
    after.server.persisted key = before.server.persisted key
  grows : GrowsBy (fun drop => ∃ policy ∈ policies, watcher.Armed policy event before.engaged ∧
    Wants policy event drop) before.loader after.loader
  mitigated : (∀ outcome ∈ outcomes, outcome = .ok ()) → ∀ policy ∈ policies,
    watcher.Mitigated event policy before after

variable {watcher event}

theorem Applied.mitigated {policy : TelecomSecurityPolicy} {before after : World}
    (applied : watcher.Applied policy event before (.ok ()) after) :
    watcher.Mitigated event policy before after := by
  intro armed drop wants
  refine ⟨(applied.landed rfl armed drop wants).1, fun skips => ?_,
    (applied.landed rfl armed drop wants).2⟩
  rw [applied.skipped skips]

theorem Mitigated.extend {policy : TelecomSecurityPolicy} {before middle after : World}
    (mitigated : watcher.Mitigated event policy before middle)
    (kept : ∀ drop, middle.loader.Holds drop → after.loader.Holds drop)
    (same : after.server.persisted policy.key = middle.server.persisted policy.key) :
    watcher.Mitigated event policy before after := by
  intro armed drop wants
  obtain ⟨held, skipped, written⟩ := mitigated armed drop wants
  exact ⟨kept drop held, fun skips => same.trans (skipped skips),
    fun writes => by rw [same]; exact written writes⟩

theorem Mitigated.preceded {policy : TelecomSecurityPolicy} {before middle after : World}
    (mitigated : watcher.Mitigated event policy middle after) (ambient : Ambient before middle)
    (same : middle.server.persisted policy.key = before.server.persisted policy.key) :
    watcher.Mitigated event policy before after := by
  intro armed drop wants
  obtain ⟨held, skipped, written⟩ :=
    mitigated ((armed_congr watcher event ambient policy).mpr armed) drop wants
  rw [skipsWrite_congr watcher event ambient policy] at skipped written
  exact ⟨held, fun skips => (skipped skips).trans same, written⟩

theorem applyAll_ends (policies : List TelecomSecurityPolicy)
    (distinct : (policies.map TelecomSecurityPolicy.key).Nodup) (world : World) :
    (watcher.applyAll event policies).Ends exec anyChoice
      (watcher.AllApplied event policies world) world := by
  induction policies generalizing world with
  | nil => exact ⟨.refl world, fun _ _ => rfl, .of_eq rfl, fun _ _ member => by cases member⟩
  | cons policy rest ih =>
      obtain ⟨absent, distinct⟩ := List.nodup_cons.mp distinct
      refine Ends.bind ((watcher.applyPolicy_ends policy event world).mono
        (fun outcome middle applied => ?_))
      refine Ends.bind ((ih distinct middle).mono (fun outcomes final all => ?_))
      refine ⟨applied.ambient.trans all.ambient, fun key outside => ?_,
        (applied.grows.mono fun drop wanted => ?_).trans (all.grows.mono fun drop wanted => ?_),
        fun success => ?_⟩
      · obtain ⟨different, elsewhere⟩ := not_or.mp (mt List.mem_cons.mpr outside)
        rw [all.others key elsewhere, applied.others key different]
      · exact ⟨policy, List.mem_cons_self, wanted⟩
      · obtain ⟨other, member, armed, wants⟩ := wanted
        exact ⟨other, List.mem_cons_of_mem policy member,
          (armed_congr watcher event applied.ambient other).mp armed, wants⟩
      · obtain ⟨first, later⟩ := List.forall_mem_cons.mp success
        subst first
        refine List.forall_mem_cons.mpr ⟨?_, fun other member => ?_⟩
        · exact applied.mitigated.extend all.grows.kept (all.others policy.key absent)
        · refine (all.mitigated later other member).preceded applied.ambient
            (applied.others other.key ?_)
          intro same
          exact absent (same ▸ List.mem_map_of_mem member)

end Batch

section Inversion

variable (watcher : ThreatScoreWatcher) (event : ThreatScoreEvent) (script : Nat → Choice)
  (world : World)

def foundPod (event : ThreatScoreEvent) (pod : Pod) : Exchange Op.Answer :=
  ⟨.getPod ⟨event.ns, event.podName⟩, .ok pod⟩

structure Unmatched (start : World) (ended : Except Err (List (Except Err Unit)) × World)
    (exchanges : List (Exchange Op.Answer)) : Prop where
  result : (ended.1 = .ok [] ∧ start.pods[(⟨event.ns, event.podName⟩ : NamespacedName)]? = none) ∨
    ∃ err, ended.1 = .error err
  unchanged : ended.2 = start
  smooth : ∀ exchange ∈ exchanges, ¬ Fails exchange.op exchange.answer
  lost : ∀ pod, foundPod event pod ∉ exchanges

structure Matched (start : World) (result : Except Err (List (Except Err Unit)) × World)
    (exchanges : List (Exchange Op.Answer)) (pod : Pod) (policies : List TelecomSecurityPolicy)
    (later : Nat → Choice) (reads : List (Exchange Op.Answer)) : Prop where
  known : start.pods[(⟨event.ns, event.podName⟩ : NamespacedName)]? = some pod
  matching : policies.Perm (start.index.matchingPolicies event.ns pod.labels)
  looped : result = (.ok ((watcher.applyAll event policies).run exec later start).1,
    ((watcher.applyAll event policies).run exec later start).2)
  asked : exchanges = reads ++ (watcher.applyAll event policies).exchanges exec later start
  smooth : ∀ exchange ∈ reads, ¬ Fails exchange.op exchange.answer
  found : foundPod event pod ∈ reads

theorem exec_getPod_ok {choice : Choice} {key : NamespacedName} {world : World} {pod : Pod}
    (answered : (exec choice (.getPod key) world).1 = .ok pod) : world.pods[key]? = some pod := by
  dsimp only [exec, Choice.read] at answered
  split at answered
  · split at answered
    · rename_i found
      cases answered
      exact found
    · cases answered
  · cases answered
  · cases answered

theorem exec_getPod_notFound {choice : Choice} {key : NamespacedName} {world : World} {err : Err}
    (answered : (exec choice (.getPod key) world).1 = .error err) (kind : err.kind = .notFound) :
    world.pods[key]? = none := by
  dsimp only [exec, Choice.read] at answered
  split at answered
  · split at answered
    · cases answered
    · assumption
  · cases answered
    cases kind
  · cases answered
    cases kind

theorem applyMatching_cases :
    Unmatched event world ((watcher.applyMatching event).run exec script world)
        ((watcher.applyMatching event).exchanges exec script world) ∨
    ∃ pod policies later reads, Matched watcher event world
      ((watcher.applyMatching event).run exec script world)
      ((watcher.applyMatching event).exchanges exec script world) pod policies later reads := by
  rw [applyMatching, perform_bind, run, exchanges]
  cases answered : (exec (script 0) (.getPod ⟨event.ns, event.podName⟩) world).1 with
  | error err =>
      refine .inl ?_
      dsimp only
      split
      · rename_i kind
        refine ⟨.inl ⟨rfl, exec_getPod_notFound answered kind⟩, rfl, ?_, ?_⟩
        · exact List.forall_mem_singleton.mpr id
        · intro pod member
          cases List.mem_singleton.mp member
      · refine ⟨.inr ⟨_, rfl⟩, rfl, ?_, ?_⟩
        · exact List.forall_mem_singleton.mpr id
        · intro pod member
          cases List.mem_singleton.mp member
  | ok pod =>
      refine .inr ⟨pod, (script 1).order.arrange (world.index.matchingPolicies event.ns pod.labels),
        fun n => script (n + 1 + 1), [foundPod event pod,
          ⟨.matchingPolicies event.ns pod.labels,
            (script 1).order.arrange (world.index.matchingPolicies event.ns pod.labels)⟩], ?_⟩
      dsimp only
      rw [perform_bind, run, exchanges, run_bind, exchanges_bind]
      refine ⟨exec_getPod_ok answered, (script 1).order.perm _, rfl, ?_, ?_, List.mem_cons_self⟩
      · simp only [pure_eq, exchanges, List.append_nil, List.cons_append, List.nil_append]
        rfl
      · exact List.forall_mem_cons.mpr ⟨id, List.forall_mem_singleton.mpr id⟩

def observed : World :=
  if watcher.scoring then { world with scoring := world.scoring.observe world.clock } else world

theorem attempts_run : ∃ later reads,
    (watcher.attempts event).run exec script world =
      (watcher.applyMatching event).run exec later (watcher.observed world) ∧
    (watcher.attempts event).exchanges exec script world =
      reads ++ (watcher.applyMatching event).exchanges exec later (watcher.observed world) ∧
    ∀ exchange ∈ reads, exchange.op = .observeScore := by
  rw [attempts, observed]
  split
  · exact ⟨fun n => script (n + 1), [⟨.observeScore, ()⟩], rfl, rfl,
      List.forall_mem_singleton.mpr rfl⟩
  · exact ⟨script, [], rfl, rfl, fun _ member => by cases member⟩

theorem observed_frame : (watcher.observed world).server = world.server ∧
    (watcher.observed world).pods = world.pods ∧ (watcher.observed world).index = world.index ∧
    (watcher.observed world).loader = world.loader ∧ Ambient world (watcher.observed world) := by
  rw [observed]
  split
  · exact ⟨rfl, rfl, rfl, rfl, rfl, rfl, rfl⟩
  · exact ⟨rfl, rfl, rfl, rfl, .refl world⟩

theorem attempts_cases :
    Unmatched event (watcher.observed world) ((watcher.attempts event).run exec script world)
        ((watcher.attempts event).exchanges exec script world) ∨
    ∃ pod policies later reads, Matched watcher event (watcher.observed world)
      ((watcher.attempts event).run exec script world)
      ((watcher.attempts event).exchanges exec script world) pod policies later reads := by
  obtain ⟨later, reads, sameRun, sameExchanges, counts⟩ := watcher.attempts_run event script world
  have silent : ∀ exchange ∈ reads, ¬ Fails exchange.op exchange.answer := by
    rintro ⟨op, answer⟩ member
    cases counts _ member
    exact id
  rw [sameRun, sameExchanges]
  rcases watcher.applyMatching_cases event later (watcher.observed world) with
    unmatched | ⟨pod, policies, rest, lookups, matched⟩
  · refine .inl ⟨unmatched.result, unmatched.unchanged, ?_, fun pod member => ?_⟩
    · exact List.forall_mem_append.mpr ⟨silent, unmatched.smooth⟩
    · rcases List.mem_append.mp member with early | late
      · cases counts _ early
      · exact unmatched.lost pod late
  · refine .inr ⟨pod, policies, rest, reads ++ lookups, matched.known, matched.matching,
      matched.looped, ?_, ?_, List.mem_append_right _ matched.found⟩
    · rw [matched.asked, List.append_assoc]
    · exact List.forall_mem_append.mpr ⟨silent, matched.smooth⟩

end Inversion

section Ack

variable (watcher : ThreatScoreWatcher) (event : ThreatScoreEvent) (script : Nat → Choice)
  (world : World)

def Concerns (policy : TelecomSecurityPolicy) : Prop :=
  ∃ pod, world.pods[(⟨event.ns, event.podName⟩ : NamespacedName)]? = some pod ∧
    policy ∈ world.index.matchingPolicies event.ns pod.labels

def Records (world : World) (policy : TelecomSecurityPolicy) (drop : Drop) : Prop :=
  ∃ current, world.server.persisted policy.key = some current ∧ Claims current.status drop

instance (world : World) (policy : TelecomSecurityPolicy) (drop : Drop) :
    Decidable (Records world policy drop) :=
  decidable_of_iff ((world.server.persisted policy.key).any
    (fun current => decide (Claims current.status drop)) = true)
    (by simp only [Records, Option.any_eq_true, decide_eq_true_eq])

/-- An acknowledgement stands for the work: a message is acked only if every
policy was applied, is delivered again otherwise, and a delivery in which all
of them succeed leaves the drops recorded and in the kernel. -/
structure Accountable : Prop where
  acked : ((watcher.handle event).run exec script world).1 = .ok () →
    ∀ outcomes, ((watcher.attempts event).run exec script world).1 = .ok outcomes →
      ∀ outcome ∈ outcomes, outcome = .ok ()
  reported : ∀ outcomes, ((watcher.attempts event).run exec script world).1 = .ok outcomes →
    (∃ outcome ∈ outcomes, outcome ≠ .ok ()) →
    ∃ err, ((watcher.handle event).run exec script world).1 = .error err
  redelivered : (∃ err, ((watcher.handle event).run exec script world).1 = .error err) →
    ((settle watcher.handle (some event)).run exec script world).1 = .nak ∧
    1 < ((deliver maxThreatScoreDeliveries (settle watcher.handle (some event))).run exec script
      world).1.length
  effective : ∀ outcomes, ((watcher.attempts event).run exec script world).1 = .ok outcomes →
    (∀ outcome ∈ outcomes, outcome = .ok ()) → ∀ policy, Concerns event world policy →
    watcher.Armed policy event world.engaged → ∀ drop, Wants policy event drop →
      ((watcher.handle event).run exec script world).2.loader.Holds drop ∧
      Records ((watcher.handle event).run exec script world).2 policy drop

structure Smooth : Prop where
  answered : ∀ exchange ∈ (watcher.handle event).exchanges exec script world,
    ¬ Fails exchange.op exchange.answer
  recorded : (∃ pod, foundPod event pod ∈ (watcher.handle event).exchanges exec script world) →
    ∀ policy, Concerns event world policy → watcher.Armed policy event world.engaged →
    watcher.SkipsWrite policy event world → ∀ drop, Wants policy event drop →
      Records world policy drop

theorem handle_run :
    (watcher.handle event).run exec script world =
      (match ((watcher.attempts event).run exec script world).1 with
        | .error err => .error err
        | .ok _ => .ok (), ((watcher.attempts event).run exec script world).2) := by
  rw [handle, run_bind]
  cases ((watcher.attempts event).run exec script world).1 <;> rfl

theorem handle_exchanges :
    (watcher.handle event).exchanges exec script world =
      (watcher.attempts event).exchanges exec script world := by
  rw [handle, exchanges_bind]
  cases ((watcher.attempts event).run exec script world).1 <;> exact List.append_nil _

variable {watcher event script world}

theorem Mitigated.recorded {policy : TelecomSecurityPolicy} {before after : World}
    (mitigated : watcher.Mitigated event policy before after)
    (armed : watcher.Armed policy event before.engaged) {drop : Drop}
    (wants : Wants policy event drop)
    (withheld : watcher.SkipsWrite policy event before → Records before policy drop) :
    after.loader.Holds drop ∧ Records after policy drop := by
  obtain ⟨held, skipped, written⟩ := mitigated armed drop wants
  refine ⟨held, ?_⟩
  by_cases skips : watcher.SkipsWrite policy event before
  · rw [Records, skipped skips]
    exact withheld skips
  · exact written skips

theorem redelivered_of_error
    (failed : ∃ err, ((watcher.handle event).run exec script world).1 = .error err) :
    ((settle watcher.handle (some event)).run exec script world).1 = .nak ∧
    1 < ((deliver maxThreatScoreDeliveries (settle watcher.handle (some event))).run exec script
      world).1.length := by
  have refused := (settle_verdict exec script world watcher.handle event).mpr failed
  exact ⟨refused, (deliver_again exec script world 3 _).mpr refused⟩

theorem Unmatched.accountable
    (unmatched : Unmatched event (watcher.observed world)
      ((watcher.attempts event).run exec script world)
      ((watcher.attempts event).exchanges exec script world)) :
    Accountable watcher event script world := by
  have nothing : ∀ outcomes, ((watcher.attempts event).run exec script world).1 = .ok outcomes →
      outcomes = [] ∧ world.pods[(⟨event.ns, event.podName⟩ : NamespacedName)]? = none := by
    intro outcomes ended
    rcases unmatched.result with ⟨empty, absent⟩ | ⟨err, failed⟩
    · rw [empty] at ended
      cases ended
      rw [(watcher.observed_frame world).2.1] at absent
      exact ⟨rfl, absent⟩
    · rw [failed] at ended
      cases ended
  refine ⟨fun _ outcomes ended => ?_, fun outcomes ended failed => ?_, redelivered_of_error,
    fun outcomes ended _ policy concerned => ?_⟩
  · rw [(nothing outcomes ended).1]
    exact fun _ member => by cases member
  · obtain ⟨outcome, member, -⟩ := failed
    rw [(nothing outcomes ended).1] at member
    cases member
  · obtain ⟨pod, known, -⟩ := concerned
    rw [(nothing outcomes ended).2] at known
    cases known

theorem Unmatched.smooth_delivery
    (unmatched : Unmatched event (watcher.observed world)
      ((watcher.attempts event).run exec script world)
      ((watcher.attempts event).exchanges exec script world)) :
    Smooth watcher event script world := by
  refine ⟨?_, fun found => ?_⟩
  · rw [handle_exchanges]
    exact unmatched.smooth
  · rw [handle_exchanges] at found
    obtain ⟨pod, member⟩ := found
    exact absurd member (unmatched.lost pod)

variable {pod : Pod} {policies : List TelecomSecurityPolicy} {later : Nat → Choice}
  {reads : List (Exchange Op.Answer)}

theorem Matched.outcomes_ok_iff (matched : Matched watcher event (watcher.observed world)
      ((watcher.attempts event).run exec script world)
      ((watcher.attempts event).exchanges exec script world) pod policies later reads) :
    (∀ outcome ∈ ((watcher.applyAll event policies).run exec later (watcher.observed world)).1,
        outcome = .ok ()) ↔
      ∀ exchange ∈ (watcher.handle event).exchanges exec script world,
        ¬ Fails exchange.op exchange.answer := by
  rw [handle_exchanges, matched.asked, applyAll_run_ok, List.forall_mem_append]
  exact ⟨fun rest => ⟨matched.smooth, rest⟩, And.right⟩

theorem Matched.mem_iff (matched : Matched watcher event (watcher.observed world)
      ((watcher.attempts event).run exec script world)
      ((watcher.attempts event).exchanges exec script world) pod policies later reads)
    {policy : TelecomSecurityPolicy} : policy ∈ policies ↔ Concerns event world policy := by
  obtain ⟨-, pods, index, -, -⟩ := watcher.observed_frame world
  have matching := matched.matching
  have known := matched.known
  rw [index] at matching
  rw [pods] at known
  rw [matching.mem_iff]
  constructor
  · exact fun member => ⟨pod, known, member⟩
  · rintro ⟨same, sameKnown, member⟩
    rw [known, Option.some.injEq] at sameKnown
    exact sameKnown ▸ member

theorem Matched.applied (matched : Matched watcher event (watcher.observed world)
      ((watcher.attempts event).run exec script world)
      ((watcher.attempts event).exchanges exec script world) pod policies later reads) :
    watcher.AllApplied event policies (watcher.observed world)
      ((watcher.applyAll event policies).run exec later (watcher.observed world)).1
      ((watcher.handle event).run exec script world).2 := by
  have distinct : (policies.map TelecomSecurityPolicy.key).Nodup :=
    (matched.matching.map _).nodup_iff.mpr
      ((watcher.observed world).index.matchingPolicies_nodup event.ns pod.labels)
  rw [handle_run, matched.looped]
  exact (applyAll_ends policies distinct (watcher.observed world)).run (permits_any _ later _)

/-- When every policy was applied, the ones concerned are mitigated. -/
theorem Matched.mitigated (matched : Matched watcher event (watcher.observed world)
      ((watcher.attempts event).run exec script world)
      ((watcher.attempts event).exchanges exec script world) pod policies later reads)
    (success : ∀ outcome ∈
      ((watcher.applyAll event policies).run exec later (watcher.observed world)).1,
        outcome = .ok ())
    {policy : TelecomSecurityPolicy} (concerned : Concerns event world policy) :
    watcher.Mitigated event policy world ((watcher.handle event).run exec script world).2 := by
  obtain ⟨server, -, -, -, ambient⟩ := watcher.observed_frame world
  have mitigated := matched.applied.mitigated success policy (matched.mem_iff.mpr concerned)
  exact mitigated.preceded ambient (by rw [server])

variable (watcher event script world)

/-- Whatever fails, a delivery writes no policy but those it concerns, and puts in force
no drop but what one of them wants. -/
structure Delivered (after : World) : Prop where
  others : ∀ key, (∀ policy, Concerns event world policy → policy.key ≠ key) →
    after.server.persisted key = world.server.persisted key
  grows : GrowsBy (fun drop => ∃ policy, Concerns event world policy ∧
    watcher.Armed policy event world.engaged ∧ Wants policy event drop) world.loader after.loader

theorem handle_delivered :
    watcher.Delivered event world ((watcher.handle event).run exec script world).2 := by
  obtain ⟨server, -, -, loader, ambient⟩ := watcher.observed_frame world
  rcases watcher.attempts_cases event script world with
    unmatched | ⟨pod, policies, later, reads, matched⟩
  · rw [handle_run, unmatched.unchanged]
    exact ⟨fun key _ => by rw [server], .of_eq loader⟩
  · have grows := matched.applied.grows
    rw [loader, ambient.engaged] at grows
    refine ⟨fun key fresh => ?_, grows.mono fun drop wanted => ?_⟩
    · rw [matched.applied.others key ?_, server]
      intro listed
      obtain ⟨policy, member, same⟩ := List.mem_map.mp listed
      exact fresh policy (matched.mem_iff.mp member) same
    · obtain ⟨policy, member, acts⟩ := wanted
      exact ⟨policy, matched.mem_iff.mp member, acts⟩

end Ack

/-- An acknowledgement stands for the work exactly when no call fails and no
withheld write was needed. -/
theorem delivery_accountable_iff (watcher : ThreatScoreWatcher) (event : ThreatScoreEvent)
    (script : Nat → Choice) (world : World) :
    Accountable watcher event script world ↔ Smooth watcher event script world := by
  rcases watcher.attempts_cases event script world with
    unmatched | ⟨pod, policies, later, reads, matched⟩
  · exact ⟨fun _ => unmatched.smooth_delivery, fun _ => unmatched.accountable⟩
  · have ended : ((watcher.attempts event).run exec script world).1 =
        .ok ((watcher.applyAll event policies).run exec later (watcher.observed world)).1 := by
      rw [matched.looped]
    constructor
    · intro accountable
      have acked : ((watcher.handle event).run exec script world).1 = .ok () := by
        rw [handle_run, ended]
      have success := accountable.acked acked _ ended
      refine ⟨matched.outcomes_ok_iff.mp success,
        fun _ policy concerned armed skips drop wants => ?_⟩
      obtain ⟨-, current, stored, claims⟩ :=
        accountable.effective _ ended success policy concerned armed drop wants
      have same := (matched.mitigated success concerned armed drop wants).2.1 skips
      exact ⟨current, same ▸ stored, claims⟩
    · intro smooth
      have success := matched.outcomes_ok_iff.mpr smooth.answered
      have found : ∃ pod, foundPod event pod ∈ (watcher.handle event).exchanges exec script
          world := by
        rw [handle_exchanges, matched.asked]
        exact ⟨pod, List.mem_append_left _ matched.found⟩
      have only : ∀ outcomes, ((watcher.attempts event).run exec script world).1 = .ok outcomes →
          ∀ outcome ∈ outcomes, outcome = .ok () := by
        intro outcomes same
        rw [ended] at same
        cases same
        exact success
      refine ⟨fun _ => only, fun outcomes same failed => ?_, redelivered_of_error,
        fun _ _ _ policy concerned armed drop wants => ?_⟩
      · obtain ⟨outcome, member, refused⟩ := failed
        exact absurd (only outcomes same outcome member) refused
      · exact (matched.mitigated success concerned).recorded armed wants
          (fun skips => smooth.recorded found policy concerned armed skips drop wants)

end ThreatScoreWatcher

def upfPod : Pod where
  key := ⟨"core", "upf-0"⟩
  labels := (∅ : Labels).insert "app" "upf"
  containerPorts := [2152]

def watched : World :=
  let world := plainOperator.next guarded (.reconcile upfGuard quietly)
  { world with pods := world.pods.insert upfPod.key upfPod }

def refusing : Nat → Choice := fun n =>
  if n < 2 then .quiet else { Choice.quiet with fault := .refused "etcdserver: request timed out" }

/-- A refused status write fails the only policy, and the message is acked. -/
theorem failed_policy_is_acked :
    ((plainOperator.watcher.attempts (tunnelScore "10.0.0.1" 1)).run exec refusing watched).1 =
      .ok [.error ⟨.other, "update status for core/upf-guard: etcdserver: request timed out"⟩] ∧
    ((plainOperator.watcher.handle (tunnelScore "10.0.0.1" 1)).run exec refusing watched).1 =
      .ok () ∧
    ((deliver maxThreatScoreDeliveries (settle plainOperator.watcher.handle
      (some (tunnelScore "10.0.0.1" 1)))).run exec refusing watched).1 = [.ack] ∧
    ¬ ((deliver maxThreatScoreDeliveries (settle plainOperator.watcher.handle
      (some (tunnelScore "10.0.0.1" 1)))).run exec refusing watched).2.loader.Holds
        (.source attacker) := by
  decide +kernel

end Sentinel5G.Controller
