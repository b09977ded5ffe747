import Sentinel5G.Base.Run
import Sentinel5G.Controller.ReconcilerSpec

/-! The life of a policy under scores, reconciles, user edits and the kill
switch: when its recorded drops stay subject to the de-escalation timer. -/

namespace Sentinel5G.Controller

open Base Api Ebpf Program

structure Operator where
  watcher : ThreatScoreWatcher
  reconciler : Reconciler

/-- One call of the operator, run to its end, or one act of its surroundings.
A call that takes a policy takes any version of it, `lag` versions old. -/
inductive Move
  | score (key : NamespacedName) (lag : Nat) (event : ThreatScoreEvent) (script : Nat → Choice)
  | reconcile (request : NamespacedName) (script : Nat → Choice)
  | deEscalate (key : NamespacedName) (lag : Nat) (script : Nat → Choice)
  | create (key : NamespacedName) (spec : PolicySpec)
  | editSpec (key : NamespacedName) (spec : PolicySpec)
  | requestDelete (key : NamespacedName)
  | setKillSwitch (engaged : Bool)
  | setLimiter (allows : NamespacedName → Bool)
  | advance (elapsed : Nat)

def Operator.next (operator : Operator) (world : World) : Move → World
  | .score key lag event script =>
      match world.server.cached key lag with
      | none => world
      | some policy => ((operator.watcher.applyPolicy policy event).run exec script world).2
  | .reconcile request script => ((operator.reconciler.reconcile request).run exec script world).2
  | .deEscalate key lag script =>
      match world.server.cached key lag with
      | none => world
      | some policy => ((operator.reconciler.tryDeEscalate policy).run exec script world).2
  | .create key spec => { world with server := world.server.create key spec }
  | .editSpec key spec => { world with server := world.server.editSpec key spec }
  | .requestDelete key => { world with server := world.server.requestDelete key world.clock }
  | .setKillSwitch engaged => { world with engaged := engaged }
  | .setLimiter allows => { world with allows := allows }
  | .advance elapsed => { world with clock := world.clock + elapsed }

def Recorded (status : PolicyStatus) : Prop :=
  status.blockedSourceIPs ≠ [] ∨ status.blockedTunnels ≠ []

def Timed (status : PolicyStatus) : Prop :=
  Recorded status → status.phase = .mitigating ∧ status.lastMitigationTime.isSome

instance (status : PolicyStatus) : Decidable (Recorded status) :=
  inferInstanceAs (Decidable (_ ∨ _))

instance (status : PolicyStatus) : Decidable (Timed status) :=
  inferInstanceAs (Decidable (_ → _))

def Fresh (world : World) (key : NamespacedName) : Prop :=
  ∃ policy, world.server.history key = [some policy] ∧ policy.status = .initial

/-- A crossing that finds recorded drops in the stored version is acted on:
neither the policy nor the kill switch withholds the actions. -/
def Operator.Unsuppressed (operator : Operator) (key : NamespacedName) (world : World) :
    Move → Prop
  | .score scored lag event _ =>
      scored = key → ∀ policy, world.server.cached key lag = some policy →
        world.server.persisted key = some policy → Recorded policy.status →
        ¬ event.score < operator.watcher.threshold policy →
        policy.spec.threatDetection.autoMitigate = true ∧ world.engaged = false
  | _ => True

def TimedAt (key : NamespacedName) (other : NamespacedName) (status : PolicyStatus) : Prop :=
  other = key → Timed status

theorem Timed.stored {status : PolicyStatus} (timed : Timed status) : Timed status.stored := by
  intro recorded
  have before := timed recorded
  exact ⟨before.1, by simpa using before.2⟩

theorem timed_of_empty {status : PolicyStatus} (sources : status.blockedSourceIPs = [])
    (tunnels : status.blockedTunnels = []) : Timed status := by
  intro recorded
  rcases recorded with present | present
  · exact absurd sources present
  · exact absurd tunnels present

theorem timedAt_respects (key : NamespacedName) : RespectsReconciler (TimedAt key) where
  stored := fun _ _ timed same => (timed same).stored
  conditions := fun _ _ _ timed same => timed same
  monitoring := by
    intro other status timed early same recorded
    have mitigating := (timed same recorded).1
    rcases early with unset | pending
    · rw [unset] at mitigating
      cases mitigating
    · rw [pending] at mitigating
      cases mitigating
  cleared := fun _ _ _ _ => timed_of_empty rfl rfl

theorem Kept.store {good : NamespacedName → PolicyStatus → Prop} {world : World}
    (kept : Kept good world) (key : NamespacedName) (policy : TelecomSecurityPolicy)
    (alive : Alive policy) (status : good key policy.status) :
    Kept good { world with server := world.server.store key policy alive } := by
  intro other version member
  rcases Server.mem_history_record (world.server.written_fresh key policy alive) member with
    ⟨rfl, newest⟩ | older
  · cases newest
    exact status
  · exact kept other version older

theorem Kept.discard {good : NamespacedName → PolicyStatus → Prop} {world : World}
    (kept : Kept good world) (key : NamespacedName) :
    Kept good { world with server := world.server.discard key } := by
  intro other version member
  rcases Server.mem_history_record (world.server.none_fresh key) member with
    ⟨-, impossible⟩ | older
  · cases impossible
  · exact kept other version older

theorem scoredStatus_timed (watcher : ThreatScoreWatcher) (policy : TelecomSecurityPolicy)
    (event : ThreatScoreEvent) (engaged : Bool) (now : Time) (timed : Timed policy.status)
    (acted : Recorded policy.status → ¬ event.score < watcher.threshold policy →
      policy.spec.threatDetection.autoMitigate = true ∧ engaged = false) :
    Timed (watcher.scoredStatus policy event engaged now) := by
  rw [ThreatScoreWatcher.scoredStatus]
  split
  · exact fun _ => ⟨rfl, rfl⟩
  · rename_i idle
    intro recorded
    have before := timed recorded
    by_cases quiet : event.score < watcher.threshold policy
    · refine ⟨?_, before.2⟩
      simp only [quiet, if_true, before.1, ne_eq, not_true_eq_false, if_false]
    · exact absurd ⟨quiet, acted recorded quiet⟩ idle

theorem score_timed (operator : Operator) (key : NamespacedName) (world : World)
    (scored : NamespacedName) (lag : Nat) (event : ThreatScoreEvent) (script : Nat → Choice)
    (acted : operator.Unsuppressed key world (.score scored lag event script))
    (kept : Kept (TimedAt key) world) :
    Kept (TimedAt key) (operator.next world (.score scored lag event script)) := by
  rw [Operator.next]
  split
  · exact kept
  · rename_i policy found
    have member := Server.mem_history_of_cached found
    have sameKey := world.server.keyed _ _ member
    have write : GoodWrite (TimedAt key) world (operator.watcher.scored policy event world) := by
      intro current stored sameVersion same
      apply Timed.stored
      change policy.key = key at same
      change world.server.persisted policy.key = some current at stored
      rw [sameKey] at same
      rw [sameKey, same] at stored
      subst same
      have copy := Server.persisted_unique member stored sameVersion
      subst copy
      exact scoredStatus_timed operator.watcher policy event world.engaged world.clock
        (kept scored policy member rfl)
        (fun recorded crossed => acted rfl policy found stored recorded crossed)
    exact (applyPolicy_kept operator.watcher policy event kept write).run (permits_any _ script _)

theorem next_timed (operator : Operator) (key : NamespacedName) (world : World) (move : Move)
    (acted : operator.Unsuppressed key world move) (kept : Kept (TimedAt key) world) :
    Kept (TimedAt key) (operator.next world move) := by
  cases move with
  | score scored lag event script =>
      exact score_timed operator key world scored lag event script acted kept
  | reconcile request script =>
      exact ((reconcile_tends (timedAt_respects key) operator.reconciler request).kept kept).run
        (permits_any _ script _)
  | deEscalate other lag script =>
      rw [Operator.next]
      split
      · exact kept
      · rename_i policy found
        have member := Server.mem_history_of_cached found
        have copy : TimedAt key policy.key policy.status := by
          rw [world.server.keyed _ _ member]
          exact kept other policy member
        exact ((tryDeEscalate_tends (timedAt_respects key) operator.reconciler policy copy).kept
          kept).run (permits_any _ script _)
  | create other spec =>
      simp only [Operator.next, Server.create]
      split
      · exact kept
      · exact kept.store other _ _ (fun _ => timed_of_empty rfl rfl)
  | editSpec other spec =>
      simp only [Operator.next, Server.editSpec]
      split
      · exact kept
      · rename_i current stored
        split
        · exact kept
        · exact kept.store other _ _ (kept other current (Server.mem_history_of_persisted stored))
  | requestDelete other =>
      simp only [Operator.next, Server.requestDelete]
      split
      · exact kept
      · rename_i current stored
        split
        · exact kept
        · split
          · exact kept.discard other
          · exact kept.store other _ _ (kept other current (Server.mem_history_of_persisted stored))
  | setKillSwitch engaged => exact kept.of_server rfl
  | setLimiter allows => exact kept.of_server rfl
  | advance elapsed => exact kept.of_server rfl

theorem fresh_timed (world : World) (key : NamespacedName) (fresh : Fresh world key) :
    Kept (TimedAt key) world := by
  obtain ⟨policy, history, initial⟩ := fresh
  intro other version member same
  subst same
  rw [history, List.mem_singleton, Option.some.injEq] at member
  rw [member, initial]
  exact timed_of_empty rfl rfl

/-- In every run in which no crossing is withheld while the stored version has
recorded drops, recorded drops stay subject to the de-escalation timer. -/
theorem recorded_drops_stay_timed (operator : Operator) (key : NamespacedName) (world : World)
    (moves : List Move) (fresh : Fresh world key)
    (acted : AllMoves operator.next (operator.Unsuppressed key) world moves) :
    ∀ policy, (runMoves operator.next world moves).server.persisted key = some policy →
      Timed policy.status := by
  intro policy stored
  have kept := runMoves_invariant moves (next_timed operator key) (fresh_timed world key fresh)
      acted
  exact kept key policy (Server.mem_history_of_persisted stored) rfl

def upfGuard : NamespacedName := ⟨"core", "upf-guard"⟩

def upfGuardSpec : PolicySpec where
  targetWorkloads := [⟨"upf", ∅⟩]
  threatDetection := ⟨.medium, true⟩
  actions := ⟨true, true, false⟩

def plainOperator : Operator where
  watcher := ⟨1 / 2, .istio, false⟩
  reconciler := ⟨true, some .istio, 0, false⟩

def tunnelScore (sourceIP : String) (score : ℚ) : ThreatScoreEvent where
  sourceEventID := "event"
  ns := "core"
  podName := "upf-0"
  sourceIP := sourceIP
  teid := 7
  score := score
  model := "rule:gtpu-tunnel-flood"
  detectedAt := 0

def attacker : Address := ⟨[0, 0, 0, 0, 0, 0, 0, 0, 0, 0, 255, 255, 10, 0, 0, 1], rfl⟩

def quietly : Nat → Choice := fun _ => .quiet

def guarded : World :=
  plainOperator.next (.initial (fun _ => 16)) (.create upfGuard upfGuardSpec)

theorem recorded_drops_stay_timed_once :
    ∃ policy, (runMoves plainOperator.next guarded
        [.score upfGuard 0 (tunnelScore "10.0.0.1" 1) quietly]).server.persisted upfGuard =
          some policy ∧ Recorded policy.status ∧ Timed policy.status := by
  have armed : (guarded.server.cached upfGuard 0).all (fun policy =>
      policy.spec.threatDetection.autoMitigate && !guarded.engaged) = true := by decide +kernel
  have recorded : ((runMoves plainOperator.next guarded
      [.score upfGuard 0 (tunnelScore "10.0.0.1" 1) quietly]).server.persisted upfGuard).any
        (fun policy => decide (Recorded policy.status)) = true := by decide +kernel
  obtain ⟨policy, stored, held⟩ := Option.any_eq_true _ _ |>.mp recorded
  have acted : AllMoves plainOperator.next (plainOperator.Unsuppressed upfGuard) guarded
      [.score upfGuard 0 (tunnelScore "10.0.0.1" 1) quietly] := by
    refine ⟨fun _ copy found _ _ _ => ?_, trivial⟩
    rw [found] at armed
    simpa using armed
  exact ⟨policy, stored, of_decide_eq_true held,
    recorded_drops_stay_timed plainOperator upfGuard guarded _ ⟨_, rfl, rfl⟩ acted policy stored⟩

/-- Engaging the kill switch after a mitigation leaves its drops recorded in a
phase the de-escalation timer never looks at. -/
theorem kill_switch_orphans_recorded_drops :
    Fresh guarded upfGuard ∧
    ∃ policy, (runMoves plainOperator.next guarded
        [.score upfGuard 0 (tunnelScore "10.0.0.1" 1) quietly, .setKillSwitch true,
          .score upfGuard 0 (tunnelScore "10.0.0.1" 1) quietly]).server.persisted upfGuard =
            some policy ∧ Recorded policy.status ∧ policy.status.phase = .alerting ∧
          ¬ Timed policy.status := by
  refine ⟨⟨_, rfl, rfl⟩, ?_⟩
  have orphaned : ((runMoves plainOperator.next guarded
      [.score upfGuard 0 (tunnelScore "10.0.0.1" 1) quietly, .setKillSwitch true,
        .score upfGuard 0 (tunnelScore "10.0.0.1" 1) quietly]).server.persisted upfGuard).any
        (fun policy => decide (Recorded policy.status ∧ policy.status.phase = .alerting ∧
          ¬ Timed policy.status)) = true := by decide +kernel
  obtain ⟨policy, stored, held⟩ := Option.any_eq_true _ _ |>.mp orphaned
  exact ⟨policy, stored, of_decide_eq_true held⟩

end Sentinel5G.Controller
