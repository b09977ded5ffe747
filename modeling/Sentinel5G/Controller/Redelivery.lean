import Sentinel5G.Controller.Decisions
import Sentinel5G.Controller.Lifecycle
import Sentinel5G.Mesh.Effects

/-! A score that is delivered again and again, after failures at any step: what
it comes to is what one successful delivery comes to. -/

namespace Sentinel5G.Controller

open Base Api Ebpf Program

def Choice.durable (choice : Choice) : Op → Choice
  | .updateStatus _ => { choice with fault :=
      match choice.fault with
      | .lost text => .refused text
      | fault => fault }
  | _ => choice

/-- As `exec`, with status writes that persist nothing when they fail. -/
def durably (choice : Choice) (op : Op) (world : World) : op.Answer × World :=
  exec (choice.durable op) op world

theorem durable_heard (choice : Choice) (policy : TelecomSecurityPolicy) (text : String) :
    (choice.durable (.updateStatus policy)).fault ≠ .lost text := by
  rw [Choice.durable]
  split
  · exact Fault.noConfusion
  · rename_i other
    exact other text

section Rules

variable {α : Type} {program : Action α} {post : α → World → Prop} {world : World}

theorem ends_durably (ends : program.Ends exec anyChoice post world) :
    program.Ends durably anyChoice post world := by
  induction program generalizing world with
  | done value => exact ends
  | ask op next ih => exact fun choice _ => ih _ (ends (choice.durable op) trivial)

end Rules

theorem writeStatus_durably {policy : TelecomSecurityPolicy} {world : World}
    (synced : Synced policy.key policy world) (status : PolicyStatus) :
    (writeStatus policy { policy with status := status }).Ends durably anyChoice
      (fun outcome final =>
        (final = world ∧ (outcome = .ok () → statusDecisionChanged policy
          { policy with status := status } = false)) ∨
        ∃ updated server, final = { world with
            server := server
            index := world.index.put updated } ∧
          server.persisted policy.key = some updated ∧ updated.key = policy.key ∧
          gist updated = gist { policy with status := status }) world := by
  have written : (updateStatus { policy with status := status }).Ends durably anyChoice
      (fun outcome final => (final = world ∧ ∃ err, outcome = .error err) ∨
        ∃ updated server, final = { world with
            server := server
            index := world.index.put updated } ∧
          server.persisted policy.key = some updated ∧ updated.key = policy.key ∧
          gist updated = gist { policy with status := status }) world := by
    intro choice _
    dsimp only [durably]
    rcases exec_updateStatus_synced status synced.stored (durable_heard choice _) with
      ⟨-, err, refused⟩ | ⟨updated, server, accepted, stored, same⟩
    · rw [refused]
      exact .inl ⟨rfl, _, rfl⟩
    · rw [accepted]
      intro choice _
      exact .inr ⟨updated, server, rfl, stored, Server.persisted_key stored, same⟩
  refine ends_writeStatus (fun _ => written.mono (fun outcome final ended => ?_))
    (fun quiet _ _ _ => written.mono (fun outcome final ended => ?_))
    (fun quiet _ _ _ => .inl ⟨rfl, fun _ => quiet⟩)
  · rcases ended with ⟨same, err, rfl⟩ | stored
    · exact .inl ⟨same, fun impossible => by cases impossible⟩
    · exact .inr stored
  · exact ended.imp_left (fun refused => ⟨refused.1, fun _ => quiet⟩)

def ThreatScoreWatcher.quarantined (watcher : ThreatScoreWatcher) (policy : TelecomSecurityPolicy)
    (event : ThreatScoreEvent) (world : World) : List Mesh.Object :=
  (intent policy event).quarantineSelector.elim [] (watcher.mesh.targets world policy.key.ns)

theorem targets_congr {world later : World} (pods : later.pods = world.pods)
    (adapter : Mesh.Adapter) (ns : String) (selector : Labels) :
    adapter.targets later ns selector = adapter.targets world ns selector := by
  cases adapter with
  | linkerd => simp only [Mesh.Adapter.targets, Mesh.declaredPorts, pods]
  | _ => rfl

theorem quarantined_congr {first second : TelecomSecurityPolicy} {world later : World}
    (spec : first.spec = second.spec) (key : first.key = second.key)
    (pods : world.pods = later.pods) (watcher : ThreatScoreWatcher) (event : ThreatScoreEvent) :
    watcher.quarantined first event world = watcher.quarantined second event later := by
  rw [ThreatScoreWatcher.quarantined, ThreatScoreWatcher.quarantined, intent_congr spec, key,
    funext (targets_congr pods watcher.mesh second.key.ns)]

def Quarantines (objects : List Mesh.Object) (before : World) (outcome : Except Err Unit)
    (after : World) : Prop :=
  Mesh.Writes objects before.mesh after.mesh ∧
    (outcome = .ok () → ∀ object ∈ objects, after.mesh.content object.key = some object)

theorem ends_off_mesh {α : Type} {program : Action α} (world : World)
    (asks : program.AsksOnly (fun op => ¬ op.WritesMesh)) :
    program.Ends exec anyChoice
      (fun _ final => final.mesh = world.mesh ∧ final.pods = world.pods) world :=
  Ends.of_asksOnly asks (fun choice op current _ off held =>
    ⟨(exec_mesh choice op current off).trans held.1, (exec_pods choice op current).trans held.2⟩)
    ⟨rfl, rfl⟩

theorem executeBlockTunnel_off_mesh (wanted : Intent) (event : ThreatScoreEvent) :
    (executeBlockTunnel wanted event).AsksOnly (fun op => ¬ op.WritesMesh) := by
  rw [executeBlockTunnel]
  split
  · refine ⟨id, fun answer => ?_⟩
    cases answer <;> exact trivial
  · exact trivial

theorem executeBlock_off_mesh (wanted : Intent) (event : ThreatScoreEvent) :
    (executeBlock wanted event).AsksOnly (fun op => ¬ op.WritesMesh) := by
  rw [executeBlock]
  split
  · refine ⟨id, fun answer => ?_⟩
    cases answer <;> exact trivial
  · exact trivial

theorem executeQuarantine_writes (watcher : ThreatScoreWatcher) (policy : TelecomSecurityPolicy)
    (event : ThreatScoreEvent) (world : World) :
    (executeQuarantine watcher.mesh policy (intent policy event)).Ends exec anyChoice
      (Quarantines (watcher.quarantined policy event world) world) world := by
  rw [executeQuarantine, ThreatScoreWatcher.quarantined]
  cases (intent policy event).quarantineSelector with
  | none => exact ⟨.refl _ _, fun _ object member => by cases member⟩
  | some selector =>
      refine Ends.bind ((watcher.mesh.quarantine_ends policy.key.ns selector world).mono
        (fun outcome final ended => ?_))
      cases outcome with
      | error err => exact ⟨ended.1, fun impossible => by cases impossible⟩
      | ok done => exact ended

theorem execute_writes (watcher : ThreatScoreWatcher) (policy : TelecomSecurityPolicy)
    (event : ThreatScoreEvent) (world : World) :
    (watcher.execute policy (intent policy event) event).Ends exec anyChoice
      (Quarantines (watcher.quarantined policy event world) world) world := by
  have failed : ∀ (err : Err) (final : World), final.mesh = world.mesh →
      Quarantines (watcher.quarantined policy event world) world (.error err) final := by
    intro err final same
    rw [Quarantines, same]
    exact ⟨.refl _ _, fun impossible => by cases impossible⟩
  refine Ends.bind ((ends_off_mesh world (executeBlockTunnel_off_mesh _ event)).mono
    (fun outcome middle first => ?_))
  cases outcome with
  | error err => exact failed err middle first.1
  | ok done =>
      refine Ends.bind ((ends_off_mesh middle (executeBlock_off_mesh _ event)).mono
        (fun outcome later second => ?_))
      have mesh := second.1.trans first.1
      have pods := second.2.trans first.2
      cases outcome with
      | error err => exact failed err later mesh
      | ok done =>
          have writes := executeQuarantine_writes watcher policy event later
          rw [quarantined_congr rfl rfl pods] at writes
          refine writes.mono (fun outcome final ended => ?_)
          rw [Quarantines, mesh] at ended
          exact ended

section Deliveries

variable (watcher : ThreatScoreWatcher) (event : ThreatScoreEvent)

def ThreatScoreWatcher.Asks (policy : TelecomSecurityPolicy) (world : World) (drop : Drop) : Prop :=
  watcher.Armed policy event world.engaged ∧ Wants policy event drop

def ThreatScoreWatcher.objects (policy : TelecomSecurityPolicy) (world : World) :
    List Mesh.Object :=
  if watcher.Armed policy event world.engaged then watcher.quarantined policy event world else []

/-- How far the deliveries that began with `policy` in `start` have come. -/
structure Underway (policy : TelecomSecurityPolicy) (start world : World) : Prop where
  pods : world.pods = start.pods
  engaged : world.engaged = start.engaged
  copy : ∃ copy, Synced policy.key copy world ∧
    (gist copy = gist policy ∨ gist copy = gist (watcher.scored policy event start))
  kernel : GrowsBy (watcher.Asks event policy start) start.loader world.loader
  mesh : Mesh.Writes (watcher.objects event policy start) start.mesh world.mesh

def Decided (policy : TelecomSecurityPolicy) (start world : World) : Prop :=
  ∃ copy, Synced policy.key copy world ∧ gist copy = gist (watcher.scored policy event start)

/-- All that the score asks for is there, and nothing else is new. -/
structure Accomplished (policy : TelecomSecurityPolicy) (start world : World) : Prop where
  decided : Decided watcher event policy start world
  kernel : ∀ drop, world.loader.Holds drop ↔
    start.loader.Holds drop ∨ watcher.Asks event policy start drop
  written : Mesh.Writes (watcher.objects event policy start) start.mesh world.mesh
  stored : ∀ object ∈ watcher.objects event policy start,
    world.mesh.content object.key = some object

variable {watcher event} {policy copy : TelecomSecurityPolicy} {start world : World}

theorem Synced.of_frame {key : NamespacedName} {after : World} (synced : Synced key copy world)
    (server : after.server = world.server) (index : after.index = world.index) :
    Synced key copy after :=
  ⟨by rw [index]; exact synced.indexed, by rw [server]; exact synced.stored⟩

theorem gist_redelivered (engaged : world.engaged = start.engaged)
    (known : gist copy = gist policy ∨ gist copy = gist (watcher.scored policy event start)) :
    gist (watcher.scored copy event world) = gist (watcher.scored policy event start) := by
  rcases known with fresh | decided
  · exact watcher.gist_scored event fresh engaged.symm
  · rw [watcher.gist_scored event decided (rfl : world.engaged = world.engaged)]
    exact watcher.gist_scored_again policy event engaged

theorem gist_redelivered_spec
    (known : gist copy = gist policy ∨ gist copy = gist (watcher.scored policy event start)) :
    copy.spec = policy.spec ∧ copy.key = policy.key := by
  rcases known with fresh | decided
  · exact ⟨congrArg (·.spec) fresh, congrArg (·.key) fresh⟩
  · exact ⟨congrArg (·.spec) decided, congrArg (·.key) decided⟩

theorem writeStatus_underway (underway : Underway watcher event policy start world)
    (synced : Synced policy.key copy world)
    (known : gist copy = gist policy ∨ gist copy = gist (watcher.scored policy event start)) :
    (writeStatus copy (watcher.scored copy event world)).Ends durably anyChoice
      (fun outcome middle => Underway watcher event policy start middle ∧
        (outcome = .ok () → Decided watcher event policy start middle)) world := by
  obtain ⟨-, key⟩ := gist_redelivered_spec known
  have decides := gist_redelivered underway.engaged known
  refine (writeStatus_durably (key ▸ synced) _).mono (fun outcome middle ended => ?_)
  rcases ended with ⟨rfl, unchanged⟩ | ⟨updated, server, rfl, stored, named, same⟩
  · refine ⟨underway, fun success => ⟨copy, synced, ?_⟩⟩
    exact (watcher.gist_of_unchanged copy event (unchanged success)).symm.trans decides
  · have refreshed : Synced policy.key updated { world with
        server := server
        index := world.index.put updated } := by
      rw [← key]
      refine ⟨?_, stored⟩
      rw [← named]
      exact PolicyIndex.lookup_put_self _ _
    have decided := same.trans decides
    exact ⟨⟨underway.pods, underway.engaged, ⟨updated, refreshed, .inr decided⟩, underway.kernel,
      underway.mesh⟩, fun _ => ⟨updated, refreshed, decided⟩⟩

theorem execute_congr (key : copy.key = policy.key) (wanted : Intent) :
    watcher.execute copy wanted event = watcher.execute policy wanted event := by
  rw [ThreatScoreWatcher.execute, ThreatScoreWatcher.execute]
  simp only [executeQuarantine, key]

theorem executes_off_index {wanted : Intent} (op : Op)
    (executes : ThreatScoreWatcher.Executes wanted event op) : ¬ op.WritesIndex := by
  cases op <;> first | exact id | exact executes.elim

theorem execute_frame (wanted : Intent) (world : World) :
    (watcher.execute policy wanted event).Ends exec anyChoice
      (fun _ final => (final.server = world.server ∧ final.index = world.index) ∧
        final.pods = world.pods ∧ final.engaged = world.engaged) world :=
  Ends.of_asksOnly (watcher.execute_asks policy wanted event)
    (fun choice op current _ executes held =>
      ⟨⟨(exec_server choice op current (ThreatScoreWatcher.executes_frame op executes)).trans
        held.1.1, (exec_index choice op current (executes_off_index op executes)).trans held.1.2⟩,
          (exec_pods choice op current).trans held.2.1,
        (exec_engaged choice op current).trans held.2.2⟩) ⟨⟨rfl, rfl⟩, rfl, rfl⟩

theorem execute_underway (underway : Underway watcher event policy start world)
    (decided : Decided watcher event policy start world)
    (armed : watcher.Armed policy event start.engaged) :
    (watcher.execute policy (intent policy event) event).Ends exec anyChoice
      (fun outcome final => Underway watcher event policy start final ∧
        (outcome = .ok () → Accomplished watcher event policy start final)) world := by
  have objects : watcher.objects event policy start = watcher.quarantined policy event world := by
    rw [ThreatScoreWatcher.objects, if_pos armed]
    exact quarantined_congr rfl rfl underway.pods.symm watcher event
  refine (Ends.and (execute_frame _ world) (Ends.and
    (executes_grow policy event (watcher.execute_asks policy _ event) world)
    (Ends.and (execute_ends watcher policy event world)
      (execute_writes watcher policy event world)))).mono (fun outcome final ended => ?_)
  obtain ⟨⟨⟨server, index⟩, pods, engaged⟩, grows, placed, writes, stored⟩ := ended
  rw [← objects] at writes stored
  have kernel : GrowsBy (watcher.Asks event policy start) start.loader final.loader :=
    underway.kernel.trans ⟨grows.kept, fun drop held =>
      (grows.added drop held).imp_right (fun wants => ⟨armed, wants⟩)⟩
  have mesh := underway.mesh.trans writes
  obtain ⟨copy, synced, same⟩ := decided
  have still : Decided watcher event policy start final :=
    ⟨copy, synced.of_frame server index, same⟩
  refine ⟨⟨pods.trans underway.pods, engaged.trans underway.engaged,
    ⟨copy, synced.of_frame server index, .inr same⟩, kernel, mesh⟩, fun success =>
      ⟨still, fun drop => ⟨kernel.added drop, fun held => ?_⟩, mesh, stored success⟩⟩
  rcases held with before | asked
  · exact kernel.kept drop before
  · exact placed success drop asked.2

/-- A delivery takes the score further, and a successful one all the way. -/
theorem applyPolicy_underway (underway : Underway watcher event policy start world)
    (synced : Synced policy.key copy world)
    (known : gist copy = gist policy ∨ gist copy = gist (watcher.scored policy event start)) :
    (watcher.applyPolicy copy event).Ends durably anyChoice
      (fun outcome final => Underway watcher event policy start final ∧
        (outcome = .ok () → Accomplished watcher event policy start final)) world := by
  obtain ⟨spec, key⟩ := gist_redelivered_spec known
  refine Reads.ends (watcher.applyPolicy_reads_by copy event world (fun _ => rfl) (fun _ => rfl))
    (Ends.bind ?_)
  refine (writeStatus_underway underway synced known).mono (fun outcome middle written => ?_)
  cases outcome with
  | error err => exact ⟨written.1, fun impossible => by cases impossible⟩
  | ok done =>
      have same := armed_congr spec watcher event world.engaged
      rw [underway.engaged] at same ⊢
      rw [ThreatScoreWatcher.afterWrite]
      split
      · rename_i armed
        rw [intent_congr spec, execute_congr key]
        exact ends_durably (execute_underway written.1 (written.2 rfl) (same.mp armed))
      · rename_i idle
        have unasked : ∀ drop, ¬ watcher.Asks event policy start drop :=
          fun _ asked => idle (same.mpr asked.1)
        refine ⟨written.1, fun _ => ⟨written.2 rfl, fun drop => ⟨written.1.kernel.added drop,
          fun held => written.1.kernel.kept drop (held.resolve_right (unasked drop))⟩,
            written.1.mesh, ?_⟩⟩
        rw [ThreatScoreWatcher.objects, if_neg (fun armed => idle (same.mpr armed))]
        exact fun _ none => (by cases none)

end Deliveries

structure ScoreDelivery where
  elapsed : Nat
  allows : NamespacedName → Bool
  script : Nat → Choice

namespace ThreatScoreWatcher

variable (watcher : ThreatScoreWatcher) (key : NamespacedName) (event : ThreatScoreEvent)

def deliver (world : World) (delivery : ScoreDelivery) : Except Err Unit × World :=
  let current := { world with
    clock := world.clock + delivery.elapsed
    allows := delivery.allows }
  match current.index.lookup key with
  | none => (.ok (), current)
  | some policy => (watcher.applyPolicy policy event).run durably delivery.script current

def redeliver (world : World) (deliveries : List ScoreDelivery) : World :=
  runMoves (fun current delivery => (watcher.deliver key event current delivery).2) world deliveries

end ThreatScoreWatcher

structure SameResult (key : NamespacedName) (first second : World) : Prop where
  status : (first.server.persisted key).map (fun policy => (policy.status.phase,
      policy.status.blockedSourceIPs, policy.status.blockedTunnels)) =
    (second.server.persisted key).map (fun policy => (policy.status.phase,
      policy.status.blockedSourceIPs, policy.status.blockedTunnels))
  kernel : ∀ drop, first.loader.Holds drop ↔ second.loader.Holds drop
  mesh : ∀ object, first.mesh.content object = second.mesh.content object

section Result

variable {watcher : ThreatScoreWatcher} {event : ThreatScoreEvent} {policy : TelecomSecurityPolicy}
  {start first second : World}

theorem Accomplished.same (one : Accomplished watcher event policy start first)
    (other : Accomplished watcher event policy start second) :
    SameResult policy.key first second := by
  refine ⟨?_, fun drop => (one.kernel drop).trans (other.kernel drop).symm, fun key => ?_⟩
  · obtain ⟨left, synced, same⟩ := one.decided
    obtain ⟨right, alsoSynced, alsoSame⟩ := other.decided
    have gists := same.trans alsoSame.symm
    rw [synced.stored, alsoSynced.stored]
    have listed := congrArg (fun policy : TelecomSecurityPolicy => some (policy.status.phase,
      policy.status.blockedSourceIPs, policy.status.blockedTunnels)) gists
    exact listed
  · by_cases asked : ∃ object ∈ watcher.objects event policy start, key = object.key
    · obtain ⟨object, member, rfl⟩ := asked
      rw [one.stored object member, other.stored object member]
    · have unchanged : ∀ final : World,
          Mesh.Writes (watcher.objects event policy start) start.mesh final.mesh →
          final.mesh.content key = start.mesh.content key := by
        intro final written
        rcases written key with same | ⟨object, member, same, -⟩
        · exact same
        · exact absurd ⟨object, member, same⟩ asked
      rw [unchanged first one.written, unchanged second other.written]

theorem underway_start (synced : Synced policy.key policy start) :
    Underway watcher event policy start start :=
  ⟨rfl, rfl, ⟨policy, synced, .inl rfl⟩, .of_eq rfl, .refl _ _⟩

theorem deliver_underway (underway : Underway watcher event policy start first)
    (delivery : ScoreDelivery) :
    Underway watcher event policy start (watcher.deliver policy.key event first delivery).2 ∧
      ((watcher.deliver policy.key event first delivery).1 = .ok () →
        Accomplished watcher event policy start
          (watcher.deliver policy.key event first delivery).2) := by
  obtain ⟨copy, synced, known⟩ := underway.copy
  have current : Underway watcher event policy start { first with
      clock := first.clock + delivery.elapsed
      allows := delivery.allows } :=
    ⟨underway.pods, underway.engaged, ⟨copy, ⟨synced.indexed, synced.stored⟩, known⟩,
      underway.kernel, underway.mesh⟩
  simp only [ThreatScoreWatcher.deliver, synced.indexed]
  exact (applyPolicy_underway current ⟨synced.indexed, synced.stored⟩ known).run
    (permits_of_forall _ _ (fun _ _ => trivial))

theorem redeliver_underway (underway : Underway watcher event policy start first)
    (deliveries : List ScoreDelivery) :
    Underway watcher event policy start
      (watcher.redeliver policy.key event first deliveries) := by
  induction deliveries generalizing first with
  | nil => exact underway
  | cons delivery rest ih => exact ih (deliver_underway underway delivery).1

end Result

/-- However often a score is delivered, and wherever the deliveries before the
last one failed, the last one's success leaves what one successful delivery does. -/
theorem redelivery_idempotent (watcher : ThreatScoreWatcher) (event : ThreatScoreEvent)
    (policy : TelecomSecurityPolicy) (start : World) (synced : Synced policy.key policy start)
    (once last : ScoreDelivery) (earlier : List ScoreDelivery)
    (single : (watcher.deliver policy.key event start once).1 = .ok ())
    (success : (watcher.deliver policy.key event
      (watcher.redeliver policy.key event start earlier) last).1 = .ok ()) :
    SameResult policy.key (watcher.deliver policy.key event start once).2
      (watcher.redeliver policy.key event start (earlier ++ [last])) := by
  have started : Underway watcher event policy start start := underway_start synced
  have ended : watcher.redeliver policy.key event start (earlier ++ [last]) =
      (watcher.deliver policy.key event
        (watcher.redeliver policy.key event start earlier) last).2 := by
    simp only [ThreatScoreWatcher.redeliver, runMoves, List.foldl_append, List.foldl_cons,
      List.foldl_nil]
  rw [ended]
  exact ((deliver_underway started once).2 single).same
    ((deliver_underway (redeliver_underway started earlier) last).2 success)

def refusedAt (position : Nat) : Nat → Choice := fun n =>
  if n = position then { Choice.quiet with fault := .refused "busy" } else .quiet

def reconciled : World := plainOperator.next guarded (.reconcile upfGuard quietly)

theorem reconciled_synced :
    ∃ policy : TelecomSecurityPolicy, policy.key = upfGuard ∧
      Synced upfGuard policy reconciled := by
  have known : (reconciled.index.lookup upfGuard).any (fun policy =>
      decide (policy.key = upfGuard ∧ reconciled.server.persisted upfGuard = some policy)) =
        true := by
    decide +kernel
  obtain ⟨policy, indexed, held⟩ := Option.any_eq_true _ _ |>.mp known
  obtain ⟨named, stored⟩ := of_decide_eq_true held
  exact ⟨policy, named, indexed, stored⟩

/-- The source's block fails after the status and the tunnel are written; the next
delivery, which the limiter keeps from writing, completes it. -/
theorem redelivery_after_refused_block :
    ∃ policy, Synced upfGuard policy reconciled ∧
      (plainOperator.watcher.deliver upfGuard (tunnelScore "10.0.0.1" 1) reconciled
        ⟨0, fun _ => true, refusedAt 5⟩).1.isOk = false ∧
      SameResult upfGuard
        (plainOperator.watcher.deliver upfGuard (tunnelScore "10.0.0.1" 1) reconciled
          ⟨0, fun _ => true, quietly⟩).2
        (plainOperator.watcher.redeliver upfGuard (tunnelScore "10.0.0.1" 1) reconciled
          ([⟨0, fun _ => true, refusedAt 5⟩] ++ [⟨7, fun _ => false, quietly⟩])) := by
  obtain ⟨policy, named, synced⟩ := reconciled_synced
  refine ⟨policy, synced, by decide +kernel, ?_⟩
  have single : (plainOperator.watcher.deliver upfGuard (tunnelScore "10.0.0.1" 1) reconciled
      ⟨0, fun _ => true, quietly⟩).1 = .ok () := by decide +kernel
  have success : (plainOperator.watcher.deliver upfGuard (tunnelScore "10.0.0.1" 1)
      (plainOperator.watcher.redeliver upfGuard (tunnelScore "10.0.0.1" 1) reconciled
        [⟨0, fun _ => true, refusedAt 5⟩]) ⟨7, fun _ => false, quietly⟩).1 = .ok () := by
    decide +kernel
  rw [← named] at synced single success ⊢
  exact redelivery_idempotent plainOperator.watcher _ policy reconciled synced _ _ _ single success

end Sentinel5G.Controller
