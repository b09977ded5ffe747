import Sentinel5G.Controller.Frame
import Sentinel5G.Controller.Watcher

/-! One spec of `applyPolicy`: it writes one status, computed from its copy, the
kill switch and the clock, and only when that write is settled does an armed
policy act. -/

namespace Sentinel5G.Controller

open Base Api Ebpf Program

/-- A status write goes out at once if it changes a decision, and otherwise as the
limiter answers. -/
theorem ends_writeStatus {Choice σ : Type} {handler : Handler Op.Answer Choice σ}
    {permitted : σ → Choice → Prop} {post : Except Err Unit → σ → Prop} {state : σ}
    {prev next : TelecomSecurityPolicy}
    (changed : statusDecisionChanged prev next = true →
      (updateStatus next).Ends handler permitted post state)
    (granted : statusDecisionChanged prev next = false → ∀ choice, permitted state choice →
      (handler choice (.allow next.key) state).1 = true →
      (updateStatus next).Ends handler permitted post (handler choice (.allow next.key) state).2)
    (withheld : statusDecisionChanged prev next = false → ∀ choice, permitted state choice →
      (handler choice (.allow next.key) state).1 = false →
      post (.ok ()) (handler choice (.allow next.key) state).2) :
    (writeStatus prev next).Ends handler permitted post state := by
  rw [writeStatus]
  cases decided : statusDecisionChanged prev next with
  | true => exact changed decided
  | false =>
      intro choice allowed
      cases answer : (handler choice (.allow next.key) state).1 with
      | true => exact granted decided choice allowed answer
      | false => exact withheld decided choice allowed answer

namespace ThreatScoreWatcher

/-- The score crosses the threshold and nothing withholds the actions. -/
def Armed (watcher : ThreatScoreWatcher) (policy : TelecomSecurityPolicy)
    (event : ThreatScoreEvent) (engaged : Bool) : Prop :=
  ¬ event.score < watcher.threshold policy ∧ policy.spec.threatDetection.autoMitigate = true ∧
    engaged = false

instance (watcher : ThreatScoreWatcher) (policy : TelecomSecurityPolicy) (event : ThreatScoreEvent)
    (engaged : Bool) : Decidable (watcher.Armed policy event engaged) :=
  inferInstanceAs (Decidable (_ ∧ _))

def scoredStatus (watcher : ThreatScoreWatcher) (policy : TelecomSecurityPolicy)
    (event : ThreatScoreEvent) (engaged : Bool) (now : Time) : PolicyStatus :=
  if watcher.Armed policy event engaged then
    mitigatingStatus policy.status (intent policy event) event now
  else
    { policy.status with
      observedThreatScore := formatScore event.score
      phase :=
        if event.score < watcher.threshold policy then
          if policy.status.phase ≠ .mitigating then .monitoring else policy.status.phase
        else .alerting }

def scored (watcher : ThreatScoreWatcher) (policy : TelecomSecurityPolicy)
    (event : ThreatScoreEvent) (world : World) : TelecomSecurityPolicy :=
  { policy with status := watcher.scoredStatus policy event world.engaged world.clock }

def afterWrite (watcher : ThreatScoreWatcher) (policy : TelecomSecurityPolicy)
    (event : ThreatScoreEvent) (engaged : Bool) : Except Err Unit → Action (Except Err Unit)
  | .error err => return .error err
  | .ok () =>
      if watcher.Armed policy event engaged then watcher.execute policy (intent policy event) event
      else return .ok ()

def staged (watcher : ThreatScoreWatcher) (policy : TelecomSecurityPolicy)
    (event : ThreatScoreEvent) (world : World) : Action (Except Err Unit) :=
  writeStatus policy (watcher.scored policy event world) >>=
    watcher.afterWrite policy event world.engaged

theorem bind_afterWrite_idle {watcher : ThreatScoreWatcher} {policy : TelecomSecurityPolicy}
    {event : ThreatScoreEvent} {engaged : Bool} (idle : ¬ watcher.Armed policy event engaged)
    (write : Action (Except Err Unit)) :
    write >>= watcher.afterWrite policy event engaged = write := by
  have same : watcher.afterWrite policy event engaged = Program.done := by
    funext outcome
    cases outcome with
    | error err => rfl
    | ok done =>
        rw [afterWrite, if_neg idle]
        rfl
  rw [same, bind_done]

theorem applyPolicy_reads_by {Choice σ : Type} {handler : Handler Op.Answer Choice σ} {state : σ}
    (watcher : ThreatScoreWatcher) (policy : TelecomSecurityPolicy) (event : ThreatScoreEvent)
    (world : World) (engaging : ∀ choice, handler choice .engaged state = (world.engaged, state))
    (timing : ∀ choice, handler choice .now state = (world.clock, state)) :
    Reads handler state (watcher.applyPolicy policy event) (watcher.staged policy event world) := by
  by_cases quiet : event.score < watcher.threshold policy
  · have idle : ¬ watcher.Armed policy event world.engaged := fun armed => armed.1 quiet
    rw [staged, bind_afterWrite_idle idle, applyPolicy, if_pos quiet, scored, scoredStatus,
      if_neg idle, if_pos quiet]
    exact .refl _
  · by_cases auto : policy.spec.threatDetection.autoMitigate = false
    · have idle : ¬ watcher.Armed policy event world.engaged := by
        intro armed
        rw [armed.2.1] at auto
        cases auto
      rw [staged, bind_afterWrite_idle idle, applyPolicy, if_neg quiet, if_pos auto, scored,
        scoredStatus, if_neg idle, if_neg quiet]
      exact .refl _
    · rw [applyPolicy, if_neg quiet, if_neg auto]
      refine .step _ _ world.engaged _ engaging ?_
      cases engaged : world.engaged with
      | true =>
          have idle : ¬ watcher.Armed policy event true := fun armed => absurd armed.2.2 (by simp)
          rw [staged, scored, scoredStatus, engaged, bind_afterWrite_idle idle, if_neg idle,
            if_neg quiet]
          exact .refl _
      | false =>
          have armed : watcher.Armed policy event false :=
            ⟨quiet, by simpa using auto, rfl⟩
          refine .step _ _ world.clock _ timing ?_
          have same : watcher.afterWrite policy event false = fun outcome =>
              match outcome with
              | .error err => pure (.error err)
              | .ok () => watcher.execute policy (intent policy event) event := by
            funext outcome
            cases outcome with
            | error err => rfl
            | ok done => rw [afterWrite, if_pos armed]
          rw [staged, scored, scoredStatus, engaged, if_pos armed, same]
          exact .refl _

theorem applyPolicy_reads (watcher : ThreatScoreWatcher) (policy : TelecomSecurityPolicy)
    (event : ThreatScoreEvent) (world : World) :
    Reads exec world (watcher.applyPolicy policy event) (watcher.staged policy event world) :=
  watcher.applyPolicy_reads_by policy event world (fun _ => rfl) (fun _ => rfl)

def Executes (wanted : Intent) (event : ThreatScoreEvent) : Op → Prop
  | .blockTunnel ip teid => wanted.blockTunnel = true ∧ wanted.ip = some ip ∧ teid = event.teid
  | .block ip => wanted.blockSource = true ∧ wanted.ip = some ip
  | op => Mesh.OnMesh op

theorem executes_of_onMesh {wanted : Intent} {event : ThreatScoreEvent} (op : Op)
    (mesh : Mesh.OnMesh op) : Executes wanted event op := by
  cases op <;> first | exact mesh | exact mesh.elim

theorem executes_frame {wanted : Intent} {event : ThreatScoreEvent} (op : Op)
    (executes : Executes wanted event op) : ¬ op.WritesServer := by
  cases op <;> first | exact id | exact executes.elim

theorem executeBlockTunnel_asks (wanted : Intent) (event : ThreatScoreEvent) :
    (executeBlockTunnel wanted event).AsksOnly (Executes wanted event) := by
  rw [executeBlockTunnel]
  split
  · rename_i ip wants known
    refine ⟨⟨wants, known, rfl⟩, fun answer => ?_⟩
    cases answer <;> exact trivial
  · exact trivial

theorem executeBlock_asks (wanted : Intent) (event : ThreatScoreEvent) :
    (executeBlock wanted event).AsksOnly (Executes wanted event) := by
  rw [executeBlock]
  split
  · rename_i ip wants known
    refine ⟨⟨wants, known⟩, fun answer => ?_⟩
    cases answer <;> exact trivial
  · exact trivial

theorem executeQuarantine_places (adapter : Mesh.Adapter) (policy : TelecomSecurityPolicy)
    (wanted : Intent) :
    (executeQuarantine adapter policy wanted).AsksOnly (Mesh.Places (fun object =>
      ∃ selector, wanted.quarantineSelector = some selector ∧
        adapter.Owns policy.key.ns selector object)) := by
  rw [executeQuarantine]
  split
  · exact trivial
  · rename_i selector wants
    refine AsksOnly.bind ((adapter.quarantine_places policy.key.ns selector).mono
      (fun op => Mesh.places_mono op (fun object owned => ⟨selector, wants, owned⟩)))
      (fun outcome => ?_)
    cases outcome <;> exact trivial

theorem executeQuarantine_asks (adapter : Mesh.Adapter) (policy : TelecomSecurityPolicy)
    (wanted : Intent) : (executeQuarantine adapter policy wanted).AsksOnly Mesh.OnMesh :=
  (executeQuarantine_places adapter policy wanted).mono Mesh.places_onMesh

theorem execute_asks (watcher : ThreatScoreWatcher) (policy : TelecomSecurityPolicy)
    (wanted : Intent) (event : ThreatScoreEvent) :
    (watcher.execute policy wanted event).AsksOnly (Executes wanted event) := by
  refine (executeBlockTunnel_asks wanted event).bind (fun tunnel => ?_)
  cases tunnel with
  | error err => exact trivial
  | ok done =>
      refine (executeBlock_asks wanted event).bind (fun source => ?_)
      cases source with
      | error err => exact trivial
      | ok done => exact (executeQuarantine_asks _ _ _).mono executes_of_onMesh

theorem afterWrite_asks (watcher : ThreatScoreWatcher) (policy : TelecomSecurityPolicy)
    (event : ThreatScoreEvent) (engaged : Bool) (outcome : Except Err Unit) :
    (watcher.afterWrite policy event engaged outcome).AsksOnly
      (Executes (intent policy event) event) := by
  cases outcome with
  | error err => exact trivial
  | ok done =>
      rw [afterWrite]
      split
      · exact execute_asks _ _ _ _
      · exact trivial

theorem applyPolicy_asksOnly {allowed : Op → Prop} (watcher : ThreatScoreWatcher)
    {policy : TelecomSecurityPolicy} {event : ThreatScoreEvent} (engaged : allowed .engaged)
    (now : allowed .now) (allow : allowed (.allow policy.key))
    (writes : ∀ status, allowed (.updateStatus { policy with status := status }))
    (puts : ∀ updated, allowed (.indexPut updated))
    (acts : (watcher.execute policy (intent policy event) event).AsksOnly allowed) :
    (watcher.applyPolicy policy event).AsksOnly allowed := by
  have written : ∀ status, (writeStatus policy { policy with status := status }).AsksOnly
      allowed := by
    intro status
    have updates : (updateStatus { policy with status := status }).AsksOnly allowed := by
      refine ⟨writes status, fun answer => ?_⟩
      cases answer with
      | error err => trivial
      | ok updated => exact ⟨puts updated, fun _ => trivial⟩
    rw [writeStatus]
    split
    · exact updates
    · refine ⟨allow, fun allowed => ?_⟩
      cases allowed with
      | true => exact updates
      | false => trivial
  rw [applyPolicy]
  split
  · exact written _
  · split
    · exact written _
    · refine ⟨engaged, fun answer => ?_⟩
      cases answer with
      | true => exact written _
      | false =>
          refine ⟨now, fun time => (written _).bind (fun outcome => ?_)⟩
          cases outcome with
          | error err => trivial
          | ok done => exact acts

end ThreatScoreWatcher

end Sentinel5G.Controller
