import Sentinel5G.Controller.Mitigation

namespace Sentinel5G.Controller

open Base Api Ebpf Program

/-- The policy as stored, without its version and without what every score
refreshes: the score itself and the time of the last mitigation. -/
def gist (policy : TelecomSecurityPolicy) : TelecomSecurityPolicy :=
  { policy with
    resourceVersion := 0
    status := { policy.status.stored with observedThreatScore := "", lastMitigationTime := none } }

theorem gist_stored (policy : TelecomSecurityPolicy) (status : PolicyStatus) :
    gist { policy with status := status.stored } = gist { policy with status := status } := by
  simp only [gist, PolicyStatus.stored, List.map_map, Function.comp_def, wholeSeconds_idem]

theorem gist_status (policy : TelecomSecurityPolicy) {first second : PolicyStatus}
    (phase : first.phase = second.phase)
    (sources : first.blockedSourceIPs = second.blockedSourceIPs)
    (tunnels : first.blockedTunnels = second.blockedTunnels)
    (conditions : first.conditions = second.conditions) :
    gist { policy with status := first } = gist { policy with status := second } := by
  simp only [gist, PolicyStatus.stored, phase, sources, tunnels, conditions]

theorem appendUnique_again (ips : List String) (ip : String) :
    appendUnique (appendUnique ips ip) ip = appendUnique ips ip := by
  rw [appendUnique, if_pos (mem_appendUnique.mpr (.inr rfl))]

namespace ThreatScoreWatcher

variable (watcher : ThreatScoreWatcher) (policy : TelecomSecurityPolicy) (event : ThreatScoreEvent)

section Fields

variable (engaged : Bool) (now : Time)

theorem scoredStatus_phase :
    (watcher.scoredStatus policy event engaged now).phase =
      if watcher.Armed policy event engaged then .mitigating
      else if event.score < watcher.threshold policy then
        if policy.status.phase ≠ .mitigating then .monitoring else policy.status.phase
      else .alerting := by
  rw [scoredStatus]
  split <;> rfl

theorem scoredStatus_sources :
    (watcher.scoredStatus policy event engaged now).blockedSourceIPs =
      if watcher.Armed policy event engaged ∧ (intent policy event).blockSource = true then
        appendUnique policy.status.blockedSourceIPs event.sourceIP
      else policy.status.blockedSourceIPs := by
  rw [scoredStatus]
  by_cases armed : watcher.Armed policy event engaged <;> simp [armed, mitigatingStatus]

theorem scoredStatus_tunnels :
    (watcher.scoredStatus policy event engaged now).blockedTunnels =
      if watcher.Armed policy event engaged ∧ (intent policy event).blockTunnel = true then
        appendUnique policy.status.blockedTunnels (formatTunnel event.sourceIP event.teid)
      else policy.status.blockedTunnels := by
  rw [scoredStatus]
  by_cases armed : watcher.Armed policy event engaged <;> simp [armed, mitigatingStatus]

theorem scoredStatus_conditions :
    (watcher.scoredStatus policy event engaged now).conditions = policy.status.conditions := by
  rw [scoredStatus]
  split <;> rfl

end Fields

theorem gist_scored_gist {world later : World} (engaged : later.engaged = world.engaged) :
    gist (watcher.scored policy event world) = gist (watcher.scored (gist policy) event later) := by
  have armed : watcher.Armed (gist policy) event world.engaged ↔
      watcher.Armed policy event world.engaged := Iff.rfl
  have threshold : watcher.threshold (gist policy) = watcher.threshold policy := rfl
  have wanted : intent (gist policy) event = intent policy event := rfl
  simp only [scored, scoredStatus, engaged, armed, threshold, wanted]
  split
  · simp only [gist, mitigatingStatus, PolicyStatus.stored, List.map_map, Function.comp_def,
      wholeSeconds_idem]
  · simp only [gist, PolicyStatus.stored, List.map_map, Function.comp_def, wholeSeconds_idem]
    rfl

/-- What a score decides depends on what was decided before, and on the kill switch. -/
theorem gist_scored {first second : TelecomSecurityPolicy} {world later : World}
    (same : gist first = gist second) (engaged : later.engaged = world.engaged) :
    gist (watcher.scored first event world) = gist (watcher.scored second event later) := by
  rw [watcher.gist_scored_gist first event (rfl : world.engaged = world.engaged), same,
    watcher.gist_scored_gist second event engaged.symm]

/-- A score that comes again decides nothing new. -/
theorem gist_scored_again {world later : World} (engaged : later.engaged = world.engaged) :
    gist (watcher.scored (watcher.scored policy event world) event later) =
      gist (watcher.scored policy event world) := by
  have armed : watcher.Armed (watcher.scored policy event world) event later.engaged ↔
      watcher.Armed policy event world.engaged := by rw [engaged]; exact Iff.rfl
  have wanted : intent (watcher.scored policy event world) event = intent policy event := rfl
  have threshold : watcher.threshold (watcher.scored policy event world) =
      watcher.threshold policy := rfl
  have status : (watcher.scored policy event world).status =
      watcher.scoredStatus policy event world.engaged world.clock := rfl
  refine gist_status policy ?_ ?_ ?_ ?_
  · rw [scoredStatus_phase]
    simp only [armed, threshold, status, scoredStatus_phase]
    split
    · rfl
    · split
      · split <;> simp_all
      · rfl
  · rw [scoredStatus_sources]
    simp only [armed, wanted, status, scoredStatus_sources]
    split
    · exact appendUnique_again _ _
    · rfl
  · rw [scoredStatus_tunnels]
    simp only [armed, wanted, status, scoredStatus_tunnels]
    split
    · exact appendUnique_again _ _
    · rfl
  · exact watcher.scoredStatus_conditions _ event _ _

theorem gist_of_unchanged {world : World}
    (unchanged : statusDecisionChanged policy (watcher.scored policy event world) = false) :
    gist (watcher.scored policy event world) = gist policy := by
  obtain ⟨phase, sources, tunnels⟩ := statusDecisionChanged_false unchanged
  refine gist_status policy phase.symm ?_ ?_ (watcher.scoredStatus_conditions policy event _ _)
  · rw [scored, scoredStatus_sources] at sources
    rw [scoredStatus_sources]
    split at sources
    · rw [if_pos ‹_›, appendUnique, if_pos (mem_of_equalStringSet sources)]
    · rw [if_neg ‹_›]
  · rw [scored, scoredStatus_tunnels] at tunnels
    rw [scoredStatus_tunnels]
    split at tunnels
    · rw [if_pos ‹_›, appendUnique, if_pos (mem_of_equalStringSet tunnels)]
    · rw [if_neg ‹_›]

end ThreatScoreWatcher

theorem intent_congr {first second : TelecomSecurityPolicy} (spec : first.spec = second.spec)
    (event : ThreatScoreEvent) : intent first event = intent second event := by
  rw [intent, intent, spec]

theorem armed_congr {first second : TelecomSecurityPolicy} (spec : first.spec = second.spec)
    (watcher : ThreatScoreWatcher) (event : ThreatScoreEvent) (engaged : Bool) :
    watcher.Armed first event engaged ↔ watcher.Armed second event engaged := by
  rw [ThreatScoreWatcher.Armed, ThreatScoreWatcher.Armed, ThreatScoreWatcher.threshold,
    ThreatScoreWatcher.threshold, spec]

structure Synced (key : NamespacedName) (policy : TelecomSecurityPolicy) (world : World) :
    Prop where
  indexed : world.index.lookup key = some policy
  stored : world.server.persisted key = some policy

theorem gist_of_accepted {server : Server} {policy updated : TelecomSecurityPolicy}
    {status : PolicyStatus} (stored : server.persisted policy.key = some policy)
    (accepted : (server.updateStatus { policy with status := status }).1 = .ok updated) :
    gist updated = gist { policy with status := status } := by
  refine Eq.trans ?_ (gist_stored policy status)
  rcases Server.replace_cases server { policy with status := status }
    (Server.withStatus { policy with status := status }) with ⟨err, failed⟩ | ⟨current, found, -,
      ⟨same, idle⟩ | ⟨-, -, gone⟩ | ⟨alive, replaced⟩⟩
  · rw [Server.updateStatus, failed] at accepted
    cases accepted
  all_goals cases stored.symm.trans found
  · rw [Server.updateStatus, idle] at accepted
    cases accepted
    exact congrArg gist same.symm
  · rw [Server.updateStatus, gone] at accepted
    cases accepted
    rfl
  · rw [Server.updateStatus, replaced] at accepted
    cases accepted
    rfl

/-- A status write that starts from the stored copy and leaves no lost reply is
refused without a trace, or stored. -/
theorem exec_updateStatus_synced {choice : Choice} {policy : TelecomSecurityPolicy} {world : World}
    (status : PolicyStatus) (stored : world.server.persisted policy.key = some policy)
    (heard : ∀ text, choice.fault ≠ .lost text) :
    (choice.fault ≠ .none ∧ ∃ err,
      exec choice (.updateStatus { policy with status := status }) world = (.error err, world)) ∨
    ∃ updated server, exec choice (.updateStatus { policy with status := status }) world =
        (.ok updated, { world with server := server }) ∧
      server.persisted policy.key = some updated ∧
      gist updated = gist { policy with status := status } := by
  cases fault : choice.fault with
  | none =>
      obtain ⟨updated, accepted⟩ : ∃ updated,
          (world.server.updateStatus { policy with status := status }).1 = .ok updated :=
        Server.replace_accepts _ stored rfl
      refine .inr ⟨updated, (world.server.updateStatus { policy with status := status }).2, ?_,
        (Server.updateStatus_ok accepted).1, gist_of_accepted stored accepted⟩
      simp only [exec, Choice.write, fault, accepted]
  | refused text =>
      refine .inl ⟨by simp, errorf text, ?_⟩
      simp only [exec, Choice.write, fault]
  | lost text => exact absurd fault (heard text)

end Sentinel5G.Controller
