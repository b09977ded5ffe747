import Sentinel5G.Capture.Rules
import Sentinel5G.Detect.SourceThresholds

namespace Sentinel5G.Detect

open Base Api Controller Ingestion
open Capture (Packet Owners RuleThresholds TunnelTally tunnelTally sourceTally rules packetsOf
  tunnelsIn latePacket lateS alertDue tunnelTally_concat)

/-- A packet of a capture with its tunnel rate, and the call for its event. -/
structure Observed where
  packet : Packet
  rate : Nat
  call : Call
  port : packet.destPort = Capture.gtpuPort
  time : packet.timestamp = (call.now : ℚ) / (second : ℚ)
  source : call.event.sourceIP = packet.sourceIp
  named : packet.sourceIp ≠ ""
  teid : call.event.teid.toNat = packet.teid
  gtpu : call.event.protocol = .gtpu
  tunnelRate : call.event.tunnelRatePerSecond = rate

/-- The detectors as the tool takes them to be set up, whatever their thresholds. -/
structure Setup where
  tunnel : GTPUFloodConfig
  source : GTPUSourceFloodConfig
  tunnelOn : tunnel.enabled = true
  sourceOn : source.enabled = true
  cooldown : tunnel.cooldown = 30 * second
  window : source.window = second

def Setup.thresholds (setup : Setup) : RuleThresholds where
  tunnelPps := setup.tunnel.packetsPerSecond.toNat
  sourcePps := setup.source.packetsPerSecond.toNat
  distinctTunnels := setup.source.distinctTunnels

def Observed.tunneled (seen : Observed) : Bool := decide (seen.packet.teid ≠ 0)

def fromSource (source : String) (observed : List Observed) : List Observed :=
  observed.filter (fun seen => decide (seen.packet.sourceIp = source))

def sourcesOf (observed : List Observed) : Finset String :=
  (observed.map (fun seen => seen.packet.sourceIp)).toFinset

def tunnelIDs (calls : List Call) : Finset TunnelID :=
  ((calls.filter (fun call => decide (call.event.teid ≠ 0))).map
    (fun call => GTPUFloodDetector.tunnelOf call.event)).toFinset

/-- A capture in order of time, with no more of anything than the detectors have
room for. -/
structure Recording (setup : Setup) where
  observed : List Observed
  ordered : InOrder (observed.map Observed.call)
  fewTunnels : (tunnelIDs (observed.map Observed.call)).card ≤
    sizeOr setup.tunnel.maxTrackedTunnels defaultTrackedTunnels
  fewSources : (sourcesOf (observed.filter Observed.tunneled)).card ≤
    GTPUSourceFloodDetector.room setup.source
  fewPerSource : ∀ source, (tunnelsIn ((fromSource source observed).map Observed.packet)).card ≤
    GTPUSourceFloodDetector.tunnelLimit setup.source

namespace Recording

variable {setup : Setup}

def calls (recording : Recording setup) : List Call := recording.observed.map Observed.call

def result (recording : Recording setup) (ownerOf : Owners) (directionOf : Packet → String) :
    Capture.RulesResult :=
  rules setup.thresholds ownerOf directionOf (recording.observed.map Observed.packet)
    (recording.observed.map Observed.rate)

def tunnelScores (recording : Recording setup) : List ThreatScoreEvent :=
  (GTPUFloodDetector.run setup.tunnel recording.calls).filterMap GTPUFloodDetector.scoreOf

def reportedSources (recording : Recording setup) : Finset String :=
  ((GTPUSourceFloodDetector.run setup.source recording.calls).filterMap
    (fun turn => (GTPUSourceFloodDetector.replyOf turn).1.map ThreatScoreEvent.sourceIP)).toFinset

end Recording

section Tunnels

open GTPUFloodDetector

theorem scoreOf_isSome_iff (turn : Turn) :
    (scoreOf turn).isSome = true ↔ (turn.1.Armed ∧ turn.1.Floods turn.2.event) ∧
      ∀ last ∈ turn.1.lastFired.lookup (tunnelOf turn.2.event),
        turn.1.cfg.cooldown ≤ turn.2.now - last := by
  have known := turn.1.evaluated turn.2.event turn.2.now
  rw [scoreOf]
  generalize turn.1.evaluate turn.2.event turn.2.now = outcome at known ⊢
  cases known with
  | quiet calm => simp [calm]
  | cooling last flood known early =>
      simp only [Option.isSome_none, Bool.false_eq_true, known, Option.mem_def, Option.some.injEq,
        forall_eq', false_iff, not_and, not_le]
      exact fun _ => early
  | again last flood known due => simp [flood, known, due]
  | enter flood new => simp [flood, new]

theorem tunnelIDs_concat (calls : List Call) (last : Call) :
    tunnelIDs (calls ++ [last]) =
      tunnelIDs calls ∪ if last.event.teid = 0 then ∅ else {tunnelOf last.event} := by
  rw [tunnelIDs, filter_concat, List.map_append, List.toFinset_append, ← tunnelIDs]
  by_cases untunneled : last.event.teid = 0
  · simp [untunneled]
  · simp [untunneled]

theorem tunnelIDs_mono (calls : List Call) (last : Call) :
    tunnelIDs calls ⊆ tunnelIDs (calls ++ [last]) := by
  rw [tunnelIDs_concat]
  exact Finset.subset_union_left

theorem enters_eq_some {turn : Turn} {id : TunnelID} (entering : enters turn = some id) :
    id = tunnelOf turn.2.event ∧ turn.2.event.teid ≠ 0 ∧ turn.1.lastFired.lookup id = none := by
  rw [enters] at entering
  split at entering
  · rename_i entry
    cases entering
    exact ⟨rfl, ((scoreOf_isSome_iff turn).mp entry.1).1.2.2.1, entry.2⟩
  · cases entering

theorem entered_once {cfg : GTPUFloodConfig} {calls : List Call} (ordered : InOrder calls)
    (few : (tunnelIDs calls).card ≤ sizeOr cfg.maxTrackedTunnels defaultTrackedTunnels) :
    (entered (run cfg calls)).Nodup ∧ (entered (run cfg calls)).toFinset ⊆ tunnelIDs calls := by
  induction calls using List.reverseRecOn with
  | nil => exact ⟨List.nodup_nil, Finset.empty_subset _⟩
  | append_singleton calls last ih =>
      obtain ⟨begun, -⟩ := ordered.init
      have before := (Finset.card_le_card (tunnelIDs_mono calls last)).trans few
      obtain ⟨once, inside⟩ := ih begun before
      rw [run, turns_concat, entered_concat, ← run]
      cases entering : enters (runMoves after (newGTPUFloodDetector cfg) calls, last) with
      | none =>
          rw [Option.toList_none, List.append_nil]
          exact ⟨once, inside.trans (tunnelIDs_mono calls last)⟩
      | some id =>
          obtain ⟨rfl, tunneled, new⟩ := enters_eq_some entering
          -- the map has forgotten nothing: a tunnel it does not know was never entered
          have short : (entered (run cfg calls)).length ≤ (final cfg calls).lastFired.capacity := by
            rw [final_capacity, ← List.toFinset_card_of_nodup once]
            exact (Finset.card_le_card inside).trans before
          have absent := (tracks_run cfg begun).recorded.absent_iff.mp new
          rw [latest_eq_self short] at absent
          constructor
          · exact List.Nodup.append once (List.nodup_singleton _)
              (List.disjoint_singleton.mpr absent)
          · rw [List.toFinset_append, tunnelIDs_concat, if_neg tunneled]
            exact Finset.union_subset_union inside (by simp)

theorem lookup_concat {cfg : GTPUFloodConfig} {past : List Call} {last : Call}
    (ordered : InOrder (past ++ [last]))
    (few : (tunnelIDs (past ++ [last])).card ≤ sizeOr cfg.maxTrackedTunnels defaultTrackedTunnels)
    (id : TunnelID) :
    (final cfg (past ++ [last])).lastFired.lookup id =
      if reports id (final cfg past, last) then some last.now
      else (final cfg past).lastFired.lookup id := by
  obtain ⟨once, inside⟩ := entered_once ordered few
  have recorded := (tracks_run cfg ordered.init.1).recorded
  have reported := reports_iff id (final cfg past, last)
  rw [run, turns_concat, entered_concat, ← run, ← final] at once inside
  rw [final, runMoves_concat, ← final, after]
  have known := (final cfg past).evaluated last.event last.now
  rw [enters, scoreOf] at once inside
  rw [scoreOf] at reported
  dsimp only at once inside reported
  generalize (final cfg past).evaluate last.event last.now = outcome at known once inside reported ⊢
  cases known with
  | quiet => rw [if_neg (by simp [reported])]
  | cooling => rw [if_neg (by simp [reported])]
  | again => simp [FifoMap.update_lookup, reported]
  | enter flood new =>
      -- with this tunnel the history still fits
      have room : ¬ (final cfg past).lastFired.capacity ≤
          (final cfg past).lastFired.entries.size := by
        rw [recorded.full_iff, final_capacity]
        have card := (Finset.card_le_card inside).trans few
        rw [List.toFinset_card_of_nodup once] at card
        simp only [new, Option.isSome_some, and_self, if_true, Option.toList_some,
          List.length_append, List.length_singleton] at card
        omega
      rw [FifoMap.remember_lookup]
      simp [room, reported]

def seconds (time : Time) : ℚ := (time : ℚ) / (second : ℚ)

theorem le_sub_seconds (later earlier : Time) (length : Int) :
    (length : ℚ) ≤ seconds later - seconds earlier ↔ length * second ≤ later - earlier := by
  rw [seconds, seconds, ← sub_div, le_div_iff₀ (by norm_num [second])]
  exact_mod_cast Iff.rfl

theorem alertDue_iff (last : Option Time) (now : Time) :
    alertDue (last.map seconds) (seconds now) = true ↔ ∀ fired ∈ last, 30 * second ≤
      now - fired := by
  cases last with
  | none => simp [alertDue]
  | some fired =>
      have bound := le_sub_seconds now fired 30
      simp only [Option.map_some, alertDue, decide_eq_true_iff, Option.mem_def, Option.some.injEq,
        forall_eq', ge_iff_le, Capture.tunnelFloodCooldownS]
      exact_mod_cast bound

/-- The tool keeps up with the detector: it knows the same reports and has counted
as many. -/
structure Follows (tally : TunnelTally) (scores : Nat) (detector : GTPUFloodDetector) : Prop where
  total : tally.alerts.total = scores
  last : ∀ id : TunnelID, tally.last (id.sourceIP, id.teid.toNat) =
    (detector.lastFired.lookup id).map seconds

section Armed

variable {setup : Setup} {detector : GTPUFloodDetector} {tally : TunnelTally} {scores : Nat}

theorem teid_eq_zero_iff (seen : Observed) : seen.call.event.teid = 0 ↔ seen.packet.teid = 0 := by
  rw [← seen.teid, ← UInt32.toNat_inj]
  rfl

theorem tunnelOf_key (seen : Observed) :
    ((tunnelOf seen.call.event).sourceIP, (tunnelOf seen.call.event).teid.toNat) =
      (seen.packet.sourceIp, seen.packet.teid) := by
  rw [tunnelOf, seen.source, seen.teid]

theorem cooldown_eq (setup : Setup) :
    (newGTPUFloodDetector setup.tunnel).cfg.cooldown = 30 * second := by
  rw [newGTPUFloodDetector, setup.cooldown]
  rfl

/-- The tool raises an alert for the packets the detector returns a score for. -/
theorem alerting_iff (follows : Follows tally scores detector)
    (cfg : detector.cfg = (newGTPUFloodDetector setup.tunnel).cfg)
    (set : setup.tunnel.packetsPerSecond ≠ 0) (seen : Observed) :
    tally.alerting setup.thresholds.tunnelPps seen.packet seen.rate = true ↔
      (scoreOf (detector, seen.call)).isSome = true := by
  have armed : detector.Armed := by
    rw [Armed, cfg]
    exact ⟨setup.tunnelOn, set⟩
  have rate : (detector.cfg.packetsPerSecond.toNat : ℚ) ≤ seen.call.event.tunnelRatePerSecond ↔
      (seen.rate : Int) ≥ setup.thresholds.tunnelPps := by
    rw [seen.tunnelRate, cfg, Nat.cast_le]
    exact Int.ofNat_le.symm
  have due := alertDue_iff (detector.lastFired.lookup (tunnelOf seen.call.event)) seen.call.now
  rw [← follows.last, tunnelOf_key, seconds, ← seen.time] at due
  rw [scoreOf_isSome_iff, TunnelTally.alerting, Bool.and_eq_true, decide_eq_true_iff, due, Floods,
    cfg, cooldown_eq, ← cfg, rate]
  simp only [armed, seen.gtpu, ne_eq, teid_eq_zero_iff, true_and]

theorem Follows.step (follows : Follows tally scores detector)
    (cfg : detector.cfg = (newGTPUFloodDetector setup.tunnel).cfg)
    (set : setup.tunnel.packetsPerSecond ≠ 0) (seen : Observed) {after : GTPUFloodDetector}
    (lookup : ∀ id, after.lastFired.lookup id =
      if reports id (detector, seen.call) then some seen.call.now
      else detector.lastFired.lookup id) (ownerOf : Owners) (directionOf : Packet → String) :
    Follows (tally.step setup.thresholds.tunnelPps ownerOf directionOf seen.packet seen.rate)
      (scores + (scoreOf (detector, seen.call)).toList.length) after := by
  have alert := alerting_iff follows cfg set seen
  constructor
  · rw [TunnelTally.step_total, follows.total]
    congr 1
    cases scored : scoreOf (detector, seen.call) with
    | none => simp [alert, scored]
    | some score => simp [alert, scored]
  · intro id
    rw [(tally.step_eq seen.packet seen.rate).1, lookup]
    cases scored : (scoreOf (detector, seen.call)).isSome with
    | false =>
        rw [if_neg (by simp [alert, scored]), if_neg (by simp [reports_iff, scored]), follows.last]
    | true =>
        rw [if_pos (by simp [alert, scored])]
        by_cases own : tunnelOf seen.call.event = id
        · subst own
          rw [if_pos (by simp [reports_iff, scored]), tunnelOf_key, Function.update_self, seen.time]
          rfl
        · have other : (id.sourceIP, id.teid.toNat) ≠ (seen.packet.sourceIp, seen.packet.teid) := by
            intro same
            rw [← tunnelOf_key, Prod.mk.injEq, UInt32.toNat_inj] at same
            apply own
            cases id
            rw [tunnelOf, TunnelID.mk.injEq]
            exact ⟨same.1.symm, same.2.symm⟩
          rw [if_neg (by simp [reports_iff, own]), Function.update_of_ne other, follows.last]

theorem follows_run (set : setup.tunnel.packetsPerSecond ≠ 0) (ownerOf : Owners)
    (directionOf : Packet → String) {observed : List Observed}
    (ordered : InOrder (observed.map Observed.call))
    (few : (tunnelIDs (observed.map Observed.call)).card ≤
      sizeOr setup.tunnel.maxTrackedTunnels defaultTrackedTunnels) :
    Follows
      (tunnelTally setup.thresholds.tunnelPps ownerOf directionOf
        (observed.map (fun seen => (seen.packet, seen.rate))))
      ((run setup.tunnel (observed.map Observed.call)).filterMap scoreOf).length
      (final setup.tunnel (observed.map Observed.call)) := by
  induction observed using List.reverseRecOn with
  | nil =>
      have none : ∀ id, (newGTPUFloodDetector setup.tunnel).lastFired.lookup id = none :=
        fun id => Std.ExtTreeMap.getElem?_empty
      exact ⟨Counter.total_empty, fun id => (congrArg (Option.map seconds) (none id)).symm⟩
  | append_singleton observed last ih =>
      rw [List.map_append, List.map_singleton] at ordered few ⊢
      have follows := ih ordered.init.1 ((Finset.card_le_card (tunnelIDs_mono _ _)).trans few)
      rw [List.map_append, List.map_singleton, tunnelTally_concat, run, turns_concat,
        filterMap_concat, List.length_append, ← run, ← final]
      exact follows.step (final_cfg _ _) set last (lookup_concat ordered few) ownerOf directionOf

end Armed

theorem no_scores {setup : Setup} (unset : setup.tunnel.packetsPerSecond = 0) (calls : List Call) :
    (run setup.tunnel calls).filterMap scoreOf = [] := by
  rw [List.filterMap_eq_nil_iff]
  intro turn member
  obtain ⟨before, state⟩ := (of_mem_turns member).2
  have calm : ¬ turn.1.Armed := by
    rw [Armed, state, ← final, final_cfg]
    exact fun armed => armed.2 unset
  rw [← Option.not_isSome_iff_eq_none, scoreOf_isSome_iff]
  exact fun scored => calm scored.1.1

end Tunnels

namespace Recording

variable {setup : Setup} (recording : Recording setup) (ownerOf : Owners)
  (directionOf : Packet → String)

/-- The tool counts as many tunnel alerts as the tunnel detector returns scores. -/
def TunnelAlertsAgree : Prop :=
  (recording.result ownerOf directionOf).tunnelFlood.alerts.total = recording.tunnelScores.length

def SourceAlertsAgree : Prop :=
  (recording.result ownerOf directionOf).sourceFlood.alerts = recording.reportedSources.card

theorem result_alerts :
    (recording.result ownerOf directionOf).tunnelFlood.alerts =
      (tunnelTally setup.thresholds.tunnelPps ownerOf directionOf
        (recording.observed.map (fun seen => (seen.packet, seen.rate)))).alerts := by
  rw [result, rules, List.zip_map']

theorem tunnelAlertsAgree_iff :
    recording.TunnelAlertsAgree ownerOf directionOf ↔
      setup.tunnel.packetsPerSecond ≠ 0 ∨ ∀ seen ∈ recording.observed, seen.packet.teid = 0 := by
  rw [TunnelAlertsAgree, result_alerts]
  by_cases unset : setup.tunnel.packetsPerSecond = 0
  · have zero : setup.thresholds.tunnelPps = 0 := by
      rw [Setup.thresholds, unset]
      rfl
    rw [tunnelScores, no_scores unset, List.length_nil, zero, Capture.total_of_no_threshold]
    simp [unset]
  · exact iff_of_true (follows_run unset ownerOf directionOf recording.ordered
      recording.fewTunnels).total (.inl unset)

end Recording

end Sentinel5G.Detect
