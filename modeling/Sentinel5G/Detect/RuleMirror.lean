import Sentinel5G.Detect.TunnelMirror

/-! The source rule of `fpr_app_mix._rules` next to the source detector, and both
rules together. The tool counts packets of no tunnel for their source, and lets a
window take in the packet that comes exactly when it is over. -/

namespace Sentinel5G.Detect

open Base Api Controller Ingestion
open Capture (Packet Owners RuleThresholds sourceTally packetsOf tunnelsIn latePacket lateS)

section Sources

/-- The packet is no part of the tool's window any more. -/
def secondPassed (start seen : Observed) : Bool :=
  decide (second < seen.call.now - start.call.now)

/-- The packet is no part of the detector's window any more. -/
def secondReached (start seen : Observed) : Bool :=
  decide (second ≤ seen.call.now - start.call.now)

def Setup.Over (setup : Setup) (window : List Observed) : Prop :=
  setup.thresholds.Over (window.map Observed.packet)

/-- The tool counts the source of these packets among its alerts. -/
def ToolAlerts (setup : Setup) (observed : List Observed) : Prop :=
  setup.source.distinctTunnels < 0 ∨ Peaks secondPassed setup.Over observed

/-- The detector reports the source of these packets. -/
def DetectorReports (setup : Setup) (observed : List Observed) : Prop :=
  Peaks secondReached setup.Over (observed.filter Observed.tunneled)

theorem lt_sub_seconds (later earlier : Time) (length : Int) :
    (length : ℚ) < seconds later - seconds earlier ↔ length * second < later - earlier := by
  rw [seconds, seconds, ← sub_div, lt_div_iff₀ (by norm_num [second])]
  exact_mod_cast Iff.rfl

theorem latePacket_eq (start seen : Observed) :
    latePacket start.packet seen.packet = secondPassed start seen := by
  have bound := lt_sub_seconds seen.call.now start.call.now 1
  rw [seconds, seconds, ← seen.time, ← start.time, one_mul] at bound
  rw [latePacket, lateS, secondPassed, decide_eq_decide, ← bound]
  exact_mod_cast Iff.rfl

theorem packetsOf_eq (source : String) (observed : List Observed) :
    packetsOf source (observed.map Observed.packet) =
      (fromSource source observed).map Observed.packet := by
  rw [packetsOf, List.filter_map, fromSource]
  rfl

theorem alerted_iff_toolAlerts (setup : Setup) (source : String) (observed : List Observed) :
    (sourceTally (observed.map Observed.packet)).alerted setup.thresholds source = true ↔
      ToolAlerts setup (fromSource source observed) := by
  have windows : (fromSource source observed).Pairwise (fun start seen =>
      latePacket start.packet seen.packet = secondPassed start seen) :=
    List.pairwise_of_forall fun start seen => latePacket_eq start seen
  rw [Capture.alerted_iff (Int.natCast_nonneg _), packetsOf_eq, peaks_map windows]
  rfl

section Detector

open GTPUSourceFloodDetector

variable {setup : Setup}

theorem effective_window (setup : Setup) : (effective setup.source).window = second := by
  rw [effective, newGTPUSourceFloodDetector, setup.window]
  rfl

theorem own_iff (setup : Setup) (source : String) (seen : Observed) :
    own setup.source source seen.call =
      (decide (0 < setup.source.packetsPerSecond ∨ 0 < setup.source.distinctTunnels) &&
        (seen.tunneled && decide (seen.packet.sourceIp = source))) := by
  have rate : (effective setup.source).packetsPerSecond = setup.source.packetsPerSecond := rfl
  have tunnels : (effective setup.source).distinctTunnels = setup.source.distinctTunnels := rfl
  have on : (effective setup.source).enabled = true := setup.sourceOn
  rw [own, takes, on, rate, tunnels, Observed.tunneled, seen.source]
  simp [seen.gtpu, seen.named, teid_eq_zero_iff, Bool.and_assoc]

def CallsExceed (cfg : GTPUSourceFloodConfig) (calls : List Call) : Prop :=
  (0 < cfg.packetsPerSecond.toNat ∧ cfg.packetsPerSecond.toNat ≤ calls.length) ∨
    (0 < cfg.distinctTunnels ∧ cfg.distinctTunnels ≤
      min (tunnelLimit cfg) (calls.map (fun call => call.event.teid)).toFinset.card)

theorem exceeds_iff (cfg : GTPUSourceFloodConfig) (window : List Turn) :
    Exceeds cfg window ↔ CallsExceed cfg (window.map Prod.snd) := by
  rw [Exceeds, CallsExceed, List.length_map, List.map_map]
  rfl

theorem card_teids {window : List Observed} (tunneled : ∀ seen ∈ window, seen.tunneled = true) :
    (tunnelsIn (window.map Observed.packet)).card =
      ((window.map Observed.call).map (fun call => call.event.teid)).toFinset.card := by
  have numbers : tunnelsIn (window.map Observed.packet) =
      ((window.map Observed.call).map (fun call => call.event.teid)).toFinset.image
        UInt32.toNat := by
    ext number
    simp only [tunnelsIn, List.mem_toFinset, List.mem_filter, List.mem_map, Finset.mem_image,
      List.map_map, Function.comp_apply, decide_eq_true_iff]
    constructor
    · rintro ⟨⟨seen, member, rfl⟩, _⟩
      exact ⟨_, ⟨seen, member, rfl⟩, seen.teid⟩
    · rintro ⟨_, ⟨seen, member, rfl⟩, rfl⟩
      have set : seen.packet.teid ≠ 0 := of_decide_eq_true (tunneled seen member)
      rw [seen.teid]
      exact ⟨⟨seen, member, rfl⟩, set⟩
  rw [numbers]
  exact Finset.card_image_of_injective _ fun _ _ same => UInt32.toNat_inj.mp same

theorem callsExceed_iff {window : List Observed}
    (tunneled : ∀ seen ∈ window, seen.tunneled = true)
    (few : (tunnelsIn (window.map Observed.packet)).card ≤ tunnelLimit setup.source) :
    CallsExceed setup.source (window.map Observed.call) ↔ setup.Over window := by
  rw [CallsExceed, ← card_teids tunneled, Nat.min_eq_right few, Setup.Over, RuleThresholds.Over,
    List.length_map, List.length_map, Setup.thresholds]
  simp only [Nat.cast_pos, Nat.cast_le]

theorem card_tunnelsIn_mono {window whole : List Observed}
    (inside : ∀ seen ∈ window, seen ∈ whole) : (tunnelsIn (window.map Observed.packet)).card ≤
      (tunnelsIn (whole.map Observed.packet)).card := by
  apply Finset.card_le_card
  intro number
  simp only [tunnelsIn, List.mem_toFinset, List.mem_filter, List.mem_map]
  rintro ⟨⟨packet, ⟨seen, member, rfl⟩, rfl⟩, set⟩
  exact ⟨⟨_, ⟨seen, inside seen member, rfl⟩, rfl⟩, set⟩

section Recorded

variable (recording : Recording setup) (source : String)

theorem few_senders : (senders setup.source recording.calls).toFinset.card ≤ room setup.source := by
  apply le_trans (Finset.card_le_card _) recording.fewSources
  intro sender member
  rw [List.mem_toFinset, senders, List.mem_map] at member
  obtain ⟨call, member, rfl⟩ := member
  obtain ⟨inside, taken⟩ := List.mem_filter.mp member
  obtain ⟨seen, recorded, rfl⟩ := List.mem_map.mp inside
  have owned : own setup.source seen.packet.sourceIp seen.call = true := by
    rw [own, taken, seen.source]
    simp
  rw [own_iff, Bool.and_eq_true, Bool.and_eq_true] at owned
  rw [sourcesOf, List.mem_toFinset, List.mem_map]
  exact ⟨seen, List.mem_filter.mpr ⟨recorded, owned.2.1⟩, seen.source.symm⟩

theorem ownTurns_calls (set : 0 < setup.source.packetsPerSecond ∨
    0 < setup.source.distinctTunnels) :
    (ownTurns setup.source source recording.calls).map Prod.snd =
      ((fromSource source recording.observed).filter Observed.tunneled).map Observed.call := by
  calc (ownTurns setup.source source recording.calls).map Prod.snd
      = ((run setup.source recording.calls).map Prod.snd).filter (own setup.source source) := by
        rw [List.filter_map]
        rfl
    _ = recording.calls.filter (own setup.source source) := by rw [run, map_snd_turns]
    _ = (recording.observed.filter (fun seen => own setup.source source seen.call)).map
          Observed.call := by
        rw [Recording.calls, List.filter_map]
        rfl
    _ = ((fromSource source recording.observed).filter Observed.tunneled).map Observed.call := by
        rw [fromSource, List.filter_filter]
        congr 2
        funext seen
        rw [own_iff, decide_eq_true set, Bool.true_and]

theorem ownTurns_of_unset
    (unset : ¬ (0 < setup.source.packetsPerSecond ∨ 0 < setup.source.distinctTunnels)) :
    ownTurns setup.source source recording.calls = [] := by
  rw [ownTurns, List.filter_eq_nil_iff]
  intro turn member
  obtain ⟨seen, -, same⟩ := List.mem_map.mp (of_mem_turns member).1
  rw [← same, own_iff, decide_eq_false unset]
  simp

theorem not_over_of_unset
    (unset : ¬ (0 < setup.source.packetsPerSecond ∨ 0 < setup.source.distinctTunnels))
    (window : List Observed) : ¬ setup.Over window := by
  rw [UInt32.lt_iff_toNat_lt] at unset
  rintro (⟨set, -⟩ | ⟨set, -⟩)
  · exact unset (.inl (Int.natCast_pos.mp set))
  · exact unset (.inr set)

/-- The detector returns a score for a source if one of its windows reaches a
threshold. -/
theorem exists_fired_iff_reports :
    (∃ turn ∈ ownTurns setup.source source recording.calls, fired turn = true) ↔
      DetectorReports setup (fromSource source recording.observed) := by
  have ordered : InOrder recording.calls := recording.ordered
  rw [exists_fired_iff ordered (few_senders recording), DetectorReports]
  by_cases set : 0 < setup.source.packetsPerSecond ∨ 0 < setup.source.distinctTunnels
  · -- the turns, their calls and the packets are cut into windows alike
    let late : Call → Call → Bool := fun start call => decide (second ≤ call.now - start.now)
    have turns : (ownTurns setup.source source recording.calls).Pairwise
        (fun start turn => late start.2 turn.2 = stale setup.source start turn) :=
      List.pairwise_of_forall fun start turn => by rw [stale, effective_window]
    have packets : ((fromSource source recording.observed).filter Observed.tunneled).Pairwise
        (fun start seen => late start.call seen.call = secondReached start seen) :=
      List.pairwise_of_forall fun _ _ => rfl
    have within : ∀ window : List Observed,
        (∀ seen ∈ window, seen ∈ (fromSource source recording.observed).filter Observed.tunneled) →
        (CallsExceed setup.source (window.map Observed.call) ↔ setup.Over window) := by
      intro window inside
      apply callsExceed_iff
      · intro seen member
        exact (List.mem_filter.mp (inside seen member)).2
      · apply le_trans (card_tunnelsIn_mono _) (recording.fewPerSource source)
        intro seen member
        exact (List.mem_filter.mp (inside seen member)).1
    calc Peaks (stale setup.source) (Exceeds setup.source)
          (ownTurns setup.source source recording.calls)
        ↔ Peaks (stale setup.source)
            (fun window => CallsExceed setup.source (window.map Prod.snd))
            (ownTurns setup.source source recording.calls) := by
          simp only [← exceeds_iff]
      _ ↔ Peaks late (CallsExceed setup.source)
            (((fromSource source recording.observed).filter Observed.tunneled).map
              Observed.call) := by
          rw [← peaks_map turns, ownTurns_calls recording source set]
      _ ↔ Peaks secondReached (fun window => CallsExceed setup.source (window.map Observed.call))
            ((fromSource source recording.observed).filter Observed.tunneled) := peaks_map packets
      _ ↔ Peaks secondReached setup.Over
            ((fromSource source recording.observed).filter Observed.tunneled) :=
          ⟨fun peaks => peaks.imp_of_mem fun window inside => (within window inside).mp,
            fun peaks => peaks.imp_of_mem fun window inside => (within window inside).mpr⟩
  · rw [ownTurns_of_unset recording source set]
    apply iff_of_false not_peaks_nil
    intro peaks
    obtain ⟨_, _, _, _, reached⟩ := peaks
    exact not_over_of_unset set _ reached

theorem mem_reportedSources :
    source ∈ recording.reportedSources ↔
      DetectorReports setup (fromSource source recording.observed) := by
  rw [← exists_fired_iff_reports, Recording.reportedSources, List.mem_toFinset, List.mem_filterMap]
  constructor
  · rintro ⟨turn, member, found⟩
    obtain ⟨score, scored, rfl⟩ := Option.map_eq_some_iff.mp found
    have same := (score_of_reply scored).1
    refine ⟨turn, List.mem_filter.mpr ⟨member, ?_⟩, by rw [fired, scored]; rfl⟩
    have taken : takes (effective setup.source) turn.2.event = true := by
      by_contra other
      rw [Bool.not_eq_true, ← cfg_of_mem _ _ member] at other
      rw [replyOf, evaluate_of_other _ other] at scored
      cases scored
    rw [own, taken, same]
    simp
  · rintro ⟨turn, member, scored⟩
    obtain ⟨inside, owned⟩ := List.mem_filter.mp member
    obtain ⟨score, found⟩ := Option.isSome_iff_exists.mp scored
    rw [own, Bool.and_eq_true, decide_eq_true_iff] at owned
    refine ⟨turn, inside, ?_⟩
    rw [found, Option.map_some, (score_of_reply found).1, owned.2]

end Recorded

end Detector

/-- Every packet is of a tunnel, and none comes exactly a second after the first one
of the running window. -/
def Clean (observed : List Observed) : Prop :=
  Throughout (fun past seen => seen.tunneled = true ∧
    ∀ start ∈ (openWindow secondReached past).head?, seen.call.now - start.call.now ≠ second)
      observed

/-- The packets of no second, the packet at its end among them, reach a threshold. -/
def Quiet (setup : Setup) (observed : List Observed) : Prop :=
  ∀ start rest, (start :: rest).Sublist observed →
    (∀ seen ∈ rest, seen.call.now - start.call.now ≤ second) → ¬ setup.Over (start :: rest)

/-- The packets of a source do not tell the tool from the detector. -/
inductive Indifferent (setup : Setup) (observed : List Observed) : Prop
  | clean (counts : 0 ≤ setup.source.distinctTunnels) (clean : Clean observed)
  /-- A threshold is reached before the first packet that tells them apart. -/
  | settled (front back : List Observed) (split : observed = front ++ back) (clean : Clean front)
      (reached : Peaks secondReached setup.Over front)
  | quiet (counts : 0 ≤ setup.source.distinctTunnels) (quiet : Quiet setup observed)

section Indifferent

variable {setup : Setup} {observed : List Observed}

theorem Clean.filter_eq (clean : Clean observed) :
    observed.filter Observed.tunneled = observed := by
  rw [List.filter_eq_self]
  intro seen member
  obtain ⟨past, rest, split⟩ := List.append_of_mem member
  exact (clean past seen rest split).1

theorem Clean.peaks_iff (clean : Clean observed) :
    Peaks secondPassed setup.Over observed ↔ Peaks secondReached setup.Over observed := by
  apply peaks_congr
  intro past seen rest split start first
  have apart := (clean past seen rest split).2 start first
  rw [secondPassed, secondReached, decide_eq_decide]
  exact ⟨le_of_lt, fun reached => lt_of_le_of_ne reached (Ne.symm apart)⟩

theorem toolAlerts_of_nonneg (counts : 0 ≤ setup.source.distinctTunnels) :
    ToolAlerts setup observed ↔ Peaks secondPassed setup.Over observed :=
  or_iff_right (not_lt.mpr counts)

theorem Indifferent.alerts_iff (alike : Indifferent setup observed) :
    ToolAlerts setup observed ↔ DetectorReports setup observed := by
  rw [DetectorReports]
  cases alike with
  | clean counts clean => rw [toolAlerts_of_nonneg counts, clean.peaks_iff, clean.filter_eq]
  | settled front back split clean reached =>
      rw [split, List.filter_append, clean.filter_eq]
      exact iff_of_true (.inr ((clean.peaks_iff.mpr reached).append back)) (reached.append _)
  | quiet counts quiet =>
      rw [toolAlerts_of_nonneg counts]
      apply iff_of_false
      · intro peaks
        obtain ⟨start, rest, part, fresh, reached⟩ := peaks.exists_sublist
        exact quiet start rest part (fun seen member => not_lt.mp
          (of_decide_eq_false (fresh seen member))) reached
      · intro peaks
        obtain ⟨start, rest, part, fresh, reached⟩ := peaks.exists_sublist
        exact quiet start rest (part.trans List.filter_sublist)
          (fun seen member => (not_le.mp (of_decide_eq_false (fresh seen member))).le) reached

end Indifferent

end Sources

namespace Recording

variable {setup : Setup} (recording : Recording setup) (ownerOf : Owners)
  (directionOf : Packet → String)

def alertedSources : Finset String :=
  ((sourceTally (recording.observed.map Observed.packet)).peakPps.keys.filter
    ((sourceTally (recording.observed.map Observed.packet)).alerted setup.thresholds)).toFinset

theorem result_sourceAlerts :
    (recording.result ownerOf directionOf).sourceFlood.alerts = recording.alertedSources.card := by
  have distinct : (sourceTally (recording.observed.map Observed.packet)).peakPps.keys.Nodup := by
    apply Std.ExtTreeMap.distinct_keys.imp
    intro first second different same
    rw [same] at different
    exact different Std.ReflCmp.compare_self
  rw [alertedSources, List.toFinset_card_of_nodup (distinct.filter _)]
  rfl

theorem mem_alertedSources (source : String) :
    source ∈ recording.alertedSources ↔ source ∈ sourcesOf recording.observed ∧
      ToolAlerts setup (fromSource source recording.observed) := by
  rw [alertedSources, List.mem_toFinset, List.mem_filter, alerted_iff_toolAlerts,
    Std.ExtTreeMap.mem_keys, (Capture.sourceSeen source _).present, packetsOf_eq]
  apply and_congr_left'
  simp [fromSource, sourcesOf]

theorem mem_sources_of_reports {source : String}
    (reports : DetectorReports setup (fromSource source recording.observed)) :
    source ∈ sourcesOf recording.observed := by
  obtain ⟨start, rest, part, -, -⟩ := Peaks.exists_sublist reports
  have member := (List.mem_filter.mp (part.subset List.mem_cons_self)).1
  obtain ⟨inside, same⟩ := List.mem_filter.mp member
  rw [sourcesOf, List.mem_toFinset, List.mem_map]
  exact ⟨start, inside, of_decide_eq_true same⟩

open Classical in
/-- As many sources have only a window of the tool that reaches a threshold as have
only one of the detector. -/
def Balanced : Prop :=
  ((sourcesOf recording.observed).filter (fun source =>
      ToolAlerts setup (fromSource source recording.observed) ∧
        ¬ DetectorReports setup (fromSource source recording.observed))).card =
    ((sourcesOf recording.observed).filter (fun source =>
      DetectorReports setup (fromSource source recording.observed) ∧
        ¬ ToolAlerts setup (fromSource source recording.observed))).card

theorem sourceAlertsAgree_iff :
    recording.SourceAlertsAgree ownerOf directionOf ↔ recording.Balanced := by
  classical
  have tool : recording.alertedSources \ recording.reportedSources =
      (sourcesOf recording.observed).filter (fun source =>
        ToolAlerts setup (fromSource source recording.observed) ∧
          ¬ DetectorReports setup (fromSource source recording.observed)) := by
    ext source
    rw [Finset.mem_sdiff, Finset.mem_filter, mem_alertedSources, mem_reportedSources, and_assoc]
  have detector : recording.reportedSources \ recording.alertedSources =
      (sourcesOf recording.observed).filter (fun source =>
        DetectorReports setup (fromSource source recording.observed) ∧
          ¬ ToolAlerts setup (fromSource source recording.observed)) := by
    ext source
    rw [Finset.mem_sdiff, Finset.mem_filter, mem_alertedSources, mem_reportedSources]
    constructor
    · rintro ⟨reports, silent⟩
      have sent := recording.mem_sources_of_reports reports
      exact ⟨sent, reports, fun alerts => silent ⟨sent, alerts⟩⟩
    · rintro ⟨_, reports, silent⟩
      exact ⟨reports, fun alerts => silent alerts.2⟩
  rw [SourceAlertsAgree, result_sourceAlerts, Balanced]
  -- the sources that both name count on both sides
  have left := Finset.card_sdiff_add_card_inter recording.alertedSources recording.reportedSources
  have right := Finset.card_sdiff_add_card_inter recording.reportedSources recording.alertedSources
  rw [Finset.inter_comm] at right
  rw [tool] at left
  rw [detector] at right
  omega

theorem balanced_of_indifferent
    (alike : ∀ seen ∈ recording.observed,
      Indifferent setup (fromSource seen.packet.sourceIp recording.observed)) :
    recording.Balanced := by
  classical
  have same : ∀ source ∈ sourcesOf recording.observed,
      (ToolAlerts setup (fromSource source recording.observed) ↔
        DetectorReports setup (fromSource source recording.observed)) := by
    intro source member
    obtain ⟨seen, inside, rfl⟩ := List.mem_map.mp (List.mem_toFinset.mp member)
    exact (alike seen inside).alerts_iff
  rw [Balanced, Finset.filter_false_of_mem, Finset.filter_false_of_mem]
  · intro source member only
    exact only.2 ((same source member).mpr only.1)
  · intro source member only
    exact only.2 ((same source member).mp only.1)

/-- The tool mirrors the detectors. -/
def Mirrors : Prop :=
  recording.TunnelAlertsAgree ownerOf directionOf ∧ recording.SourceAlertsAgree ownerOf directionOf

/-- The tool mirrors the detectors if the tunnel rule is on or has nothing to look at,
and the sources it alone counts are as many as those it alone misses; there are
none of either kind if the packets of each source do not tell the two apart. -/
theorem rules_mirror_detectors :
    (recording.Mirrors ownerOf directionOf ↔
      (setup.tunnel.packetsPerSecond ≠ 0 ∨
        ∀ seen ∈ recording.observed, seen.packet.teid = 0) ∧ recording.Balanced) ∧
    ((∀ seen ∈ recording.observed,
      Indifferent setup (fromSource seen.packet.sourceIp recording.observed)) →
      recording.Balanced) :=
  ⟨and_congr (recording.tunnelAlertsAgree_iff ownerOf directionOf)
    (recording.sourceAlertsAgree_iff ownerOf directionOf), recording.balanced_of_indifferent⟩

end Recording

def setupOf (tunnelPps sourcePps : UInt32) (distinctTunnels : Int) : Setup where
  tunnel := ⟨true, tunnelPps, 30 * second, 0⟩
  source := ⟨true, sourcePps, distinctTunnels, second, 30 * second, 0, 0⟩
  tunnelOn := rfl
  sourceOn := rfl
  cooldown := rfl
  window := rfl

def packetAt (teid : UInt32) (now : Time) : Observed where
  packet := ⟨(now : ℚ) / (second : ℚ), GTPUSourceFloodDetector.peer, Capture.gtpuPort, 100,
    teid.toNat, false⟩
  rate := 3000
  call := GTPUSourceFloodDetector.packetOf GTPUSourceFloodDetector.peer teid now
  port := rfl
  time := rfl
  source := rfl
  named := show GTPUSourceFloodDetector.peer ≠ "" by decide
  teid := rfl
  gtpu := rfl
  tunnelRate := rfl

def recordingOf (setup : Setup) (observed : List Observed)
    (ordered : InOrder (observed.map Observed.call)) (short : observed.length ≤ 2)
    (tunnels : 2 ≤ sizeOr setup.tunnel.maxTrackedTunnels defaultTrackedTunnels)
    (sources : 2 ≤ GTPUSourceFloodDetector.room setup.source)
    (perSource : 2 ≤ GTPUSourceFloodDetector.tunnelLimit setup.source) : Recording setup where
  observed := observed
  ordered := ordered
  fewTunnels := by
    calc (tunnelIDs (observed.map Observed.call)).card
        ≤ ((observed.map Observed.call).filter (fun call => decide (call.event.teid ≠ 0))).length :=
          (List.toFinset_card_le _).trans_eq (List.length_map _)
      _ ≤ observed.length := (List.length_filter_le _ _).trans_eq (List.length_map _)
      _ ≤ _ := short.trans tunnels
  fewSources := by
    calc (sourcesOf (observed.filter Observed.tunneled)).card
        ≤ (observed.filter Observed.tunneled).length :=
          (List.toFinset_card_le _).trans_eq (List.length_map _)
      _ ≤ observed.length := List.length_filter_le _ _
      _ ≤ _ := short.trans sources
  fewPerSource source := by
    calc (tunnelsIn ((fromSource source observed).map Observed.packet)).card
        ≤ (((fromSource source observed).map Observed.packet).map Packet.teid).length :=
          (List.toFinset_card_le _).trans (List.length_filter_le _ _)
      _ = (fromSource source observed).length := by rw [List.length_map, List.length_map]
      _ ≤ observed.length := List.length_filter_le _ _
      _ ≤ _ := short.trans perSource

def untunneledPacket : Recording (setupOf 10 1 0) :=
  recordingOf _ [packetAt 0 0] (List.pairwise_singleton _ _) (by decide) (by decide) (by decide)
    (by decide)

def packetAtTheSecond : Recording (setupOf 10 2 0) :=
  recordingOf _ [packetAt 7 0, packetAt 7 second] (List.pairwise_pair.mpr (by decide)) (by decide)
    (by decide) (by decide) (by decide)

def rulesOff : Recording (setupOf 0 0 0) :=
  recordingOf _ [packetAt 7 0] (List.pairwise_singleton _ _) (by decide) (by decide) (by decide)
    (by decide)

/-- Each of the three is an alert of the tool for which the detectors return no score. -/
theorem tool_alerts_alone :
    (untunneledPacket.result [] (fun _ => "uplink")).sourceFlood.alerts = 1 ∧
    untunneledPacket.reportedSources = ∅ ∧
    (packetAtTheSecond.result [] (fun _ => "uplink")).sourceFlood.alerts = 1 ∧
    packetAtTheSecond.reportedSources = ∅ ∧
    (rulesOff.result [] (fun _ => "uplink")).tunnelFlood.alerts.total = 1 ∧
    rulesOff.tunnelScores.length = 0 ∧
    ¬ untunneledPacket.Mirrors [] (fun _ => "uplink") ∧
    ¬ packetAtTheSecond.Mirrors [] (fun _ => "uplink") ∧
    ¬ rulesOff.Mirrors [] (fun _ => "uplink") := by
  have untunneled : (untunneledPacket.result [] (fun _ => "uplink")).sourceFlood.alerts = 1 ∧
      untunneledPacket.reportedSources = ∅ := by decide +kernel
  have exact : (packetAtTheSecond.result [] (fun _ => "uplink")).sourceFlood.alerts = 1 ∧
      packetAtTheSecond.reportedSources = ∅ := by decide +kernel
  have off : (rulesOff.result [] (fun _ => "uplink")).tunnelFlood.alerts.total = 1 ∧
      rulesOff.tunnelScores.length = 0 := by decide +kernel
  refine ⟨untunneled.1, untunneled.2, exact.1, exact.2, off.1, off.2, fun mirrors => ?_,
    fun mirrors => ?_, fun mirrors => ?_⟩
  · have same := mirrors.2
    rw [Recording.SourceAlertsAgree, untunneled.1, untunneled.2] at same
    cases same
  · have same := mirrors.2
    rw [Recording.SourceAlertsAgree, exact.1, exact.2] at same
    cases same
  · have same := mirrors.1
    rw [Recording.TunnelAlertsAgree, off.1, off.2] at same
    cases same

def twoInASecond : Recording (setupOf 10 2 0) :=
  recordingOf _ [packetAt 7 0, packetAt 8 (second / 2)] (List.pairwise_pair.mpr (by decide))
    (by decide) (by decide) (by decide) (by decide)

theorem twoInASecond_clean : Clean [packetAt 7 0, packetAt 8 (second / 2)] := by
  have first : Clean [packetAt 7 0] :=
    Throughout.concat (throughout_nil _) ⟨by decide, by simp [openWindow]⟩
  apply Throughout.concat first
  refine ⟨by decide, fun start member => ?_⟩
  cases member
  decide

theorem twoInASecond_is_mirrored :
    twoInASecond.Mirrors [] (fun _ => "uplink") ∧
      (twoInASecond.result [] (fun _ => "uplink")).sourceFlood.alerts = 1 := by
  have mirrored := twoInASecond.rules_mirror_detectors [] (fun _ => "uplink")
  have alike : ∀ seen ∈ twoInASecond.observed,
      Indifferent (setupOf 10 2 0) (fromSource seen.packet.sourceIp twoInASecond.observed) := by
    intro seen member
    have whole : fromSource seen.packet.sourceIp twoInASecond.observed =
        [packetAt 7 0, packetAt 8 (second / 2)] := by
      rcases List.mem_pair.mp member with rfl | rfl <;> rfl
    rw [whole]
    exact .clean (le_refl _) twoInASecond_clean
  exact ⟨mirrored.1.mpr ⟨.inl (by decide), mirrored.2 alike⟩, by decide +kernel⟩

end Sentinel5G.Detect
