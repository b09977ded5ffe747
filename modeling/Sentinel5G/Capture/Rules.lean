import Mathlib.Data.Finset.Card
import Sentinel5G.Base.Counter
import Sentinel5G.Capture.RateSeries
import Sentinel5G.Capture.TunnelOwners

namespace Sentinel5G.Capture

open Base

def tunnelFloodPps : Int := 100000

def tunnelFloodCooldownS : ℚ := 30

def sourceFloodPps : Int := 500000

def sourceFloodDistinctTunnels : Int := 2048

structure RuleThresholds where
  tunnelPps : Int := tunnelFloodPps
  sourcePps : Int := sourceFloodPps
  distinctTunnels : Int := sourceFloodDistinctTunnels

abbrev Tally := Counter String compare

structure TunnelTally where
  alerts : Tally
  alertedTunnels : Std.ExtTreeMap String (Finset (String × Nat)) compare
  last : String × Nat → Option ℚ
  peak : Tally

def TunnelTally.empty : TunnelTally := ⟨∅, ∅, fun _ => none, ∅⟩

def groupOf (ownerOf : Owners) (directionOf : Packet → String) (packet : Packet) : String :=
  (ownerOf.lookup (packet.sourceIp, packet.teid)).getD "unattributed" ++ "/" ++ directionOf packet

/-- `key not in last or p.timestamp - last[key] >= TUNNEL_FLOOD_COOLDOWN_S`. -/
def alertDue (last : Option ℚ) (timestamp : ℚ) : Bool :=
  match last with
  | none => true
  | some fired => decide (timestamp - fired ≥ tunnelFloodCooldownS)

def TunnelTally.step (tunnelPps : Int) (ownerOf : Owners) (directionOf : Packet → String)
    (tally : TunnelTally) (packet : Packet) (rate : Nat) : TunnelTally :=
  if packet.teid = 0 then tally
  else
    let key := (packet.sourceIp, packet.teid)
    let group := groupOf ownerOf directionOf packet
    let seen := { tally with peak := tally.peak.raise group rate }
    if (rate : Int) ≥ tunnelPps then
      if alertDue (seen.last key) packet.timestamp then
        { seen with
          last := Function.update seen.last key (some packet.timestamp)
          alerts := seen.alerts.add group
          alertedTunnels :=
            seen.alertedTunnels.insert group (insert key (seen.alertedTunnels.getD group ∅)) }
      else seen
    else seen

structure SourceTally where
  win : String → Option (ℚ × Nat × Finset Nat)
  peakPps : Tally
  peakTeids : Tally

def SourceTally.empty : SourceTally := ⟨fun _ => none, ∅, ∅⟩

def windowFor (entry : Option (ℚ × Nat × Finset Nat)) (timestamp : ℚ) : ℚ × Nat × Finset Nat :=
  match entry with
  | none => (timestamp, 0, ∅)
  | some (start, count, teids) =>
      if timestamp - start > signalingRateWindowS then (timestamp, 0, ∅) else (start, count, teids)

/-- The window with the packet in it. A packet without a tunnel identity counts. -/
def countIn (window : ℚ × Nat × Finset Nat) (teid : Nat) : ℚ × Nat × Finset Nat :=
  (window.1, window.2.1 + 1, if teid = 0 then window.2.2 else insert teid window.2.2)

def SourceTally.step (tally : SourceTally) (packet : Packet) : SourceTally :=
  let window := countIn (windowFor (tally.win packet.sourceIp) packet.timestamp) packet.teid
  { win := Function.update tally.win packet.sourceIp (some window)
    peakPps := tally.peakPps.raise packet.sourceIp window.2.1
    peakTeids := tally.peakTeids.raise packet.sourceIp window.2.2.card }

structure TunnelFloodResult where
  thresholdPps : Int
  cooldownS : ℚ
  alerts : Tally
  tunnelsAlerted : Tally
  peakTunnelPps : Tally

structure SourceFloodResult where
  thresholdPps : Int
  thresholdDistinctTunnels : Int
  peakPps : Tally
  peakDistinctTunnels : Tally
  alerts : Nat

structure RulesResult where
  tunnelFlood : TunnelFloodResult
  sourceFlood : SourceFloodResult

def SourceTally.alerted (tally : SourceTally) (thresholds : RuleThresholds) (source : String) :
    Bool :=
  decide (thresholds.sourcePps ≠ 0 ∧ (tally.peakPps.count source : Int) ≥ thresholds.sourcePps) ||
    decide (thresholds.distinctTunnels ≠ 0 ∧
      (tally.peakTeids.count source : Int) ≥ thresholds.distinctTunnels)

def tunnelTally (tunnelPps : Int) (ownerOf : Owners) (directionOf : Packet → String)
    (rated : List (Packet × Nat)) : TunnelTally :=
  rated.foldl (fun tally pair => tally.step tunnelPps ownerOf directionOf pair.1 pair.2) .empty

def sourceTally (packets : List Packet) : SourceTally := packets.foldl SourceTally.step .empty

def rules (thresholds : RuleThresholds) (ownerOf : Owners) (directionOf : Packet → String)
    (packets : List Packet) (tunnelRates : List Nat) : RulesResult :=
  let tunnels := tunnelTally thresholds.tunnelPps ownerOf directionOf (packets.zip tunnelRates)
  let sources := sourceTally packets
  { tunnelFlood :=
      { thresholdPps := thresholds.tunnelPps
        cooldownS := tunnelFloodCooldownS
        alerts := tunnels.alerts
        tunnelsAlerted := tunnels.alertedTunnels.map (fun _ keys => keys.card)
        peakTunnelPps := tunnels.peak }
    sourceFlood :=
      { thresholdPps := thresholds.sourcePps
        thresholdDistinctTunnels := thresholds.distinctTunnels
        peakPps := sources.peakPps
        peakDistinctTunnels := sources.peakTeids
        alerts := (sources.peakPps.keys.filter (sources.alerted thresholds)).length } }

section Tunnels

variable {tunnelPps : Int} {ownerOf : Owners} {directionOf : Packet → String}

def TunnelTally.alerting (tunnelPps : Int) (tally : TunnelTally) (packet : Packet) (rate : Nat) :
    Bool :=
  decide (packet.teid ≠ 0 ∧ (rate : Int) ≥ tunnelPps) &&
    alertDue (tally.last (packet.sourceIp, packet.teid)) packet.timestamp

theorem tunnelTally_concat (rated : List (Packet × Nat)) (packet : Packet) (rate : Nat) :
    tunnelTally tunnelPps ownerOf directionOf (rated ++ [(packet, rate)]) =
      (tunnelTally tunnelPps ownerOf directionOf rated).step tunnelPps ownerOf directionOf packet
        rate := by
  rw [tunnelTally, List.foldl_append, List.foldl_cons, List.foldl_nil, tunnelTally]

/-- What a packet changes: an alert is counted and remembered, or neither. -/
theorem TunnelTally.step_eq (tally : TunnelTally) (packet : Packet) (rate : Nat) :
    (tally.step tunnelPps ownerOf directionOf packet rate).last =
        (if tally.alerting tunnelPps packet rate then
          Function.update tally.last (packet.sourceIp, packet.teid) (some packet.timestamp)
        else tally.last) ∧
      (tally.step tunnelPps ownerOf directionOf packet rate).alerts =
        if tally.alerting tunnelPps packet rate then
          tally.alerts.add (groupOf ownerOf directionOf packet)
        else tally.alerts := by
  rw [step, alerting]
  by_cases untunneled : packet.teid = 0
  · simp [untunneled]
  · by_cases above : (rate : Int) ≥ tunnelPps
    · simp only [untunneled, above, if_false, if_true, not_false_eq_true, and_self, decide_true,
        Bool.true_and, ne_eq]
      split
      · exact ⟨rfl, rfl⟩
      · exact ⟨rfl, rfl⟩
    · simp [untunneled, above]

theorem TunnelTally.step_total (tally : TunnelTally) (packet : Packet) (rate : Nat) :
    (tally.step tunnelPps ownerOf directionOf packet rate).alerts.total =
      tally.alerts.total + if tally.alerting tunnelPps packet rate then 1 else 0 := by
  rw [(tally.step_eq packet rate).2]
  split
  · exact Counter.total_add _ _
  · rfl

theorem tunnelTally_of_untunneled {rated : List (Packet × Nat)}
    (untunneled : ∀ pair ∈ rated, pair.1.teid = 0) :
    tunnelTally tunnelPps ownerOf directionOf rated = .empty := by
  induction rated using List.reverseRecOn with
  | nil => rfl
  | append_singleton rated last ih =>
      rw [tunnelTally_concat, ih fun pair member => untunneled pair (List.mem_append_left _ member),
        TunnelTally.step, if_pos (untunneled last (by simp))]

theorem total_of_no_threshold {rated : List (Packet × Nat)} :
    (tunnelTally 0 ownerOf directionOf rated).alerts.total = 0 ↔
      ∀ pair ∈ rated, pair.1.teid = 0 := by
  constructor
  · induction rated using List.reverseRecOn with
    | nil => simp
    | append_singleton rated last ih =>
        rw [tunnelTally_concat, TunnelTally.step_total]
        intro none
        have before := ih (by omega)
        rw [tunnelTally_of_untunneled before] at none
        intro pair member
        rcases List.mem_append.mp member with old | new
        · exact before pair old
        · by_contra tunneled
          rw [List.mem_singleton.mp new] at tunneled
          have alert : TunnelTally.empty.alerting 0 last.1 last.2 = true := by
            simp [TunnelTally.alerting, TunnelTally.empty, alertDue, tunneled]
          rw [alert, if_pos rfl] at none
          omega
  · intro untunneled
    rw [tunnelTally_of_untunneled untunneled]
    exact Counter.total_empty

end Tunnels

section Sources

def packetsOf (source : String) (packets : List Packet) : List Packet :=
  packets.filter (fun packet => decide (packet.sourceIp = source))

def latePacket (start packet : Packet) : Bool := lateS start.timestamp packet.timestamp

def tunnelsIn (packets : List Packet) : Finset Nat :=
  ((packets.map Packet.teid).filter (fun teid => decide (teid ≠ 0))).toFinset

def windowOf : List Packet → Option (ℚ × Nat × Finset Nat)
  | [] => none
  | start :: rest => some (start.timestamp, rest.length + 1, tunnelsIn (start :: rest))

theorem tunnelsIn_concat (packets : List Packet) (last : Packet) :
    tunnelsIn (packets ++ [last]) =
      if last.teid = 0 then tunnelsIn packets else insert last.teid (tunnelsIn packets) := by
  rw [tunnelsIn, List.map_append, List.filter_append, List.toFinset_append, ← tunnelsIn]
  by_cases untunneled : last.teid = 0
  · simp [untunneled]
  · simp [untunneled]

theorem countIn_windowOf (window : List Packet) (packet : Packet) :
    some (countIn (windowFor (windowOf window) packet.timestamp) packet.teid) =
      windowOf (extendWindow latePacket window packet) := by
  have alone : countIn (packet.timestamp, 0, ∅) packet.teid =
      (packet.timestamp, 1, tunnelsIn [packet]) := by
    rw [countIn, ← List.nil_append [packet], tunnelsIn_concat]
    rfl
  cases window with
  | nil => rw [windowOf, windowFor, alone, extendWindow, windowOf, List.length_nil]
  | cons start rest =>
      by_cases passed : packet.timestamp - start.timestamp > signalingRateWindowS
      · simp only [windowOf, windowFor, extendWindow, latePacket, lateS, passed, if_true,
          decide_true, alone, List.length_nil]
      · simp only [windowOf, windowFor, extendWindow, latePacket, lateS, passed, if_false,
          decide_false, Bool.false_eq_true, countIn, List.length_append, List.length_singleton]
        rw [← List.cons_append, tunnelsIn_concat]

theorem windowOf_counts {window : List Packet} {entry : ℚ × Nat × Finset Nat}
    (present : some entry = windowOf window) :
    entry.2.1 = window.length ∧ entry.2.2 = tunnelsIn window := by
  cases window with
  | nil => cases present
  | cons start rest =>
      cases present
      exact ⟨rfl, rfl⟩

theorem sourceTally_concat (packets : List Packet) (last : Packet) :
    sourceTally (packets ++ [last]) = (sourceTally packets).step last := by
  rw [sourceTally, List.foldl_append, List.foldl_cons, List.foldl_nil, sourceTally]

theorem packetsOf_concat (source : String) (packets : List Packet) (last : Packet) :
    packetsOf source (packets ++ [last]) =
      packetsOf source packets ++ if last.sourceIp = source then [last] else [] := by
  rw [packetsOf, filter_concat, packetsOf]
  simp only [decide_eq_true_eq]

/-- What the loop has found of a source: its running window, and the peaks of all
its windows. -/
structure SourceSeen (source : String) (packets : List Packet) (tally : SourceTally) : Prop where
  win : tally.win source = windowOf (openWindow latePacket packets)
  present : source ∈ tally.peakPps ↔ packets ≠ []
  pps : ∀ count, 0 < count → (count ≤ tally.peakPps.count source ↔
    Peaks latePacket (fun window => count ≤ window.length) packets)
  teids : ∀ count, 0 < count → (count ≤ tally.peakTeids.count source ↔
    Peaks latePacket (fun window => count ≤ (tunnelsIn window).card) packets)

theorem SourceSeen.own {packets : List Packet} {tally : SourceTally} {last : Packet}
    (seen : SourceSeen last.sourceIp packets tally) :
    SourceSeen last.sourceIp (packets ++ [last]) (tally.step last) := by
  have window := countIn_windowOf (openWindow latePacket packets) last
  rw [← seen.win, ← openWindow_concat] at window
  obtain ⟨length, distinct⟩ := windowOf_counts window
  constructor
  · rw [← window]
    exact Function.update_self _ _ _
  · exact iff_of_true (Counter.mem_raise.mpr (.inl rfl)) (by simp)
  · intro count positive
    rw [SourceTally.step, Counter.count_raise, if_pos rfl, le_max_iff, seen.pps count positive,
      length, peaks_concat]
  · intro count positive
    rw [SourceTally.step, Counter.count_raise, if_pos rfl, le_max_iff, seen.teids count positive,
      distinct, peaks_concat]

theorem SourceSeen.other {source : String} {packets : List Packet} {tally : SourceTally}
    {last : Packet} (seen : SourceSeen source packets tally) (different : last.sourceIp ≠ source) :
    SourceSeen source packets (tally.step last) := by
  constructor
  · rw [← seen.win]
    exact Function.update_of_ne (Ne.symm different) _ _
  · rw [← seen.present, SourceTally.step, Counter.mem_raise, or_iff_right different]
  · intro count positive
    rw [SourceTally.step, Counter.count_raise, if_neg different, seen.pps count positive]
  · intro count positive
    rw [SourceTally.step, Counter.count_raise, if_neg different, seen.teids count positive]

theorem sourceSeen_empty (source : String) : SourceSeen source [] .empty := by
  have zero : Counter.count (∅ : Tally) source = 0 := Std.ExtTreeMap.getD_empty
  constructor
  · rfl
  · exact iff_of_false Std.ExtTreeMap.not_mem_empty (by simp)
  · intro count positive
    rw [SourceTally.empty, zero]
    exact iff_of_false (by omega) not_peaks_nil
  · intro count positive
    rw [SourceTally.empty, zero]
    exact iff_of_false (by omega) not_peaks_nil

theorem sourceSeen (source : String) (packets : List Packet) :
    SourceSeen source (packetsOf source packets) (sourceTally packets) := by
  induction packets using List.reverseRecOn with
  | nil => exact sourceSeen_empty source
  | append_singleton packets last ih =>
      rw [sourceTally_concat, packetsOf_concat]
      by_cases same : last.sourceIp = source
      · subst same
        rw [if_pos rfl]
        exact ih.own
      · rw [if_neg same, List.append_nil]
        exact ih.other same

def RuleThresholds.Over (thresholds : RuleThresholds) (window : List Packet) : Prop :=
  (0 < thresholds.sourcePps ∧ thresholds.sourcePps ≤ window.length) ∨
    (0 < thresholds.distinctTunnels ∧ thresholds.distinctTunnels ≤ (tunnelsIn window).card)

variable {thresholds : RuleThresholds} {source : String} {packets : List Packet}

theorem peaks_over_iff :
    Peaks latePacket thresholds.Over (packetsOf source packets) ↔
      (0 < thresholds.sourcePps ∧
        thresholds.sourcePps ≤ (sourceTally packets).peakPps.count source) ∨
      (0 < thresholds.distinctTunnels ∧
        thresholds.distinctTunnels ≤ (sourceTally packets).peakTeids.count source) := by
  have seen := sourceSeen source packets
  have atLeast : ∀ (threshold : Int) (value : Nat), 0 < threshold →
      (threshold ≤ value ↔ threshold.toNat ≤ value) := by omega
  unfold RuleThresholds.Over
  rw [peaks_or, peaks_and, peaks_and]
  apply or_congr
  · apply and_congr_right
    intro set
    simp only [atLeast _ _ set]
    exact (seen.pps _ (by omega)).symm
  · apply and_congr_right
    intro set
    simp only [atLeast _ _ set]
    exact (seen.teids _ (by omega)).symm

/-- A threshold that is negative is set, and reached by every source. -/
theorem alerted_iff (rate : 0 ≤ thresholds.sourcePps) :
    (sourceTally packets).alerted thresholds source = true ↔
      thresholds.distinctTunnels < 0 ∨
        Peaks latePacket thresholds.Over (packetsOf source packets) := by
  rw [SourceTally.alerted, Bool.or_eq_true, decide_eq_true_iff, decide_eq_true_iff, peaks_over_iff]
  omega

end Sources

end Sentinel5G.Capture
