import Mathlib.Algebra.Order.Field.Basic
import Mathlib.Order.Interval.Finset.Nat
import Mathlib.Tactic.Linarith
import Sentinel5G.Base.Numeral
import Sentinel5G.Config.Operator
import Sentinel5G.Detect.SourceFlood

/-! Which of the thresholds an operator may configure the source detector keeps:
a number of tunnels is reached under a cap that is not configured with it, and a
rate is compared with the packets of a window of any length. -/

namespace Sentinel5G.Detect

open Base Api Controller Ingestion Config

def sourceFloodConfig (cfg : OperatorConfig) : GTPUSourceFloodConfig where
  enabled := cfg.gtpuSourceFloodEnabled
  packetsPerSecond := cfg.gtpuSourceFloodPPS
  distinctTunnels := cfg.gtpuSourceFloodDistinctTunnels
  window := cfg.gtpuSourceFloodWindow
  cooldown := cfg.gtpuSourceFloodCooldown
  maxTrackedSources := 0
  maxTunnelsPerSource := 0

namespace GTPUSourceFloodDetector

/-- A source with as many tunnels in one window as the threshold says is reported
by then, unless it was reported within the cooldown before the window. -/
def CardinalityReported (cfg : GTPUSourceFloodConfig) : Prop :=
  ∀ calls, InOrder calls → (senders cfg calls).toFinset.card ≤ room cfg →
    ∀ source past turn rest earlier window,
      ownTurns cfg source calls = past ++ turn :: rest →
      Cut (stale cfg) (past ++ [turn]) (earlier ++ [window]) →
      cfg.distinctTunnels ≤ distinctTunnels window →
      (∀ before ∈ earlier.flatten, fired before = true → ∀ first ∈ window.head?,
        (effective cfg).cooldown ≤ first.2.now - before.2.now) →
      ∃ reported ∈ window, fired reported = true

/-- A source is reported for its rate only if the packets counted in the window
make up the rate. -/
def RateKept (cfg : GTPUSourceFloodConfig) : Prop :=
  ∀ calls, ∀ turn ∈ run cfg calls, fired turn = true →
    (cfg.packetsPerSecond.toNat : ℚ) * (cfg.window / second : ℚ) ≤
      (replyOf turn).2.packetsInWindow.toNat

section Reached

variable {cfg : GTPUSourceFloodConfig} {window : SourceWindow}

theorem reached_of_packets (set : 0 < cfg.packetsPerSecond)
    (above : cfg.packetsPerSecond.toNat ≤ window.packets.toNat) :
    reached (effective cfg) window = true := by
  rw [reached, if_pos]
  exact ⟨set, UInt32.le_iff_toNat_le.mpr above⟩

theorem reached_of_tunnels (set : 0 < cfg.distinctTunnels)
    (above : cfg.distinctTunnels ≤ window.teids.size) : reached (effective cfg) window = true := by
  rw [reached]
  split
  · rfl
  · exact decide_eq_true ⟨set, above⟩

theorem of_reached (above : reached (effective cfg) window = true) :
    (0 < cfg.packetsPerSecond ∧ cfg.packetsPerSecond.toNat ≤ window.packets.toNat) ∨
      (0 < cfg.distinctTunnels ∧ cfg.distinctTunnels ≤ window.teids.size) := by
  rw [reached] at above
  split at above
  · rename_i fast
    exact .inl ⟨fast.1, UInt32.le_iff_toNat_le.mp fast.2⟩
  · exact .inr (of_decide_eq_true above)

end Reached

theorem window_pos (cfg : GTPUSourceFloodConfig) : 0 < (effective cfg).window :=
  orDefault_pos cfg.window defaultSourceFloodWindow (by decide)

section Places

variable {cfg : GTPUSourceFloodConfig} {calls : List Call} (ordered : InOrder calls)
  (few : (senders cfg calls).toFinset.card ≤ room cfg) {source : String}

include ordered in
theorem ownTurns_ordered :
    (ownTurns cfg source calls).Pairwise (fun earlier later => earlier.2.now ≤ later.2.now) := by
  apply List.Pairwise.filter
  rw [InOrder, ← map_snd_turns (newGTPUSourceFloodDetector cfg) calls, List.pairwise_map] at ordered
  exact ordered

include ordered few

theorem reported_in_window {turns rest : List Turn} {earlier : List (List Turn)}
    {front back : List Turn} {turn : Turn}
    (cut : Cut (stale cfg) turns (earlier ++ [front ++ turn :: back]))
    (split : ownTurns cfg source calls = turns ++ rest)
    (quiet : ∀ before ∈ earlier.flatten, fired before = true →
      ∀ first ∈ (front ++ turn :: back).head?, (effective cfg).cooldown ≤
        first.2.now - before.2.now)
    (above : ∀ window, Counts cfg window (front ++ [turn]) → reached (effective cfg) window =
      true) :
    ∃ reported ∈ front ++ turn :: back, fired reported = true := by
  by_cases already : ∃ reported ∈ front, fired reported = true
  · obtain ⟨reported, member, scored⟩ := already
    exact ⟨reported, List.mem_append_left _ member, scored⟩
  · refine ⟨turn, by simp, ?_⟩
    have place : ownTurns cfg source calls =
        (earlier.flatten ++ front) ++ turn :: (back ++ rest) := by
      rw [split, ← cut.whole, List.flatten_append, List.flatten_singleton]
      simp
    obtain ⟨entry, known, answer⟩ := known_throughout ordered few source _ _ _ place
    have counts := known.counting_counts turn
    rw [List.append_assoc, cut.upTo.last_eq] at counts
    rw [known.fired_iff turn answer]
    refine ⟨above _ counts, fun before member scored => ?_⟩
    rcases List.mem_append.mp member with old | inside
    · -- the first packet of the window is no later than this one
      have sorted : (ownTurns cfg source calls).Pairwise _ := ownTurns_ordered ordered
      rw [place, List.pairwise_append] at sorted
      cases front with
      | nil => exact quiet before old scored turn rfl
      | cons first front =>
          have due := quiet before old scored first rfl
          exact due.trans (sub_le_sub_right (sorted.2.2 first (by simp) turn (by simp)) _)
    · exact absurd ⟨before, inside, scored⟩ already

/-- The counts of every window are bounded by the packets of the source and by the
number of tunnels the detector counts. -/
theorem counts_bounded {turn : Turn} (member : turn ∈ ownTurns cfg source calls) :
    ∃ window, (fired turn = true → reached (effective cfg) window = true) ∧
      (replyOf turn).2.packetsInWindow = window.packets ∧
      window.packets.toNat ≤ (ownTurns cfg source calls).length ∧
      window.teids.size ≤ tunnelLimit cfg := by
  obtain ⟨past, rest, split⟩ := List.append_of_mem member
  obtain ⟨entry, known, answer⟩ := known_throughout ordered few source past turn rest split
  have counts := known.counting_counts turn
  refine ⟨_, fun scored => ((known.fired_iff turn answer).mp scored).1, by rw [answer]; rfl, ?_, ?_⟩
  · calc (counting (effective cfg) entry turn.2).packets.toNat
        = (openWindow (stale cfg) (past ++ [turn])).length % 2 ^ 32 := by
          rw [counts.packets, UInt32.toNat_ofNat']
      _ ≤ (openWindow (stale cfg) (past ++ [turn])).length := Nat.mod_le _ _
      _ ≤ (past ++ [turn]).length := length_openWindow_le _
      _ ≤ (ownTurns cfg source calls).length := by
          rw [split]
          simp
  · rw [counts.teids.size]
    exact Nat.min_le_left _ _

end Places

def peer : String := "10.42.0.7"

def rotating (count : Nat) : List Call :=
  (List.range count).map (fun index => packetOf peer (UInt32.ofNat (index + 1)) 0)

section Rotating

variable {cfg : GTPUSourceFloodConfig} {count : Nat}

theorem rotating_inOrder (count : Nat) : InOrder (rotating count) := by
  rw [InOrder, rotating, List.pairwise_map]
  exact List.pairwise_of_forall fun _ _ => le_refl _

variable (on : cfg.enabled = true) (set : 0 < cfg.packetsPerSecond ∨ 0 < cfg.distinctTunnels)
  (fits : count < 2 ^ 32)

include on set fits

theorem rotating_own : ∀ call ∈ rotating count, own cfg peer call = true := by
  intro call member
  obtain ⟨index, inside, rfl⟩ := List.mem_map.mp member
  have tunneled : UInt32.ofNat (index + 1) ≠ 0 := by
    intro zero
    have value := congrArg UInt32.toNat zero
    rw [UInt32.toNat_ofNat', Nat.mod_eq_of_lt (by rw [List.mem_range] at inside; omega)] at value
    cases value
  have configured : (decide ((effective cfg).packetsPerSecond > 0) ||
      decide ((effective cfg).distinctTunnels > 0)) = true := by
    rw [Bool.or_eq_true, decide_eq_true_iff, decide_eq_true_iff]
    exact set
  have enabled : (effective cfg).enabled = true := on
  rw [own, takes, enabled, configured]
  generalize UInt32.ofNat (index + 1) = teid at tunneled ⊢
  simp [packetOf, peer, GTPUFloodDetector.floodOf, tunneled]

theorem rotating_filter : (rotating count).filter (own cfg peer) = rotating count :=
  List.filter_eq_self.mpr (rotating_own on set fits)

theorem rotating_few : (senders cfg (rotating count)).toFinset.card ≤ room cfg := by
  have alone := senders_filter cfg peer (rotating count)
  rwa [rotating_filter on set fits] at alone

theorem ownTurns_rotating : (ownTurns cfg peer (rotating count)).map Prod.snd = rotating count := by
  have alone := ownTurns_filter cfg peer (rotating count)
  rw [rotating_filter on set fits] at alone
  rw [alone, run, map_snd_turns]

theorem length_rotating : (ownTurns cfg peer (rotating count)).length = count := by
  rw [← List.length_map Prod.snd, ownTurns_rotating on set fits, rotating, List.length_map,
    List.length_range]

theorem distinctTunnels_rotating :
    distinctTunnels (ownTurns cfg peer (rotating count)) = count := by
  have teids : (ownTurns cfg peer (rotating count)).map (fun turn => turn.2.event.teid) =
      (List.range count).map (fun index => UInt32.ofNat (index + 1)) := by
    have calls := congrArg (List.map (fun call => call.event.teid)) (ownTurns_rotating on set fits)
    rw [List.map_map, rotating, List.map_map] at calls
    exact calls
  have distinct : ((List.range count).map (fun index => UInt32.ofNat (index + 1))).Nodup := by
    apply List.Nodup.map_on _ List.nodup_range
    intro first inside second inside' same
    rw [List.mem_range] at inside inside'
    have value := congrArg UInt32.toNat same
    rw [UInt32.toNat_ofNat', UInt32.toNat_ofNat', Nat.mod_eq_of_lt (by omega),
      Nat.mod_eq_of_lt (by omega)] at value
    exact Nat.succ.inj value
  rw [distinctTunnels, teids, List.toFinset_card_of_nodup distinct, List.length_map,
    List.length_range]

theorem cut_rotating (positive : 0 < count) :
    Cut (stale cfg) (ownTurns cfg peer (rotating count))
      ([] ++ [ownTurns cfg peer (rotating count)]) := by
  have times : ∀ turn ∈ ownTurns cfg peer (rotating count), turn.2.now = 0 := by
    intro turn member
    have inside := List.mem_map_of_mem (f := Prod.snd) member
    rw [ownTurns_rotating on set fits] at inside
    obtain ⟨index, -, same⟩ := List.mem_map.mp inside
    rw [← same]
    rfl
  have length := length_rotating on set fits
  generalize ownTurns cfg peer (rotating count) = turns at times length ⊢
  cases turns with
  | nil => exact absurd length (by simpa using positive.ne)
  | cons start rest =>
      apply cut_of_fresh
      intro turn member
      rw [stale, times start List.mem_cons_self, times turn (List.mem_cons_of_mem _ member)]
      simpa using window_pos cfg

theorem rotating_last (positive : 0 < count) :
    ∃ past turn, ownTurns cfg peer (rotating count) = past ++ [turn] := by
  have length := length_rotating on set fits
  rcases List.eq_nil_or_concat (ownTurns cfg peer (rotating count)) with empty | ⟨past, turn, whole⟩
  · rw [empty] at length
    exact absurd length positive.ne
  · exact ⟨past, turn, by rw [whole, List.concat_eq_append]⟩

end Rotating

section Cardinality

variable {cfg : GTPUSourceFloodConfig}

theorem teid_of_own {source : String} {call : Call} (owned : own cfg source call = true) :
    call.event.teid ≠ 0 := by
  rw [own, takes, Bool.and_eq_true, Bool.and_eq_true, decide_eq_true_iff] at owned
  exact owned.1.2.2.1

theorem distinctTunnels_lt {turns : List Turn} (tunneled : ∀ turn ∈ turns, turn.2.event.teid ≠ 0) :
    distinctTunnels turns < 2 ^ 32 := by
  have numbers : distinctTunnels turns ≤ (Finset.Ico 1 (2 ^ 32)).card := by
    apply Finset.card_le_card_of_injOn UInt32.toNat
    · intro teid member
      obtain ⟨turn, inside, rfl⟩ := List.mem_map.mp (List.mem_toFinset.mp member)
      have positive : turn.2.event.teid.toNat ≠ 0 := fun zero =>
        tunneled turn inside (UInt32.toNat_inj.mp zero)
      exact Finset.mem_coe.mpr
        (Finset.mem_Ico.mpr ⟨Nat.one_le_iff_ne_zero.mpr positive, UInt32.toNat_lt _⟩)
    · intro first _ second _ same
      exact UInt32.toNat_inj.mp same
  rw [Nat.card_Ico] at numbers
  omega

theorem distinctTunnels_le_length (turns : List Turn) : distinctTunnels turns ≤ turns.length := by
  calc distinctTunnels turns ≤ (turns.map (fun turn => turn.2.event.teid)).length :=
        List.toFinset_card_le _
    _ = turns.length := List.length_map _

theorem exists_place {α : Type} {xs : List α} {count : Nat} (inside : count < xs.length) :
    ∃ front x back, xs = front ++ x :: back ∧ front.length = count :=
  ⟨xs.take count, xs[count], xs.drop (count + 1), by simp, by simpa using inside.le⟩

/-- A window whose counts reach a threshold has a report, unless the source was
reported within the cooldown before it. -/
theorem reported_of_exceeds {calls : List Call} (ordered : InOrder calls)
    (few : (senders cfg calls).toFinset.card ≤ room cfg) {source : String}
    {turns rest window : List Turn} {earlier : List (List Turn)}
    (cut : Cut (stale cfg) turns (earlier ++ [window]))
    (split : ownTurns cfg source calls = turns ++ rest)
    (quiet : ∀ before ∈ earlier.flatten, fired before = true →
      ∀ first ∈ window.head?, (effective cfg).cooldown ≤ first.2.now - before.2.now)
    (above : Exceeds cfg window) : ∃ reported ∈ window, fired reported = true := by
  rcases above with ⟨positive, fast⟩ | ⟨set, many⟩
  · -- the packet that completes the rate
    have enough : cfg.packetsPerSecond.toNat - 1 < window.length := by omega
    obtain ⟨front, reaching, back, rfl, length⟩ := exists_place enough
    apply reported_in_window ordered few cut split quiet
    intro counted counts
    apply reached_of_packets (UInt32.lt_iff_toNat_lt.mpr positive)
    have total : (front ++ [reaching]).length = cfg.packetsPerSecond.toNat := by
      rw [List.length_append, length, List.length_singleton]
      omega
    rw [counts.packets, total, UInt32.ofNat_toNat]
  · -- the packet that ends the window
    obtain ⟨front, last, rfl⟩ := cut.exists_concat
    apply reported_in_window ordered few cut split quiet
    intro counted counts
    apply reached_of_tunnels set
    have size : counted.teids.size = min (tunnelLimit cfg) (distinctTunnels (front ++ [last])) :=
      counts.teids.size
    rw [size]
    exact many

theorem cardinality_reported (set : 0 < cfg.distinctTunnels)
    (within : cfg.distinctTunnels ≤ tunnelLimit cfg ∨
      (0 < cfg.packetsPerSecond ∧ cfg.packetsPerSecond.toNat ≤ cfg.distinctTunnels) ∨
      2 ^ 32 ≤ cfg.distinctTunnels) : CardinalityReported cfg := by
  intro calls ordered few source past turn rest earlier window split cut many quiet
  have place : ownTurns cfg source calls = (past ++ [turn]) ++ rest := by
    rw [split]
    simp
  rcases within with below | ⟨rated, slower⟩ | beyond
  · apply reported_of_exceeds ordered few cut place quiet
    exact .inr ⟨set, by omega⟩
  · have positive : 0 < cfg.packetsPerSecond.toNat := UInt32.lt_iff_toNat_lt.mp rated
    have length := distinctTunnels_le_length window
    apply reported_of_exceeds ordered few cut place quiet
    exact .inl ⟨positive, by omega⟩
  · have bound : distinctTunnels window < 2 ^ 32 := by
      apply distinctTunnels_lt
      intro sent member
      have inside : sent ∈ ownTurns cfg source calls := by
        rw [place, ← cut.whole, List.flatten_append, List.flatten_singleton]
        simp [member]
      exact teid_of_own (List.mem_filter.mp inside).2
    omega

theorem exists_fired_iff {calls : List Call} (ordered : InOrder calls)
    (few : (senders cfg calls).toFinset.card ≤ room cfg) (source : String) :
    (∃ turn ∈ ownTurns cfg source calls, fired turn = true) ↔
      Peaks (stale cfg) (Exceeds cfg) (ownTurns cfg source calls) := by
  constructor
  · rintro ⟨turn, member, scored⟩
    obtain ⟨past, rest, split⟩ := List.append_of_mem member
    obtain ⟨entry, known, answer⟩ := known_throughout ordered few source past turn rest split
    have counts := known.counting_counts turn
    refine ⟨past, turn, rest, split, ?_⟩
    rcases of_reached ((known.fired_iff turn answer).mp scored).1 with ⟨set, above⟩ | ⟨set, above⟩
    · -- a counter that has wrapped shows less than was sent
      rw [counts.packets, UInt32.toNat_ofNat'] at above
      exact .inl ⟨UInt32.lt_iff_toNat_lt.mp set, above.trans (Nat.mod_le _ _)⟩
    · rw [counts.teids.size] at above
      exact .inr ⟨set, by exact_mod_cast above⟩
  · rintro ⟨past, turn, rest, split, above⟩
    obtain ⟨earlier, cut⟩ := @cut_openWindow _ (stale cfg) (past ++ [turn]) (by simp)
    have place : ownTurns cfg source calls = (past ++ [turn]) ++ rest := by
      rw [split]
      simp
    have whole := cut.whole
    rw [List.flatten_append, List.flatten_singleton] at whole
    by_cases already : ∃ before ∈ earlier.flatten, fired before = true
    · obtain ⟨before, member, scored⟩ := already
      refine ⟨before, ?_, scored⟩
      rw [place, ← whole]
      simp [member]
    · have quiet : ∀ before ∈ earlier.flatten, fired before = true →
          ∀ first ∈ (openWindow (stale cfg) (past ++ [turn])).head?,
            (effective cfg).cooldown ≤ first.2.now - before.2.now :=
        fun before member scored => absurd ⟨before, member, scored⟩ already
      obtain ⟨reported, member, scored⟩ := reported_of_exceeds ordered few cut place quiet above
      refine ⟨reported, ?_, scored⟩
      rw [place, ← whole]
      simp [member]

theorem cardinality_unreported (on : cfg.enabled = true) (set : 0 < cfg.distinctTunnels)
    (capped : tunnelLimit cfg < cfg.distinctTunnels)
    (slow : ¬ (0 < cfg.packetsPerSecond ∧ cfg.packetsPerSecond.toNat ≤ cfg.distinctTunnels))
    (fits : cfg.distinctTunnels < 2 ^ 32) : ¬ CardinalityReported cfg := by
  intro reports
  obtain ⟨count, threshold⟩ := Int.eq_ofNat_of_zero_le set.le
  rw [threshold] at set capped slow fits
  norm_cast at fits set capped
  have configured : 0 < cfg.packetsPerSecond ∨ 0 < cfg.distinctTunnels := by
    rw [threshold]
    exact .inr (by exact_mod_cast set)
  have few := rotating_few on configured fits
  have length := length_rotating on configured fits
  have cut := cut_rotating on configured fits set
  have distinct := distinctTunnels_rotating on configured fits
  obtain ⟨past, turn, split⟩ := rotating_last on configured fits set
  obtain ⟨reported, member, scored⟩ :=
    reports (rotating count) (rotating_inOrder count) few peer past turn [] [] _ split
      (split ▸ cut) (by rw [threshold, ← split, distinct]) (by simp)
  obtain ⟨window, above, -, packets, tunnels⟩ :=
    counts_bounded (rotating_inOrder count) few (split ▸ member)
  rcases of_reached (above scored) with ⟨rated, fast⟩ | ⟨-, many⟩
  · exact slow ⟨rated, by rw [length] at packets; exact_mod_cast fast.trans packets⟩
  · rw [threshold] at many
    norm_cast at many
    omega

end Cardinality

/-- Which accepted number of tunnels is a threshold that can be reached. -/
theorem accepted_cardinality_reported_iff (go : Library) (env : Env) :
    ∀ cfg, load go env = .ok cfg → cfg.gtpuSourceFloodEnabled = true →
      0 < cfg.gtpuSourceFloodDistinctTunnels →
      (CardinalityReported (sourceFloodConfig cfg) ↔
        cfg.gtpuSourceFloodDistinctTunnels ≤ defaultTunnelsPerSource ∨
        (0 < cfg.gtpuSourceFloodPPS ∧
          cfg.gtpuSourceFloodPPS.toNat ≤ cfg.gtpuSourceFloodDistinctTunnels) ∨
        2 ^ 32 ≤ cfg.gtpuSourceFloodDistinctTunnels) := by
  intro cfg _ enabled positive
  have limit : tunnelLimit (sourceFloodConfig cfg) = defaultTunnelsPerSource := rfl
  constructor
  · intro reports
    by_contra outside
    simp only [not_or, not_le] at outside
    exact cardinality_unreported enabled positive (limit ▸ outside.1) outside.2.1 outside.2.2
      reports
  · intro within
    exact cardinality_reported positive (limit ▸ within)

def decimals : Library where
  parseFloat text := .error (errorf text)
  parseBool text := .error (errorf text)
  parseUint32 text :=
    match parseUint 10 32 text.toList with
    | some value => .ok (UInt32.ofNat value)
    | none => .error (errorf text)
  atoi text :=
    match parseUint 10 63 text.toList with
    | some value => .ok value
    | none => .error (errorf text)
  parseDuration text :=
    match text.toList.getLast?, parseUint 10 33 text.toList.dropLast with
    | some 's', some value => .ok (value * second)
    | _, _ => .error (errorf text)
  formatFloat _ := ""
  formatDuration _ := ""

def limits (packets tunnels window : String) : Env := fun key =>
  if key = "NATS_USERNAME" then some "operator"
  else if key = "GTPU_SOURCE_FLOOD_PPS" then some packets
  else if key = "GTPU_SOURCE_FLOOD_DISTINCT_TUNNELS" then some tunnels
  else if key = "GTPU_SOURCE_FLOOD_WINDOW" then some window
  else none

def starts (packets : UInt32) (tunnels : Int) (window : Duration) (cfg : OperatorConfig) : Bool :=
  cfg.gtpuSourceFloodEnabled && decide (cfg.gtpuSourceFloodPPS = packets) &&
    decide (cfg.gtpuSourceFloodDistinctTunnels = tunnels) &&
    decide (cfg.gtpuSourceFloodWindow = window)

theorem starts_iff {packets : UInt32} {tunnels : Int} {window : Duration} {cfg : OperatorConfig} :
    starts packets tunnels window cfg = true ↔ cfg.gtpuSourceFloodEnabled = true ∧
      cfg.gtpuSourceFloodPPS = packets ∧ cfg.gtpuSourceFloodDistinctTunnels = tunnels ∧
      cfg.gtpuSourceFloodWindow = window := by
  simp [starts, and_assoc]

theorem threshold_at_cap_is_reported :
    ∃ cfg, load decimals (limits "0" "4096" "1s") = .ok cfg ∧
      cfg.gtpuSourceFloodEnabled = true ∧ cfg.gtpuSourceFloodDistinctTunnels = 4096 ∧
      CardinalityReported (sourceFloodConfig cfg) := by
  obtain ⟨cfg, loaded, found⟩ :=
    @exists_loaded decimals (limits "0" "4096" "1s") (starts 0 4096 second) (by decide +kernel)
  obtain ⟨enabled, -, tunnels, -⟩ := starts_iff.mp found
  refine ⟨cfg, loaded, enabled, tunnels, ?_⟩
  rw [accepted_cardinality_reported_iff decimals _ cfg loaded enabled (by rw [tunnels]; decide)]
  exact .inl (by rw [tunnels]; decide)

/-- The operator starts with a threshold of 5000 tunnels and no rate, and the
detector is never going to report anything. -/
theorem threshold_above_cap_is_not_reported :
    ∃ cfg, load decimals (limits "0" "5000" "1s") = .ok cfg ∧
      cfg.gtpuSourceFloodEnabled = true ∧ cfg.gtpuSourceFloodDistinctTunnels = 5000 ∧
      ¬ CardinalityReported (sourceFloodConfig cfg) := by
  obtain ⟨cfg, loaded, found⟩ :=
    @exists_loaded decimals (limits "0" "5000" "1s") (starts 0 5000 second) (by decide +kernel)
  obtain ⟨enabled, packets, tunnels, -⟩ := starts_iff.mp found
  have threshold : (sourceFloodConfig cfg).distinctTunnels = 5000 := tunnels
  have rate : (sourceFloodConfig cfg).packetsPerSecond = 0 := packets
  refine ⟨cfg, loaded, enabled, tunnels, cardinality_unreported enabled ?_ ?_ ?_ ?_⟩
  · rw [threshold]
    decide
  · have limit : tunnelLimit (sourceFloodConfig cfg) = 4096 := rfl
    rw [threshold, limit]
    decide
  · rw [rate]
    exact fun rated => absurd rated.1 (by decide)
  · rw [threshold]
    decide

section Rate

variable {cfg : GTPUSourceFloodConfig}

theorem reached_of_fired {calls : List Call} {turn : Turn} (member : turn ∈ run cfg calls)
    (scored : fired turn = true) :
    cfg.enabled = true ∧ ∃ window, reached (effective cfg) window = true ∧
      (replyOf turn).2.packetsInWindow = window.packets := by
  have same := cfg_of_mem cfg calls member
  cases taken : takes turn.1.cfg turn.2.event with
  | false =>
      rw [fired, replyOf, evaluate_of_other _ taken] at scored
      cases scored
  | true =>
      have answer := (evaluate_of_taken taken).1
      rw [same] at answer taken
      rw [fired_eq turn answer, fires, Bool.and_eq_true] at scored
      rw [takes, Bool.and_eq_true, Bool.and_eq_true] at taken
      exact ⟨taken.1.1, _, scored.1, by rw [answer]; rfl⟩

theorem seconds_le_iff (window : Duration) : (window / second : ℚ) ≤ 1 ↔ window ≤ second := by
  rw [div_le_one (by norm_num [second])]
  exact Int.cast_le

theorem rate_kept (tunnels : cfg.distinctTunnels = 0) (short : cfg.window ≤ second) :
    RateKept cfg := by
  intro calls turn member scored
  obtain ⟨-, window, reaching, shown⟩ := reached_of_fired member scored
  have above : cfg.packetsPerSecond.toNat ≤ (replyOf turn).2.packetsInWindow.toNat := by
    rw [shown]
    rcases of_reached reaching with ⟨-, above⟩ | ⟨set, -⟩
    · exact above
    · exact absurd tunnels set.ne'
  calc (cfg.packetsPerSecond.toNat : ℚ) * (cfg.window / second : ℚ)
      ≤ cfg.packetsPerSecond.toNat * 1 :=
        mul_le_mul_of_nonneg_left ((seconds_le_iff _).mpr short) (Nat.cast_nonneg _)
    _ = cfg.packetsPerSecond.toNat := mul_one _
    _ ≤ (replyOf turn).2.packetsInWindow.toNat := Nat.cast_le.mpr above

theorem rate_exceeded (on : cfg.enabled = true) (set : 0 < cfg.packetsPerSecond)
    (long : second < cfg.window) : ¬ RateKept cfg := by
  intro kept
  have positive : 0 < cfg.packetsPerSecond.toNat := UInt32.lt_iff_toNat_lt.mp set
  have fits : cfg.packetsPerSecond.toNat < 2 ^ 32 := UInt32.toNat_lt _
  have few := rotating_few on (.inl set) fits
  have length := length_rotating on (.inl set) fits
  have cut := cut_rotating on (.inl set) fits positive
  have ordered := rotating_inOrder cfg.packetsPerSecond.toNat
  -- with its last packet the source is at the threshold, so it was reported by then
  have reports : ∃ reported ∈ ownTurns cfg peer (rotating cfg.packetsPerSecond.toNat),
      fired reported = true := by
    obtain ⟨past, turn, whole⟩ := rotating_last on (.inl set) fits positive
    rw [whole] at cut length ⊢
    apply reported_in_window ordered few cut (by rw [whole, List.append_nil]) (by simp)
    intro counted counts
    apply reached_of_packets set
    rw [counts.packets, length, UInt32.ofNat_toNat]
  obtain ⟨reported, member, scored⟩ := reports
  obtain ⟨window, -, shown, packets, -⟩ := counts_bounded ordered few member
  have rate := kept _ reported (List.mem_filter.mp member).1 scored
  rw [length] at packets
  have bound : ((replyOf reported).2.packetsInWindow.toNat : ℚ) ≤ cfg.packetsPerSecond.toNat := by
    rw [shown]
    exact_mod_cast packets
  have above : (1 : ℚ) < cfg.window / second := by
    rw [← not_le, seconds_le_iff]
    exact not_le.mpr long
  have some : (0 : ℚ) < cfg.packetsPerSecond.toNat := by exact_mod_cast positive
  have more : (cfg.packetsPerSecond.toNat : ℚ) * 1 <
      cfg.packetsPerSecond.toNat * (cfg.window / second : ℚ) := mul_lt_mul_of_pos_left above some
  linarith

end Rate

/-- With which windows a configured rate is a rate. -/
theorem accepted_rate_kept_iff (go : Library) (env : Env) :
    ∀ cfg, load go env = .ok cfg → 0 < cfg.gtpuSourceFloodPPS →
      cfg.gtpuSourceFloodDistinctTunnels = 0 →
      (RateKept (sourceFloodConfig cfg) ↔
        cfg.gtpuSourceFloodEnabled = false ∨ cfg.gtpuSourceFloodWindow ≤ second) := by
  intro cfg _ set tunnels
  cases enabled : cfg.gtpuSourceFloodEnabled with
  | false =>
      apply iff_of_true _ (.inl rfl)
      intro calls turn member scored
      have on : cfg.gtpuSourceFloodEnabled = true := (reached_of_fired member scored).1
      rw [enabled] at on
      cases on
  | true =>
      rw [or_iff_right (by simp)]
      constructor
      · intro kept
        by_contra long
        exact rate_exceeded enabled set (not_le.mp long) kept
      · intro short
        exact rate_kept tunnels short

theorem rate_in_default_window :
    ∃ cfg, load decimals (limits "10" "0" "1s") = .ok cfg ∧ 0 < cfg.gtpuSourceFloodPPS ∧
      cfg.gtpuSourceFloodDistinctTunnels = 0 ∧ RateKept (sourceFloodConfig cfg) := by
  obtain ⟨cfg, loaded, found⟩ :=
    @exists_loaded decimals (limits "10" "0" "1s") (starts 10 0 second) (by decide +kernel)
  obtain ⟨-, packets, tunnels, window⟩ := starts_iff.mp found
  have set : 0 < cfg.gtpuSourceFloodPPS := by rw [packets]; decide
  exact ⟨cfg, loaded, set, tunnels,
    (accepted_rate_kept_iff decimals _ cfg loaded set tunnels).mpr (.inr window.le)⟩

/-- With a window of a minute, ten packets in it are reported as ten a second. -/
theorem rate_in_long_window :
    ∃ cfg, load decimals (limits "10" "0" "60s") = .ok cfg ∧ 0 < cfg.gtpuSourceFloodPPS ∧
      cfg.gtpuSourceFloodDistinctTunnels = 0 ∧ ¬ RateKept (sourceFloodConfig cfg) := by
  obtain ⟨cfg, loaded, found⟩ :=
    @exists_loaded decimals (limits "10" "0" "60s") (starts 10 0 minute) (by decide +kernel)
  obtain ⟨enabled, packets, tunnels, window⟩ := starts_iff.mp found
  have set : 0 < cfg.gtpuSourceFloodPPS := by rw [packets]; decide
  refine ⟨cfg, loaded, set, tunnels, rate_exceeded enabled set ?_⟩
  have long : (sourceFloodConfig cfg).window = minute := window
  rw [long]
  decide

end GTPUSourceFloodDetector

end Sentinel5G.Detect
