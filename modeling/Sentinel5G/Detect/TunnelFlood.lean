import Sentinel5G.Base.Trace
import Sentinel5G.Detect.Gtpu

namespace Sentinel5G.Detect

open Base Api Controller Ingestion

structure Call where
  event : NormalizedEvent
  now : Time

/-- The calls are made at times that do not decrease. -/
def InOrder (calls : List Call) : Prop :=
  calls.Pairwise (fun earlier later => earlier.now ≤ later.now)

theorem InOrder.upTo {calls past rest : List Call} {last : Call} (ordered : InOrder calls)
    (split : calls = past ++ last :: rest) : InOrder (past ++ [last]) := by
  rw [split, ← List.singleton_append, ← List.append_assoc] at ordered
  exact (List.pairwise_append.mp ordered).1

theorem InOrder.init {past : List Call} {last : Call} (ordered : InOrder (past ++ [last])) :
    InOrder past ∧ ∀ call ∈ past, call.now ≤ last.now := by
  obtain ⟨before, -, across⟩ := List.pairwise_append.mp ordered
  exact ⟨before, fun call member => across call member last (List.mem_singleton_self last)⟩

instance : Std.LawfulEqCmp TunnelID.cmp where
  eq_of_compare {first second} same := by
    obtain ⟨source, teid⟩ := compareLex_eq_eq.mp same
    cases first
    cases second
    rw [compareOn, Std.LawfulEqCmp.compare_eq_iff_eq] at source teid
    simp_all

namespace GTPUFloodDetector

def tunnelOf (event : NormalizedEvent) : TunnelID := ⟨event.sourceIP, event.teid⟩

/-- A GTP-U event of a tunnel at or above the threshold. -/
def Floods (detector : GTPUFloodDetector) (event : NormalizedEvent) : Prop :=
  event.protocol = .gtpu ∧ event.teid ≠ 0 ∧
    (detector.cfg.packetsPerSecond.toNat : ℚ) ≤ event.tunnelRatePerSecond

def Armed (detector : GTPUFloodDetector) : Prop :=
  detector.cfg.enabled = true ∧ detector.cfg.packetsPerSecond ≠ 0

def scoreFor (event : NormalizedEvent) (now : Time) : ThreatScoreEvent where
  sourceEventID := event.eventID
  ns := event.ns
  podName := event.podName
  sourceIP := event.sourceIP
  teid := event.teid
  score := 1
  model := modelGTPUTunnelFlood
  detectedAt := now

/-- What a call can do: nothing, keep silent about a tunnel that was reported
within the cooldown, report a known tunnel again, or enter a new one. -/
inductive Evaluated (detector : GTPUFloodDetector) (event : NormalizedEvent) (now : Time) :
    Option ThreatScoreEvent × GTPUFloodDetector → Prop
  | quiet (calm : ¬ (detector.Armed ∧ detector.Floods event)) :
      Evaluated detector event now (none, detector)
  | cooling (last : Time) (flood : detector.Armed ∧ detector.Floods event)
      (known : detector.lastFired.lookup (tunnelOf event) = some last)
      (early : now - last < detector.cfg.cooldown) : Evaluated detector event now (none, detector)
  | again (last : Time) (flood : detector.Armed ∧ detector.Floods event)
      (known : detector.lastFired.lookup (tunnelOf event) = some last)
      (due : detector.cfg.cooldown ≤ now - last) :
      Evaluated detector event now (some (scoreFor event now),
        { detector with lastFired := detector.lastFired.update (tunnelOf event) now })
  | enter (flood : detector.Armed ∧ detector.Floods event)
      (new : detector.lastFired.lookup (tunnelOf event) = none) :
      Evaluated detector event now (some (scoreFor event now),
        { detector with lastFired := detector.lastFired.remember (tunnelOf event) now })

theorem evaluate_of_flood {detector : GTPUFloodDetector} {event : NormalizedEvent} (now : Time)
    (flood : detector.Armed ∧ detector.Floods event) :
    detector.evaluate event now =
      (if (detector.claim (tunnelOf event) now).1 then some (scoreFor event now) else none,
        (detector.claim (tunnelOf event) now).2) := by
  obtain ⟨⟨on, set⟩, gtpu, tunneled, above⟩ := flood
  rw [evaluate, if_neg (by simp [on, set]), if_neg (by simp [gtpu, tunneled]),
    if_neg (not_lt.mpr above), tunnelOf]
  split <;> simp_all [scoreFor]

theorem evaluate_of_calm {detector : GTPUFloodDetector} {event : NormalizedEvent} (now : Time)
    (calm : ¬ (detector.Armed ∧ detector.Floods event)) :
    detector.evaluate event now = (none, detector) := by
  rw [evaluate]
  split
  · rfl
  · rename_i armed
    split
    · rfl
    · rename_i gtpu
      split
      · rfl
      · rename_i above
        simp only [not_or, Bool.not_eq_false, not_not] at armed gtpu
        exact absurd ⟨armed, gtpu.1, gtpu.2, not_lt.mp above⟩ calm

theorem evaluated (detector : GTPUFloodDetector) (event : NormalizedEvent) (now : Time) :
    Evaluated detector event now (detector.evaluate event now) := by
  by_cases flood : detector.Armed ∧ detector.Floods event
  · rw [evaluate_of_flood now flood, claim]
    cases known : detector.lastFired.lookup (tunnelOf event) with
    | none => exact .enter flood known
    | some last =>
        dsimp only
        by_cases early : now - last < detector.cfg.cooldown
        · simp only [early, if_true, Bool.false_eq_true, if_false]
          exact .cooling last flood known early
        · simp only [early, if_false, if_true]
          exact .again last flood known (not_lt.mp early)
  · rw [evaluate_of_calm now flood]
    exact .quiet flood

def after (detector : GTPUFloodDetector) (call : Call) : GTPUFloodDetector :=
  (detector.evaluate call.event call.now).2

abbrev Turn := GTPUFloodDetector × Call

def scoreOf (turn : Turn) : Option ThreatScoreEvent := (turn.1.evaluate turn.2.event turn.2.now).1

def reports (id : TunnelID) (turn : Turn) : Bool :=
  (scoreOf turn).any (fun score => decide ((⟨score.sourceIP, score.teid⟩ : TunnelID) = id))

def enters (turn : Turn) : Option TunnelID :=
  if (scoreOf turn).isSome ∧ turn.1.lastFired.lookup (tunnelOf turn.2.event) = none then
    some (tunnelOf turn.2.event)
  else none

def entered (run : List Turn) : List TunnelID := run.filterMap enters

theorem entered_append (run more : List Turn) :
    entered (run ++ more) = entered run ++ entered more :=
  List.filterMap_append

theorem entered_concat (run : List Turn) (turn : Turn) :
    entered (run ++ [turn]) = entered run ++ (enters turn).toList := by
  rw [entered, filterMap_concat, entered]

/-- What is known of the detector at the end of a run. -/
structure Tracks (run : List Turn) (detector : GTPUFloodDetector) : Prop where
  recorded : detector.lastFired.Records (entered run)
  fired : ∀ id last, detector.lastFired.lookup id = some last →
    ∃ turn ∈ run, reports id turn = true ∧ turn.2.now = last
  newest : ∀ id last, detector.lastFired.lookup id = some last →
    ∀ turn ∈ run, reports id turn = true → turn.2.now ≤ last

theorem reports_iff (id : TunnelID) (turn : Turn) :
    reports id turn = true ↔ (scoreOf turn).isSome ∧ tunnelOf turn.2.event = id := by
  have known := turn.1.evaluated turn.2.event turn.2.now
  rw [reports, scoreOf]
  generalize turn.1.evaluate turn.2.event turn.2.now = outcome at known ⊢
  cases known with
  | quiet => simp
  | cooling => simp
  | again => simp [scoreFor, tunnelOf]
  | enter => simp [scoreFor, tunnelOf]

theorem after_lookup {detector : GTPUFloodDetector} {call : Call} {id : TunnelID} {last : Time}
    (found : (detector.after call).lastFired.lookup id = some last) :
    (reports id (detector, call) = true ∧ last = call.now) ∨
      (reports id (detector, call) = false ∧ detector.lastFired.lookup id = some last) := by
  have known := detector.evaluated call.event call.now
  have reported := reports_iff id (detector, call)
  rw [scoreOf] at reported
  rw [after] at found
  dsimp only at reported
  generalize detector.evaluate call.event call.now = outcome at known reported found
  cases known with
  | quiet => exact .inr ⟨by simpa using reported, found⟩
  | cooling => exact .inr ⟨by simpa using reported, found⟩
  | again =>
      rw [FifoMap.update_lookup] at found
      split at found
      · rename_i same
        exact .inl ⟨by simpa using reported.mpr ⟨rfl, same⟩, (Option.some.inj found).symm⟩
      · rename_i other
        exact .inr ⟨by simpa [other] using reported, found⟩
  | enter =>
      rw [FifoMap.remember_lookup] at found
      split at found
      · rename_i same
        exact .inl ⟨by simpa using reported.mpr ⟨rfl, same⟩, (Option.some.inj found).symm⟩
      · rename_i other
        split at found
        · cases found
        · exact .inr ⟨by simpa [other] using reported, found⟩

theorem after_recorded {detector : GTPUFloodDetector} {history : List TunnelID}
    (recorded : detector.lastFired.Records history) (call : Call) :
    (detector.after call).lastFired.Records (history ++ (enters (detector, call)).toList) := by
  have known := detector.evaluated call.event call.now
  rw [after, enters, scoreOf]
  dsimp only
  generalize detector.evaluate call.event call.now = outcome at known ⊢
  cases known with
  | quiet => simpa using recorded
  | cooling => simpa using recorded
  | again last flood known => simpa [known] using recorded.update (by rw [known]; rfl)
  | enter flood new => simpa [new] using recorded.remember new

theorem Tracks.after {run : List Turn} {detector : GTPUFloodDetector}
    (tracked : Tracks run detector) (call : Call)
    (ordered : ∀ turn ∈ run, turn.2.now ≤ call.now) :
    Tracks (run ++ [(detector, call)]) (detector.after call) := by
  constructor
  · rw [entered_concat]
    exact after_recorded tracked.recorded call
  · intro id last found
    rcases after_lookup found with ⟨reported, rfl⟩ | ⟨-, old⟩
    · exact ⟨(detector, call), by simp, reported, rfl⟩
    · obtain ⟨turn, member, reported, time⟩ := tracked.fired id last old
      exact ⟨turn, List.mem_append_left _ member, reported, time⟩
  · intro id last found turn member reported
    rcases after_lookup found with ⟨-, rfl⟩ | ⟨silent, old⟩
    · rcases List.mem_append.mp member with earlier | now
      · exact ordered turn earlier
      · rw [List.mem_singleton.mp now]
    · rcases List.mem_append.mp member with earlier | now
      · exact tracked.newest id last old turn earlier reported
      · rw [List.mem_singleton.mp now, silent] at reported
        cases reported

theorem after_cfg (detector : GTPUFloodDetector) (call : Call) :
    (detector.after call).cfg = detector.cfg := by
  have known := detector.evaluated call.event call.now
  rw [after]
  generalize detector.evaluate call.event call.now = outcome at known ⊢
  cases known <;> rfl

theorem after_capacity (detector : GTPUFloodDetector) (call : Call) :
    (detector.after call).lastFired.capacity = detector.lastFired.capacity := by
  have known := detector.evaluated call.event call.now
  rw [after]
  generalize detector.evaluate call.event call.now = outcome at known ⊢
  cases known <;> simp

section Run

variable (cfg : GTPUFloodConfig) (calls : List Call)

def final : GTPUFloodDetector := runMoves after (newGTPUFloodDetector cfg) calls

def run : List Turn := turns after (newGTPUFloodDetector cfg) calls

theorem final_cfg : (final cfg calls).cfg = (newGTPUFloodDetector cfg).cfg := by
  induction calls using List.reverseRecOn with
  | nil => rfl
  | append_singleton calls last ih => rw [final, runMoves_concat, after_cfg, ← final, ih]

theorem final_capacity :
    (final cfg calls).lastFired.capacity = sizeOr cfg.maxTrackedTunnels defaultTrackedTunnels := by
  induction calls using List.reverseRecOn with
  | nil => exact List.length_replicate
  | append_singleton calls last ih => rw [final, runMoves_concat, after_capacity, ← final, ih]

variable {calls}

theorem call_of_mem {cfg : GTPUFloodConfig} {turn : Turn} (member : turn ∈ run cfg calls) :
    turn.2 ∈ calls :=
  (of_mem_turns member).1

theorem tracks_at (ordered : InOrder calls) {past rest : List Turn} {turn : Turn}
    (split : run cfg calls = past ++ turn :: rest) :
    ∃ before, InOrder (before ++ [turn.2]) ∧ past = run cfg before ∧ turn.1 = final cfg before := by
  obtain ⟨before, after, whole, same, state, -⟩ := turns_split split
  exact ⟨before, ordered.upTo whole, same, state⟩

theorem tracks_run (ordered : InOrder calls) : Tracks (run cfg calls) (final cfg calls) := by
  induction calls using List.reverseRecOn with
  | nil =>
      have none : ∀ id : TunnelID, (newGTPUFloodDetector cfg).lastFired.lookup id = none :=
        fun id => Std.ExtTreeMap.getElem?_empty
      refine ⟨FifoMap.records_empty _ (sizeOr_pos _ _ (by decide)), fun id last found => ?_,
        fun id last found => ?_⟩
      · rw [final, runMoves, List.foldl_nil, none] at found
        cases found
      · rw [final, runMoves, List.foldl_nil, none] at found
        cases found
  | append_singleton calls last ih =>
      obtain ⟨before, across⟩ := ordered.init
      rw [run, turns_concat, final, runMoves_concat]
      exact (ih before).after last fun turn member => across _ (call_of_mem member)

end Run

/-- The detector over a run. -/
structure Tracked (cfg : GTPUFloodConfig) (calls : List Call) : Prop where
  /-- The map has the tunnels in the slots in use, each in one. -/
  slots : ∀ id, ((final cfg calls).lastFired.lookup id).isSome ↔
    id ∈ (final cfg calls).lastFired.order.take (final cfg calls).lastFired.entries.size
  distinct :
    ((final cfg calls).lastFired.order.take (final cfg calls).lastFired.entries.size).Nodup
  bounded : (final cfg calls).lastFired.entries.size ≤
    sizeOr cfg.maxTrackedTunnels defaultTrackedTunnels
  /-- Read from the cursor on, they are the tunnels entered last: the first to
  come is the first to go. -/
  fifo : (final cfg calls).lastFired.ring.drop
      ((final cfg calls).lastFired.capacity - (final cfg calls).lastFired.entries.size) =
    latest (sizeOr cfg.maxTrackedTunnels defaultTrackedTunnels) (entered (run cfg calls))
  /-- No flood goes without a report for a cooldown. -/
  reported : ∀ past turn rest, run cfg calls = past ++ turn :: rest → turn.1.Floods turn.2.event →
    ∃ earlier ∈ past ++ [turn], reports (tunnelOf turn.2.event) earlier = true ∧
      turn.2.now - (newGTPUFloodDetector cfg).cfg.cooldown < earlier.2.now ∧
      earlier.2.now ≤ turn.2.now
  /-- Two reports within a cooldown have as many other tunnels entered in between
  as the map has room for, counted from where the first one got its place. -/
  repeated : ∀ past first between second rest id,
    run cfg calls = past ++ first :: (between ++ second :: rest) →
    reports id first = true → reports id second = true →
    second.2.now - first.2.now < (newGTPUFloodDetector cfg).cfg.cooldown →
    ∃ older entering since, past ++ [first] = older ++ entering :: since ∧
      enters entering = some id ∧ (∀ turn ∈ since, enters turn ≠ some id) ∧
      sizeOr cfg.maxTrackedTunnels defaultTrackedTunnels ≤
        ((entered (since ++ between)).filter (fun other => decide (other ≠ id))).length

section Places

variable {cfg : GTPUFloodConfig} {calls : List Call} (ordered : InOrder calls)
  {past rest : List Turn} {turn : Turn} (split : run cfg calls = past ++ turn :: rest)

include ordered split

theorem cooldown_at : turn.1.cfg = (newGTPUFloodDetector cfg).cfg := by
  obtain ⟨before, -, -, state⟩ := tracks_at cfg ordered split
  rw [state, final_cfg]

theorem reported_at (armed : (newGTPUFloodDetector cfg).Armed)
    (positive : 0 < (newGTPUFloodDetector cfg).cfg.cooldown) (flood : turn.1.Floods turn.2.event) :
    ∃ earlier ∈ past ++ [turn], reports (tunnelOf turn.2.event) earlier = true ∧
      turn.2.now - (newGTPUFloodDetector cfg).cfg.cooldown < earlier.2.now ∧
      earlier.2.now ≤ turn.2.now := by
  have cfgSame := cooldown_at ordered split
  obtain ⟨before, begun, rfl, state⟩ := tracks_at cfg ordered split
  obtain ⟨begun, across⟩ := begun.init
  have tracked := tracks_run cfg begun
  rw [← state] at tracked
  have self := reports_iff (tunnelOf turn.2.event) turn
  have known := turn.1.evaluated turn.2.event turn.2.now
  rw [scoreOf] at self
  generalize turn.1.evaluate turn.2.event turn.2.now = outcome at known self
  cases known with
  | quiet calm =>
      rw [Armed, ← cfgSame] at armed
      exact absurd ⟨armed, flood⟩ calm
  | cooling last _ found early =>
      obtain ⟨earlier, member, reported, time⟩ := tracked.fired _ last found
      have before := across _ (call_of_mem member)
      rw [cfgSame] at early
      exact ⟨earlier, List.mem_append_left _ member, reported, time ▸ sub_lt_comm.mp early, before⟩
  | again => exact ⟨turn, by simp, self.mpr ⟨rfl, rfl⟩, sub_lt_self _ positive, le_refl _⟩
  | enter => exact ⟨turn, by simp, self.mpr ⟨rfl, rfl⟩, sub_lt_self _ positive, le_refl _⟩

/-- A tunnel reported within the cooldown is reported again only after it was
forgotten. -/
theorem forgotten_at {id : TunnelID} {first : Turn} (member : first ∈ past)
    (reported : reports id first = true) (again : reports id turn = true)
    (early : turn.2.now - first.2.now < (newGTPUFloodDetector cfg).cfg.cooldown) :
    turn.1.lastFired.lookup id = none := by
  have cfgSame := cooldown_at ordered split
  obtain ⟨before, begun, rfl, state⟩ := tracks_at cfg ordered split
  have tracked := tracks_run cfg begun.init.1
  rw [← state] at tracked
  obtain ⟨scored, rfl⟩ := (reports_iff id turn).mp again
  rw [scoreOf] at scored
  have known := turn.1.evaluated turn.2.event turn.2.now
  generalize turn.1.evaluate turn.2.event turn.2.now = outcome at known scored
  cases known with
  | quiet => cases scored
  | cooling => cases scored
  | again last _ found due =>
      have newest := tracked.newest _ last found first member reported
      rw [cfgSame] at due
      exact absurd (lt_of_le_of_lt (sub_le_sub_left newest _) early) (not_lt.mpr due)
  | enter _ new => exact new

end Places

theorem last_entering {id : TunnelID} {run : List Turn} (member : id ∈ entered run) :
    ∃ older entering since, run = older ++ entering :: since ∧ enters entering = some id ∧
      ∀ turn ∈ since, enters turn ≠ some id := by
  induction run using List.reverseRecOn with
  | nil => cases member
  | append_singleton run last ih =>
      by_cases latest : enters last = some id
      · exact ⟨run, last, [], rfl, latest, by simp⟩
      · have inside : id ∈ entered run := by
          rw [entered_concat, List.mem_append, Option.mem_toList] at member
          exact member.resolve_right latest
        obtain ⟨older, entering, since, rfl, entry, quiet⟩ := ih inside
        refine ⟨older, entering, since ++ [last], by simp, entry, ?_⟩
        simp only [List.mem_append, List.mem_singleton]
        rintro turn (old | rfl)
        · exact quiet turn old
        · exact latest

theorem present_after_report {detector : GTPUFloodDetector} {call : Call} {id : TunnelID}
    (reported : reports id (detector, call) = true) :
    ((detector.after call).lastFired.lookup id).isSome := by
  obtain ⟨scored, same⟩ := (reports_iff id (detector, call)).mp reported
  rw [scoreOf] at scored
  have known := detector.evaluated call.event call.now
  rw [after]
  dsimp only at scored same
  generalize detector.evaluate call.event call.now = outcome at known scored ⊢
  cases known with
  | quiet => cases scored
  | cooling => cases scored
  | again => rw [FifoMap.update_lookup, if_pos same]; rfl
  | enter => rw [FifoMap.remember_lookup, if_pos same]; rfl

theorem mem_of_mem_latest {α : Type} {count : Nat} {xs : List α} {x : α}
    (member : x ∈ latest count xs) : x ∈ xs :=
  List.mem_of_mem_drop member

theorem repeated_at {cfg : GTPUFloodConfig} {calls : List Call} (ordered : InOrder calls)
    {past between rest : List Turn} {first second : Turn} {id : TunnelID}
    (split : run cfg calls = past ++ first :: (between ++ second :: rest))
    (reported : reports id first = true) (again : reports id second = true)
    (early : second.2.now - first.2.now < (newGTPUFloodDetector cfg).cfg.cooldown) :
    ∃ older entering since, past ++ [first] = older ++ entering :: since ∧
      enters entering = some id ∧ (∀ turn ∈ since, enters turn ≠ some id) ∧
      sizeOr cfg.maxTrackedTunnels defaultTrackedTunnels ≤
        ((entered (since ++ between)).filter (fun other => decide (other ≠ id))).length := by
  have later : run cfg calls = (past ++ first :: between) ++ second :: rest := by
    rw [split]
    simp
  have absent := forgotten_at ordered later (by simp) reported again early
  -- the first report leaves the tunnel in the map, so it was entered before
  obtain ⟨before, begun, rfl, state⟩ := tracks_at cfg ordered split
  have tracked := tracks_run cfg begun
  have present : id ∈ entered (run cfg before ++ [first]) := by
    have held : ((first.1.after first.2).lastFired.lookup id).isSome :=
      present_after_report reported
    rw [run, turns_concat, final, runMoves_concat, ← final, ← state] at tracked
    rw [tracked.recorded.keys] at held
    exact mem_of_mem_latest held
  obtain ⟨older, entering, since, place, entry, quiet⟩ := last_entering present
  refine ⟨older, entering, since, place, entry, quiet, ?_⟩
  -- at the second report it is none of the last ones entered
  obtain ⟨whole, complete, same, state'⟩ := tracks_at cfg ordered later
  have complete := tracks_run cfg complete.init.1
  rw [← state', ← same] at complete
  have gone := complete.recorded.absent_iff.mp absent
  have history : entered (run cfg before ++ first :: between) =
      entered older ++ id :: entered (since ++ between) := by
    rw [← List.singleton_append, ← List.append_assoc, place, List.append_assoc, List.cons_append,
      entered_append, entered, entered, List.filterMap_cons_some entry, entered]
  rw [state', final_capacity, history] at gone
  exact others_of_not_mem_latest gone

theorem cooldown_pos (cfg : GTPUFloodConfig) : 0 < (newGTPUFloodDetector cfg).cfg.cooldown :=
  orDefault_pos cfg.cooldown defaultCooldown (by decide)

/-- The tunnel detector keeps its map and reports, with every capacity and over
every run of calls in order. -/
theorem tunnel_floods_are_tracked {cfg : GTPUFloodConfig} (enabled : cfg.enabled = true)
    (threshold : cfg.packetsPerSecond ≠ 0) {calls : List Call} (ordered : InOrder calls) :
    Tracked cfg calls := by
  have tracked := tracks_run cfg ordered
  have capacity := final_capacity cfg calls
  constructor
  · intro id
    rw [tracked.recorded.keys, tracked.recorded.slots_perm.mem_iff]
  · exact tracked.recorded.slots_perm.nodup_iff.mpr tracked.recorded.distinct
  · rw [tracked.recorded.size, capacity]
    exact Nat.min_le_left _ _
  · rw [tracked.recorded.held, capacity]
  · intro past turn rest split
    exact reported_at ordered split ⟨enabled, threshold⟩ (cooldown_pos cfg)
  · intro past first between second rest id split
    exact repeated_at ordered split

def floodOf (teid : UInt32) : NormalizedEvent where
  eventID := ""
  observedAt := 0
  ns := ""
  podName := ""
  nodeName := ""
  sourceIP := "10.42.0.7"
  destIP := "10.42.0.8"
  destPort := 2152
  protocol := .gtpu
  payloadSize := 100
  ratePerSecond := 0
  malformed := false
  vlanID := 0
  teid := teid
  tunnelRatePerSecond := 3000

def threeTunnels : GTPUFloodConfig := ⟨true, 10, 3600 * second, 3⟩

def reentering : List Call :=
  [0x51, 0xA, 0xB, 0xC, 0x51, 0xD, 0xE, 0x51].map (fun teid => ⟨floodOf teid, 0⟩)

theorem reentering_inOrder : InOrder reentering := by
  unfold InOrder
  decide

/-- A tunnel that is forgotten and entered again keeps its new place: it is
reported a second time and, with room for three, not a third time. -/
theorem reentered_tunnel_is_tracked :
    InOrder reentering ∧ Tracked threeTunnels reentering ∧
      (run threeTunnels reentering).map (reports ⟨"10.42.0.7", 0x51⟩) =
        [true, false, false, false, true, false, false, false] :=
  ⟨reentering_inOrder, tunnel_floods_are_tracked rfl (by decide) reentering_inOrder,
    by decide +kernel⟩

end GTPUFloodDetector

end Sentinel5G.Detect
