import Sentinel5G.Base.CappedSet
import Sentinel5G.Detect.TunnelFlood

/-! The source detector over whole runs. With room for every source each one has
a window of its own: its replies are those it would get alone, and they count the
packets and tunnels of the window. -/

namespace Sentinel5G.Detect

open Base Api Controller Ingestion

namespace GTPUSourceFloodDetector

/-- `Evaluate` takes the event into account. -/
def takes (cfg : GTPUSourceFloodConfig) (event : NormalizedEvent) : Bool :=
  cfg.enabled && (decide (cfg.packetsPerSecond > 0) || decide (cfg.distinctTunnels > 0)) &&
    decide (event.protocol = .gtpu ∧ event.teid ≠ 0 ∧ event.sourceIP ≠ "")

/-- The window of a source with one more packet, from what was known of it. -/
def counting (cfg : GTPUSourceFloodConfig) (entry : Option SourceWindow) (call : Call) :
    SourceWindow :=
  ((entry.getD ⟨call.now, 0, ∅, none⟩).rolled cfg.window call.now).counted
    cfg.maxTunnelsPerSource call.event.teid

def reached (cfg : GTPUSourceFloodConfig) (window : SourceWindow) : Bool :=
  if cfg.packetsPerSecond > 0 ∧ window.packets ≥ cfg.packetsPerSecond then true
  else decide (cfg.distinctTunnels > 0 ∧ (window.teids.size : Int) ≥ cfg.distinctTunnels)

def fires (cfg : GTPUSourceFloodConfig) (window : SourceWindow) (now : Time) : Bool :=
  reached cfg window && !window.cooling cfg.cooldown now

def visited (cfg : GTPUSourceFloodConfig) (entry : Option SourceWindow) (call : Call) :
    SourceWindow :=
  if fires cfg (counting cfg entry call) call.now then
    { counting cfg entry call with lastFired := some call.now }
  else counting cfg entry call

def scoreFor (event : NormalizedEvent) (now : Time) : ThreatScoreEvent where
  sourceEventID := event.eventID
  ns := event.ns
  podName := event.podName
  sourceIP := event.sourceIP
  teid := 0
  score := 1
  model := modelGTPUSourceFlood
  detectedAt := now

def replyTo (cfg : GTPUSourceFloodConfig) (entry : Option SourceWindow) (call : Call) :
    Option ThreatScoreEvent × SourceFloodObservation :=
  (if fires cfg (counting cfg entry call) call.now then some (scoreFor call.event call.now)
    else none,
  ⟨(counting cfg entry call).packets, (counting cfg entry call).teids.size⟩)

def after (detector : GTPUSourceFloodDetector) (call : Call) : GTPUSourceFloodDetector :=
  (detector.evaluate call.event call.now).2.2

abbrev Turn := GTPUSourceFloodDetector × Call

def replyOf (turn : Turn) : Option ThreatScoreEvent × SourceFloodObservation :=
  ((turn.1.evaluate turn.2.event turn.2.now).1, (turn.1.evaluate turn.2.event turn.2.now).2.1)

/-- The source a call enters into the map. -/
def enters (turn : Turn) : Option String :=
  if takes turn.1.cfg turn.2.event ∧ turn.1.sources.lookup turn.2.event.sourceIP = none then
    some turn.2.event.sourceIP
  else none

theorem evaluate_of_other {detector : GTPUSourceFloodDetector} {event : NormalizedEvent}
    (now : Time) (other : takes detector.cfg event = false) :
    detector.evaluate event now = (none, ⟨0, 0⟩, detector) := by
  rw [evaluate]
  split
  · rfl
  · rename_i configured
    split
    · rfl
    · rename_i tunneled
      simp only [Bool.not_eq_false] at configured
      simp only [not_or, not_not] at tunneled
      have taken : takes detector.cfg event = true := by
        rw [takes, Bool.and_eq_true]
        exact ⟨configured, decide_eq_true tunneled⟩
      rw [taken] at other
      cases other

theorem evaluate_of_taken {detector : GTPUSourceFloodDetector} {call : Call}
    (taken : takes detector.cfg call.event = true) :
    replyOf (detector, call) =
        replyTo detector.cfg (detector.sources.lookup call.event.sourceIP) call ∧
      detector.after call = { detector with
        sources := (detector.track call.event.sourceIP call.now).2.update call.event.sourceIP
          (visited detector.cfg (detector.sources.lookup call.event.sourceIP) call) } := by
  rw [takes, Bool.and_eq_true, decide_eq_true_iff] at taken
  obtain ⟨configured, gtpu, tunneled, named⟩ := taken
  have known : (detector.track call.event.sourceIP call.now).1 =
      (detector.sources.lookup call.event.sourceIP).getD ⟨call.now, 0, ∅, none⟩ := by
    rw [track]
    cases detector.sources.lookup call.event.sourceIP with
    | none => rfl
    | some window => rfl
  have on : ¬ detector.configured = false := by
    rw [GTPUSourceFloodDetector.configured, configured]
    decide
  have seen : ¬ (call.event.protocol ≠ .gtpu ∨ call.event.teid = 0 ∨ call.event.sourceIP = "") := by
    simp [gtpu, tunneled, named]
  have observed : detector.observe call.event.sourceIP call.event.teid call.now =
      (⟨(counting detector.cfg (detector.sources.lookup call.event.sourceIP) call).packets,
          (counting detector.cfg (detector.sources.lookup call.event.sourceIP) call).teids.size⟩,
        fires detector.cfg
          (counting detector.cfg (detector.sources.lookup call.event.sourceIP) call) call.now,
        { detector with
          sources := (detector.track call.event.sourceIP call.now).2.update call.event.sourceIP
            (visited detector.cfg (detector.sources.lookup call.event.sourceIP) call) }) := by
    rw [observe, visited, counting, ← known]
    rfl
  rw [replyOf, after, evaluate, if_neg on, if_neg seen, observed, replyTo]
  cases fires detector.cfg
    (counting detector.cfg (detector.sources.lookup call.event.sourceIP) call) call.now with
  | true => exact ⟨rfl, rfl⟩
  | false => exact ⟨rfl, rfl⟩

theorem after_of_other {detector : GTPUSourceFloodDetector} {call : Call}
    (other : takes detector.cfg call.event = false) : detector.after call = detector := by
  rw [after, evaluate_of_other call.now other]

theorem after_cfg (detector : GTPUSourceFloodDetector) (call : Call) :
    (detector.after call).cfg = detector.cfg := by
  cases taken : takes detector.cfg call.event with
  | true => rw [(evaluate_of_taken taken).2]
  | false => rw [after_of_other taken]

theorem track_known {detector : GTPUSourceFloodDetector} {source : String} {window : SourceWindow}
    (known : detector.sources.lookup source = some window) (now : Time) :
    (detector.track source now).2 = detector.sources := by
  rw [track, known]

theorem track_new {detector : GTPUSourceFloodDetector} {source : String}
    (new : detector.sources.lookup source = none) (now : Time) :
    (detector.track source now).2 = detector.sources.remember source ⟨now, 0, ∅, none⟩ := by
  rw [track, new]

theorem after_lookup_own {detector : GTPUSourceFloodDetector} {call : Call}
    (taken : takes detector.cfg call.event = true) :
    (detector.after call).sources.lookup call.event.sourceIP =
      some (visited detector.cfg (detector.sources.lookup call.event.sourceIP) call) := by
  rw [(evaluate_of_taken taken).2, FifoMap.update_lookup, if_pos rfl]

def Evicts (source : String) (turn : Turn) : Prop :=
  takes turn.1.cfg turn.2.event = true ∧ turn.1.sources.lookup turn.2.event.sourceIP = none ∧
    turn.1.sources.capacity ≤ turn.1.sources.entries.size ∧ turn.1.sources.oldest = source

instance (source : String) (turn : Turn) : Decidable (Evicts source turn) :=
  inferInstanceAs (Decidable (_ ∧ _))

/-- Of every other source the map knows what it did, unless it forgets it. -/
theorem after_lookup_other {detector : GTPUSourceFloodDetector} {call : Call} {source : String}
    (different : call.event.sourceIP ≠ source) :
    (detector.after call).sources.lookup source =
      if Evicts source (detector, call) then none else detector.sources.lookup source := by
  cases taken : takes detector.cfg call.event with
  | false => rw [after_of_other taken, if_neg (by simp [Evicts, taken])]
  | true =>
      rw [(evaluate_of_taken taken).2, FifoMap.update_lookup, if_neg different]
      cases known : detector.sources.lookup call.event.sourceIP with
      | some window => rw [track_known known, if_neg (by simp [Evicts, known])]
      | none =>
          rw [track_new known, FifoMap.remember_lookup, if_neg different]
          simp only [Evicts, taken, known, true_and]

theorem after_recorded {detector : GTPUSourceFloodDetector} {history : List String}
    (recorded : detector.sources.Records history) (call : Call) :
    (detector.after call).sources.Records (history ++ (enters (detector, call)).toList) := by
  cases taken : takes detector.cfg call.event with
  | false => simpa [after_of_other taken, enters, taken] using recorded
  | true =>
      rw [(evaluate_of_taken taken).2]
      cases known : detector.sources.lookup call.event.sourceIP with
      | some window =>
          simpa [track_known known, enters, known] using recorded.update (by rw [known]; rfl)
      | none =>
          rw [track_new known]
          simp only [enters, taken, known, and_self, if_true, Option.toList_some]
          apply (recorded.remember known).update
          rw [FifoMap.remember_lookup, if_pos rfl]
          rfl

theorem after_capacity (detector : GTPUSourceFloodDetector) (call : Call) :
    (detector.after call).sources.capacity = detector.sources.capacity := by
  cases taken : takes detector.cfg call.event with
  | false => rw [after_of_other taken]
  | true =>
      rw [(evaluate_of_taken taken).2, FifoMap.update_capacity]
      cases known : detector.sources.lookup call.event.sourceIP with
      | some window => rw [track_known known]
      | none => rw [track_new known, FifoMap.remember_capacity]

section Run

variable (cfg : GTPUSourceFloodConfig) (calls : List Call)

def effective : GTPUSourceFloodConfig := (newGTPUSourceFloodDetector cfg).cfg

def room : Nat := sizeOr cfg.maxTrackedSources defaultTrackedSources

def final : GTPUSourceFloodDetector := runMoves after (newGTPUSourceFloodDetector cfg) calls

def run : List Turn := turns after (newGTPUSourceFloodDetector cfg) calls

theorem final_concat (last : Call) :
    final cfg (calls ++ [last]) = (final cfg calls).after last := by
  rw [final, runMoves_concat, final]

theorem run_concat (last : Call) :
    run cfg (calls ++ [last]) = run cfg calls ++ [(final cfg calls, last)] := by
  rw [run, turns_concat, run, final]

theorem final_cfg : (final cfg calls).cfg = effective cfg := by
  induction calls using List.reverseRecOn with
  | nil => rfl
  | append_singleton calls last ih => rw [final_concat, after_cfg, ih]

theorem final_capacity : (final cfg calls).sources.capacity = room cfg := by
  induction calls using List.reverseRecOn with
  | nil => exact List.length_replicate
  | append_singleton calls last ih => rw [final_concat, after_capacity, ih]

theorem entered_concat (last : Call) :
    (run cfg (calls ++ [last])).filterMap enters =
      (run cfg calls).filterMap enters ++ (enters (final cfg calls, last)).toList := by
  rw [run_concat, filterMap_concat]

theorem final_recorded : (final cfg calls).sources.Records ((run cfg calls).filterMap enters) := by
  induction calls using List.reverseRecOn with
  | nil => exact FifoMap.records_empty _ (sizeOr_pos _ _ (by decide))
  | append_singleton calls last ih =>
      rw [final_concat, entered_concat]
      exact after_recorded ih last

theorem cfg_of_mem {turn : Turn} (member : turn ∈ run cfg calls) : turn.1.cfg = effective cfg := by
  obtain ⟨before, state⟩ := (of_mem_turns member).2
  rw [state, ← final, final_cfg]

end Run

/-- A packet of the source that is taken into account. -/
def own (cfg : GTPUSourceFloodConfig) (source : String) (call : Call) : Bool :=
  takes (effective cfg) call.event && decide (call.event.sourceIP = source)

def senders (cfg : GTPUSourceFloodConfig) (calls : List Call) : List String :=
  (calls.filter (fun call => takes (effective cfg) call.event)).map
    (fun call => call.event.sourceIP)

def entryOf (cfg : GTPUSourceFloodConfig) (calls : List Call) : Option SourceWindow :=
  calls.foldl (fun entry call => some (visited (effective cfg) entry call)) none

theorem entryOf_concat (cfg : GTPUSourceFloodConfig) (calls : List Call) (last : Call) :
    entryOf cfg (calls ++ [last]) = some (visited (effective cfg) (entryOf cfg calls) last) := by
  rw [entryOf, List.foldl_append]
  rfl

theorem senders_concat (cfg : GTPUSourceFloodConfig) (calls : List Call) (last : Call) :
    senders cfg (calls ++ [last]) =
      senders cfg calls ++ if takes (effective cfg) last.event then
        [last.event.sourceIP] else [] := by
  rw [senders, filter_concat, List.map_append, senders]
  cases takes (effective cfg) last.event <;> rfl

/-- The run so far, with room for every source: each was entered once and is
known by its own packets. -/
structure Separate (cfg : GTPUSourceFloodConfig) (calls : List Call) : Prop where
  once : ((run cfg calls).filterMap enters).Nodup
  entered : ∀ source, source ∈ (run cfg calls).filterMap enters ↔ source ∈ senders cfg calls
  known : ∀ source, (final cfg calls).sources.lookup source =
    entryOf cfg (calls.filter (own cfg source))

section Few

variable {cfg : GTPUSourceFloodConfig} {calls : List Call}

theorem Separate.entered_length (separate : Separate cfg calls) :
    ((run cfg calls).filterMap enters).length = (senders cfg calls).toFinset.card := by
  rw [← List.toFinset_card_of_nodup separate.once]
  congr 1
  ext source
  rw [List.mem_toFinset, List.mem_toFinset, separate.entered]

theorem Separate.lookup_none (separate : Separate cfg calls)
    (few : (senders cfg calls).toFinset.card ≤ room cfg) (source : String) :
    (final cfg calls).sources.lookup source = none ↔ source ∉ senders cfg calls := by
  rw [(final_recorded cfg calls).absent_iff, final_capacity, latest_eq_self, separate.entered]
  rw [separate.entered_length]
  exact few

theorem filter_own_concat (cfg : GTPUSourceFloodConfig) (source : String) (calls : List Call)
    (last : Call) :
    (calls ++ [last]).filter (own cfg source) =
      calls.filter (own cfg source) ++ if own cfg source last then [last] else [] :=
  filter_concat _ _ _

/-- What a call leaves known of a source: its own packet counts, every other one
may make the map forget it. -/
theorem lookup_concat (cfg : GTPUSourceFloodConfig) (calls : List Call) (last : Call)
    (source : String) :
    (final cfg (calls ++ [last])).sources.lookup source =
      if own cfg source last then
        some (visited (effective cfg) ((final cfg calls).sources.lookup source) last)
      else if Evicts source (final cfg calls, last) then none
      else (final cfg calls).sources.lookup source := by
  rw [final_concat, own]
  by_cases same : last.event.sourceIP = source
  · subst same
    cases taken : takes (effective cfg) last.event with
    | true =>
        rw [after_lookup_own (by rw [final_cfg, taken]), final_cfg]
        simp
    | false =>
        have other : takes (final cfg calls).cfg last.event = false := by rw [final_cfg, taken]
        simp [after_of_other other, Evicts, other]
  · rw [after_lookup_other same]
    simp [same]

theorem known_concat
    (known : ∀ source, (final cfg calls).sources.lookup source =
      entryOf cfg (calls.filter (own cfg source)))
    {last : Call} (kept : ∀ source, ¬ Evicts source (final cfg calls, last)) (source : String) :
    (final cfg (calls ++ [last])).sources.lookup source =
      entryOf cfg ((calls ++ [last]).filter (own cfg source)) := by
  rw [lookup_concat, filter_own_concat, if_neg (kept source), known]
  cases own cfg source last with
  | true => rw [if_pos rfl, if_pos rfl, entryOf_concat]
  | false => rw [if_neg Bool.false_ne_true, if_neg Bool.false_ne_true, List.append_nil]

/-- A source is entered with the first packet it sends. -/
theorem Separate.enters_eq (separate : Separate cfg calls)
    (few : (senders cfg calls).toFinset.card ≤ room cfg) (last : Call) :
    enters (final cfg calls, last) =
      if takes (effective cfg) last.event ∧ last.event.sourceIP ∉ senders cfg calls then
        some last.event.sourceIP
      else none := by
  simp only [enters, final_cfg, separate.lookup_none few]

theorem card_senders_lt {last : Call} (taken : takes (effective cfg) last.event = true)
    (new : last.event.sourceIP ∉ senders cfg calls) :
    (senders cfg calls).toFinset.card < (senders cfg (calls ++ [last])).toFinset.card := by
  rw [senders_concat, taken, if_pos rfl, List.toFinset_append, List.toFinset_cons,
    List.toFinset_nil, insert_empty_eq, Finset.union_comm, ← Finset.insert_eq,
    Finset.card_insert_of_notMem (by rwa [List.mem_toFinset])]
  exact Nat.lt_succ_self _

theorem card_senders_le (last : Call) :
    (senders cfg calls).toFinset.card ≤ (senders cfg (calls ++ [last])).toFinset.card := by
  apply Finset.card_le_card
  intro source
  simp only [List.mem_toFinset, senders_concat, List.mem_append]
  exact .inl

theorem Separate.next (separate : Separate cfg calls) {last : Call}
    (few : (senders cfg (calls ++ [last])).toFinset.card ≤ room cfg) :
    Separate cfg (calls ++ [last]) := by
  have before := (card_senders_le last).trans few
  have entering := separate.enters_eq before last
  refine ⟨?_, fun source => ?_, known_concat separate.known fun source evicted => ?_⟩
  · rw [entered_concat, entering]
    split
    · rename_i first
      apply List.Nodup.append separate.once (List.nodup_singleton _)
      rw [List.disjoint_singleton, separate.entered]
      exact first.2
    · rw [Option.toList_none, List.append_nil]
      exact separate.once
  · rw [entered_concat, entering, senders_concat, List.mem_append, List.mem_append,
      separate.entered]
    cases taken : takes (effective cfg) last.event with
    | false => simp
    | true =>
        by_cases known : last.event.sourceIP ∈ senders cfg calls
        · simp only [known, not_true_eq_false, and_false, if_false, Option.toList_none,
            List.not_mem_nil, or_false, if_true, List.mem_singleton]
          exact ⟨.inl, fun either => either.elim id fun same => same ▸ known⟩
        · simp [known]
  · obtain ⟨taken, new, full, -⟩ := evicted
    rw [final_cfg] at taken
    have grown := card_senders_lt taken ((separate.lookup_none before _).mp new)
    rw [(final_recorded cfg calls).full_iff, final_capacity, separate.entered_length] at full
    exact absurd (lt_of_lt_of_le grown few) (not_lt.mpr full)

theorem separate_of_few (few : (senders cfg calls).toFinset.card ≤ room cfg) :
    Separate cfg calls := by
  induction calls using List.reverseRecOn with
  | nil => exact ⟨List.nodup_nil, by simp [run, turns, senders], fun source => rfl⟩
  | append_singleton calls last ih =>
      exact (ih ((card_senders_le last).trans few)).next few

def ownTurns (cfg : GTPUSourceFloodConfig) (source : String) (calls : List Call) : List Turn :=
  (run cfg calls).filter (fun turn => own cfg source turn.2)

theorem ownTurns_concat (cfg : GTPUSourceFloodConfig) (source : String) (calls : List Call)
    (last : Call) :
    ownTurns cfg source (calls ++ [last]) =
      ownTurns cfg source calls ++ if own cfg source last then [(final cfg calls, last)] else [] :=
  filter_turns_concat _ _ _ _

def repliesTo (cfg : GTPUSourceFloodConfig) (source : String) (calls : List Call) :
    List (Option ThreatScoreEvent × SourceFloodObservation) :=
  (ownTurns cfg source calls).map replyOf

theorem reply_of_held {source : String} {last : Call} (owned : own cfg source last = true) :
    replyOf (final cfg calls, last) =
      replyTo (effective cfg) ((final cfg calls).sources.lookup source) last := by
  rw [own, Bool.and_eq_true, decide_eq_true_iff] at owned
  obtain ⟨taken, rfl⟩ := owned
  rw [(evaluate_of_taken (by rw [final_cfg, taken])).1, final_cfg]

theorem reply_of_own (separate : Separate cfg calls) {source : String} {last : Call}
    (owned : own cfg source last = true) :
    replyOf (final cfg calls, last) =
      replyTo (effective cfg) (entryOf cfg (calls.filter (own cfg source))) last := by
  rw [reply_of_held owned, separate.known]

theorem senders_filter (cfg : GTPUSourceFloodConfig) (source : String) (calls : List Call) :
    (senders cfg (calls.filter (own cfg source))).toFinset.card ≤ room cfg := by
  have one : (senders cfg (calls.filter (own cfg source))).toFinset ⊆ {source} := by
    intro other member
    rw [List.mem_toFinset, senders, List.mem_map] at member
    obtain ⟨call, inside, rfl⟩ := member
    have owned := (List.mem_filter.mp (List.mem_filter.mp inside).1).2
    rw [own, Bool.and_eq_true, decide_eq_true_iff] at owned
    exact Finset.mem_singleton.mpr owned.2
  calc (senders cfg (calls.filter (own cfg source))).toFinset.card
      ≤ ({source} : Finset String).card := Finset.card_le_card one
    _ = 1 := Finset.card_singleton source
    _ ≤ room cfg := sizeOr_pos _ _ (by decide)

/-- With room for every source, the others do not show. -/
theorem repliesTo_filter (few : (senders cfg calls).toFinset.card ≤ room cfg) (source : String) :
    repliesTo cfg source calls = repliesTo cfg source (calls.filter (own cfg source)) := by
  induction calls using List.reverseRecOn with
  | nil => rfl
  | append_singleton calls last ih =>
      have before := (card_senders_le last).trans few
      have together := separate_of_few before
      have alone := separate_of_few (senders_filter cfg source calls)
      rw [repliesTo, ownTurns_concat, List.map_append, ← repliesTo, ih before, filter_own_concat]
      cases owned : own cfg source last with
      | false => simp
      | true =>
          rw [if_pos rfl, if_pos rfl, repliesTo, repliesTo, ownTurns_concat, owned, if_pos rfl,
            List.map_append, List.map_singleton, List.map_singleton, reply_of_own together owned,
            reply_of_own alone owned, List.filter_filter]
          simp only [Bool.and_self]

theorem ownTurns_filter (cfg : GTPUSourceFloodConfig) (source : String) (calls : List Call) :
    ownTurns cfg source (calls.filter (own cfg source)) =
      run cfg (calls.filter (own cfg source)) := by
  rw [ownTurns, List.filter_eq_self]
  intro turn member
  exact (List.mem_filter.mp (of_mem_turns member).1).2

end Few

def tunnelLimit (cfg : GTPUSourceFloodConfig) : Nat :=
  sizeOr cfg.maxTunnelsPerSource defaultTunnelsPerSource

/-- At least a window after the start of the running one. -/
def stale (cfg : GTPUSourceFloodConfig) (start turn : Turn) : Bool :=
  decide ((effective cfg).window ≤ turn.2.now - start.2.now)

def distinctTunnels (turns : List Turn) : Nat :=
  (turns.map (fun turn => turn.2.event.teid)).toFinset.card

/-- The counts of a window with these packets. -/
structure Counts (cfg : GTPUSourceFloodConfig) (window : SourceWindow) (turns : List Turn) :
    Prop where
  start : ∀ first ∈ turns.head?, window.start = first.2.now
  packets : window.packets = UInt32.ofNat turns.length
  teids : Collects (tunnelLimit cfg) window.teids (turns.map (fun turn => turn.2.event.teid))

section Reference

variable {cfg : GTPUSourceFloodConfig}

theorem counts_nil (cfg : GTPUSourceFloodConfig) (now : Time) (lastFired : Option Time) :
    Counts cfg ⟨now, 0, ∅, lastFired⟩ [] where
  start first member := by cases member
  packets := rfl
  teids := collects_empty _

theorem Counts.counted {window : SourceWindow} {turns : List Turn}
    (counts : Counts cfg window turns) (turn : Turn)
    (begun : turns = [] → window.start = turn.2.now) :
    Counts cfg (window.counted (effective cfg).maxTunnelsPerSource turn.2.event.teid)
      (turns ++ [turn]) := by
  have limit : (effective cfg).maxTunnelsPerSource = (tunnelLimit cfg : Int) := rfl
  constructor
  · intro first member
    cases turns with
    | nil =>
        cases member
        exact begun rfl
    | cons start rest => exact counts.start first member
  · rw [SourceWindow.counted, counts.packets, List.length_append, UInt32.ofNat_add]
    rfl
  · have grown := counts.teids.concat turn.2.event.teid
    rw [List.map_append, List.map_singleton]
    simpa only [SourceWindow.counted, limit, Nat.cast_lt] using grown

/-- One more packet of a source counts in the running window, or in a new one. -/
theorem Counts.counting {window : SourceWindow} {turns : List Turn}
    (counts : Counts cfg window turns) (nonempty : turns ≠ []) (turn : Turn) :
    Counts cfg (counting (effective cfg) (some window) turn.2)
      (extendWindow (stale cfg) turns turn) := by
  obtain ⟨start, rest, rfl⟩ := List.exists_cons_of_ne_nil nonempty
  have begun : window.start = start.2.now := counts.start start rfl
  rw [GTPUSourceFloodDetector.counting, Option.getD_some, SourceWindow.rolled, begun,
    extendWindow_eq, continued, stale]
  by_cases late : (effective cfg).window ≤ turn.2.now - start.2.now
  · rw [if_pos late, if_pos (decide_eq_true late)]
    exact (counts_nil cfg turn.2.now window.lastFired).counted turn fun _ => rfl
  · rw [if_neg late, if_neg (by simpa using late)]
    exact counts.counted turn fun empty => absurd empty nonempty

theorem counting_first (cfg : GTPUSourceFloodConfig) (turn : Turn) :
    Counts cfg (counting (effective cfg) none turn.2) [turn] := by
  rw [counting, Option.getD_none, SourceWindow.rolled]
  split
  · exact (counts_nil cfg turn.2.now none).counted turn fun _ => rfl
  · exact (counts_nil cfg turn.2.now none).counted turn fun _ => rfl

theorem counting_lastFired (cfg : GTPUSourceFloodConfig) (entry : Option SourceWindow)
    (call : Call) : (counting cfg entry call).lastFired = entry.bind
      (fun window => window.lastFired) := by
  rw [counting, SourceWindow.counted, SourceWindow.rolled]
  cases entry with
  | none => split <;> rfl
  | some window => split <;> rfl

theorem visited_lastFired (entry : Option SourceWindow) (call : Call) :
    (visited cfg entry call).lastFired =
      if fires cfg (counting cfg entry call) call.now then some call.now
      else entry.bind (fun window => window.lastFired) := by
  rw [visited, ← counting_lastFired cfg entry call]
  split <;> rfl

def crosses (turn : Turn) : Bool :=
  turn.1.report (replyOf turn).2.packetsInWindow (replyOf turn).2.distinctTunnels

def fired (turn : Turn) : Bool := (replyOf turn).1.isSome

/-- What is known of a source that has sent these packets. -/
structure Known (cfg : GTPUSourceFloodConfig) (past : List Turn) (entry : Option SourceWindow) :
    Prop where
  some_of_sent : past ≠ [] → entry.isSome
  counts : ∀ window ∈ entry, past ≠ [] ∧ Counts cfg window (openWindow (stale cfg) past)
  silent : entry.bind (fun window => window.lastFired) = none → ∀ turn ∈ past, fired turn = false
  reported : ∀ last, entry.bind (fun window => window.lastFired) = some last →
    (∃ turn ∈ past, fired turn = true ∧ turn.2.now = last) ∧
      ∀ turn ∈ past, fired turn = true → turn.2.now ≤ last

theorem known_nil (cfg : GTPUSourceFloodConfig) : Known cfg [] none where
  some_of_sent sent := absurd rfl sent
  counts window member := by cases member
  silent _ turn member := by cases member
  reported last found := by cases found

section Step

variable {past : List Turn} {entry : Option SourceWindow} (known : Known cfg past entry)
  (turn : Turn)

include known

theorem Known.counting_counts :
    Counts cfg (counting (effective cfg) entry turn.2)
      (openWindow (stale cfg) (past ++ [turn])) := by
  rw [openWindow_concat]
  cases found : entry with
  | none =>
      have first : past = [] := by
        by_contra sent
        have present := known.some_of_sent sent
        rw [found] at present
        cases present
      rw [first]
      exact counting_first cfg turn
  | some window =>
      obtain ⟨sent, counts⟩ := known.counts window found
      exact counts.counting (openWindow_ne_nil sent) turn

theorem Known.cooling_iff :
    (counting (effective cfg) entry turn.2).cooling (effective cfg).cooldown turn.2.now = true ↔
      ∃ earlier ∈ past, fired earlier = true ∧
        turn.2.now - earlier.2.now < (effective cfg).cooldown := by
  rw [SourceWindow.cooling, counting_lastFired]
  cases last : entry.bind (fun window => window.lastFired) with
  | none =>
      constructor
      · intro impossible
        cases impossible
      · rintro ⟨earlier, member, reported, -⟩
        rw [known.silent last earlier member] at reported
        cases reported
  | some time =>
      obtain ⟨⟨newest, member, reported, rfl⟩, bound⟩ := known.reported time last
      rw [decide_eq_true_iff]
      constructor
      · intro early
        exact ⟨newest, member, reported, early⟩
      · rintro ⟨earlier, inside, scored, early⟩
        exact lt_of_le_of_lt (sub_le_sub_left (bound earlier inside scored) _) early

omit known in
theorem fired_eq (answer : replyOf turn = replyTo (effective cfg) entry turn.2) :
    fired turn = fires (effective cfg) (counting (effective cfg) entry turn.2) turn.2.now := by
  rw [fired, answer, replyTo]
  cases fires (effective cfg) (counting (effective cfg) entry turn.2) turn.2.now with
  | true => rfl
  | false => rfl

variable (answer : replyOf turn = replyTo (effective cfg) entry turn.2)

include answer

theorem Known.fired_iff :
    fired turn = true ↔ reached (effective cfg) (counting (effective cfg) entry turn.2) = true ∧
      ∀ earlier ∈ past, fired earlier = true →
        (effective cfg).cooldown ≤ turn.2.now - earlier.2.now := by
  have cool : (counting (effective cfg) entry turn.2).cooling (effective cfg).cooldown turn.2.now =
      false ↔ ∀ earlier ∈ past, fired earlier = true →
        (effective cfg).cooldown ≤ turn.2.now - earlier.2.now := by
    rw [← Bool.not_eq_true, known.cooling_iff turn]
    simp only [not_exists, not_and, not_lt]
  rw [fired_eq turn answer, fires, Bool.and_eq_true, Bool.not_eq_true', cool]

theorem Known.concat (ordered : ∀ earlier ∈ past, earlier.2.now ≤ turn.2.now) :
    Known cfg (past ++ [turn]) (some (visited (effective cfg) entry turn.2)) := by
  have counts := known.counting_counts turn
  have scored := fired_eq turn answer
  have last : (visited (effective cfg) entry turn.2).lastFired =
      if fired turn then some turn.2.now else entry.bind (fun window => window.lastFired) := by
    rw [visited_lastFired, scored]
  constructor
  · intro _
    rfl
  · intro window member
    cases member
    refine ⟨by simp, ?_⟩
    rw [visited]
    split
    · exact ⟨counts.start, counts.packets, counts.teids⟩
    · exact counts
  · rw [Option.bind_some, last]
    intro none earlier member
    cases reported : fired turn with
    | true =>
        rw [reported] at none
        cases none
    | false =>
        rw [reported, if_neg Bool.false_ne_true] at none
        rcases List.mem_append.mp member with old | new
        · exact known.silent none earlier old
        · rwa [List.mem_singleton.mp new]
  · rw [Option.bind_some, last]
    intro time found
    cases reported : fired turn with
    | true =>
        rw [reported, if_pos rfl, Option.some.injEq] at found
        subst found
        refine ⟨⟨turn, by simp, reported, rfl⟩, fun earlier member _ => ?_⟩
        rcases List.mem_append.mp member with old | new
        · exact ordered earlier old
        · rw [List.mem_singleton.mp new]
    | false =>
        rw [reported, if_neg Bool.false_ne_true] at found
        obtain ⟨⟨newest, inside, scoring, at_last⟩, bound⟩ := known.reported time found
        refine ⟨⟨newest, List.mem_append_left _ inside, scoring, at_last⟩,
          fun earlier member scored => ?_⟩
        rcases List.mem_append.mp member with old | new
        · exact bound earlier old scored
        · rw [List.mem_singleton.mp new, reported] at scored
          cases scored

end Step

/-- With room for every source, what is known of one is told by its own calls. -/
theorem known_ownTurns {calls : List Call} (ordered : InOrder calls)
    (few : (senders cfg calls).toFinset.card ≤ room cfg) (source : String) :
    Known cfg (ownTurns cfg source calls) (entryOf cfg (calls.filter (own cfg source))) := by
  induction calls using List.reverseRecOn with
  | nil => exact known_nil cfg
  | append_singleton calls last ih =>
      obtain ⟨begun, across⟩ := ordered.init
      have before := (card_senders_le last).trans few
      have known := ih begun before
      rw [ownTurns_concat, filter_own_concat]
      cases owned : own cfg source last with
      | false =>
          rw [if_neg Bool.false_ne_true, if_neg Bool.false_ne_true, List.append_nil,
            List.append_nil]
          exact known
      | true =>
          rw [if_pos rfl, if_pos rfl, entryOf_concat]
          apply known.concat (final cfg calls, last) (reply_of_own (separate_of_few before) owned)
          intro earlier member
          exact across _ (of_mem_turns (List.mem_filter.mp member).1).1

def Exceeds (cfg : GTPUSourceFloodConfig) (window : List Turn) : Prop :=
  (0 < cfg.packetsPerSecond.toNat ∧ cfg.packetsPerSecond.toNat ≤ window.length) ∨
    (0 < cfg.distinctTunnels ∧
      cfg.distinctTunnels ≤ min (tunnelLimit cfg) (distinctTunnels window))

theorem reached_iff {window : SourceWindow} {turns : List Turn} (counts : Counts cfg window turns)
    (bounded : turns.length < 2 ^ 32) :
    reached (effective cfg) window = true ↔ Exceeds cfg turns := by
  have packets : window.packets.toNat = turns.length := by
    rw [counts.packets, UInt32.toNat_ofNat']
    exact Nat.mod_eq_of_lt bounded
  have size : window.teids.size = min (tunnelLimit cfg) (distinctTunnels turns) := counts.teids.size
  have rate : (effective cfg).packetsPerSecond = cfg.packetsPerSecond := rfl
  have tunnels : (effective cfg).distinctTunnels = cfg.distinctTunnels := rfl
  rw [reached, Exceeds, size, rate, tunnels, ← packets]
  split
  · rename_i fast
    rw [gt_iff_lt, ge_iff_le, UInt32.lt_iff_toNat_lt, UInt32.le_iff_toNat_le] at fast
    exact iff_of_true rfl (.inl fast)
  · rename_i slow
    rw [gt_iff_lt, ge_iff_le, UInt32.lt_iff_toNat_lt, UInt32.le_iff_toNat_le] at slow
    rw [decide_eq_true_iff]
    exact (or_iff_right slow).symm

/-- The answer to a packet is that of the reference: the counts of its window, and
a score if they reach a threshold and the source was not reported within the
cooldown. -/
def AnswersReference (cfg : GTPUSourceFloodConfig) (past : List Turn) (turn : Turn) : Prop :=
  ∃ earlier window, Cut (stale cfg) (past ++ [turn]) (earlier ++ [window]) ∧
    (window.length < 2 ^ 32 →
      (replyOf turn).2.packetsInWindow.toNat = window.length ∧
      (replyOf turn).2.distinctTunnels = min (tunnelLimit cfg) (distinctTunnels window) ∧
      (fired turn = true ↔ Exceeds cfg window ∧ ∀ before ∈ past, fired before = true →
        (effective cfg).cooldown ≤ turn.2.now - before.2.now))

section Held

variable {source : String} {calls : List Call} {last : Call}

theorem crosses_held (owned : own cfg source last = true) :
    crosses (final cfg calls, last) =
      reached (effective cfg)
        (counting (effective cfg) ((final cfg calls).sources.lookup source) last) := by
  rw [crosses, reply_of_held owned, report, final_cfg]
  rfl

theorem score_of_reply {turn : Turn} {score : ThreatScoreEvent}
    (scored : (replyOf turn).1 = some score) :
    score.sourceIP = turn.2.event.sourceIP ∧ score.teid = 0 := by
  cases taken : takes turn.1.cfg turn.2.event with
  | false =>
      rw [replyOf, evaluate_of_other _ taken] at scored
      cases scored
  | true =>
      rw [(evaluate_of_taken taken).1, replyTo] at scored
      dsimp only at scored
      split at scored
      · cases scored
        exact ⟨rfl, rfl⟩
      · cases scored

theorem final_nil_lookup (cfg : GTPUSourceFloodConfig) (source : String) :
    (final cfg []).sources.lookup source = none :=
  Std.ExtTreeMap.getElem?_empty

theorem fired_of_lastFired {time : Time}
    (found : ((final cfg calls).sources.lookup source).bind (fun window => window.lastFired) =
      some time) :
    ∃ turn ∈ ownTurns cfg source calls, fired turn = true ∧ turn.2.now = time := by
  induction calls using List.reverseRecOn with
  | nil =>
      rw [final_nil_lookup] at found
      cases found
  | append_singleton calls last ih =>
      have earlier : ((final cfg calls).sources.lookup source).bind
          (fun window => window.lastFired) = some time →
          ∃ turn ∈ ownTurns cfg source (calls ++ [last]), fired turn = true ∧
            turn.2.now = time := by
        intro old
        obtain ⟨turn, member, scored, same⟩ := ih old
        rw [ownTurns_concat]
        exact ⟨turn, List.mem_append_left _ member, scored, same⟩
      rw [lookup_concat] at found
      cases owned : own cfg source last with
      | true =>
          have scored := fired_eq (final cfg calls, last) (reply_of_held owned)
          rw [owned, if_pos rfl, Option.bind_some, visited_lastFired] at found
          split at found
          · rename_i fires
            cases found
            refine ⟨(final cfg calls, last), ?_, scored.trans fires, rfl⟩
            simp [ownTurns_concat, owned]
          · exact earlier found
      | false =>
          rw [owned, if_neg Bool.false_ne_true] at found
          split at found
          · cases found
          · exact earlier found

theorem cooldown_pos (cfg : GTPUSourceFloodConfig) : 0 < (effective cfg).cooldown :=
  orDefault_pos cfg.cooldown defaultCooldown (by decide)

theorem fired_of_reached (owned : own cfg source last = true)
    (above : reached (effective cfg)
      (counting (effective cfg) ((final cfg calls).sources.lookup source) last) = true) :
    ∃ turn ∈ ownTurns cfg source (calls ++ [last]), fired turn = true ∧
      last.now - turn.2.now < (effective cfg).cooldown := by
  have scored := fired_eq (final cfg calls, last) (reply_of_held owned)
  rw [fires, above, Bool.true_and, SourceWindow.cooling, counting_lastFired] at scored
  rw [ownTurns_concat, owned, if_pos rfl]
  cases held : ((final cfg calls).sources.lookup source).bind (fun window => window.lastFired) with
  | none =>
      rw [held] at scored
      exact ⟨(final cfg calls, last), by simp, scored, by simpa using cooldown_pos cfg⟩
  | some time =>
      rw [held] at scored
      by_cases early : last.now - time < (effective cfg).cooldown
      · obtain ⟨turn, member, reported, rfl⟩ := fired_of_lastFired held
        exact ⟨turn, List.mem_append_left _ member, reported, early⟩
      · exact ⟨(final cfg calls, last), by simp, by simpa [early] using scored,
          by simpa using cooldown_pos cfg⟩

end Held

end Reference

/-- The sources of a run have nothing to do with one another. -/
structure Separated (cfg : GTPUSourceFloodConfig) (calls : List Call) : Prop where
  /-- The answers to a source are those of a run on its packets alone. -/
  alone : ∀ source, repliesTo cfg source calls =
    (run cfg (calls.filter (own cfg source))).map replyOf
  /-- They are the answers of the reference. -/
  counted : ∀ source, Throughout (AnswersReference cfg) (ownTurns cfg source calls)
  /-- Events that are no packets of a tunnel get none. -/
  others : ∀ turn ∈ run cfg calls, takes (effective cfg) turn.2.event = false →
    replyOf turn = (none, ⟨0, 0⟩)

theorem answersReference {cfg : GTPUSourceFloodConfig} {past : List Turn}
    {entry : Option SourceWindow} (known : Known cfg past entry) {turn : Turn}
    (answer : replyOf turn = replyTo (effective cfg) entry turn.2) :
    AnswersReference cfg past turn := by
  have counts := known.counting_counts turn
  obtain ⟨earlier, cut⟩ : ∃ earlier, Cut (stale cfg) (past ++ [turn])
      (earlier ++ [openWindow (stale cfg) (past ++ [turn])]) := cut_openWindow (by simp)
  refine ⟨earlier, _, cut, fun bounded => ⟨?_, ?_, ?_⟩⟩
  · rw [answer, replyTo, counts.packets, UInt32.toNat_ofNat']
    exact Nat.mod_eq_of_lt bounded
  · rw [answer]
    exact counts.teids.size
  · rw [known.fired_iff turn answer, reached_iff counts bounded]

theorem known_throughout {cfg : GTPUSourceFloodConfig} {calls : List Call} (ordered : InOrder calls)
    (few : (senders cfg calls).toFinset.card ≤ room cfg) (source : String) :
    Throughout (fun past turn => ∃ entry, Known cfg past entry ∧
      replyOf turn = replyTo (effective cfg) entry turn.2) (ownTurns cfg source calls) := by
  apply throughout_filter_turns
  intro past last rest split owned
  have before : (senders cfg past).toFinset.card ≤ room cfg := by
    apply (Finset.card_le_card _).trans few
    intro other
    rw [split, List.mem_toFinset, List.mem_toFinset, senders, senders, List.filter_append,
      List.map_append, List.mem_append]
    exact .inl
  exact ⟨_, known_ownTurns (ordered.upTo split).init.1 before source,
    reply_of_own (separate_of_few before) owned⟩

theorem sources_are_separate {cfg : GTPUSourceFloodConfig} {calls : List Call}
    (ordered : InOrder calls) (few : (senders cfg calls).toFinset.card ≤ room cfg) :
    Separated cfg calls := by
  constructor
  · intro source
    rw [repliesTo_filter few, repliesTo, ownTurns_filter]
  · intro source past turn rest split
    obtain ⟨entry, known, answer⟩ := known_throughout ordered few source past turn rest split
    exact answersReference known answer
  · intro turn member other
    rw [replyOf, evaluate_of_other _ (by rw [cfg_of_mem cfg calls member, other])]

def packetOf (source : String) (teid : UInt32) (now : Time) : Call :=
  ⟨{ GTPUFloodDetector.floodOf teid with sourceIP := source }, now⟩

def twoSources : GTPUSourceFloodConfig := ⟨true, 2, 0, second, 30 * second, 2, 0⟩

def interleaved : List Call :=
  [packetOf "10.42.0.7" 1 0, packetOf "10.42.0.9" 1 0, packetOf "10.42.0.9" 2 (second - 1),
    packetOf "10.42.0.7" 2 second, packetOf "10.42.0.7" 1 second]

theorem interleaved_inOrder : InOrder interleaved := by
  unfold InOrder
  decide

/-- Two peers in turn: the second packet of one falls into its window, that of the
other starts a new one. -/
theorem interleaved_sources_are_separate :
    InOrder interleaved ∧ (senders twoSources interleaved).toFinset.card ≤ room twoSources ∧
      Separated twoSources interleaved ∧
      (run twoSources interleaved).map fired = [false, false, true, false, true] :=
  have few : (senders twoSources interleaved).toFinset.card ≤ room twoSources := by decide +kernel
  ⟨interleaved_inOrder, few, sources_are_separate interleaved_inOrder few, by decide +kernel⟩

end GTPUSourceFloodDetector

end Sentinel5G.Detect
