import Sentinel5G.Detect.SourceFlood

/-! What it costs to forget a source. The map of the source detector holds counts
that are still running, so a source forgotten inside its window starts again from
zero; one forgotten later loses nothing but its cooldown. -/

namespace Sentinel5G.Detect

open Base Api Controller Ingestion

def SourceWindow.counts (window : SourceWindow) : Time × UInt32 × Std.ExtTreeSet UInt32 compare :=
  (window.start, window.packets, window.teids)

namespace GTPUSourceFloodDetector

/-- The other sources hide no flood: when a detector that sees the packets of one
source alone, and never has to forget it, finds a threshold reached, the source is
reported with this packet or was within the cooldown. -/
def FloodsShown (cfg : GTPUSourceFloodConfig) (calls : List Call) : Prop :=
  ∀ source past last rest, calls = past ++ last :: rest → own cfg source last = true →
    crosses (final cfg (past.filter (own cfg source)), last) = true →
    ∃ turn ∈ ownTurns cfg source (past ++ [last]), fired turn = true ∧
      last.now - turn.2.now < (effective cfg).cooldown

/-- A source is forgotten no earlier than a window after its window began. -/
def EvictsLate (turn : Turn) : Prop :=
  ∀ window ∈ turn.1.sources.lookup turn.1.sources.oldest,
    Evicts turn.1.sources.oldest turn → turn.1.cfg.window ≤ turn.2.now - window.start

instance (turn : Turn) : Decidable (EvictsLate turn) :=
  inferInstanceAs (Decidable (∀ window ∈ turn.1.sources.lookup turn.1.sources.oldest,
    Evicts turn.1.sources.oldest turn → turn.1.cfg.window ≤ turn.2.now - window.start))

/-- What the map knows of a source, and what it would if it never forgot it: the
same counts, or nothing about a window that has passed. -/
inductive Shadows (length : Duration) (now : Time) :
    Option SourceWindow → Option SourceWindow → Prop
  | unseen : Shadows length now none none
  | passed (alone : SourceWindow) (late : length ≤ now - alone.start) :
      Shadows length now none (some alone)
  | counted (held alone : SourceWindow) (same : held.counts = alone.counts) :
      Shadows length now (some held) (some alone)

section Counts

variable {cfg : GTPUSourceFloodConfig}

theorem Shadows.later {length : Duration} {now after : Time} {held alone : Option SourceWindow}
    (shadows : Shadows length now held alone) (order : now ≤ after) :
    Shadows length after held alone := by
  cases shadows with
  | unseen => exact .unseen
  | passed alone late => exact .passed alone (late.trans (sub_le_sub_right order _))
  | counted held alone same => exact .counted held alone same

theorem visited_counts (entry : Option SourceWindow) (call : Call) :
    (visited cfg entry call).counts = (counting cfg entry call).counts := by
  rw [visited]
  split <;> rfl

theorem reached_counts {first second : SourceWindow} (same : first.counts = second.counts) :
    reached cfg first = reached cfg second := by
  simp only [SourceWindow.counts, Prod.mk.injEq] at same
  rw [reached, reached, same.2.1, same.2.2]

theorem Shadows.counting {held alone : Option SourceWindow} {call : Call}
    (shadows : Shadows cfg.window call.now held alone) :
    (counting cfg held call).counts = (counting cfg alone call).counts := by
  cases shadows with
  | unseen => rfl
  | passed alone late =>
      simp only [GTPUSourceFloodDetector.counting, Option.getD_none, Option.getD_some,
        SourceWindow.rolled, ge_iff_le, late, if_true]
      split <;> rfl
  | counted held alone same =>
      simp only [SourceWindow.counts, Prod.mk.injEq] at same
      obtain ⟨start, packets, teids⟩ := same
      simp only [GTPUSourceFloodDetector.counting, Option.getD_some, SourceWindow.rolled,
        SourceWindow.counted, SourceWindow.counts, start]
      split <;> simp only [packets, teids, start]

/-- A source that is forgotten late, or not at all, stays what it would be. -/
theorem Shadows.forget {length : Duration} {now : Time} {held alone : Option SourceWindow}
    (shadows : Shadows length now held alone)
    (late : ∀ window ∈ held, length ≤ now - window.start) : Shadows length now none alone := by
  cases shadows with
  | unseen => exact .unseen
  | passed alone gone => exact .passed alone gone
  | counted held alone same =>
      have start : held.start = alone.start := congrArg Prod.fst same
      exact .passed alone (start ▸ late held rfl)

end Counts

section Step

variable {cfg : GTPUSourceFloodConfig} {source : String} {calls : List Call} {last : Call}

theorem Shadows.concat
    (shadows : Shadows (effective cfg).window last.now ((final cfg calls).sources.lookup source)
      (entryOf cfg (calls.filter (own cfg source))))
    (late : EvictsLate (final cfg calls, last)) :
    Shadows (effective cfg).window last.now ((final cfg (calls ++ [last])).sources.lookup source)
      (entryOf cfg ((calls ++ [last]).filter (own cfg source))) := by
  rw [lookup_concat, filter_own_concat]
  cases owned : own cfg source last with
  | true =>
      rw [if_pos rfl, if_pos rfl, entryOf_concat]
      apply Shadows.counted
      rw [visited_counts, visited_counts, shadows.counting]
  | false =>
      rw [if_neg Bool.false_ne_true, if_neg Bool.false_ne_true, List.append_nil]
      split
      · rename_i evicted
        apply shadows.forget
        intro window found
        have oldest : (final cfg calls).sources.oldest = source := evicted.2.2.2
        have passed := late window (by rw [oldest]; exact found) (by rw [oldest]; exact evicted)
        rwa [final_cfg] at passed
      · exact shadows

theorem shadows_of_late (ordered : InOrder calls) (late : ∀ turn ∈ run cfg calls, EvictsLate turn)
    (source : String) {now : Time} (reaches : ∀ call ∈ calls, call.now ≤ now) :
    Shadows (effective cfg).window now ((final cfg calls).sources.lookup source)
      (entryOf cfg (calls.filter (own cfg source))) := by
  induction calls using List.reverseRecOn generalizing now with
  | nil =>
      rw [final_nil_lookup]
      exact .unseen
  | append_singleton calls last ih =>
      rw [run_concat] at late
      have before := ih ordered.init.1
          (fun turn member => late turn (List.mem_append_left _ member))
        ordered.init.2
      exact (before.concat (late _ (by simp))).later (reaches last (by simp))

/-- On the packets of a source alone the counts are those of its own entry. -/
theorem crosses_alone (owned : own cfg source last = true) :
    crosses (final cfg (calls.filter (own cfg source)), last) =
      reached (effective cfg)
        (counting (effective cfg) (entryOf cfg (calls.filter (own cfg source))) last) := by
  rw [crosses_held owned, (separate_of_few (senders_filter cfg source calls)).known,
    List.filter_filter]
  simp only [Bool.and_self]

end Step

/-- As long as no source is forgotten inside its window, the bound on the sources
costs at most a second score. -/
theorem late_eviction_hides_no_flood {cfg : GTPUSourceFloodConfig} {calls : List Call}
    (ordered : InOrder calls) (late : ∀ turn ∈ run cfg calls, EvictsLate turn) :
    FloodsShown cfg calls := by
  intro source past last rest split owned crossed
  obtain ⟨before, across⟩ := (ordered.upTo split).init
  have shadows := shadows_of_late before (fun turn member => late turn (by
    rw [split, run, turns_append]
    exact List.mem_append_left _ member)) source across
  apply fired_of_reached owned
  rw [crosses_alone owned] at crossed
  rw [← crossed]
  exact reached_counts shadows.counting

def forgottenLate : List Call :=
  [packetOf "10.42.0.7" 1 0, packetOf "10.42.0.7" 2 0, packetOf "10.42.0.9" 1 0,
    packetOf "10.42.0.11" 1 second, packetOf "10.42.0.7" 1 second, packetOf "10.42.0.7" 2 second]

theorem late_eviction_costs_a_second_score :
    InOrder forgottenLate ∧ (∀ turn ∈ run twoSources forgottenLate, EvictsLate turn) ∧
      FloodsShown twoSources forgottenLate ∧
      (run twoSources forgottenLate).map fired = [false, true, false, false, false, true] := by
  have ordered : InOrder forgottenLate := by
    unfold InOrder
    decide
  have late : ∀ turn ∈ run twoSources forgottenLate, EvictsLate turn := by decide +kernel
  exact ⟨ordered, late, late_eviction_hides_no_flood ordered late, by decide +kernel⟩

def crowded : List Call :=
  [packetOf "10.42.0.7" 1 0, packetOf "10.42.0.9" 1 0, packetOf "10.42.0.11" 1 0,
    packetOf "10.42.0.7" 2 0]

/-- With room for two peers, a peer at its threshold of two packets is not reported
when two others send in between. -/
theorem crowded_out_flood_is_hidden :
    InOrder crowded ∧ ¬ FloodsShown twoSources crowded := by
  refine ⟨by unfold InOrder; decide, fun shown => ?_⟩
  obtain ⟨turn, member, scored, -⟩ :=
    shown "10.42.0.7" (crowded.take 3) (packetOf "10.42.0.7" 2 0) [] rfl (by decide +kernel)
      (by decide +kernel)
  have silent : ∀ turn ∈ ownTurns twoSources "10.42.0.7" crowded, fired turn = false := by
    decide +kernel
  rw [silent turn member] at scored
  cases scored

end GTPUSourceFloodDetector

end Sentinel5G.Detect
