import Sentinel5G.Detect.SourceFlood
import Sentinel5G.Ingestion.Batching

/-! What becomes of the scores when the bus refuses some of them. A detector starts
its cooldown when it hands a score over, so a score that is not published is not
tried again before the cooldown is over. -/

namespace Sentinel5G.Ingestion

open Base Api Ebpf Controller Detect

inductive Rule
  | tunnel
  | source

/-- What a score of the rule is about: a tunnel, or a peer as a whole. -/
def Rule.keyOf : Rule → NormalizedEvent → TunnelID
  | .tunnel, event => ⟨event.sourceIP, event.teid⟩
  | .source, event => ⟨event.sourceIP, 0⟩

def scoreKey (score : ThreatScoreEvent) : TunnelID := ⟨score.sourceIP, score.teid⟩

namespace Detectors

def scoreBy : Rule → Detectors → Call → Option ThreatScoreEvent
  | .tunnel, detectors, call =>
      detectors.tunnelFlood.bind (fun detector => (detector.evaluate call.event call.now).1)
  | .source, detectors, call =>
      detectors.sourceFlood.bind (fun detector => (detector.evaluate call.event call.now).1)

def cooldownOf : Rule → Detectors → Option Duration
  | .tunnel, detectors => detectors.tunnelFlood.map (fun detector => detector.cfg.cooldown)
  | .source, detectors => detectors.sourceFlood.map (fun detector => detector.cfg.cooldown)

/-- The tunnel of the event, or its source with this event, is at or above the
threshold. -/
def Above : Rule → Detectors → Call → Prop
  | .tunnel, detectors, call =>
      ∃ detector ∈ detectors.tunnelFlood, detector.Armed ∧ detector.Floods call.event
  | .source, detectors, call =>
      ∃ detector ∈ detectors.sourceFlood,
        GTPUSourceFloodDetector.takes detector.cfg call.event = true ∧
          GTPUSourceFloodDetector.crosses (detector, call) = true

end Detectors

namespace Publisher

variable (publisher : Publisher)

abbrev Turn := PublisherState × (Wake × Link)

def next (state : PublisherState) : Wake × Link → PublisherState
  | (.event arrival, link) => (publisher.receive link state arrival).2
  | (.tick, link) => { state with batch := (publisher.flush link state.batch).2 }
  | (.closed, _) => state
  | (.cancelled, _) => state

def sent : Turn → List Message
  | (state, .event arrival, link) => (publisher.receive link state arrival).1
  | (state, .tick, link) => (publisher.flush link state.batch).1
  | (state, .closed, link) => (publisher.flush link state.batch).1
  | (state, .cancelled, link) => (publisher.flush link state.batch).1

/-- The wake-ups until the loop returns. -/
def handled : List (Wake × Link) → List (Wake × Link)
  | [] => []
  | (.event arrival, link) :: rest => (.event arrival, link) :: handled rest
  | (.tick, link) :: rest => (.tick, link) :: handled rest
  | (.closed, link) :: _ => [(.closed, link)]
  | (.cancelled, link) :: _ => [(.cancelled, link)]

theorem loop_eq (state : PublisherState) (wakes : List (Wake × Link)) :
    publisher.loop state wakes =
      (turns publisher.next state (handled wakes)).flatMap publisher.sent := by
  induction wakes generalizing state with
  | nil => rfl
  | cons wake rest ih =>
      obtain ⟨wake, link⟩ := wake
      cases wake with
      | event arrival => rw [loop, ih, handled, turns, List.flatMap_cons, sent, next]
      | tick => rw [loop, ih, handled, turns, List.flatMap_cons, sent, next]
      | closed => rw [loop, handled, turns, turns, List.flatMap_singleton, sent]
      | cancelled => rw [loop, handled, turns, turns, List.flatMap_singleton, sent]

/-- The event of a wake-up as the detectors see it: not at all while the bus is not
connected. -/
def evaluated : Wake × Link → Option Call
  | (.event arrival, link) =>
      if link.connected then some ⟨arrival.normalized publisher.nodeName, arrival.now⟩ else none
  | _ => none

def attempt (rule : Rule) (turn : Turn) : Option ThreatScoreEvent :=
  (publisher.evaluated turn.2).bind (turn.1.detectors.scoreBy rule)

def Publishes (key : TunnelID) (turn : Turn) : Prop :=
  ∃ score, (⟨publisher.threatsSubject, .score score⟩ : Message) ∈ publisher.sent turn ∧
    scoreKey score = key

def Fails (rule : Rule) (key : TunnelID) (turn : Turn) : Prop :=
  ∃ score, publisher.attempt rule turn = some score ∧ scoreKey score = key ∧
    turn.2.2.accepts ⟨publisher.threatsSubject, .score score⟩ = false

/-- With every event at or above a threshold: the tunnel or peer was published
within the cooldown, or is being published and that fails. -/
def Delivered (past : List Turn) (turn : Turn) : Prop :=
  ∀ rule call cooldown, publisher.evaluated turn.2 = some call →
    turn.1.detectors.Above rule call → turn.1.detectors.cooldownOf rule = some cooldown →
    (∃ earlier ∈ past ++ [turn], ∃ before, publisher.evaluated earlier.2 = some before ∧
      publisher.Publishes (rule.keyOf call.event) earlier ∧
      call.now - cooldown < before.now ∧ before.now ≤ call.now) ∨
    publisher.Fails rule (rule.keyOf call.event) turn

/-- No event at or above a threshold comes within the cooldown of a failed
publication about the same tunnel or peer. -/
def Spared (past : List Turn) (turn : Turn) : Prop :=
  ∀ rule call cooldown, publisher.evaluated turn.2 = some call →
    turn.1.detectors.Above rule call → turn.1.detectors.cooldownOf rule = some cooldown →
    ∀ earlier ∈ past, ∀ before, publisher.evaluated earlier.2 = some before →
      publisher.Fails rule (rule.keyOf call.event) earlier → cooldown ≤ call.now - before.now

variable {publisher}

theorem evaluateTunnelFlood_eq (link : Link) (detectors : Detectors) (event : NormalizedEvent)
    (now : Time) :
    publisher.evaluateTunnelFlood link detectors event now =
      ((detectors.scoreBy .tunnel ⟨event, now⟩).toList.flatMap
          (link.publishThreatScore publisher.threatsSubject),
        { detectors with
          tunnelFlood := detectors.tunnelFlood.map
            (fun detector => detector.after ⟨event, now⟩) }) := by
  obtain ⟨tunnelFlood, sourceFlood⟩ := detectors
  cases tunnelFlood with
  | none => rfl
  | some detector =>
      rw [evaluateTunnelFlood]
      rcases outcome : detector.evaluate event now with ⟨score, after⟩
      cases score <;> simp [Detectors.scoreBy, GTPUFloodDetector.after, outcome]

theorem evaluateSourceFlood_eq (link : Link) (detectors : Detectors) (event : NormalizedEvent)
    (now : Time) :
    publisher.evaluateSourceFlood link detectors event now =
      ((detectors.scoreBy .source ⟨event, now⟩).toList.flatMap
          (link.publishThreatScore publisher.threatsSubject),
        { detectors with
          sourceFlood := detectors.sourceFlood.map
            (fun detector => detector.after ⟨event, now⟩) }) := by
  obtain ⟨tunnelFlood, sourceFlood⟩ := detectors
  cases sourceFlood with
  | none => rfl
  | some detector =>
      rw [evaluateSourceFlood]
      rcases outcome : detector.evaluate event now with ⟨score, observed, after⟩
      cases score <;> simp [Detectors.scoreBy, GTPUSourceFloodDetector.after, outcome]

theorem receive_eq {link : Link} {state : PublisherState} {arrival : Arrival} {call : Call}
    (seen : publisher.evaluated (.event arrival, link) = some call) :
    (∀ rule, ∀ score ∈ state.detectors.scoreBy rule call,
      ∀ message ∈ link.publishThreatScore publisher.threatsSubject score,
        message ∈ (publisher.receive link state arrival).1) ∧
      (publisher.receive link state arrival).2.detectors =
        ⟨state.detectors.tunnelFlood.map (fun detector => detector.after call),
          state.detectors.sourceFlood.map (fun detector => detector.after call)⟩ := by
  rw [evaluated] at seen
  split at seen
  · rename_i connected
    cases seen
    rw [receive, if_pos connected]
    simp only [evaluateTunnelFlood_eq, evaluateSourceFlood_eq]
    refine ⟨fun rule score handed message published => ?_, trivial⟩
    rw [List.mem_append, List.mem_append, List.mem_flatMap, List.mem_flatMap]
    cases rule with
    | tunnel => exact .inl (.inl ⟨score, Option.mem_toList.mpr handed, published⟩)
    | source => exact .inl (.inr ⟨score, Option.mem_toList.mpr handed, published⟩)
  · cases seen

theorem receive_unseen {link : Link} (state : PublisherState) {arrival : Arrival}
    (unseen : publisher.evaluated (.event arrival, link) = none) :
    (publisher.receive link state arrival).2 = state := by
  rw [evaluated] at unseen
  split at unseen
  · cases unseen
  · rename_i disconnected
    rw [receive, if_neg disconnected]

theorem next_detectors (state : PublisherState) (move : Wake × Link) :
    (publisher.next state move).detectors =
      (publisher.evaluated move).elim state.detectors (fun call =>
        ⟨state.detectors.tunnelFlood.map (fun detector => detector.after call),
          state.detectors.sourceFlood.map (fun detector => detector.after call)⟩) := by
  obtain ⟨wake, link⟩ := move
  cases wake with
  | event arrival =>
      cases seen : publisher.evaluated (.event arrival, link) with
      | none => rw [next, receive_unseen state seen, Option.elim_none]
      | some call => rw [next, (receive_eq seen).2, Option.elim_some]
  | tick => rfl
  | closed => rfl
  | cancelled => rfl

theorem tunnel_component (publisher : Publisher) :
    Component publisher.next GTPUFloodDetector.after publisher.evaluated
      (fun state => state.detectors.tunnelFlood) := by
  intro state move
  dsimp only
  rw [next_detectors]
  cases publisher.evaluated move <;> rfl

theorem source_component (publisher : Publisher) :
    Component publisher.next GTPUSourceFloodDetector.after publisher.evaluated
      (fun state => state.detectors.sourceFlood) := by
  intro state move
  dsimp only
  rw [next_detectors]
  cases publisher.evaluated move <;> rfl

theorem publishes_or_fails {rule : Rule} {turn : Turn} {score : ThreatScoreEvent}
    (handed : publisher.attempt rule turn = some score) :
    publisher.Publishes (scoreKey score) turn ∨ publisher.Fails rule (scoreKey score) turn := by
  cases answer : turn.2.2.accepts ⟨publisher.threatsSubject, .score score⟩ with
  | false => exact .inr ⟨score, handed, rfl, answer⟩
  | true =>
      left
      refine ⟨score, ?_, rfl⟩
      obtain ⟨state, wake, link⟩ := turn
      obtain ⟨call, seen, given⟩ := Option.bind_eq_some_iff.mp handed
      cases wake with
      | event arrival =>
          apply (receive_eq seen).1 rule score given
          rw [Link.publishThreatScore, Link.publish, answer, if_pos rfl]
          exact List.mem_singleton_self _
      | tick => cases seen
      | closed => cases seen
      | cancelled => cases seen

def Attempted (publisher : Publisher) (past : List Turn) (turn : Turn) : Prop :=
  ∀ rule call cooldown, publisher.evaluated turn.2 = some call →
    turn.1.detectors.Above rule call → turn.1.detectors.cooldownOf rule = some cooldown →
    ∃ earlier ∈ past ++ [turn], ∃ before score, publisher.evaluated earlier.2 = some before ∧
      publisher.attempt rule earlier = some score ∧ scoreKey score = rule.keyOf call.event ∧
      call.now - cooldown < before.now ∧ before.now ≤ call.now

theorem Attempted.delivered {past : List Turn} {turn : Turn}
    (attempted : publisher.Attempted past turn) (spared : publisher.Spared past turn) :
    publisher.Delivered past turn := by
  intro rule call cooldown seen above cooling
  obtain ⟨earlier, member, before, score, time, handed, about, recent, order⟩ :=
    attempted rule call cooldown seen above cooling
  rcases publishes_or_fails handed with published | failed
  · exact .inl ⟨earlier, member, before, time, about ▸ published, recent, order⟩
  · rw [about] at failed
    rcases List.mem_append.mp member with old | now
    · -- a score that failed so recently would have spared this event
      have due := spared rule call cooldown seen above cooling earlier old before time failed
      exact absurd (sub_lt_comm.mp recent) (not_lt.mpr due)
    · rw [List.mem_singleton.mp now] at failed
      exact .inr failed

def begin (tunnel : Option GTPUFloodConfig) (source : Option GTPUSourceFloodConfig) :
    PublisherState :=
  ⟨.make, ⟨tunnel.map newGTPUFloodDetector, source.map newGTPUSourceFloodDetector⟩⟩

theorem evaluated_concat {moves : List (Wake × Link)} {last : Wake × Link} {call : Call}
    (seen : publisher.evaluated last = some call) :
    (moves ++ [last]).filterMap publisher.evaluated = moves.filterMap publisher.evaluated ++
      [call] := by
  rw [filterMap_concat, seen, Option.toList_some]

theorem tunnel_reported {cfg : GTPUFloodConfig} {calls : List Call} {call : Call}
    (ordered : InOrder (calls ++ [call])) (armed : (GTPUFloodDetector.final cfg calls).Armed)
    (flood : (GTPUFloodDetector.final cfg calls).Floods call.event) :
    ∃ turn ∈ GTPUFloodDetector.run cfg (calls ++ [call]), ∃ score,
      GTPUFloodDetector.scoreOf turn = some score ∧
      scoreKey score = Rule.tunnel.keyOf call.event ∧
      call.now - (GTPUFloodDetector.final cfg calls).cfg.cooldown < turn.2.now ∧
      turn.2.now ≤ call.now := by
  have split : GTPUFloodDetector.run cfg (calls ++ [call]) =
      GTPUFloodDetector.run cfg calls ++ (GTPUFloodDetector.final cfg calls, call) :: [] :=
    turns_concat _ _ _
  rw [GTPUFloodDetector.Armed, GTPUFloodDetector.final_cfg] at armed
  obtain ⟨turn, member, reported, recent, order⟩ := GTPUFloodDetector.reported_at ordered split
    armed (GTPUFloodDetector.cooldown_pos cfg) flood
  rw [GTPUFloodDetector.reports, Option.any_eq_true] at reported
  obtain ⟨score, scored, about⟩ := reported
  rw [GTPUFloodDetector.final_cfg]
  exact ⟨turn, split ▸ member, score, scored, of_decide_eq_true about, recent, order⟩

theorem source_reported {cfg : GTPUSourceFloodConfig} {calls : List Call} {call : Call}
    (ordered : InOrder (calls ++ [call]))
    (taken : GTPUSourceFloodDetector.takes (GTPUSourceFloodDetector.final cfg calls).cfg
      call.event = true)
    (crossed : GTPUSourceFloodDetector.crosses (GTPUSourceFloodDetector.final cfg calls, call) =
      true) :
    ∃ turn ∈ GTPUSourceFloodDetector.run cfg (calls ++ [call]), ∃ score,
      (GTPUSourceFloodDetector.replyOf turn).1 = some score ∧
      scoreKey score = Rule.source.keyOf call.event ∧
      call.now - (GTPUSourceFloodDetector.final cfg calls).cfg.cooldown < turn.2.now ∧
      turn.2.now ≤ call.now := by
  rw [GTPUSourceFloodDetector.final_cfg] at taken ⊢
  have owned : GTPUSourceFloodDetector.own cfg call.event.sourceIP call = true := by
    simp [GTPUSourceFloodDetector.own, taken]
  rw [GTPUSourceFloodDetector.crosses_held owned] at crossed
  obtain ⟨turn, member, fired, recent⟩ := GTPUSourceFloodDetector.fired_of_reached owned crossed
  obtain ⟨inside, sender⟩ := List.mem_filter.mp member
  obtain ⟨score, scored⟩ := Option.isSome_iff_exists.mp fired
  obtain ⟨source, tunnel⟩ := GTPUSourceFloodDetector.score_of_reply scored
  rw [GTPUSourceFloodDetector.own, Bool.and_eq_true, decide_eq_true_iff] at sender
  refine ⟨turn, inside, score, scored, ?_, sub_lt_comm.mp recent, ?_⟩
  · rw [scoreKey, source, sender.2, tunnel, Rule.keyOf]
  · rcases List.mem_append.mp (of_mem_turns inside).1 with old | now
    · exact ordered.init.2 _ old
    · rw [List.mem_singleton.mp now]

/-- What a detector reports in its own run is handed over in the publisher's. -/
theorem handed_of_reported {D : Type} {after : D → Call → D} {held : PublisherState → Option D}
    (component : Component publisher.next after publisher.evaluated held) {start : PublisherState}
    {detector : D} (begun : held start = some detector) {rule : Rule}
    {score : D × Call → Option ThreatScoreEvent}
    (scores : ∀ state call current, held state = some current →
      state.detectors.scoreBy rule call = score (current, call))
    {moves : List (Wake × Link)} {last : Wake × Link} {call : Call}
    (seen : publisher.evaluated last = some call) {cooldown : Duration}
    (reported : ∃ turn ∈ turns after detector (moves.filterMap publisher.evaluated ++ [call]),
      ∃ found, score turn = some found ∧ scoreKey found = rule.keyOf call.event ∧
        call.now - cooldown < turn.2.now ∧ turn.2.now ≤ call.now) :
    ∃ earlier ∈ turns publisher.next start (moves ++ [last]), ∃ before found,
      publisher.evaluated earlier.2 = some before ∧ publisher.attempt rule earlier = some found ∧
      scoreKey found = rule.keyOf call.event ∧
      call.now - cooldown < before.now ∧ before.now ≤ call.now := by
  obtain ⟨turn, member, found, scored, about, recent, order⟩ := reported
  rw [← evaluated_concat seen] at member
  obtain ⟨outer, inside, time, view⟩ := component.turns_held start begun member
  refine ⟨outer, inside, turn.2, found, time, ?_, about, recent, order⟩
  rw [attempt, time, Option.bind_some, scores outer.1 turn.2 turn.1 view, scored]

theorem attempted_at {tunnel : Option GTPUFloodConfig} {source : Option GTPUSourceFloodConfig}
    {moves : List (Wake × Link)} {last : Wake × Link}
    (ordered : InOrder ((moves ++ [last]).filterMap publisher.evaluated)) :
    publisher.Attempted (turns publisher.next (begin tunnel source) moves)
      (runMoves publisher.next (begin tunnel source) moves, last) := by
  intro rule call cooldown seen above cooling
  rw [evaluated_concat seen] at ordered
  rw [← turns_concat]
  cases rule with
  | tunnel =>
      obtain ⟨detector, held, armed, flood⟩ := above
      have state := (tunnel_component publisher).runMoves_held (begin tunnel source) moves
      rw [Detectors.cooldownOf, held, Option.map_some, Option.some.injEq] at cooling
      rw [held] at state
      cases tunnel with
      | none => cases state
      | some cfg =>
          cases state
          rw [← cooling]
          apply handed_of_reported (tunnel_component publisher) rfl _ seen
            (tunnel_reported ordered armed flood)
          intro state call current view
          rw [Detectors.scoreBy, view]
          rfl
  | source =>
      obtain ⟨detector, held, taken, crossed⟩ := above
      have state := (source_component publisher).runMoves_held (begin tunnel source) moves
      rw [Detectors.cooldownOf, held, Option.map_some, Option.some.injEq] at cooling
      rw [held] at state
      cases source with
      | none => cases state
      | some cfg =>
          cases state
          rw [← cooling]
          apply handed_of_reported (source_component publisher) rfl _ seen
            (source_reported ordered taken crossed)
          intro state call current view
          rw [Detectors.scoreBy, view]
          rfl

/-- A publisher whose failed scores are followed by a cooldown of silence delivers
one for everything above a threshold. -/
theorem spared_floods_are_delivered (tunnel : Option GTPUFloodConfig)
    (source : Option GTPUSourceFloodConfig) {wakes : List (Wake × Link)}
    (ordered : InOrder ((handled wakes).filterMap publisher.evaluated))
    (spared : Throughout publisher.Spared
      (turns publisher.next (begin tunnel source) (handled wakes))) :
    Throughout publisher.Delivered
      (turns publisher.next (begin tunnel source) (handled wakes)) := by
  intro past turn rest split
  have spare := spared past turn rest split
  obtain ⟨moves, later, whole, rfl, state, -⟩ := turns_split split
  have upTo : InOrder ((moves ++ [turn.2]).filterMap publisher.evaluated) := by
    rw [whole, ← List.singleton_append, ← List.append_assoc, List.filterMap_append] at ordered
    exact (List.pairwise_append.mp ordered).1
  have attempted : publisher.Attempted _ (runMoves publisher.next (begin tunnel source) moves,
      turn.2) :=
    attempted_at upTo
  rw [← state] at attempted
  exact attempted.delivered spare

def refusing : Link := ⟨true, true, fun message => match message.payload with
  | .score _ => false
  | _ => true⟩

def thousandPackets : GTPUFloodConfig := ⟨true, 1000, 30 * second, 0⟩

def refusedOnce (later : Time) : List (Wake × Link) :=
  [(.event (burst "a" 0), refusing), (.event (burst "b" later), openLink)]

def refusedRun (later : Time) : List Turn :=
  turns pairwise.next (begin (some thousandPackets) none) (handled (refusedOnce later))

theorem refusedOnce_spared : Throughout pairwise.Spared (refusedRun (30 * second)) := by
  apply ((throughout_nil pairwise.Spared).concat _).concat
  · intro rule call cooldown seen _ cooling earlier member before time _
    cases seen
    cases List.mem_singleton.mp member
    cases time
    cases rule with
    | tunnel =>
        cases cooling
        decide
    | source => cases cooling
  · intro rule call cooldown _ _ _ earlier member
    cases member

theorem refused_score_is_tried_again :
    InOrder ((handled (refusedOnce (30 * second))).filterMap pairwise.evaluated) ∧
      Throughout pairwise.Spared (refusedRun (30 * second)) ∧
      Throughout pairwise.Delivered (refusedRun (30 * second)) ∧
      (refusedRun (30 * second)).map (fun turn => (scoresOf (pairwise.sent turn)).length) =
        [0, 1] := by
  have ordered : InOrder ((handled (refusedOnce (30 * second))).filterMap pairwise.evaluated) := by
    unfold InOrder
    decide
  exact ⟨ordered, refusedOnce_spared,
    spared_floods_are_delivered (some thousandPackets) none ordered refusedOnce_spared,
    by decide +kernel⟩

theorem mem_scoresOf {subject : String} {score : ThreatScoreEvent} {messages : List Message}
    (member : (⟨subject, .score score⟩ : Message) ∈ messages) : score ∈ scoresOf messages :=
  List.mem_flatMap.mpr ⟨_, member, List.mem_singleton_self score⟩

/-- A second after the refusal the flood goes on, and nothing is handed over. -/
theorem refused_score_is_not_tried_again :
    InOrder ((handled (refusedOnce second)).filterMap pairwise.evaluated) ∧
      ¬ Throughout pairwise.Delivered (refusedRun second) := by
  refine ⟨by unfold InOrder; decide, fun delivered => ?_⟩
  have held := (tunnel_component pairwise).runMoves_held (begin (some thousandPackets) none)
    [(.event (burst "a" 0), refusing)]
  have quiet : ∀ turn ∈ refusedRun second, (scoresOf (pairwise.sent turn)).isEmpty = true := by
    decide +kernel
  have silent : ((refusedRun second).drop 1).all
      (fun turn => (pairwise.attempt .tunnel turn).isNone) =
      true := by
    decide +kernel
  rcases delivered ((refusedRun second).take 1) _ [] rfl .tunnel _ _ rfl
    ⟨_, held, ⟨rfl, by decide⟩, by decide, by decide, by decide⟩ rfl with published | failed
  · obtain ⟨turn, member, -, -, ⟨score, sent, -⟩, -⟩ := published
    have empty := List.isEmpty_iff.mp (quiet turn member)
    rw [List.eq_nil_iff_forall_not_mem] at empty
    exact empty score (mem_scoresOf sent)
  · obtain ⟨score, handed, -⟩ := failed
    have none := List.all_eq_true.mp silent _ (List.mem_singleton_self _)
    rw [handed] at none
    cases none

end Publisher

end Sentinel5G.Ingestion
