import Sentinel5G.AiEngine.Worker
import Sentinel5G.Ingestion.Batching

/-! From events on the bus to scores on the bus, and back into the operator. What the
operator reads in a score is what the ingestion wrote into an event. -/

namespace Sentinel5G.AiEngine

open Base Program Api Events Controller

def unmarshalString : Json → Option String
  | .text value => some value
  | .null => some ""
  | _ => none

def unmarshalUint32 : Json → Option UInt32
  | .int value => if 0 ≤ value ∧ value < 2 ^ 32 then some (UInt32.ofNat value.toNat) else none
  | .null => some 0
  | _ => none

def ThreatResult.unmarshal (parseTime : String → Option Time) (result : ThreatResult) :
    Option ThreatScoreEvent := do
  let sourceEventID ← unmarshalString result.sourceEventId
  let ns ← unmarshalString result.ns
  let podName ← unmarshalString result.podName
  let sourceIP ← unmarshalString result.sourceIp
  let teid ← unmarshalUint32 result.teid
  let detectedAt ← parseTime result.detectedAt
  return ⟨sourceEventID, ns, podName, sourceIP, teid, result.score, result.model, detectedAt⟩

theorem unmarshalUint32_toNat (teid : UInt32) : unmarshalUint32 (.int teid.toNat) = some teid := by
  have bound := teid.toNat_lt
  rw [unmarshalUint32, if_pos ⟨by omega, by omega⟩, Int.toNat_natCast, UInt32.ofNat_toNat]

structure Worker where
  builtins : Builtins
  engine : ScoringEngine
  timeText : Time → String
  parseTime : String → Option Time

namespace Worker

variable (worker : Worker)

def json (event : Ingestion.NormalizedEvent) : Dict := normalizedEventJson worker.timeText event

def loads : Ingestion.Payload → Option Json
  | .event event => some (.object (worker.json event))
  | .batch events => some (.array ((events.map worker.json).map .object))
  | .score _ => none

def threats (script : Nat → Surroundings) (payload : Ingestion.Payload) : List ThreatScoreEvent :=
  match worker.loads payload with
  | none => []
  | some json =>
      (published worker.builtins worker.engine maxEventDeliveries script (.ok json)).filterMap
        (fun entry => entry.2.unmarshal worker.parseTime)

/-- The score is the engine's for the event, and names what the event names. -/
structure Speaks (event : Ingestion.NormalizedEvent) (score : ThreatScoreEvent) : Prop where
  sourceEventID : score.sourceEventID = event.eventID
  ns : score.ns = event.ns
  podName : score.podName = event.podName
  sourceIP : score.sourceIP = event.sourceIP
  teid : score.teid = event.teid
  score : scored worker.builtins worker.engine (worker.json event) = .ok score.score

variable {worker}

theorem unmarshal_of_scoreOf {event : Ingestion.NormalizedEvent} {result : ThreatResult}
    (about : ScoreOf worker.builtins worker.engine (worker.json event) result) :
    result.unmarshal worker.parseTime = (worker.parseTime result.detectedAt).map (fun time =>
      ⟨event.eventID, event.ns, event.podName, event.sourceIP, event.teid, result.score,
        result.model, time⟩) := by
  have id : result.sourceEventId = .text event.eventID := about.named _ rfl
  have ns : result.ns = .text event.ns := about.ns
  have podName : result.podName = .text event.podName := about.podName
  have sourceIp : result.sourceIp = .text event.sourceIP := about.sourceIp
  have teid : result.teid = .int event.teid.toNat := about.teid
  rw [ThreatResult.unmarshal, id, ns, podName, sourceIp, teid, unmarshalUint32_toNat]
  cases worker.parseTime result.detectedAt <;> rfl

theorem speaks_of_unmarshal {event : Ingestion.NormalizedEvent} {result : ThreatResult}
    {score : ThreatScoreEvent}
    (about : ScoreOf worker.builtins worker.engine (worker.json event) result)
    (read : result.unmarshal worker.parseTime = some score) : worker.Speaks event score := by
  rw [unmarshal_of_scoreOf about] at read
  obtain ⟨time, -, rfl⟩ := Option.map_eq_some_iff.mp read
  exact ⟨rfl, rfl, rfl, rfl, rfl, about.score⟩

theorem parseEventBatch_loads {payload : Ingestion.Payload} {json : Json}
    (loaded : worker.loads payload = some json) :
    parseEventBatch (.ok json) = .ok (payload.events.map worker.json) := by
  cases payload with
  | event event =>
      cases loaded
      rfl
  | batch events =>
      cases loaded
      exact parseEventBatch_array _
  | score score => cases loaded

end Worker

theorem exists_of_forall₂ {α β : Type} {related : α → β → Prop} {xs : List α} {ys : List β}
    (each : List.Forall₂ related xs ys) {y : β} (member : y ∈ ys) : ∃ x ∈ xs, related x y := by
  induction each with
  | nil => cases member
  | cons holds _ ih =>
      rcases List.mem_cons.mp member with rfl | later
      · exact ⟨_, List.mem_cons_self, holds⟩
      · obtain ⟨x, inside, found⟩ := ih later
        exact ⟨x, List.mem_cons_of_mem _ inside, found⟩

section Deliveries

variable (builtins : Builtins) (engine : ScoringEngine) (permits : Surroundings → Prop)

def Scores (payload : Dict) (result : ThreatResult) : Prop :=
  ScoreOf builtins engine payload result ∧ ∃ choice, permits choice ∧
    result.detectedAt = choice.time

def Faultless (payloads : List Dict) : Prop :=
  (∀ choice, permits choice → choice.publish = .ok ()) ∧
    ∀ payload ∈ payloads, ¬ Raises builtins engine payload

theorem buildThreatResult_scores (payload : Dict) (sent : Published) :
    (buildThreatResult builtins engine payload).Ends onBus (fun _ => permits)
      (fun outcome final => final = sent ∧
        ((∃ raised, outcome = .error raised) ∧ Raises builtins engine payload ∨
          ∃ result, outcome = .ok result ∧ Scores builtins engine permits payload result))
            sent := by
  intro choice _
  dsimp only [onBus, Program.bind]
  rw [scored_eq]
  cases outcome : scored builtins engine payload with
  | error raised => exact ⟨rfl, .inl ⟨⟨raised, rfl⟩, raised, outcome⟩⟩
  | ok score =>
      intro _ _ clock permitted
      refine ⟨rfl, .inr ⟨_, rfl, ⟨outcome, rfl, rfl, rfl, rfl, fun eventId given => ?_⟩,
        clock, permitted, rfl⟩⟩
      rw [given, Option.getD_some]

/-- What one delivery adds: the scores of the first events, in order, and of all of
them if nothing is at fault. -/
def Adds (payloads : List Dict) (sent final : Published) (finished : Prop) : Prop :=
  ∃ done results, done <+: payloads ∧ final.map Prod.snd = sent.map Prod.snd ++ results ∧
    List.Forall₂ (Scores builtins engine permits) done results ∧
    (Faultless builtins engine permits payloads → done = payloads ∧ finished)

theorem scoreAll_adds (rest : List Dict) (position : Nat) (sent : Published) :
    (scoreAll builtins engine position rest).Ends onBus (fun _ => permits)
      (fun outcome final => Adds builtins engine permits rest sent final (outcome = .ok ()))
      sent := by
  have stops : ∀ {rest final outcome}, ¬ Faultless builtins engine permits rest →
      Adds builtins engine permits rest final final outcome := fun fault =>
    ⟨[], [], List.nil_prefix, (List.append_nil _).symm, .nil, fun fine => absurd fine fault⟩
  induction rest generalizing position sent with
  | nil => exact ⟨[], [], List.nil_prefix, (List.append_nil _).symm, .nil, fun _ => ⟨rfl, rfl⟩⟩
  | cons payload rest ih =>
      refine Ends.bind ((buildThreatResult_scores builtins engine permits payload sent).mono
        fun outcome final built => ?_)
      obtain ⟨rfl, ⟨⟨raised, rfl⟩, raises⟩ | ⟨result, rfl, scores⟩⟩ := built
      · exact stops fun fine => fine.2 payload List.mem_cons_self raises
      · intro choice permitted
        cases published : choice.publish with
        | error raised =>
            rw [onBus, published]
            exact stops fun fine => by
              rw [fine.1 choice permitted] at published
              cases published
        | ok done =>
            rw [onBus, published]
            refine (ih (position + 1) (final ++ [(position, result)])).mono fun _ ended held => ?_
            obtain ⟨done, results, front, appended, each, whole⟩ := held
            refine ⟨payload :: done, result :: results, List.cons_prefix_cons.mpr ⟨rfl, front⟩,
              ?_, .cons scores each, fun fine => ?_⟩
            · rw [appended, List.map_append, List.append_assoc]
              rfl
            · obtain ⟨rfl, finished⟩ :=
                whole ⟨fine.1, fun other member => fine.2 other (List.mem_cons_of_mem _ member)⟩
              exact ⟨rfl, finished⟩

variable {builtins engine permits} {loaded : Except Raised Json} {payloads : List Dict}
  (parsed : parseEventBatch loaded = .ok payloads)

include parsed

theorem callback_adds (sent : Published) :
    (callback builtins engine loaded).Ends onBus (fun _ => permits)
      (fun verdict final => Adds builtins engine permits payloads sent final (verdict = .ack))
      sent := by
  rw [callback, handler, parsed]
  refine Ends.bind (Ends.bind ((scoreAll_adds builtins engine permits payloads 0 sent).mono
    fun outcome final held => ?_))
  obtain ⟨done, results, front, appended, each, whole⟩ := held
  cases outcome with
  | ok ended => exact ⟨done, results, front, appended, each, fun fine => ⟨(whole fine).1, rfl⟩⟩
  | error raised =>
      exact ⟨done, results, front, appended, each, fun fine => by cases (whole fine).2⟩

theorem published_justified (limit : Nat) (script : Nat → Surroundings) :
    ∀ result ∈ (published builtins engine limit script loaded).map Prod.snd,
      ∃ payload ∈ payloads, ScoreOf builtins engine payload result := by
  have step : ∀ current : Published,
      (∀ result ∈ current.map Prod.snd, ∃ payload ∈ payloads,
        ScoreOf builtins engine payload result) →
      (callback builtins engine loaded).Ends onBus (fun _ _ => True)
        (fun _ final => ∀ result ∈ final.map Prod.snd,
          ∃ payload ∈ payloads, ScoreOf builtins engine payload result) current := by
    intro current before
    refine (callback_adds parsed current).mono fun _ final held result member => ?_
    obtain ⟨done, results, front, appended, each, -⟩ := held
    rw [appended] at member
    rcases List.mem_append.mp member with old | new
    · exact before result old
    · obtain ⟨payload, inside, scores⟩ := exists_of_forall₂ each new
      exact ⟨payload, front.subset inside, scores.1⟩
  exact (deliver_ends onBus step limit (fun _ none => by cases none)).run
    (permits_of_forall _ _ fun _ _ => trivial)

theorem published_faultless (fine : Faultless builtins engine permits payloads) {limit : Nat}
    (delivered : 0 < limit) {script : Nat → Surroundings} (permitted : ∀ n, permits (script n)) :
    List.Forall₂ (Scores builtins engine permits) payloads
      ((published builtins engine limit script loaded).map Prod.snd) := by
  have ends : (consume builtins engine limit loaded).Ends onBus (fun _ => permits)
      (fun _ final => List.Forall₂ (Scores builtins engine permits) payloads
        (final.map Prod.snd)) [] := by
    obtain ⟨more, rfl⟩ := Nat.exists_eq_add_of_lt delivered
    rw [Nat.zero_add, consume, deliver]
    refine Ends.bind ((callback_adds parsed []).mono fun verdict final held => ?_)
    obtain ⟨done, results, -, appended, each, whole⟩ := held
    obtain ⟨rfl, rfl⟩ := whole fine
    change List.Forall₂ _ done (final.map Prod.snd)
    rw [appended]
    exact each
  exact ends.run (permits_of_forall _ _ fun _ => permitted)

end Deliveries

namespace Worker

variable (worker : Worker)

theorem speaks_of_mem (script : Nat → Surroundings) {payload : Ingestion.Payload}
    {score : ThreatScoreEvent} (member : score ∈ worker.threats script payload) :
    ∃ event ∈ payload.events, worker.Speaks event score := by
  rw [threats] at member
  split at member
  · cases member
  · rename_i json loaded
    obtain ⟨entry, inside, read⟩ := List.mem_filterMap.mp member
    obtain ⟨written, among, about⟩ := published_justified (parseEventBatch_loads loaded)
      maxEventDeliveries script entry.2 (List.mem_map_of_mem inside)
    obtain ⟨event, listed, rfl⟩ := List.mem_map.mp among
    exact ⟨event, listed, speaks_of_unmarshal about read⟩

def Undisturbed (choice : Surroundings) : Prop :=
  choice.publish = .ok () ∧ (worker.parseTime choice.time).isSome

theorem forall₂_unmarshal {events : List Ingestion.NormalizedEvent} {results : List ThreatResult}
    (each : List.Forall₂ (Scores worker.builtins worker.engine worker.Undisturbed)
      (events.map worker.json) results) :
    List.Forall₂ worker.Speaks events
      (results.filterMap (fun result => result.unmarshal worker.parseTime)) := by
  induction events generalizing results with
  | nil =>
      cases each
      exact .nil
  | cons event rest ih =>
      cases each with
      | cons scores later =>
          obtain ⟨about, choice, undisturbed, stamped⟩ := scores
          obtain ⟨time, known⟩ := Option.isSome_iff_exists.mp undisturbed.2
          have read := unmarshal_of_scoreOf about
          rw [stamped, known, Option.map_some] at read
          rw [List.filterMap_cons, read]
          exact .cons (speaks_of_unmarshal about read) (ih later)

/-- Across both encodings, all deliveries and all failures, a score that reaches the
operator is the engine's for one of the events, and names the source, the tunnel and
the Pod of that event; without failures there is one for each event, in order. -/
theorem scores_speak_of_events (script : Nat → Surroundings) (payload : Ingestion.Payload) :
    (∀ score ∈ worker.threats script payload, ∃ event ∈ payload.events, worker.Speaks event score) ∧
    ((∀ n, worker.Undisturbed (script n)) →
      (∀ event ∈ payload.events, ¬ Raises worker.builtins worker.engine (worker.json event)) →
      List.Forall₂ worker.Speaks payload.events (worker.threats script payload)) := by
  refine ⟨fun score member => worker.speaks_of_mem script member, fun undisturbed fine => ?_⟩
  rw [threats]
  cases loaded : worker.loads payload with
  | none =>
      cases payload with
      | score score => exact .nil
      | event event => cases loaded
      | batch events => cases loaded
  | some json =>
      have faultless : Faultless worker.builtins worker.engine worker.Undisturbed
          (payload.events.map worker.json) :=
        ⟨fun _ => And.left, List.forall_mem_map.mpr fine⟩
      have read := worker.forall₂_unmarshal (published_faultless (parseEventBatch_loads loaded)
        faultless (by decide : 0 < maxEventDeliveries) undisturbed)
      rwa [List.filterMap_map] at read

def tunnelEvent (teid : UInt32) : Ingestion.NormalizedEvent where
  eventID := "event"
  observedAt := 0
  ns := "core"
  podName := "upf-0"
  nodeName := "node-1"
  sourceIP := "10.0.0.1"
  destIP := "10.0.0.2"
  destPort := 2152
  protocol := .gtpu
  payloadSize := 64
  ratePerSecond := 0
  malformed := false
  vlanID := 0
  teid := teid
  tunnelRatePerSecond := 1

def certainWorker : Worker := ⟨lenientBuiltins, certainEngine, fun _ => "", fun _ => some 0⟩

theorem tunnelEvent_fine (teid : UInt32) :
    ¬ Raises certainWorker.builtins certainWorker.engine
      (certainWorker.json (tunnelEvent teid)) := by
  rintro ⟨raised, failed⟩
  have scores : scored certainWorker.builtins certainWorker.engine
      (certainWorker.json (tunnelEvent teid)) = .ok 1 := by
    rw [scored, json, fromDict_json]
    rfl
  rw [scores] at failed
  cases failed

theorem scores_speak_of_two_tunnels :
    (∀ n, certainWorker.Undisturbed (promptly n)) ∧
      List.Forall₂ certainWorker.Speaks [tunnelEvent 7, tunnelEvent 8]
        (certainWorker.threats promptly (.batch [tunnelEvent 7, tunnelEvent 8])) := by
  have undisturbed : ∀ n, certainWorker.Undisturbed (promptly n) := fun _ => ⟨rfl, rfl⟩
  refine ⟨undisturbed, (certainWorker.scores_speak_of_events promptly
    (.batch [tunnelEvent 7, tunnelEvent 8])).2 undisturbed fun event member => ?_⟩
  rcases List.mem_cons.mp member with rfl | last
  · exact tunnelEvent_fine 7
  · rw [List.mem_singleton.mp last]
    exact tunnelEvent_fine 8

end Worker

end Sentinel5G.AiEngine
