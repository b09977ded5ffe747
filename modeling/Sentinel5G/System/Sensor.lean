import Sentinel5G.Bpf.Emission
import Sentinel5G.Ingestion.Outgoing

/-! Capture and detection on one node: frames go through the kernel program, its
records wait in the ring buffers, and the publisher takes them out one by one. What
the detectors report was sent, whatever is lost on the way: entries of the maps,
records that found no room, and everything in memory when the process restarts. -/

namespace Sentinel5G.System

open Base Api Ebpf Controller Detect
open scoped List

/-- What the replica has at hand when it takes an event out of a ring buffer. -/
structure Reading where
  podIndex : PodIPIndex
  signalRate : Ingestion.SignalRateLookup
  eventID : String
  now : Time
  link : Ingestion.Link

structure SensorConfig where
  publisher : Ingestion.Publisher
  bootTime : Int
  tunnelFlood : GTPUFloodConfig
  sourceFlood : GTPUSourceFloodConfig

structure Sensor where
  rates : Bpf.Rates
  /-- What waits in the ring buffer of each family. -/
  rings : Bpf.Family → List Bpf.RingRecord
  publisher : Ingestion.PublisherState

namespace Sensor

inductive Move
  | frame (arrival : Bpf.Arrival)
  | evict (eviction : Bpf.Eviction)
  | read (family : Bpf.Family) (reading : Reading)
  | tick (link : Ingestion.Link)
  | restart

section Model

variable (cfg : SensorConfig)

def started : Sensor where
  rates := .empty
  rings := fun _ => []
  publisher := Ingestion.Publisher.begin (some cfg.tunnelFlood) (some cfg.sourceFlood)

/-- What the publisher wakes up for; a record that does not decode is skipped. -/
def wake (sensor : Sensor) : Move → Option (Ingestion.Wake × Ingestion.Link)
  | .read family reading =>
      ((sensor.rings family).head?.bind (fun record => (record.decode cfg.bootTime).toOption)).map
        (fun event => (.event ⟨event, reading.podIndex, reading.signalRate, reading.eventID,
          reading.now⟩, reading.link))
  | .tick link => some (.tick, link)
  | _ => none

def published (sensor : Sensor) (move : Move) : Ingestion.PublisherState :=
  (sensor.wake cfg move).elim sensor.publisher (cfg.publisher.next sensor.publisher)

def next (sensor : Sensor) (move : Move) : Sensor :=
  match move with
  | .frame arrival =>
      let verdict := arrival.verdict sensor.rates
      { sensor with
        rates := verdict.rates
        rings := fun family => sensor.rings family ++
          verdict.records.filter (fun record => decide (record.family = family)) }
  | .evict eviction => { sensor with rates := sensor.rates.evict eviction }
  | .read family _ =>
      { sensor with
        rings := Function.update sensor.rings family (sensor.rings family).tail
        publisher := sensor.published cfg move }
  | .tick _ => { sensor with publisher := sensor.published cfg move }
  | .restart => started cfg

def sent (turn : Sensor × Move) : List Ingestion.Message :=
  (turn.1.wake cfg turn.2).elim [] (fun woken => cfg.publisher.sent (turn.1.publisher, woken))

def call (turn : Sensor × Move) : Option Call :=
  (turn.1.wake cfg turn.2).bind cfg.publisher.evaluated

end Model

/-- A restart leaves nothing in the observation maps, like an eviction of everything. -/
def Move.moment : Move → Option Bpf.Moment
  | .frame arrival => some (.frame arrival)
  | .evict eviction => some (.evict eviction)
  | .restart => some (.evict (fun _ _ _ => false))
  | .read _ _ => none
  | .tick _ => none

def moments (moves : List Move) : List Bpf.Moment := moves.filterMap Move.moment

/-- The frames that came to the node. -/
def frames (moves : List Move) : List Bpf.Arrival := Bpf.arrivalsOf (moments moves)

def after (cfg : SensorConfig) (moves : List Move) : Sensor :=
  runMoves (next cfg) (started cfg) moves

section Kernel

variable {cfg : SensorConfig} {moves : List Move} {last : Move}

theorem after_concat : after cfg (moves ++ [last]) = (after cfg moves).next cfg last :=
  runMoves_concat _ _ _

theorem moments_concat : moments (moves ++ [last]) = moments moves ++ last.moment.toList :=
  filterMap_concat _ _ _

theorem frames_append (moves more : List Move) :
    frames (moves ++ more) = frames moves ++ frames more := by
  rw [frames, moments, List.filterMap_append, Bpf.arrivalsOf, List.filterMap_append]
  rfl

theorem filter_none {V : Type} (table : Std.ExtTreeMap Bytes V compare) :
    table.filter (fun _ _ => false) = ∅ := by
  ext key value
  simp

theorem evict_all (maps : Bpf.RateMaps) : maps.evict (fun _ _ => false) = .empty := by
  simp only [Bpf.RateMaps.evict, filter_none, Bpf.RateMaps.empty]

theorem rates_after (cfg : SensorConfig) (moves : List Move) :
    (after cfg moves).rates = Bpf.ratesAmid (moments moves) := by
  induction moves using List.reverseRecOn with
  | nil => rfl
  | append_singleton moves last ih =>
      rw [after_concat, moments_concat]
      cases last with
      | frame arrival =>
          rw [Move.moment, Option.toList_some, Bpf.ratesAmid, runMoves_concat, ← Bpf.ratesAmid,
            ← ih]
          rfl
      | evict eviction =>
          rw [Move.moment, Option.toList_some, Bpf.ratesAmid, runMoves_concat, ← Bpf.ratesAmid,
            ← ih]
          rfl
      | read family reading => exact ih.trans (congrArg _ (List.append_nil _).symm)
      | tick link => exact ih.trans (congrArg _ (List.append_nil _).symm)
      | restart =>
          rw [Move.moment, Option.toList_some, Bpf.ratesAmid, runMoves_concat, Bpf.Moment.next,
            Bpf.Rates.evict, evict_all, evict_all]
          rfl

theorem waiting_written (cfg : SensorConfig) (moves : List Move) (family : Bpf.Family) :
    ∀ record ∈ (after cfg moves).rings family, ∃ past arrival rest,
      moments moves = past ++ .frame arrival :: rest ∧
        record ∈ (arrival.verdict (Bpf.ratesAmid past)).records := by
  induction moves using List.reverseRecOn with
  | nil => exact fun record none => by cases none
  | append_singleton moves last ih =>
      have still : ∀ record ∈ (after cfg moves).rings family, ∃ past arrival rest,
          moments (moves ++ [last]) = past ++ .frame arrival :: rest ∧
            record ∈ (arrival.verdict (Bpf.ratesAmid past)).records := by
        intro record waits
        obtain ⟨past, arrival, rest, whole, writes⟩ := ih record waits
        exact ⟨past, arrival, rest ++ last.moment.toList, by rw [moments_concat, whole]; simp,
          writes⟩
      rw [after_concat]
      intro record waits
      cases last with
      | frame arrival =>
          rcases List.mem_append.mp waits with old | new
          · exact still record old
          · rw [rates_after] at new
            exact ⟨moments moves, arrival, [], moments_concat, List.mem_of_mem_filter new⟩
      | read other reading =>
          by_cases same : family = other
          · subst same
            dsimp only [next] at waits
            rw [Function.update_self] at waits
            exact still record (List.mem_of_mem_tail waits)
          · dsimp only [next] at waits
            rw [Function.update_of_ne same] at waits
            exact still record waits
      | evict eviction => exact still record waits
      | tick link => exact still record waits
      | restart => cases waits

end Kernel

section Detection

variable {cfg : SensorConfig} {moves : List Move} {last : Move}

theorem published_detectors (sensor : Sensor) (move : Move) :
    (sensor.published cfg move).detectors =
      (call cfg (sensor, move)).elim sensor.publisher.detectors (fun call =>
        ⟨sensor.publisher.detectors.tunnelFlood.map (fun detector => detector.after call),
          sensor.publisher.detectors.sourceFlood.map (fun detector => detector.after call)⟩) := by
  rw [published, call]
  cases sensor.wake cfg move with
  | none => rfl
  | some woken =>
      rw [Option.elim_some, Ingestion.Publisher.next_detectors, Option.bind_some]

theorem detector_after (cfg : SensorConfig) (moves : List Move) :
    ∃ detector, (after cfg moves).publisher.detectors.tunnelFlood = some detector ∧
      detector.cfg = (newGTPUFloodDetector cfg.tunnelFlood).cfg := by
  induction moves using List.reverseRecOn with
  | nil => exact ⟨_, rfl, rfl⟩
  | append_singleton moves last ih =>
      have woken : ∃ detector, ((after cfg moves).published cfg last).detectors.tunnelFlood =
          some detector ∧ detector.cfg = (newGTPUFloodDetector cfg.tunnelFlood).cfg := by
        obtain ⟨detector, known, same⟩ := ih
        rw [published_detectors]
        cases call cfg (after cfg moves, last) with
        | none => exact ⟨detector, known, same⟩
        | some seen =>
            refine ⟨detector.after seen, ?_, (detector.after_cfg seen).trans same⟩
            rw [Option.elim_some, known, Option.map_some]
      rw [after_concat]
      cases last with
      | frame arrival => exact ih
      | evict eviction => exact ih
      | read family reading => exact woken
      | tick link => exact woken
      | restart => exact ⟨_, rfl, rfl⟩

end Detection

/-- Packets of one tunnel, as many as the threshold says and each within a second of
the ones before it. -/
def TunnelFlooded (cfg : SensorConfig) (moves : List Move) (source : String) (teid : UInt32) :
    Prop :=
  ∃ family ip packets, IP.string ip = source ∧
    packets <:+: (frames moves).filter (fun arrival => arrival.counts family ip teid) ∧
    packets.Pairwise (fun earlier later =>
      later.env.now.toNat ≤ earlier.env.now.toNat + Bpf.signalingRateWindowNs.toNat) ∧
    0 < cfg.tunnelFlood.packetsPerSecond ∧
    cfg.tunnelFlood.packetsPerSecond.toNat ≤ packets.length

section Backing

variable {cfg : SensorConfig} {moves : List Move} {last : Move}

theorem read_of_call {sensor : Sensor} {move : Move} {seen : Call}
    (called : call cfg (sensor, move) = some seen) :
    ∃ family reading record event, move = .read family reading ∧
      (sensor.rings family).head? = some record ∧ record.decode cfg.bootTime = .ok event ∧
      seen.event = Ingestion.fromSignalingEvent event reading.podIndex reading.signalRate
        cfg.publisher.nodeName reading.eventID := by
  cases move with
  | frame arrival => cases called
  | evict eviction => cases called
  | tick link => cases called
  | restart => cases called
  | read family reading =>
      obtain ⟨woken, waking, evaluates⟩ := Option.bind_eq_some_iff.mp called
      obtain ⟨event, decodes, rfl⟩ := Option.map_eq_some_iff.mp waking
      obtain ⟨record, first, decoded⟩ := Option.bind_eq_some_iff.mp decodes
      have outcome : record.decode cfg.bootTime = .ok event := by
        cases result : record.decode cfg.bootTime with
        | error err =>
            rw [result] at decoded
            cases decoded
        | ok other =>
            rw [result] at decoded
            rw [Option.some.inj decoded]
      refine ⟨family, reading, record, event, rfl, first, outcome, ?_⟩
      rw [Ingestion.Publisher.evaluated] at evaluates
      split at evaluates
      · cases evaluates
        rfl
      · cases evaluates

theorem protocolFromSignal_gtpu {protocol : SignalProtocol}
    (gtpu : Ingestion.protocolFromSignal protocol = .gtpu) : protocol = Bpf.signalProtoGtpu := by
  rw [Ingestion.protocolFromSignal] at gtpu
  split at gtpu
  · assumption
  · split at gtpu
    · cases gtpu
    · split at gtpu <;> cases gtpu

/-- A score that is sent was found by one of the rules, in a call it was made for. -/
theorem call_of_score {sensor : Sensor} {move : Move} {message : Ingestion.Message}
    {score : ThreatScoreEvent} (member : message ∈ sent cfg (sensor, move))
    (payload : message.payload = .score score) :
    ∃ rule seen, call cfg (sensor, move) = some seen ∧
      sensor.publisher.detectors.scoreBy rule seen = some score := by
  rw [sent] at member
  cases waking : sensor.wake cfg move with
  | none =>
      rw [waking] at member
      cases member
  | some woken =>
      rw [waking] at member
      obtain ⟨rule, handed⟩ := Ingestion.Publisher.attempt_of_sent member payload
      obtain ⟨seen, evaluates, scored⟩ := Option.bind_eq_some_iff.mp handed
      refine ⟨rule, seen, ?_, scored⟩
      rw [call, waking]
      exact evaluates

theorem flood_of_score {detector : GTPUFloodDetector} {score : ThreatScoreEvent} {seen : Call}
    (scored : (detector.evaluate seen.event seen.now).1 = some score) :
    detector.Armed ∧ detector.Floods seen.event ∧
      score.sourceIP = seen.event.sourceIP ∧ score.teid = seen.event.teid := by
  have outcome := detector.evaluated seen.event seen.now
  generalize detector.evaluate seen.event seen.now = result at outcome scored
  cases outcome with
  | quiet calm => cases scored
  | cooling last flood known early => cases scored
  | again last flood known due =>
      cases scored
      exact ⟨flood.1, flood.2, rfl, rfl⟩
  | enter flood new =>
      cases scored
      exact ⟨flood.1, flood.2, rfl, rfl⟩

theorem scoreKey_of_scored {detectors : Ingestion.Detectors} {rule : Ingestion.Rule} {seen : Call}
    {score : ThreatScoreEvent} (scored : detectors.scoreBy rule seen = some score) :
    Ingestion.scoreKey score = rule.keyOf seen.event := by
  cases rule with
  | tunnel =>
      obtain ⟨detector, -, found⟩ := Option.bind_eq_some_iff.mp scored
      obtain ⟨-, -, source, teid⟩ := flood_of_score found
      rw [Ingestion.scoreKey, source, teid, Ingestion.Rule.keyOf]
  | source =>
      obtain ⟨detector, -, found⟩ := Option.bind_eq_some_iff.mp scored
      have reply : (GTPUSourceFloodDetector.replyOf (detector, seen)).1 = some score := found
      obtain ⟨source, teid⟩ := GTPUSourceFloodDetector.score_of_reply reply
      rw [Ingestion.scoreKey, source, teid, Ingestion.Rule.keyOf]

theorem written_of_waiting {family : Bpf.Family} {reading : Reading} {record : Bpf.RingRecord}
    (first : ((after cfg moves).rings family).head? = some record) :
    ∃ past arrival rest,
      frames (moves ++ [.read family reading]) = Bpf.arrivalsOf past ++ [arrival] ++ rest ∧
      record ∈ (arrival.verdict (Bpf.ratesAmid past)).records := by
  obtain ⟨past, arrival, rest, whole, emits⟩ :=
    waiting_written cfg moves family record (List.mem_of_mem_head? first)
  refine ⟨past, arrival, Bpf.arrivalsOf rest, ?_, emits⟩
  rw [frames, moments_concat, Move.moment, Option.toList_none, List.append_nil, whole,
    Bpf.arrivalsOf, List.filterMap_append, List.filterMap_cons, List.append_assoc]
  rfl

theorem tunnel_backed {score : ThreatScoreEvent} {seen : Call}
    (ordered : Bpf.InOrder (frames (moves ++ [last])))
    (called : call cfg (after cfg moves, last) = some seen)
    (scored : (after cfg moves).publisher.detectors.scoreBy .tunnel seen = some score) :
    TunnelFlooded cfg (moves ++ [last]) score.sourceIP score.teid := by
  obtain ⟨detector, known, same⟩ := detector_after cfg moves
  rw [Ingestion.Detectors.scoreBy, known, Option.bind_some] at scored
  obtain ⟨⟨-, set⟩, ⟨gtpu, tunneled, above⟩, named⟩ := flood_of_score scored
  obtain ⟨family, reading, record, event, rfl, first, decoded, about⟩ := read_of_call called
  rw [about] at gtpu tunneled above named
  obtain ⟨past, arrival, rest, whole, emits⟩ := written_of_waiting first
  have order : Bpf.InOrder (Bpf.arrivalsOf past ++ [arrival]) := by
    rw [whole] at ordered
    exact (List.pairwise_append.mp ordered).1
  obtain ⟨packets, sent, rate⟩ := Bpf.tunnel_attributed order emits decoded
    (protocolFromSignal_gtpu gtpu) tunneled
  have inside : packets <:+: (frames (moves ++ [.read family reading])).filter
      (fun arrival => arrival.counts record.family event.sourceIP event.teid) := by
    rw [whole, List.filter_append]
    exact sent.last.isInfix.trans (List.prefix_append _ _).isInfix
  have enough : cfg.tunnelFlood.packetsPerSecond.toNat ≤ packets.length := by
    have counted : cfg.tunnelFlood.packetsPerSecond.toNat ≤ event.tunnelRate.toNat := by
      have threshold : ((cfg.tunnelFlood.packetsPerSecond.toNat : Nat) : ℚ) ≤
          event.tunnelRate.toNat := by
        rw [same] at above
        exact above
      exact_mod_cast threshold
    rw [rate, UInt32.toNat_ofNat'] at counted
    exact counted.trans (Nat.mod_le _ _)
  rw [same] at set
  rw [named.1, named.2]
  exact ⟨record.family, event.sourceIP, packets, rfl, inside, sent.within,
    UInt32.pos_iff_ne_zero.mpr set, enough⟩

/-- A score that names a tunnel is backed by frames of it that came to the node. -/
theorem sent_backed {message : Ingestion.Message} {score : ThreatScoreEvent}
    (ordered : Bpf.InOrder (frames (moves ++ [last])))
    (member : message ∈ sent cfg (after cfg moves, last)) (payload : message.payload = .score score)
    (tunneled : score.teid ≠ 0) :
    TunnelFlooded cfg (moves ++ [last]) score.sourceIP score.teid := by
  obtain ⟨rule, seen, called, scored⟩ := call_of_score member payload
  cases rule with
  | tunnel => exact tunnel_backed ordered called scored
  | source => exact absurd (congrArg TunnelID.teid (scoreKey_of_scored scored)) tunneled

end Backing

end Sensor

end Sentinel5G.System
