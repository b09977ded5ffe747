import Sentinel5G.Base.Slice
import Sentinel5G.Detect.Gtpu

namespace Sentinel5G.Ingestion

open Base Api Ebpf Controller Detect

/-- A JetStream message, by what its payload encodes: an object, an array, or a score. -/
inductive Payload
  | event (event : NormalizedEvent)
  | batch (events : List NormalizedEvent)
  | score (score : ThreatScoreEvent)

structure Message where
  subject : String
  payload : Payload

/-- How the bus answers while one wake-up is handled. -/
structure Link where
  connected : Bool
  /-- The same question, asked again by a flush. -/
  connectedAtFlush : Bool
  accepts : Message → Bool

namespace Link

/-- What reaches the stream; a failed publish is logged and not retried. -/
def publish (link : Link) (message : Message) : List Message :=
  if link.accepts message then [message] else []

def publishNormalizedEvent (link : Link) (subject : String) (event : NormalizedEvent) :
    List Message :=
  link.publish ⟨subject, .event event⟩

def publishNormalizedEventBatch (link : Link) (subject : String) (batch : List NormalizedEvent) :
    List Message :=
  if batch.length = 0 then [] else link.publish ⟨subject, .batch batch⟩

def publishThreatScore (link : Link) (subject : String) (score : ThreatScoreEvent) :
    List Message :=
  link.publish ⟨subject, .score score⟩

end Link

structure Arrival where
  event : SignalingEvent
  podIndex : PodIPIndex
  signalRate : SignalRateLookup
  eventID : String
  now : Time

def Arrival.normalized (arrival : Arrival) (nodeName : String) : NormalizedEvent :=
  fromSignalingEvent arrival.event arrival.podIndex arrival.signalRate nodeName arrival.eventID

inductive Wake
  | event (arrival : Arrival)
  | closed
  | tick
  | cancelled

structure Detectors where
  tunnelFlood : Option GTPUFloodDetector
  sourceFlood : Option GTPUSourceFloodDetector

structure Publisher where
  nodeName : String
  subject : String
  threatsSubject : String
  batchSize : Int

structure PublisherState where
  batch : Slice NormalizedEvent
  detectors : Detectors

namespace Publisher

variable (publisher : Publisher)

def batchCap : Int := if publisher.batchSize < 1 then 1 else publisher.batchSize

def flush (link : Link) (batch : Slice NormalizedEvent) : List Message × Slice NormalizedEvent :=
  if batch.len = 0 then ([], batch)
  else if link.connectedAtFlush then
    (link.publishNormalizedEventBatch publisher.subject batch.items, batch.truncate)
  else ([], batch.truncate)

def evaluateTunnelFlood (link : Link) (detectors : Detectors) (normalized : NormalizedEvent)
    (now : Time) : List Message × Detectors :=
  match detectors.tunnelFlood with
  | none => ([], detectors)
  | some detector =>
      match detector.evaluate normalized now with
      | (none, after) => ([], { detectors with tunnelFlood := some after })
      | (some score, after) =>
          (link.publishThreatScore publisher.threatsSubject score,
            { detectors with tunnelFlood := some after })

def evaluateSourceFlood (link : Link) (detectors : Detectors) (normalized : NormalizedEvent)
    (now : Time) : List Message × Detectors :=
  match detectors.sourceFlood with
  | none => ([], detectors)
  | some detector =>
      match detector.evaluate normalized now with
      | (none, _, after) => ([], { detectors with sourceFlood := some after })
      | (some score, _, after) =>
          (link.publishThreatScore publisher.threatsSubject score,
            { detectors with sourceFlood := some after })

def telemetry (link : Link) (batch : Slice NormalizedEvent) (normalized : NormalizedEvent) :
    List Message × Slice NormalizedEvent :=
  if publisher.batchCap ≤ 1 then
    (link.publishNormalizedEvent publisher.subject normalized, batch)
  else
    let batch := batch.append normalized
    if (batch.len : Int) ≥ publisher.batchCap then publisher.flush link batch else ([], batch)

def receive (link : Link) (state : PublisherState) (arrival : Arrival) :
    List Message × PublisherState :=
  if link.connected then
    let normalized := arrival.normalized publisher.nodeName
    let (tunnel, seen) := publisher.evaluateTunnelFlood link state.detectors normalized arrival.now
    let (source, seen) := publisher.evaluateSourceFlood link seen normalized arrival.now
    let (events, batch) := publisher.telemetry link state.batch normalized
    (tunnel ++ source ++ events, ⟨batch, seen⟩)
  else ([], state)

def loop : PublisherState → List (Wake × Link) → List Message
  | _, [] => []
  | state, (.event arrival, link) :: rest =>
      (publisher.receive link state arrival).1 ++ loop (publisher.receive link state arrival).2 rest
  | state, (.closed, link) :: _ => (publisher.flush link state.batch).1
  | state, (.tick, link) :: rest =>
      (publisher.flush link state.batch).1 ++
        loop { state with batch := (publisher.flush link state.batch).2 } rest
  | state, (.cancelled, link) :: _ => (publisher.flush link state.batch).1

def start (detectors : Detectors) (stream : Except Err (List (Wake × Link))) :
    Except Err (List Message) :=
  match stream with
  | .error err => .error (err.wrap "start signaling event stream")
  | .ok wakes => .ok (publisher.loop ⟨.make, detectors⟩ wakes)

end Publisher

end Sentinel5G.Ingestion
