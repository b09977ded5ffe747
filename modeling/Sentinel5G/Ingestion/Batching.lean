import Sentinel5G.Ingestion.Publisher

namespace Sentinel5G.Ingestion

open Base Api Ebpf Controller Detect

def Payload.events : Payload → List NormalizedEvent
  | .event single => [single]
  | .batch events => events
  | .score _ => []

def Payload.scores : Payload → List ThreatScoreEvent
  | .score found => [found]
  | _ => []

def eventsOf (messages : List Message) : List NormalizedEvent :=
  messages.flatMap (fun message => message.payload.events)

def scoresOf (messages : List Message) : List ThreatScoreEvent :=
  messages.flatMap (fun message => message.payload.scores)

@[simp] theorem eventsOf_append (first second : List Message) :
    eventsOf (first ++ second) = eventsOf first ++ eventsOf second := List.flatMap_append

@[simp] theorem scoresOf_append (first second : List Message) :
    scoresOf (first ++ second) = scoresOf first ++ scoresOf second := List.flatMap_append

/-- The events received, up to the wake-up that ends the loop. -/
def received : List (Wake × Link) → List Arrival
  | [] => []
  | (.event arrival, _) :: rest => arrival :: received rest
  | (.tick, _) :: rest => received rest
  | (.closed, _) :: _ => []
  | (.cancelled, _) :: _ => []

def Terminates : List (Wake × Link) → Prop
  | [] => False
  | (.event _, _) :: rest => Terminates rest
  | (.tick, _) :: rest => Terminates rest
  | (.closed, _) :: _ => True
  | (.cancelled, _) :: _ => True

structure Link.Healthy (link : Link) : Prop where
  connected : link.connected = true
  connectedAtFlush : link.connectedAtFlush = true
  accepts : ∀ message, link.accepts message = true

theorem Link.Healthy.publish {link : Link} (healthy : link.Healthy) (message : Message) :
    link.publish message = [message] := by
  rw [Link.publish, healthy.accepts, if_pos rfl]

namespace Detectors

def observeTunnel (detectors : Detectors) (normalized : NormalizedEvent) (now : Time) :
    List ThreatScoreEvent × Detectors :=
  match detectors.tunnelFlood with
  | none => ([], detectors)
  | some detector =>
      ((detector.evaluate normalized now).1.toList,
        { detectors with tunnelFlood := some (detector.evaluate normalized now).2 })

def observeSource (detectors : Detectors) (normalized : NormalizedEvent) (now : Time) :
    List ThreatScoreEvent × Detectors :=
  match detectors.sourceFlood with
  | none => ([], detectors)
  | some detector =>
      ((detector.evaluate normalized now).1.toList,
        { detectors with sourceFlood := some (detector.evaluate normalized now).2.2 })

def observe (detectors : Detectors) (normalized : NormalizedEvent) (now : Time) :
    List ThreatScoreEvent × Detectors :=
  let tunnel := detectors.observeTunnel normalized now
  let source := tunnel.2.observeSource normalized now
  (tunnel.1 ++ source.1, source.2)

def report (nodeName : String) : Detectors → List Arrival → List ThreatScoreEvent
  | _, [] => []
  | detectors, arrival :: rest =>
      (detectors.observe (arrival.normalized nodeName) arrival.now).1 ++
        report nodeName (detectors.observe (arrival.normalized nodeName) arrival.now).2 rest

end Detectors

def Publisher.Within (publisher : Publisher) (batch : Slice NormalizedEvent) : Prop :=
  (batch.len : Int) < publisher.batchCap

namespace Publisher

variable (publisher : Publisher)

theorem batchCap_pos : 0 < publisher.batchCap := by
  rw [batchCap]
  split
  · exact Int.one_pos
  · omega

/-- Every batch among the messages has between one and `batchSize` events. -/
def Sized (messages : List Message) : Prop :=
  ∀ subject events, (⟨subject, .batch events⟩ : Message) ∈ messages →
    1 ≤ events.length ∧ (events.length : Int) ≤ publisher.batchSize

structure Carried (before : List NormalizedEvent)
    (outcome : List Message × Slice NormalizedEvent) : Prop where
  events : eventsOf outcome.1 ++ outcome.2.items = before
  sized : publisher.Sized outcome.1
  silent : scoresOf outcome.1 = []
  within : publisher.Within outcome.2

structure Scored (observed : List ThreatScoreEvent × Detectors)
    (outcome : List Message × Detectors) : Prop where
  scores : scoresOf outcome.1 = observed.1
  after : outcome.2 = observed.2
  quiet : eventsOf outcome.1 = []
  sized : publisher.Sized outcome.1

variable {publisher}

theorem Sized.append {first second : List Message} (left : publisher.Sized first)
    (right : publisher.Sized second) : publisher.Sized (first ++ second) := by
  intro subject events member
  exact (List.mem_append.mp member).elim (left subject events) (right subject events)

theorem sized_nil : publisher.Sized [] := fun _ _ member => by cases member

theorem Within.small {batch : Slice NormalizedEvent} (within : publisher.Within batch) :
    batch.len = 0 ∨ (batch.len : Int) ≤ publisher.batchSize := by
  rw [Within, batchCap] at within
  split at within
  · left
    omega
  · right
    omega

theorem batchSize_of_batching (batching : ¬ publisher.batchCap ≤ 1) :
    publisher.batchCap = publisher.batchSize := by
  rw [batchCap] at batching ⊢
  split at batching
  · exact absurd (Int.le_refl 1) batching
  · rename_i large
    rw [if_neg large]

theorem flush_items (link : Link) (batch : Slice NormalizedEvent) :
    (publisher.flush link batch).2.items = [] := by
  rw [flush]
  split
  · rename_i empty
    exact List.eq_nil_of_length_eq_zero (batch.length_items.trans empty)
  · split <;> rfl

variable {link : Link} (healthy : link.Healthy)
include healthy

theorem flush_carried {batch : Slice NormalizedEvent}
    (small : batch.len = 0 ∨ (batch.len : Int) ≤ publisher.batchSize) :
    publisher.Carried batch.items (publisher.flush link batch) := by
  have room : publisher.Within batch.truncate := publisher.batchCap_pos
  rw [flush]
  split
  · rename_i empty
    refine ⟨rfl, sized_nil, rfl, ?_⟩
    rw [Within, empty]
    exact publisher.batchCap_pos
  · rename_i buffered
    have length := batch.length_items
    rw [if_pos healthy.connectedAtFlush, Link.publishNormalizedEventBatch,
      if_neg (by rw [length]; exact buffered), healthy.publish]
    refine ⟨by simp [eventsOf, Payload.events], ?_, rfl, room⟩
    intro subject events member
    cases List.mem_singleton.mp member
    rw [length]
    exact ⟨Nat.one_le_iff_ne_zero.mpr buffered, small.resolve_left buffered⟩

theorem telemetry_carried {batch : Slice NormalizedEvent} (within : publisher.Within batch)
    (normalized : NormalizedEvent) :
    publisher.Carried (batch.items ++ [normalized])
      (publisher.telemetry link batch normalized) := by
  rw [telemetry]
  split
  · rename_i single
    have empty : batch.items = [] := by
      rw [Within] at within
      apply List.eq_nil_of_length_eq_zero
      rw [batch.length_items]
      omega
    rw [Link.publishNormalizedEvent, healthy.publish]
    refine ⟨by rw [empty]; rfl, ?_, rfl, within⟩
    intro subject events member
    cases List.mem_singleton.mp member
  · rename_i batching
    rw [Within] at within
    rw [← batch.items_append]
    dsimp only
    split
    · apply flush_carried healthy
      right
      rw [← batchSize_of_batching batching]
      change ((batch.len + 1 : Nat) : Int) ≤ _
      omega
    · rename_i below
      exact ⟨rfl, sized_nil, rfl, Int.not_le.mp below⟩

omit healthy in
theorem sized_score (subject : String) (score : ThreatScoreEvent) :
    publisher.Sized [⟨subject, .score score⟩] := by
  intro other events member
  cases List.mem_singleton.mp member

theorem evaluateTunnelFlood_spec (detectors : Detectors) (normalized : NormalizedEvent)
    (now : Time) :
    publisher.Scored (detectors.observeTunnel normalized now)
      (publisher.evaluateTunnelFlood link detectors normalized now) := by
  rw [evaluateTunnelFlood, Detectors.observeTunnel]
  cases detectors.tunnelFlood with
  | none => exact ⟨rfl, rfl, rfl, sized_nil⟩
  | some detector =>
      dsimp only
      split
      · rename_i after evaluated
        rw [evaluated]
        exact ⟨rfl, rfl, rfl, sized_nil⟩
      · rename_i score after evaluated
        rw [evaluated, Link.publishThreatScore, healthy.publish]
        exact ⟨rfl, rfl, rfl, sized_score _ _⟩

theorem evaluateSourceFlood_spec (detectors : Detectors) (normalized : NormalizedEvent)
    (now : Time) :
    publisher.Scored (detectors.observeSource normalized now)
      (publisher.evaluateSourceFlood link detectors normalized now) := by
  rw [evaluateSourceFlood, Detectors.observeSource]
  cases detectors.sourceFlood with
  | none => exact ⟨rfl, rfl, rfl, sized_nil⟩
  | some detector =>
      dsimp only
      split
      · rename_i observed after evaluated
        rw [evaluated]
        exact ⟨rfl, rfl, rfl, sized_nil⟩
      · rename_i score observed after evaluated
        rw [evaluated, Link.publishThreatScore, healthy.publish]
        exact ⟨rfl, rfl, rfl, sized_score _ _⟩

/-- One event: its scores at once, its telemetry now or later, in order. -/
theorem receive_spec {state : PublisherState} (within : publisher.Within state.batch)
    (arrival : Arrival) :
    eventsOf (publisher.receive link state arrival).1 ++
        (publisher.receive link state arrival).2.batch.items =
      state.batch.items ++ [arrival.normalized publisher.nodeName] ∧
    publisher.Sized (publisher.receive link state arrival).1 ∧
    scoresOf (publisher.receive link state arrival).1 =
      (state.detectors.observe (arrival.normalized publisher.nodeName) arrival.now).1 ∧
    (publisher.receive link state arrival).2.detectors =
      (state.detectors.observe (arrival.normalized publisher.nodeName) arrival.now).2 ∧
    publisher.Within (publisher.receive link state arrival).2.batch := by
  simp only [receive, healthy.connected, if_true]
  generalize arrival.normalized publisher.nodeName = normalized
  have tunnel : publisher.Scored (state.detectors.observeTunnel normalized arrival.now)
      (publisher.evaluateTunnelFlood link state.detectors normalized arrival.now) :=
    evaluateTunnelFlood_spec healthy _ _ _
  have source : publisher.Scored
      ((state.detectors.observeTunnel normalized arrival.now).2.observeSource normalized
        arrival.now)
      (publisher.evaluateSourceFlood link
        (state.detectors.observeTunnel normalized arrival.now).2 normalized arrival.now) :=
    evaluateSourceFlood_spec healthy _ _ _
  have carried := telemetry_carried healthy within normalized
  simp only [tunnel.after]
  refine ⟨?_, (tunnel.sized.append source.sized).append carried.sized, ?_, source.after,
    carried.within⟩
  · rw [eventsOf_append, eventsOf_append, tunnel.quiet, source.quiet]
    exact carried.events
  · rw [scoresOf_append, scoresOf_append, carried.silent, List.append_nil, tunnel.scores,
      source.scores]
    rfl

theorem loop_end {state : PublisherState} (within : publisher.Within state.batch) :
    eventsOf (publisher.flush link state.batch).1 = state.batch.items ++ [] ∧
      publisher.Sized (publisher.flush link state.batch).1 ∧
      scoresOf (publisher.flush link state.batch).1 = [] := by
  have flushed := flush_carried healthy within.small
  refine ⟨?_, flushed.sized, flushed.silent⟩
  rw [← flushed.events, flush_items, List.append_nil, List.append_nil]

omit healthy in
/-- The whole loop, from any buffer that is not full. -/
theorem loop_spec (wakes : List (Wake × Link)) (healthy : ∀ wake ∈ wakes, wake.2.Healthy)
    (terminates : Terminates wakes) (state : PublisherState)
    (within : publisher.Within state.batch) :
    eventsOf (publisher.loop state wakes) =
      state.batch.items ++
        (received wakes).map (fun arrival => arrival.normalized publisher.nodeName) ∧
    publisher.Sized (publisher.loop state wakes) ∧
    scoresOf (publisher.loop state wakes) =
      state.detectors.report publisher.nodeName (received wakes) := by
  induction wakes generalizing state with
  | nil => exact terminates.elim
  | cons wake rest ih =>
      obtain ⟨wake, link⟩ := wake
      have linked : link.Healthy := healthy _ List.mem_cons_self
      have later := fun wake member => healthy wake (List.mem_cons_of_mem _ member)
      have flushed := flush_carried linked within.small
      cases wake with
      | event arrival =>
          obtain ⟨carried, sized, scores, detectors, room⟩ := receive_spec linked within arrival
          obtain ⟨events, sizedLater, scoresLater⟩ := ih later terminates _ room
          refine ⟨?_, sized.append sizedLater, ?_⟩
          · rw [loop, eventsOf_append, events, ← List.append_assoc, carried, List.append_assoc]
            rfl
          · rw [loop, scoresOf_append, scores, scoresLater, detectors]
            rfl
      | tick =>
          obtain ⟨events, sizedLater, scoresLater⟩ := ih later terminates
            { state with batch := (publisher.flush link state.batch).2 } flushed.within
          refine ⟨?_, flushed.sized.append sizedLater, ?_⟩
          · rw [loop, eventsOf_append, events, ← List.append_assoc, flushed.events]
            rfl
          · rw [loop, scoresOf_append, flushed.silent, scoresLater]
            rfl
      | closed => exact loop_end linked within
      | cancelled => exact loop_end linked within

end Publisher

/-- What batching may not change: the events and their order, and the scores. -/
structure Transparent (publisher : Publisher) (detectors : Detectors)
    (wakes : List (Wake × Link)) (messages : List Message) : Prop where
  events : eventsOf messages =
    (received wakes).map (fun arrival => arrival.normalized publisher.nodeName)
  sized : publisher.Sized messages
  /-- Any batch size, and any other schedule of the same events, gives the same scores. -/
  scores : ∀ (batchSize : Int) (schedule : List (Wake × Link)) (others : List Message),
    (∀ wake ∈ schedule, wake.2.Healthy) → Terminates schedule →
    received schedule = received wakes →
    Publisher.start { publisher with batchSize := batchSize } detectors (.ok schedule) =
      .ok others →
    scoresOf others = scoresOf messages

theorem batching_is_transparent (publisher : Publisher) (detectors : Detectors)
    (wakes : List (Wake × Link)) (healthy : ∀ wake ∈ wakes, wake.2.Healthy)
    (terminates : Terminates wakes) :
    ∃ messages, publisher.start detectors (.ok wakes) = .ok messages ∧
      Transparent publisher detectors wakes messages := by
  obtain ⟨events, sized, scores⟩ := Publisher.loop_spec wakes healthy terminates
    ⟨.make, detectors⟩ publisher.batchCap_pos
  refine ⟨_, rfl, events, sized, ?_⟩
  intro batchSize schedule others healthyOther terminatesOther same started
  cases started
  obtain ⟨-, -, scoresOther⟩ := Publisher.loop_spec schedule healthyOther terminatesOther
    ⟨.make, detectors⟩ (Publisher.batchCap_pos { publisher with batchSize := batchSize })
  rw [scores, scoresOther, same]

def openLink : Link := ⟨true, true, fun _ => true⟩

def burst (eventID : String) (now : Time) : Arrival where
  event := {
    observedAt := now
    sourceIP := [10, 0, 0, 1]
    destIP := [10, 0, 0, 9]
    destPort := 2152
    payloadSize := 64
    protocol := signalProtoGTPU
    malformed := false
    vlanID := 0
    teid := 7
    tunnelRate := 3000 }
  podIndex := .new
  signalRate := fun _ _ => none
  eventID := eventID
  now := now

def pairwise : Publisher := ⟨"node-1", "events", "threats", 2⟩

def floodOnly : Detectors := ⟨some (newGTPUFloodDetector ⟨true, 1000, 0, 0⟩), none⟩

def threeBursts : List (Wake × Link) :=
  [(.event (burst "a" 0), openLink), (.event (burst "b" 1), openLink), (.tick, openLink),
    (.event (burst "c" 2), openLink), (.closed, openLink)]

theorem batching_is_transparent_for_threeBursts :
    ∃ messages, pairwise.start floodOnly (.ok threeBursts) = .ok messages ∧
      Transparent pairwise floodOnly threeBursts messages := by
  have healthy : ∀ wake ∈ threeBursts, wake.2.Healthy := by
    intro wake member
    have linked : wake.2 = openLink := by
      simp only [threeBursts, List.mem_cons, List.not_mem_nil, or_false] at member
      rcases member with rfl | rfl | rfl | rfl | rfl <;> rfl
    rw [linked]
    exact ⟨rfl, rfl, fun _ => rfl⟩
  exact batching_is_transparent pairwise floodOnly threeBursts healthy trivial

end Sentinel5G.Ingestion
