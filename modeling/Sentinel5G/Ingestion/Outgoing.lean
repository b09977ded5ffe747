import Sentinel5G.Ingestion.ScoreDelivery

namespace Sentinel5G.Ingestion.Publisher

open Base Api Ebpf Controller Detect

variable {publisher : Publisher} {score : ThreatScoreEvent} {message : Message}
  {event : NormalizedEvent}

theorem of_mem_publish {link : Link} {sent : Message} (member : message ∈ link.publish sent) :
    message = sent := by
  rw [Link.publish] at member
  split at member
  · exact List.mem_singleton.mp member
  · cases member

theorem flush_scoreless {link : Link} {batch : Slice NormalizedEvent}
    (member : message ∈ (publisher.flush link batch).1) : message.payload ≠ .score score := by
  rw [flush] at member
  split at member
  · cases member
  · split at member
    · rw [Link.publishNormalizedEventBatch] at member
      split at member
      · cases member
      · rw [of_mem_publish member]
        simp
    · cases member

theorem telemetry_scoreless {link : Link} {batch : Slice NormalizedEvent} {event : NormalizedEvent}
    (member : message ∈ (publisher.telemetry link batch event).1) :
    message.payload ≠ .score score := by
  rw [telemetry] at member
  split at member
  · rw [of_mem_publish member]
    simp
  · dsimp only at member
    split at member
    · exact flush_scoreless member
    · cases member

theorem of_mem_scores {link : Link} {found : Option ThreatScoreEvent}
    (member : message ∈ found.toList.flatMap (link.publishThreatScore publisher.threatsSubject))
    (payload : message.payload = .score score) : found = some score := by
  obtain ⟨handed, inside, published⟩ := List.mem_flatMap.mp member
  rw [of_mem_publish published, Payload.score.injEq] at payload
  rw [← payload]
  exact Option.mem_toList.mp inside

theorem attempt_of_sent {turn : Turn} (member : message ∈ publisher.sent turn)
    (payload : message.payload = .score score) :
    ∃ rule, publisher.attempt rule turn = some score := by
  obtain ⟨state, wake, link⟩ := turn
  cases wake with
  | closed => exact absurd payload (flush_scoreless member)
  | tick => exact absurd payload (flush_scoreless member)
  | cancelled => exact absurd payload (flush_scoreless member)
  | event arrival =>
      rw [sent, receive] at member
      split at member
      · rename_i connected
        simp only [evaluateTunnelFlood_eq, evaluateSourceFlood_eq] at member
        rw [List.mem_append, List.mem_append] at member
        have seen : publisher.evaluated (.event arrival, link) =
            some ⟨arrival.normalized publisher.nodeName, arrival.now⟩ := by
          rw [evaluated, if_pos connected]
        rcases member with (tunnel | source) | events
        · exact ⟨.tunnel, by rw [attempt, seen]; exact of_mem_scores tunnel payload⟩
        · exact ⟨.source, by rw [attempt, seen]; exact of_mem_scores source payload⟩
        · exact absurd payload (telemetry_scoreless events)
      · cases member

theorem mem_events_publish {link : Link} {sent : Message}
    (member : event ∈ eventsOf (link.publish sent)) : event ∈ sent.payload.events := by
  obtain ⟨message, published, inside⟩ := List.mem_flatMap.mp member
  rwa [of_mem_publish published] at inside

theorem scores_eventless {link : Link} {subject : String} {found : Option ThreatScoreEvent} :
    event ∉ eventsOf (found.toList.flatMap (link.publishThreatScore subject)) := by
  intro member
  obtain ⟨message, published, inside⟩ := List.mem_flatMap.mp member
  obtain ⟨score, -, sent⟩ := List.mem_flatMap.mp published
  rw [of_mem_publish sent] at inside
  cases inside

/-- What a wake-up sends or keeps was kept before it, or is its own event. -/
structure Handles (known : NormalizedEvent → Prop)
    (outcome : List Message × Slice NormalizedEvent) :
    Prop where
  sends : ∀ event ∈ eventsOf outcome.1, known event
  keeps : ∀ event ∈ outcome.2.items, known event

theorem handles_kept {known : NormalizedEvent → Prop} {batch : Slice NormalizedEvent}
    (before : ∀ event ∈ batch.items, known event) : Handles known ([], batch) :=
  ⟨fun _ none => (by cases none), before⟩

theorem flush_handles {known : NormalizedEvent → Prop} {batch : Slice NormalizedEvent}
    (before : ∀ event ∈ batch.items, known event) (link : Link) :
    Handles known (publisher.flush link batch) := by
  have emptied : ∀ event ∈ batch.truncate.items, known event := fun event none => by cases none
  rw [flush]
  split
  · exact handles_kept before
  · split
    · refine ⟨fun event member => ?_, emptied⟩
      rw [Link.publishNormalizedEventBatch] at member
      split at member
      · cases member
      · exact before event (mem_events_publish member)
    · exact handles_kept emptied

theorem telemetry_handles {known : NormalizedEvent → Prop} {batch : Slice NormalizedEvent}
    (before : ∀ event ∈ batch.items, known event) {normalized : NormalizedEvent}
    (here : known normalized) (link : Link) :
    Handles known (publisher.telemetry link batch normalized) := by
  have grown : ∀ event ∈ (batch.append normalized).items, known event := by
    intro event member
    rw [Slice.items_append] at member
    rcases List.mem_append.mp member with old | new
    · exact before event old
    · rwa [List.mem_singleton.mp new]
  rw [telemetry]
  split
  · refine ⟨fun event member => ?_, before⟩
    rwa [List.mem_singleton.mp (mem_events_publish member)]
  · dsimp only
    split
    · exact flush_handles grown link
    · exact handles_kept grown

theorem turn_handles {known : NormalizedEvent → Prop} {state : PublisherState}
    (before : ∀ event ∈ state.batch.items, known event) {woken : Wake × Link}
    (here : ∀ call, publisher.evaluated woken = some call → known call.event) :
    Handles known (publisher.sent (state, woken), (publisher.next state woken).batch) := by
  obtain ⟨wake, link⟩ := woken
  cases wake with
  | tick => exact flush_handles before link
  | closed => exact ⟨(flush_handles before link).sends, before⟩
  | cancelled => exact ⟨(flush_handles before link).sends, before⟩
  | event arrival =>
      rw [sent, next, receive]
      split
      · rename_i connected
        have normalized := here ⟨arrival.normalized publisher.nodeName, arrival.now⟩
          (by rw [evaluated, if_pos connected])
        have handles : Handles known (publisher.telemetry link state.batch
            (arrival.normalized publisher.nodeName)) := telemetry_handles before normalized link
        simp only [evaluateTunnelFlood_eq, evaluateSourceFlood_eq]
        refine ⟨fun event member => ?_, handles.keeps⟩
        rw [eventsOf_append, eventsOf_append, List.mem_append, List.mem_append] at member
        rcases member with (tunnel | source) | events
        · exact absurd tunnel scores_eventless
        · exact absurd source scores_eventless
        · exact handles.sends event events
      · exact handles_kept before

end Sentinel5G.Ingestion.Publisher
