import Sentinel5G.System.Sensor

namespace Sentinel5G.System.Sensor

open Base Api Ebpf Controller Detect

/-- A frame that came to the node has the source, and is of the tunnel if one is named. -/
def Witnessed (moves : List Move) (source : String) (teid : UInt32) : Prop :=
  ∃ arrival ∈ frames moves, ∃ seen, Bpf.sight arrival.frame = some seen ∧
    IP.string seen.saddr = source ∧ (teid ≠ 0 → seen.tunnel = some teid)

variable {cfg : SensorConfig} {moves : List Move} {last : Move}

theorem Witnessed.append {source : String} {teid : UInt32} (seen : Witnessed moves source teid)
    (more : List Move) : Witnessed (moves ++ more) source teid := by
  obtain ⟨arrival, member, sighted⟩ := seen
  refine ⟨arrival, ?_, sighted⟩
  rw [frames_append]
  exact List.mem_append_left _ member

theorem call_witnessed {seen : Call} (called : call cfg (after cfg moves, last) = some seen) :
    Witnessed (moves ++ [last]) seen.event.sourceIP seen.event.teid := by
  obtain ⟨family, reading, record, event, rfl, first, decoded, about⟩ := read_of_call called
  obtain ⟨past, arrival, rest, whole, emits⟩ := written_of_waiting first
  obtain ⟨seen, found, source, tunnel⟩ := Bpf.sight_of_event emits decoded
  rw [about]
  refine ⟨arrival, ?_, seen, found, congrArg IP.string source.symm, tunnel⟩
  rw [whole]
  exact List.mem_append_left _ (List.mem_append_right _ (List.mem_singleton_self _))

theorem move_handles
    (before : ∀ event ∈ (after cfg moves).publisher.batch.items,
      Witnessed moves event.sourceIP event.teid) (last : Move) :
    Ingestion.Publisher.Handles
      (fun event => Witnessed (moves ++ [last]) event.sourceIP event.teid)
      (sent cfg (after cfg moves, last), ((after cfg moves).published cfg last).batch) := by
  have still : ∀ event ∈ (after cfg moves).publisher.batch.items,
      Witnessed (moves ++ [last]) event.sourceIP event.teid := fun event member =>
    (before event member).append [last]
  rw [sent, published]
  cases waking : (after cfg moves).wake cfg last with
  | none => exact Ingestion.Publisher.handles_kept still
  | some woken =>
      refine Ingestion.Publisher.turn_handles still fun seen evaluates => ?_
      have called : call cfg (after cfg moves, last) = some seen := by
        rw [call, waking]
        exact evaluates
      exact call_witnessed called

theorem batch_witnessed (cfg : SensorConfig) (moves : List Move) :
    ∀ event ∈ (after cfg moves).publisher.batch.items,
      Witnessed moves event.sourceIP event.teid := by
  induction moves using List.reverseRecOn with
  | nil => exact fun event none => by cases none
  | append_singleton moves last ih =>
      have handles := move_handles ih last
      rw [after_concat]
      intro event member
      cases last with
      | frame arrival => exact (ih event member).append _
      | evict eviction => exact (ih event member).append _
      | read family reading => exact handles.keeps event member
      | tick link => exact handles.keeps event member
      | restart => cases member

/-- Every event that is sent is about a frame that came to the node. -/
theorem sent_witnessed {message : Ingestion.Message} {event : Ingestion.NormalizedEvent}
    (member : message ∈ sent cfg (after cfg moves, last))
    (inside : event ∈ message.payload.events) :
    Witnessed (moves ++ [last]) event.sourceIP event.teid :=
  (move_handles (batch_witnessed cfg moves) last).sends event
    (List.mem_flatMap.mpr ⟨message, member, inside⟩)

theorem score_witnessed {message : Ingestion.Message} {score : ThreatScoreEvent}
    (member : message ∈ sent cfg (after cfg moves, last))
    (payload : message.payload = .score score) :
    Witnessed (moves ++ [last]) score.sourceIP score.teid := by
  obtain ⟨rule, seen, called, scored⟩ := call_of_score member payload
  obtain ⟨arrival, inside, sighting, found, source, tunnel⟩ := call_witnessed called
  have key := scoreKey_of_scored scored
  cases rule with
  | tunnel =>
      obtain ⟨peer, teid⟩ := TunnelID.mk.inj key
      rw [peer, teid]
      exact ⟨arrival, inside, sighting, found, source, tunnel⟩
  | source =>
      obtain ⟨peer, teid⟩ := TunnelID.mk.inj key
      rw [peer, teid]
      exact ⟨arrival, inside, sighting, found, source, fun set => absurd rfl set⟩

end Sentinel5G.System.Sensor
