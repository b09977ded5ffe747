import Sentinel5G.Bpf.Eviction

namespace Sentinel5G.Bpf

open Base Ebpf

theorem Sighting.admitted_teid {seen : Sighting} {env : Env} {loader : Loader} {maps : RateMaps}
    {written : SignalingEventRecord} (member : written ∈ (seen.admitted env loader maps).records)
    (tunneled : written.teid ≠ 0) : seen.tunnel = some written.teid := by
  have copied : ∀ {call : Nat} {event : SignalingEventRecord},
      written ∈ reserveAndSubmit env call event → event.teid = 0 →
      seen.tunnel = some written.teid := fun emitted zero =>
    absurd ((mem_submit emitted).2.2.trans zero) tunneled
  cases segment : seen.segment with
  | unread =>
      rw [admitted, segment] at member
      cases member
  | truncated =>
      rw [admitted, segment] at member
      exact copied member (by rw [event, segment])
  | sip size =>
      rw [admitted, segment] at member
      exact copied member (by rw [event, segment])
  | offPort destPort size =>
      rw [admitted, segment] at member
      have teid := (inspectOffPort_record member).2.2
      rw [event, segment] at teid
      exact absurd teid tunneled
  | gtpu size parse teid =>
      have read : seen.event.teid = teid := by rw [event, segment]
      simp only [admitted, segment] at member
      split at member
      · rename_i zero
        exact copied member (read.trans zero)
      · split at member
        · cases member
        · rw [(mem_submit member).2.2]
          exact (seen.tunnel_eq_some_iff _).mpr ⟨read ▸ ‹teid ≠ 0›, size, parse, read ▸ segment⟩

/-- The event of a record is about the frame it was written for. -/
theorem sight_of_event {arrival : Arrival} {rates : Rates} {record : RingRecord} {bootTime : Int}
    {event : SignalingEvent} (member : record ∈ (arrival.verdict rates).records)
    (decoded : record.decode bootTime = .ok event) :
    ∃ seen, sight arrival.frame = some seen ∧ event.sourceIP = seen.saddr ∧
      (event.teid ≠ 0 → seen.tunnel = some event.teid) := by
  obtain ⟨seen, written, found, -, inside, rfl, decodes⟩ := written_of_mem member
  rw [decodes bootTime] at decoded
  cases decoded
  exact ⟨seen, found, (seen.admitted_addresses _ _ _ inside).1, Sighting.admitted_teid inside⟩

end Sentinel5G.Bpf
