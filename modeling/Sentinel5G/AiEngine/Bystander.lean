import Sentinel5G.AiEngine.Features
import Sentinel5G.Bpf.TunnelRate

/-! From the kernel to the features of one subscriber: what other traffic does to
the shared counters does not reach them. -/

namespace Sentinel5G.AiEngine

open Base Ebpf Bpf Controller
open Events (normalizedEventJson protocolName)
open Ingestion (fromSignalingEvent)

/-- `Loader.SignalRate`: the count of a source on the signaling ports, of a source
and a port elsewhere. -/
def signalRate (rates : Rates) (ip : IP) (destPort : UInt16) : Option UInt32 :=
  match ip.to4 with
  | some v4 =>
      if isSignalingPort destPort then rates.ipv4.signalRate[v4]?.map (fun entry => entry.count)
      else rates.ipv4.scanRate[scanKey v4 destPort]?.map (fun entry => entry.count)
  | none =>
      match ipv6Key ip with
      | .error _ => none
      | .ok v6 =>
          if isSignalingPort destPort then rates.ipv6.signalRate[v6]?.map (fun entry => entry.count)
          else rates.ipv6.scanRate[scanKeyV6 v6 destPort]?.map (fun entry => entry.count)

/-- What is as it happens when userspace comes to an event: how many frames the
kernel has seen by then, the Pods, the event's identity, and the clock. -/
structure Reading where
  moment : Nat
  podIndex : PodIPIndex
  nodeName : String
  eventID : String
  now : Int

structure Scoring where
  builtins : Builtins
  timeText : Int → String
  bootTime : Int

namespace Scoring

variable (scoring : Scoring)

def eventFeatures (rates : Rates) (reading : Reading) (event : SignalingEvent) :
    Except Raised (List ℚ) := do
  let normalized ← NormalizedEvent.fromDict scoring.builtins reading.now
    (normalizedEventJson scoring.timeText (fromSignalingEvent event reading.podIndex
      (signalRate rates) reading.nodeName reading.eventID))
  extractFeatures normalized

def recordFeatures (rates : Rates) (reading : Reading) (record : RingRecord) :
    Option (Except Raised (List ℚ)) :=
  match record.decode scoring.bootTime with
  | .error _ => none
  | .ok event => some (scoring.eventFeatures rates reading event)

end Scoring

def tunnelRecords (family : Family) (source : Bytes) (teid : UInt32) (arrivals : List Arrival) :
    List RingRecord :=
  ((run .empty arrivals).filter (fun turn => turn.1.concerns family source teid)).flatMap
    (fun turn => turn.2.records)

def Scoring.tunnelFeatures (scoring : Scoring) (readings : Nat → Reading) (family : Family)
    (source : Bytes) (teid : UInt32) (arrivals : List Arrival) : List (Except Raised (List ℚ)) :=
  ((tunnelRecords family source teid arrivals).mapIdx (fun n record =>
    scoring.recordFeatures (ratesAfter .empty (arrivals.take (readings n).moment)) (readings n)
      record)).reduceOption

section Records

variable {family : Family} {source : Bytes} {teid : UInt32}

theorem tunnelRecords_concat (past : List Arrival) (last : Arrival) :
    tunnelRecords family source teid (past ++ [last]) =
      tunnelRecords family source teid past ++
        if last.concerns family source teid then (last.verdict (ratesAfter .empty past)).records
        else [] := by
  rw [tunnelRecords, run_concat, filter_concat, List.flatMap_append, ← tunnelRecords]
  split
  · rw [List.flatMap_singleton]
  · rfl

theorem tunnelRecords_filter (arrivals : List Arrival) :
    tunnelRecords family source teid arrivals =
      tunnelRecords family source teid
        (arrivals.filter (fun arrival => arrival.concerns family source teid)) := by
  induction arrivals using List.reverseRecOn with
  | nil => rfl
  | append_singleton past last ih =>
      rw [tunnelRecords_concat, ih, filter_concat]
      cases concerned : last.concerns family source teid with
      | false =>
          rw [if_neg Bool.false_ne_true, if_neg Bool.false_ne_true, List.append_nil,
            List.append_nil]
      | true =>
          rw [if_pos rfl, if_pos rfl, tunnelRecords_concat, if_pos concerned,
            records_filter past concerned]

theorem decode_tunnelRecord {arrivals : List Arrival} {record : RingRecord}
    (member : record ∈ tunnelRecords family source teid arrivals) (bootTime : Int) :
    ∃ event, record.decode bootTime = .ok event ∧ event.teid ≠ 0 := by
  obtain ⟨⟨arrival, verdict⟩, inside, written⟩ := List.mem_flatMap.mp member
  obtain ⟨seen, found, -, -, tunnel⟩ := sight_of_concerns (List.mem_filter.mp inside).2
  obtain ⟨rates, same⟩ := verdict_of_mem_run (List.mem_filter.mp inside).1
  dsimp only at same written found
  rw [same] at written
  obtain ⟨other, entry, sighted, passes, emitted, -, decodes⟩ := written_of_mem written
  cases found.symm.trans sighted
  obtain ⟨set, size, parse, segment⟩ := (seen.tunnel_eq_some_iff teid).mp tunnel
  rw [seen.admitted_records _ _ _ (Bool.or_eq_false_iff.mp passes).2 (by simp [segment])
    (by simp [segment]), mem_emit_iff] at emitted
  obtain ⟨timestampNs, -, rfl⟩ := emitted
  refine ⟨_, decodes bootTime, ?_⟩
  have identity : seen.event.teid = teid := by rw [Sighting.event, segment]
  exact identity ▸ set

end Records

def tunneledEvent (event : SignalingEvent) (time : Int) : NormalizedEvent where
  protocol := protocolName (Ingestion.protocolFromSignal event.protocol)
  destPort := event.destPort.toNat
  payloadSize := event.payloadSize.toUInt32.toNat
  ratePerSecond := 0
  malformed := event.malformed
  observedAt := time
  teid := event.teid.toNat
  tunnelRatePerSecond := event.tunnelRate.toNat

namespace Scoring

variable (scoring : Scoring)

theorem eventFeatures_tunneled {event : SignalingEvent} (tunneled : event.teid ≠ 0) (rates : Rates)
    (reading : Reading) :
    scoring.eventFeatures rates reading event =
      (scoring.builtins.fromisoformat ((scoring.timeText event.observedAt).replace "Z"
        "+00:00")).map
        (fun _ => features (tunneledEvent event 0)) := by
  have identity : (tunneledEvent event 0).teid ≠ 0 := by
    simpa [tunneledEvent, ← UInt32.toNat_inj] using tunneled
  have read : NormalizedEvent.fromDict scoring.builtins reading.now
      (normalizedEventJson scoring.timeText (fromSignalingEvent event reading.podIndex
        (signalRate rates) reading.nodeName reading.eventID)) =
      (scoring.builtins.fromisoformat ((scoring.timeText event.observedAt).replace "Z"
        "+00:00")).map
        (fun time => { tunneledEvent event 0 with
          ratePerSecond := (fromSignalingEvent event reading.podIndex (signalRate rates)
            reading.nodeName reading.eventID).ratePerSecond
          observedAt := time }) := fromDict_json _ _ _ _
  rw [eventFeatures, read]
  cases scoring.builtins.fromisoformat
    ((scoring.timeText event.observedAt).replace "Z" "+00:00") with
  | error raised => rfl
  | ok time =>
      exact (extractFeatures_tunneled identity _ time).trans (extractFeatures_eq _)

/-- The features of a tunnel's records depend on nothing but the records. -/
theorem tunnelFeatures_eq (readings : Nat → Reading) (family : Family) (source : Bytes)
    (teid : UInt32) (arrivals : List Arrival) :
    scoring.tunnelFeatures readings family source teid arrivals =
      ((tunnelRecords family source teid arrivals).map (fun record =>
        scoring.recordFeatures .empty ⟨0, .new, "", "", 0⟩ record)).reduceOption := by
  rw [tunnelFeatures]
  congr 1
  apply List.ext_getElem?
  intro n
  rw [List.getElem?_mapIdx, List.getElem?_map]
  cases found : (tunnelRecords family source teid arrivals)[n]? with
  | none => rw [Option.map_none, Option.map_none]
  | some record =>
      obtain ⟨event, decoded, tunneled⟩ :=
        decode_tunnelRecord (List.mem_of_getElem? found) scoring.bootTime
      simp only [Option.map_some, recordFeatures, decoded,
        scoring.eventFeatures_tunneled tunneled]

end Scoring

/-- Two runs with the same frames of a tunnel at the same times, behind the same
blocklists and with room in the ring buffer, give its events the same features,
whatever else is on the wire and whenever userspace comes to them. -/
theorem bystander_noninterference (scoring : Scoring) (family : Family) (source : Bytes)
    (teid : UInt32) (first second : List Arrival) (readings otherReadings : Nat → Reading)
    (same : first.filter (fun arrival => arrival.concerns family source teid) =
      second.filter (fun arrival => arrival.concerns family source teid)) :
    scoring.tunnelFeatures readings family source teid first =
      scoring.tunnelFeatures otherReadings family source teid second := by
  rw [scoring.tunnelFeatures_eq, scoring.tunnelFeatures_eq, tunnelRecords_filter, same,
    ← tunnelRecords_filter]

def lenientScoring : Scoring where
  builtins := lenientBuiltins
  timeText := fun _ => ""
  bootTime := 0

def neighbourFrame : Bytes :=
  List.replicate 12 0 ++ [0x08, 0x00] ++
    [0x45, 0, 0, 36, 0, 0, 0, 0, 64, 17, 0, 0, 10, 0, 0, 1, 10, 0, 0, 2] ++
    [0x08, 0x68, 0x08, 0x68, 0, 16, 0, 0] ++ [0x30, 0xFF, 0, 0, 0, 0, 0, 9]

def quietNeighbour : List Arrival := [⟨plainEnv, bareLoader, ipv4Frame⟩]

def busyNeighbour : List Arrival :=
  [⟨plainEnv, bareLoader, neighbourFrame⟩, ⟨plainEnv, bareLoader, neighbourFrame⟩,
    ⟨plainEnv, bareLoader, ipv4Frame⟩]

def thirdReading : Nat → Reading := fun _ => ⟨3, .new, "", "", 0⟩

/-- The rate of the source is three times as high, and tunnel 7 has the same features. -/
theorem busy_neighbour_is_unseen :
    signalRate (ratesAfter .empty quietNeighbour) [10, 0, 0, 1] 2152 = some 1 ∧
      signalRate (ratesAfter .empty busyNeighbour) [10, 0, 0, 1] 2152 = some 3 ∧
      lenientScoring.tunnelFeatures thirdReading .ipv4 [10, 0, 0, 1] 7 quietNeighbour =
        lenientScoring.tunnelFeatures thirdReading .ipv4 [10, 0, 0, 1] 7 busyNeighbour ∧
      lenientScoring.tunnelFeatures thirdReading .ipv4 [10, 0, 0, 1] 7 busyNeighbour =
        [.ok [1, 0, 0, 0, 0, 8 / 4096, 0, 0, 1, 2152 / 65535, 1 / 2000, 1]] := by
  refine ⟨by decide +kernel, by decide +kernel, ?_, by decide +kernel⟩
  have concerned : (⟨plainEnv, bareLoader, ipv4Frame⟩ : Arrival).concerns .ipv4 [10, 0, 0, 1] 7 =
      true := by decide +kernel
  have other : (⟨plainEnv, bareLoader, neighbourFrame⟩ : Arrival).concerns .ipv4 [10, 0, 0, 1] 7 =
      false := by decide +kernel
  apply bystander_noninterference
  simp only [quietNeighbour, busyNeighbour, List.filter_cons, List.filter_nil, concerned, other,
    Bool.false_eq_true, if_true, if_false]

end Sentinel5G.AiEngine
