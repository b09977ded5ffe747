import Sentinel5G.Base.LossyWindow
import Sentinel5G.Bpf.TunnelRate

/-! The observation maps are LRU hashes, and a full one makes room by dropping
entries. Whatever they lose, the rate an event reports was sent by the tunnel it
names. -/

namespace Sentinel5G.Bpf

open Base Ebpf

inductive RateTable
  | signalRate
  | scanRate
  | tunnelRate
  | portScan
  deriving DecidableEq, Repr

/-- Which entries stay when the maps make room. -/
abbrev Eviction := Family → RateTable → Bytes → Bool

def RateMaps.evict (maps : RateMaps) (keeps : RateTable → Bytes → Bool) : RateMaps where
  signalRate := maps.signalRate.filter (fun key _ => keeps .signalRate key)
  scanRate := maps.scanRate.filter (fun key _ => keeps .scanRate key)
  tunnelRate := maps.tunnelRate.filter (fun key _ => keeps .tunnelRate key)
  portScan := maps.portScan.filter (fun key _ => keeps .portScan key)

def Rates.evict (rates : Rates) (eviction : Eviction) : Rates :=
  ⟨rates.ipv4.evict (eviction .ipv4), rates.ipv6.evict (eviction .ipv6)⟩

theorem Rates.of_evict (rates : Rates) (eviction : Eviction) (family : Family) :
    (rates.evict eviction).of family = (rates.of family).evict (eviction family) := by
  cases family <;> rfl

inductive Moment
  | frame (arrival : Arrival)
  | evict (eviction : Eviction)

namespace Moment

def next (rates : Rates) : Moment → Rates
  | .frame arrival => (arrival.verdict rates).rates
  | .evict eviction => rates.evict eviction

def arrival : Moment → Option Arrival
  | .frame arrival => some arrival
  | .evict _ => none

end Moment

def arrivalsOf (moments : List Moment) : List Arrival := moments.filterMap Moment.arrival

def ratesAmid (moments : List Moment) : Rates := runMoves Moment.next .empty moments

def lapsed (span : UInt64) (first later : Arrival) : Bool := rolled first.env.now span later.env.now

structure SentWithin (arrivals : List Arrival) (selects : Arrival → Bool) (span : UInt64)
    (frames : List Arrival) : Prop where
  last : frames <:+ arrivals.filter selects
  within : frames.Pairwise (fun earlier later =>
    later.env.now.toNat ≤ earlier.env.now.toNat + span.toNat)

theorem sent_of_recent {span : UInt64} {selects : Arrival → Bool} {moments : List Moment}
    {last : Arrival} {window : List Arrival}
    (recent : Recent (lapsed span) ((arrivalsOf moments).filter selects) window)
    (ordered : InOrder (arrivalsOf moments ++ [last])) (chosen : selects last = true) :
    SentWithin (arrivalsOf moments ++ [last]) selects span
      (extendWindow (lapsed span) window last) := by
  have extended := recent.extend last
  have whole : (arrivalsOf moments ++ [last]).filter selects =
      (arrivalsOf moments).filter selects ++ [last] := by
    rw [filter_concat, if_pos chosen]
  rw [← whole] at extended
  have sorted := (List.Pairwise.filter selects ordered).sublist extended.suffix.sublist
  refine ⟨extended.suffix, ?_⟩
  cases frames : extendWindow (lapsed span) window last with
  | nil => exact .nil
  | cons start rest =>
      rw [frames] at sorted
      obtain ⟨first, later⟩ := List.pairwise_cons.mp sorted
      have near : ∀ frame ∈ rest, frame.env.now.toNat ≤ start.env.now.toNat + span.toNat := by
        intro frame member
        have unexpired := extended.fresh start rest frames frame member
        rw [lapsed, rolled_eq span (first frame member)] at unexpired
        have passed := of_decide_eq_false unexpired
        omega
      refine List.pairwise_cons.mpr ⟨near, ?_⟩
      refine later.imp_of_mem (fun {earlier frame} front back _ => ?_)
      have bound := near frame back
      have after := UInt64.le_iff_toNat_le.mp (first earlier front)
      omega

theorem countPacket_window (window : List Arrival) (last : Arrival) :
    some (countPacket (entryOf (window.map (fun arrival => arrival.env.now))) last.env.now) =
      entryOf ((extendWindow (lapsed signalingRateWindowNs) window last).map
        (fun arrival => arrival.env.now)) := by
  rw [countPacket_entryOf, ← map_extendWindow]
  rfl

theorem getElem?_keep {entry : Type} (map : Std.ExtTreeMap Bytes entry compare)
    (stays : Bytes → Bool) (key : Bytes) :
    (map.filter (fun other _ => stays other))[key]? = if stays key then map[key]? else none := by
  rw [Std.ExtTreeMap.getElem?_filter']
  cases stays key <;> cases map[key]? <;> rfl

/-- The entry of a tunnel stands for some of its last frames. -/
theorem tunnelRate_recent (family : Family) {source : Bytes} (moments : List Moment) (teid : UInt32)
    (width : source.length = family.width) :
    ∃ window, Recent (lapsed signalingRateWindowNs)
        ((arrivalsOf moments).filter (fun arrival => arrival.counts family source teid)) window ∧
      ((ratesAmid moments).of family).tunnelRate[family.path.tunnelKey source teid]? =
        entryOf (window.map (fun arrival => arrival.env.now)) := by
  induction moments using List.reverseRecOn with
  | nil =>
      refine ⟨[], recent_nil _, ?_⟩
      cases family <;> exact Std.ExtTreeMap.getElem?_empty
  | append_singleton moments last ih =>
      obtain ⟨window, recent, entry⟩ := ih
      rw [ratesAmid, runMoves_concat, ← ratesAmid, arrivalsOf, filterMap_concat, ← arrivalsOf]
      cases last with
      | frame arrival =>
          rw [Moment.next, verdict_tunnelRate arrival family teid width, entry, Moment.arrival,
            Option.toList_some, filter_concat]
          cases arrival.counts family source teid with
          | true => exact ⟨_, recent.extend arrival, countPacket_window window arrival⟩
          | false => exact ⟨window, by simpa using recent, rfl⟩
      | evict eviction =>
          rw [Moment.next, Rates.of_evict, RateMaps.evict, getElem?_keep, Moment.arrival,
            Option.toList_none, List.append_nil]
          split
          · exact ⟨window, recent, entry⟩
          · exact ⟨[], recent_nil _, rfl⟩

/-- The tunnel rate of an event is the number of last frames of its tunnel within a
window, in every run of frames in order with any evictions between them and any drops
in force. -/
theorem tunnel_attributed {moments : List Moment} {last : Arrival} {record : RingRecord}
    {bootTime : Int} {event : SignalingEvent} (ordered : InOrder (arrivalsOf moments ++ [last]))
    (member : record ∈ (last.verdict (ratesAmid moments)).records)
    (decoded : record.decode bootTime = .ok event) (gtpu : event.protocol = signalProtoGtpu)
    (tunneled : event.teid ≠ 0) :
    ∃ frames, SentWithin (arrivalsOf moments ++ [last])
        (fun arrival => arrival.counts record.family event.sourceIP event.teid)
        signalingRateWindowNs frames ∧
      event.tunnelRate = UInt32.ofNat frames.length := by
  obtain ⟨seen, found, family, source, rate, passes, size, parse, segment⟩ :=
    gtpu_event member decoded gtpu
  have tunnel : seen.tunnel = some event.teid :=
    (seen.tunnel_eq_some_iff event.teid).mpr ⟨tunneled, size, parse, segment⟩
  have counted : seen.counted last.loader = some event.teid := by
    rw [Sighting.counted, passes, if_neg Bool.false_ne_true, tunnel]
  have counts : last.counts seen.family seen.saddr event.teid = true := by
    rw [counts_of_sight last _ _ _ found]
    exact decide_eq_true ⟨rfl, rfl, counted⟩
  obtain ⟨window, recent, entry⟩ :=
    tunnelRate_recent seen.family moments event.teid seen.saddrWidth
  rw [family, source]
  refine ⟨_, sent_of_recent recent ordered counts, ?_⟩
  have counter := countPacket_window window last
  rw [← entry] at counter
  have count := entryOf_count counter
  rw [List.length_map] at count
  rw [rate, Sighting.reportedRate, tunnel]
  exact count

end Sentinel5G.Bpf
