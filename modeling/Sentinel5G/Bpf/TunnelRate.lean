import Sentinel5G.Base.Trace
import Sentinel5G.Bpf.Dissect

namespace Sentinel5G.Bpf

open Base Ebpf

/-- One frame on its way through the program: what the helpers answer and what
the enforcement maps hold by then. -/
structure Arrival where
  env : Env
  loader : Loader
  frame : Bytes

namespace Arrival

variable (arrival : Arrival)

def verdict (rates : Rates) : Verdict :=
  xdpPacketFilter arrival.env arrival.loader arrival.frame rates

def concerns (family : Family) (source : Bytes) (teid : UInt32) : Bool :=
  (sight arrival.frame).any (fun seen =>
    decide (seen.family = family ∧ seen.saddr = source ∧ seen.tunnel = some teid))

def dropped : Bool := decide ((arrival.verdict .empty).action = .drop)

def counts (family : Family) (source : Bytes) (teid : UInt32) : Bool :=
  arrival.concerns family source teid && !arrival.dropped

end Arrival

def ratesAfter (rates : Rates) (arrivals : List Arrival) : Rates :=
  arrivals.foldl (fun rates arrival => (arrival.verdict rates).rates) rates

def passTimes (family : Family) (source : Bytes) (teid : UInt32) (arrivals : List Arrival) :
    List UInt64 :=
  (arrivals.filter (fun arrival => arrival.counts family source teid)).map
    (fun arrival => arrival.env.now)

def run (rates : Rates) : List Arrival → List (Arrival × Verdict)
  | [] => []
  | arrival :: rest => (arrival, arrival.verdict rates) :: run (arrival.verdict rates).rates rest

theorem ratesAfter_concat (rates : Rates) (arrivals : List Arrival) (last : Arrival) :
    ratesAfter rates (arrivals ++ [last]) = (last.verdict (ratesAfter rates arrivals)).rates := by
  rw [ratesAfter, List.foldl_append, List.foldl_cons, List.foldl_nil, ratesAfter]

theorem run_eq_turns (rates : Rates) (arrivals : List Arrival) :
    run rates arrivals =
      (turns (fun rates arrival => (arrival.verdict rates).rates) rates arrivals).map
        (fun turn => (turn.2, turn.2.verdict turn.1)) := by
  induction arrivals generalizing rates with
  | nil => rfl
  | cons first rest ih => rw [run, ih, turns, List.map_cons]

theorem verdict_of_mem_run {rates : Rates} {arrivals : List Arrival} {step : Arrival × Verdict}
    (member : step ∈ run rates arrivals) : ∃ before, step.2 = step.1.verdict before := by
  rw [run_eq_turns, List.mem_map] at member
  obtain ⟨turn, -, rfl⟩ := member
  exact ⟨turn.1, rfl⟩

theorem run_concat (rates : Rates) (past : List Arrival) (last : Arrival) :
    run rates (past ++ [last]) =
      run rates past ++ [(last, last.verdict (ratesAfter rates past))] := by
  rw [run_eq_turns, turns_concat, List.map_append, ← run_eq_turns]
  rfl

theorem passTimes_concat (family : Family) (source : Bytes) (teid : UInt32)
    (arrivals : List Arrival) (last : Arrival) :
    passTimes family source teid (arrivals ++ [last]) =
      passTimes family source teid arrivals ++
        if last.counts family source teid then [last.env.now] else [] := by
  rw [passTimes, filter_concat, List.map_append, passTimes]
  cases last.counts family source teid <;> rfl

theorem tunnelKey_inj (family : Family) {first second : Bytes} {teid other : UInt32}
    (widthFirst : first.length = family.width) (widthSecond : second.length = family.width)
    (same : family.path.tunnelKey first teid = family.path.tunnelKey second other) :
    first = second ∧ teid = other := by
  have width : first.length = second.length := by rw [widthFirst, widthSecond]
  cases family with
  | ipv4 =>
      obtain ⟨source, identity⟩ := List.append_inj same width
      exact ⟨source, leBytes_teid_inj identity⟩
  | ipv6 =>
      obtain ⟨source, identity⟩ := List.append_inj (List.append_inj_left' same rfl) width
      exact ⟨source, leBytes_teid_inj identity⟩

namespace Sighting

variable (seen : Sighting) (env : Env) (loader : Loader) (maps : RateMaps)

def dropped : Bool := seen.sourceBlocked loader || seen.tunnelBlocked loader

def counted : Option UInt32 := if seen.dropped loader then none else seen.tunnel

theorem outcome_action :
    (seen.outcome env loader maps).action = .drop ↔ seen.dropped loader = true := by
  rw [outcome, dropped]
  cases seen.sourceBlocked loader with
  | true => simp only [if_true, Bool.true_or]
  | false =>
      simp only [Bool.false_eq_true, if_false, Bool.false_or]
      exact seen.admitted_action env loader maps

/-- A frame that is dropped leaves no record and moves no counter but that of its
source on the signaling ports. -/
theorem outcome_of_dropped (dropped : seen.dropped loader = true) :
    ∃ signalRate, seen.outcome env loader maps = ⟨.drop, { maps with signalRate := signalRate },
      []⟩ := by
  rw [outcome]
  cases source : seen.sourceBlocked loader with
  | true => exact ⟨maps.signalRate, rfl⟩
  | false =>
      have listed : seen.tunnelBlocked loader = true := by
        rwa [Sighting.dropped, source, Bool.false_or] at dropped
      rw [if_neg Bool.false_ne_true, seen.admitted_of_tunnelBlocked _ _ _ listed]
      exact ⟨_, rfl⟩

theorem records_of_dropped (dropped : seen.dropped loader = true) :
    (seen.outcome env loader maps).records = [] := by
  obtain ⟨signalRate, same⟩ := seen.outcome_of_dropped env loader maps dropped
  rw [same]

theorem outcome_of_passed (passed : seen.dropped loader = false) :
    seen.outcome env loader maps = seen.admitted env loader maps := by
  rw [outcome, (Bool.or_eq_false_iff.mp passed).1, if_neg Bool.false_ne_true]

theorem admitted_tunnelRate (passes : seen.tunnelBlocked loader = false) :
    (seen.admitted env loader maps).maps.tunnelRate =
      match seen.tunnel with
      | none => maps.tunnelRate
      | some teid => maps.tunnelRate.insert (seen.tunnelKey teid)
          (countPacket maps.tunnelRate[seen.tunnelKey teid]? env.now) := by
  cases segment : seen.segment with
  | unread => simp only [admitted, tunnel, segment]
  | truncated => simp only [admitted, tunnel, segment]
  | sip => simp only [admitted, tunnel, segment, RateMaps.countSource]
  | offPort =>
      simp only [admitted, tunnel, segment, Sighting.inspectOffPort_eq, RateMaps.countPort,
        RateMaps.scanPorts]
  | gtpu payloadSize parse teid =>
      by_cases unset : teid = 0
      · simp only [admitted, tunnel, segment, unset, if_true, RateMaps.countSource]
      · have admits : blocked loader seen.path.tunnelBlocklist (seen.tunnelKey teid) = false := by
          simpa only [tunnelBlocked, tunnel, segment, unset, if_false, Option.any_some] using passes
        simp only [admitted, tunnel, segment, unset, if_false, admits, Bool.false_eq_true,
          RateMaps.countSource, RateMaps.countTunnel]

theorem outcome_tunnelRate :
    (seen.outcome env loader maps).maps.tunnelRate =
      match seen.counted loader with
      | none => maps.tunnelRate
      | some teid => maps.tunnelRate.insert (seen.tunnelKey teid)
          (countPacket maps.tunnelRate[seen.tunnelKey teid]? env.now) := by
  rw [counted]
  cases dropped : seen.dropped loader with
  | true =>
      obtain ⟨signalRate, same⟩ := seen.outcome_of_dropped env loader maps dropped
      rw [same, if_pos rfl]
  | false =>
      rw [if_neg Bool.false_ne_true, seen.outcome_of_passed env loader maps dropped]
      exact seen.admitted_tunnelRate env loader maps (Bool.or_eq_false_iff.mp dropped).2

end Sighting

section Step

variable (arrival : Arrival) (family : Family) (source : Bytes) (teid : UInt32)

theorem dropped_of_sight {seen : Sighting} (found : sight arrival.frame = some seen) :
    arrival.dropped = seen.dropped arrival.loader := by
  rw [Bool.eq_iff_iff, Arrival.dropped, decide_eq_true_iff, Arrival.verdict, xdpPacketFilter_eq,
    found]
  exact seen.outcome_action arrival.env arrival.loader _

theorem counts_of_sight {seen : Sighting} (found : sight arrival.frame = some seen) :
    arrival.counts family source teid =
      decide (seen.family = family ∧ seen.saddr = source ∧
        seen.counted arrival.loader = some teid) := by
  rw [Arrival.counts, Arrival.concerns, dropped_of_sight arrival found, found, Option.any_some,
    Sighting.counted]
  cases seen.dropped arrival.loader with
  | true => simp only [Bool.not_true, Bool.and_false, if_true, reduceCtorEq, and_false,
      decide_false]
  | false => simp only [Bool.not_false, Bool.and_true, Bool.false_eq_true, if_false]

theorem counts_of_unseen (unseen : sight arrival.frame = none) :
    arrival.counts family source teid = false := by
  rw [Arrival.counts, Arrival.concerns, unseen, Option.any_none, Bool.false_and]

variable {source}

theorem verdict_rates {seen : Sighting} (found : sight arrival.frame = some seen) (rates : Rates) :
    (arrival.verdict rates).rates.of family =
      if seen.family = family then
        (seen.outcome arrival.env arrival.loader (rates.of family)).maps
      else rates.of family := by
  rw [Arrival.verdict, xdpPacketFilter_eq, found]
  dsimp only [Sighting.verdict]
  by_cases same : seen.family = family
  · subst same
    rw [Rates.of_set, if_pos rfl]
  · rw [Rates.of_set_of_ne _ _ (Ne.symm same), if_neg same]

theorem verdict_unseen (unseen : sight arrival.frame = none) (rates : Rates) :
    (arrival.verdict rates).rates = rates := by
  rw [Arrival.verdict, xdpPacketFilter_eq, unseen]

/-- One frame moves the counter of a tunnel exactly if it passes for it. -/
theorem verdict_tunnelRate (width : source.length = family.width) (rates : Rates) :
    ((arrival.verdict rates).rates.of family).tunnelRate[family.path.tunnelKey source teid]? =
      if arrival.counts family source teid then
        some (countPacket (rates.of family).tunnelRate[family.path.tunnelKey source teid]?
          arrival.env.now)
      else (rates.of family).tunnelRate[family.path.tunnelKey source teid]? := by
  cases found : sight arrival.frame with
  | none =>
      rw [verdict_unseen arrival found, counts_of_unseen arrival family source teid found,
        if_neg Bool.false_ne_true]
  | some seen =>
      rw [verdict_rates arrival family found, counts_of_sight arrival family source teid found]
      by_cases same : seen.family = family
      · subst same
        rw [if_pos rfl, seen.outcome_tunnelRate]
        cases seen.counted arrival.loader with
        | none => simp only [reduceCtorEq, and_false, decide_false, Bool.false_eq_true, if_false]
        | some other =>
            have keys : seen.tunnelKey other = seen.family.path.tunnelKey source teid ↔
                seen.saddr = source ∧ other = teid := by
              constructor
              · exact tunnelKey_inj seen.family seen.saddrWidth width
              · rintro ⟨rfl, rfl⟩
                rfl
            simp only [getElem?_insert_update (fun entry => countPacket entry arrival.env.now),
              keys, Option.some.injEq, true_and, decide_eq_true_eq]
      · simp only [same, false_and, decide_false, Bool.false_eq_true, if_false]

end Step

def late (start now : UInt64) : Bool := rolled start signalingRateWindowNs now

def entryOf : List UInt64 → Option SignalRateEntry
  | [] => none
  | start :: rest => some ⟨start, UInt32.ofNat (rest.length + 1)⟩

theorem countPacket_entryOf (window : List UInt64) (now : UInt64) :
    some (countPacket (entryOf window) now) = entryOf (extendWindow late window now) := by
  cases window with
  | nil => rfl
  | cons start rest =>
      cases passed : rolled start signalingRateWindowNs now with
      | true => simp only [entryOf, countPacket, extendWindow, late, passed, if_true]; rfl
      | false =>
          simp only [entryOf, countPacket, extendWindow, late, passed, Bool.false_eq_true, if_false,
            List.length_append, List.length_singleton, UInt32.ofNat_add]
          rfl

theorem priorCount_entryOf (window : List UInt64) (now : UInt64) :
    priorCount (entryOf window) now = UInt32.ofNat (continued late window now).length := by
  cases window with
  | nil => rfl
  | cons start rest =>
      cases passed : rolled start signalingRateWindowNs now with
      | true => simp only [entryOf, priorCount, continued, late, passed, if_true]; rfl
      | false =>
          simp only [entryOf, priorCount, continued, late, passed, Bool.false_eq_true, if_false,
            List.length_cons]

/-- A counter that moves with the frames selected stands, after every run, for
the running window of their times. -/
theorem counter_eq (counter : Rates → Option SignalRateEntry) {selects : Arrival → Bool}
    (start : counter .empty = none)
    (step : ∀ arrival rates, counter (arrival.verdict rates).rates =
      if selects arrival then some (countPacket (counter rates) arrival.env.now) else counter rates)
    (arrivals : List Arrival) :
    counter (ratesAfter .empty arrivals) =
      entryOf (openWindow late ((arrivals.filter selects).map
        (fun arrival => arrival.env.now))) := by
  induction arrivals using List.reverseRecOn with
  | nil => exact start
  | append_singleton arrivals last ih =>
      rw [ratesAfter_concat, step, ih, filter_concat, List.map_append]
      cases selects last with
      | true =>
          rw [if_pos rfl, if_pos rfl, List.map_singleton, openWindow_concat]
          exact countPacket_entryOf _ _
      | false =>
          rw [if_neg Bool.false_ne_true, if_neg Bool.false_ne_true, List.map_nil, List.append_nil]

theorem ratesAfter_tunnelRate (family : Family) {source : Bytes} (teid : UInt32)
    (width : source.length = family.width) (arrivals : List Arrival) :
    ((ratesAfter .empty arrivals).of family).tunnelRate[family.path.tunnelKey source teid]? =
      entryOf (openWindow late (passTimes family source teid arrivals)) := by
  apply counter_eq fun rates => (rates.of family).tunnelRate[family.path.tunnelKey source teid]?
  · cases family <;> exact Std.ExtTreeMap.getElem?_empty
  · intro arrival rates
    exact verdict_tunnelRate arrival family teid width rates

theorem entryOf_count {window : List UInt64} {entry : SignalRateEntry}
    (present : some entry = entryOf window) : entry.count = UInt32.ofNat window.length := by
  cases window with
  | nil => cases present
  | cons start rest =>
      cases present
      rfl

theorem reportedRate_eq (past : List Arrival) (last : Arrival) {seen : Sighting}
    (found : sight last.frame = some seen) {teid : UInt32}
    (counted : seen.counted last.loader = some teid) :
    seen.reportedRate last.env ((ratesAfter .empty past).of seen.family) =
      UInt32.ofNat
        (openWindow late (passTimes seen.family seen.saddr teid (past ++ [last]))).length := by
  have counts : last.counts seen.family seen.saddr teid = true := by
    rw [counts_of_sight last _ _ _ found]
    exact decide_eq_true ⟨rfl, rfl, counted⟩
  have tunnel : seen.tunnel = some teid := by
    rw [Sighting.counted] at counted
    split at counted
    · cases counted
    · exact counted
  have entry := ratesAfter_tunnelRate seen.family teid seen.saddrWidth past
  rw [Sighting.reportedRate, tunnel, passTimes_concat, if_pos counts, openWindow_concat]
  apply entryOf_count
  rw [← countPacket_entryOf, ← entry]
  rfl

theorem written_of_mem {arrival : Arrival} {rates : Rates} {record : RingRecord}
    (member : record ∈ (arrival.verdict rates).records) :
    ∃ seen written, sight arrival.frame = some seen ∧ seen.dropped arrival.loader = false ∧
      written ∈ (seen.admitted arrival.env arrival.loader (rates.of seen.family)).records ∧
      record = ⟨seen.family, written.image⟩ ∧
      ∀ bootTime, record.decode bootTime = .ok (written.event bootTime) := by
  rw [Arrival.verdict, xdpPacketFilter_eq] at member
  cases found : sight arrival.frame with
  | none =>
      rw [found] at member
      cases member
  | some seen =>
      rw [found] at member
      obtain ⟨written, inside, rfl⟩ := List.mem_map.mp member
      have decodes := seen.decode_of_mem arrival.env arrival.loader _ inside
      cases dropped : seen.dropped arrival.loader with
      | true =>
          rw [seen.records_of_dropped _ _ _ dropped] at inside
          cases inside
      | false =>
          rw [seen.outcome_of_passed _ _ _ dropped] at inside
          exact ⟨seen, written, rfl, dropped, inside, rfl, decodes⟩

/-- What a GTP-U event says of the frame it was emitted for. -/
theorem gtpu_event {arrival : Arrival} {rates : Rates} {record : RingRecord}
    (member : record ∈ (arrival.verdict rates).records) {bootTime : Int} {event : SignalingEvent}
    (decoded : record.decode bootTime = .ok event) (gtpu : event.protocol = signalProtoGtpu) :
    ∃ seen, sight arrival.frame = some seen ∧ record.family = seen.family ∧
      event.sourceIP = seen.saddr ∧
      event.tunnelRate = seen.reportedRate arrival.env (rates.of seen.family) ∧
      seen.dropped arrival.loader = false ∧
      ∃ size parse, seen.segment = .gtpu size parse event.teid := by
  obtain ⟨seen, written, found, passes, inside, rfl, decodes⟩ := written_of_mem member
  rw [decodes bootTime] at decoded
  cases decoded
  have protocol : written.protocol = signalProtoGtpu := gtpu
  obtain ⟨source, -⟩ := seen.admitted_addresses _ _ _ inside
  have reported := seen.admitted_records arrival.env arrival.loader (rates.of seen.family)
    (Bool.or_eq_false_iff.mp passes).2
  cases segment : seen.segment with
  | unread =>
      rw [Sighting.admitted, segment] at inside
      cases inside
  | offPort destPort size =>
      rcases seen.offPort_records _ _ _ segment inside with ⟨unknown, -⟩ | scan
      · rw [unknown] at protocol
        exact absurd protocol (by decide)
      · rw [scan] at protocol
        exact absurd protocol (by decide)
  | truncated =>
      rw [reported (by simp [segment]) (by simp [segment]), mem_emit_iff] at inside
      obtain ⟨timestampNs, -, rfl⟩ := inside
      have kind : seen.event.protocol = signalProtoUnknown := by rw [Sighting.event, segment]; rfl
      exact absurd (kind.symm.trans protocol) (by decide)
  | sip size =>
      rw [reported (by simp [segment]) (by simp [segment]), mem_emit_iff] at inside
      obtain ⟨timestampNs, -, rfl⟩ := inside
      have kind : seen.event.protocol = signalProtoSip := by rw [Sighting.event, segment]
      exact absurd (kind.symm.trans protocol) (by decide)
  | gtpu size parse teid =>
      rw [reported (by simp [segment]) (by simp [segment]), mem_emit_iff] at inside
      obtain ⟨timestampNs, -, rfl⟩ := inside
      have identity : seen.event.teid = teid := by rw [Sighting.event, segment]
      refine ⟨seen, found, rfl, source, rfl, passes, size, parse, ?_⟩
      rw [segment, SignalingEventRecord.event, identity]

def InOrder (arrivals : List Arrival) : Prop :=
  arrivals.Pairwise (fun earlier later => earlier.env.now ≤ later.env.now)

theorem InOrder.passTimes {arrivals : List Arrival} (ordered : InOrder arrivals) (family : Family)
    (source : Bytes) (teid : UInt32) :
    (passTimes family source teid arrivals).Pairwise (· ≤ ·) := by
  rw [Bpf.passTimes, List.pairwise_map]
  exact List.Pairwise.filter _ ordered

theorem rolled_eq {start now : UInt64} (span : UInt64) (ordered : start ≤ now) :
    rolled start span now = decide (start.toNat + span.toNat < now.toNat) := by
  have bound := UInt64.le_iff_toNat_le.mp ordered
  rw [rolled, decide_eq_decide, gt_iff_lt, UInt64.lt_iff_toNat_lt,
    UInt64.toNat_sub_of_le _ _ ordered]
  omega

def lateNs (start now : Nat) : Bool := decide (start + signalingRateWindowNs.toNat < now)

theorem lateNs_eq {start now : UInt64} (ordered : start ≤ now) :
    lateNs start.toNat now.toNat = late start now :=
  (rolled_eq signalingRateWindowNs ordered).symm

structure CountsItsWindow (past : List Arrival) (last : Arrival) (record : RingRecord)
    (event : SignalingEvent) : Prop where
  untunneled : event.teid = 0 → event.tunnelRate = 0
  /-- It is the number of frames in the last window of those that passed. -/
  window : event.teid ≠ 0 → ∃ earlier window,
    Cut lateNs
      ((passTimes record.family event.sourceIP event.teid (past ++ [last])).map UInt64.toNat)
      (earlier ++ [window]) ∧
    (window.length < 2 ^ 32 → event.tunnelRate.toNat = window.length)
  /-- Without the frames of other sources, tunnels and ports it is the same. -/
  others : record ∈ (last.verdict (ratesAfter .empty (past.filter
    (fun arrival => arrival.concerns record.family event.sourceIP event.teid)))).records

theorem passTimes_filter (family : Family) (source : Bytes) (teid : UInt32)
    (arrivals : List Arrival) :
    passTimes family source teid
        (arrivals.filter (fun arrival => arrival.concerns family source teid)) =
      passTimes family source teid arrivals := by
  rw [passTimes, passTimes, List.filter_filter]
  congr 2
  funext arrival
  rw [Arrival.counts, Bool.and_right_comm, Bool.and_self]

theorem records_of_rate {arrival : Arrival} {seen : Sighting}
    (found : sight arrival.frame = some seen) (passes : seen.dropped arrival.loader = false)
    {size : UInt16} {parse : GtpuParse} {teid : UInt32}
    (segment : seen.segment = .gtpu size parse teid) {rates other : Rates}
    (same : seen.reportedRate arrival.env (rates.of seen.family) =
      seen.reportedRate arrival.env (other.of seen.family)) :
    (arrival.verdict rates).records = (arrival.verdict other).records := by
  have reported := fun maps => seen.admitted_records arrival.env arrival.loader maps
    (Bool.or_eq_false_iff.mp passes).2 (by simp [segment]) (by simp [segment])
  simp only [Arrival.verdict, xdpPacketFilter_eq, found, Sighting.verdict,
    seen.outcome_of_passed _ _ _ passes, reported, same]

theorem sight_of_concerns {arrival : Arrival} {family : Family} {source : Bytes} {teid : UInt32}
    (concerned : arrival.concerns family source teid = true) :
    ∃ seen, sight arrival.frame = some seen ∧ seen.family = family ∧ seen.saddr = source ∧
      seen.tunnel = some teid := by
  obtain ⟨seen, found, held⟩ := Option.any_eq_true _ _ |>.mp concerned
  exact ⟨seen, found, of_decide_eq_true held⟩

/-- What is written for a frame of a tunnel depends on the tunnel's frames alone. -/
theorem records_filter (past : List Arrival) {last : Arrival} {family : Family} {source : Bytes}
    {teid : UInt32} (concerned : last.concerns family source teid = true) :
    (last.verdict (ratesAfter .empty past)).records =
      (last.verdict (ratesAfter .empty (past.filter
        (fun arrival => arrival.concerns family source teid)))).records := by
  obtain ⟨seen, found, rfl, rfl, tunnel⟩ := sight_of_concerns concerned
  cases passes : seen.dropped last.loader with
  | true =>
      simp only [Arrival.verdict, xdpPacketFilter_eq, found, Sighting.verdict,
        seen.records_of_dropped _ _ _ passes]
  | false =>
      have counted : seen.counted last.loader = some teid := by
        rw [Sighting.counted, passes, if_neg Bool.false_ne_true, tunnel]
      obtain ⟨-, size, parse, segment⟩ := (seen.tunnel_eq_some_iff teid).mp tunnel
      apply records_of_rate found passes segment
      rw [reportedRate_eq past last found counted, reportedRate_eq _ last found counted,
        passTimes_concat, passTimes_concat, passTimes_filter]

/-- In every run of frames in order, the rate of a GTP-U event is the count of
the window its frame is in. -/
theorem counts_its_window {past : List Arrival} {last : Arrival}
    (ordered : InOrder (past ++ [last])) {record : RingRecord}
    (member : record ∈ (last.verdict (ratesAfter .empty past)).records) {bootTime : Int}
    {event : SignalingEvent} (decoded : record.decode bootTime = .ok event)
    (gtpu : event.protocol = signalProtoGtpu) : CountsItsWindow past last record event := by
  obtain ⟨seen, found, family, source, rate, passes, size, parse, segment⟩ :=
    gtpu_event member decoded gtpu
  rw [← family] at rate
  by_cases unset : event.teid = 0
  · have tunnel : seen.tunnel = none := by rw [Sighting.tunnel, segment, unset]; rfl
    have zero : ∀ maps, seen.reportedRate last.env maps = 0 := by
      intro maps
      rw [Sighting.reportedRate, tunnel]
    refine ⟨fun _ => by rw [rate, zero], fun set => absurd unset set, ?_⟩
    exact (records_of_rate found passes segment ((zero _).trans (zero _).symm)) ▸ member
  · have tunnel : seen.tunnel = some event.teid :=
      (seen.tunnel_eq_some_iff event.teid).mpr ⟨unset, size, parse, segment⟩
    have counted : seen.counted last.loader = some event.teid := by
      rw [Sighting.counted, passes, if_neg Bool.false_ne_true, tunnel]
    have counts : last.counts record.family event.sourceIP event.teid = true := by
      rw [counts_of_sight last _ _ _ found]
      exact decide_eq_true ⟨family.symm, source.symm, counted⟩
    have reported := fun past => reportedRate_eq past last found counted
    rw [← family, ← source] at reported
    refine ⟨fun zero => absurd zero unset, fun _ => ?_, ?_⟩
    · have times := ordered.passTimes record.family event.sourceIP event.teid
      have windows : (openWindow late (passTimes record.family event.sourceIP event.teid
          (past ++ [last]))).map UInt64.toNat = openWindow lateNs _ :=
        map_openWindow (times.imp fun before => lateNs_eq before)
      have nonempty : (passTimes record.family event.sourceIP event.teid (past ++ [last])).map
          UInt64.toNat ≠ [] := by
        rw [passTimes_concat, if_pos counts, List.map_append]
        exact List.append_ne_nil_of_right_ne_nil _ (List.cons_ne_nil _ _)
      obtain ⟨earlier, cut⟩ : ∃ earlier, Cut lateNs _ (earlier ++ [openWindow lateNs _]) :=
        cut_openWindow nonempty
      refine ⟨earlier, _, cut, fun bounded => ?_⟩
      rw [← windows, List.length_map] at bounded ⊢
      rw [rate, reported, UInt32.toNat_ofNat']
      exact Nat.mod_eq_of_lt bounded
    · rwa [records_filter past (Bool.and_eq_true_iff.mp counts).1] at member

end Sentinel5G.Bpf
