import Sentinel5G.Base.EdgeTrigger
import Sentinel5G.Bpf.TunnelRate

namespace Sentinel5G.Bpf

open Base Ebpf

abbrev Step := Arrival × Verdict

def Sighting.offPort (seen : Sighting) : Option UInt16 :=
  match seen.segment with
  | .offPort destPort _ => some destPort
  | _ => none

/-- The port without signaling that the source gets to with the frame. -/
def Arrival.probe (arrival : Arrival) (family : Family) (source : Bytes) : Option UInt16 :=
  match sight arrival.frame with
  | none => none
  | some seen =>
      if seen.family = family ∧ seen.saddr = source ∧ arrival.dropped = false then seen.offPort
      else none

theorem Sighting.offPort_eq_some (seen : Sighting) (port : UInt16) :
    seen.offPort = some port ↔ ∃ size, seen.segment = .offPort port size := by
  unfold offPort
  split
  · rename_i destPort size segment
    simp [segment]
  · rename_i other
    constructor
    · intro impossible
      cases impossible
    · rintro ⟨size, segment⟩
      exact absurd segment (other port size)

theorem Arrival.probe_of_sight (arrival : Arrival) (family : Family) (source : Bytes)
    {seen : Sighting} (found : sight arrival.frame = some seen) :
    arrival.probe family source =
      if seen.family = family ∧ seen.saddr = source ∧ seen.dropped arrival.loader = false then
        seen.offPort
      else none := by
  rw [probe, found, dropped_of_sight arrival found]

theorem Arrival.probe_eq_some {arrival : Arrival} {family : Family} {source : Bytes}
    {port : UInt16} (probed : arrival.probe family source = some port) :
    ∃ seen size, sight arrival.frame = some seen ∧ seen.family = family ∧ seen.saddr = source ∧
      seen.dropped arrival.loader = false ∧ seen.segment = .offPort port size := by
  cases found : sight arrival.frame with
  | none =>
      rw [probe, found] at probed
      cases probed
  | some seen =>
      rw [probe_of_sight arrival family source found] at probed
      split at probed
      · rename_i own
        obtain ⟨size, segment⟩ := (seen.offPort_eq_some port).mp probed
        exact ⟨seen, size, rfl, own.1, own.2.1, own.2.2, segment⟩
      · cases probed

section Trackers

variable (seen : Sighting) (env : Env) (loader : Loader) (maps : RateMaps)

/-- What a frame does to the two trackers of its source. -/
theorem Sighting.outcome_trackers :
    ((seen.outcome env loader maps).maps.scanRate, (seen.outcome env loader maps).maps.portScan) =
      match (if seen.dropped loader then none else seen.offPort) with
      | none => (maps.scanRate, maps.portScan)
      | some port =>
          (maps.scanRate.insert (seen.path.scanKey seen.saddr port)
            (countPacket maps.scanRate[seen.path.scanKey seen.saddr port]? env.now),
          maps.portScan.insert seen.saddr
            (scanPort maps.portScan[seen.saddr]? port env.now).1) := by
  cases dropped : seen.dropped loader with
  | true =>
      obtain ⟨signalRate, same⟩ := seen.outcome_of_dropped env loader maps dropped
      rw [if_pos rfl, same]
  | false =>
      rw [if_neg Bool.false_ne_true, seen.outcome_of_passed _ _ _ dropped]
      cases segment : seen.segment with
      | unread => simp only [admitted, offPort, segment]
      | truncated => simp only [admitted, offPort, segment]
      | sip => simp only [admitted, offPort, segment, RateMaps.countSource]
      | offPort destPort size =>
          have addressed : seen.event.saddr = seen.saddr := seen.event_addresses.1
          have port : seen.event.destPort = destPort := by rw [event, segment]
          simp only [admitted, offPort, segment, Sighting.inspectOffPort_eq, RateMaps.countPort,
            RateMaps.scanPorts, addressed, port]
      | gtpu payloadSize parse teid =>
          simp only [admitted, offPort, segment]
          split
          · rfl
          · split <;> rfl

end Trackers

theorem scanKey_inj (family : Family) {first second : Bytes} {port other : UInt16}
    (widthFirst : first.length = family.width) (widthSecond : second.length = family.width)
    (same : family.path.scanKey first port = family.path.scanKey second other) :
    first = second ∧ port = other := by
  have width : first.length = second.length := by rw [widthFirst, widthSecond]
  have ports : leBytes 2 port.toNat = leBytes 2 other.toNat → port = other := fun bytes =>
    UInt16.toNat_inj.mp (leBytes_inj 2 _ _ port.toNat_lt other.toNat_lt bytes)
  cases family with
  | ipv4 =>
      obtain ⟨source, bytes⟩ := List.append_inj (List.append_inj_left' same rfl) width
      exact ⟨source, ports bytes⟩
  | ipv6 =>
      obtain ⟨source, bytes⟩ := List.append_inj (List.append_inj_left' same rfl) width
      exact ⟨source, ports bytes⟩

section Step

variable (arrival : Arrival) (family : Family) (rates : Rates)

/-- One frame moves the port table of a source exactly if it gets to a port. -/
theorem verdict_portScan (source : Bytes) :
    ((arrival.verdict rates).rates.of family).portScan[source]? =
      match arrival.probe family source with
      | none => (rates.of family).portScan[source]?
      | some port =>
          some (scanPort (rates.of family).portScan[source]? port arrival.env.now).1 := by
  cases found : sight arrival.frame with
  | none => rw [verdict_unseen arrival found, Arrival.probe, found]
  | some seen =>
      rw [verdict_rates arrival family found, arrival.probe_of_sight family source found]
      by_cases same : seen.family = family
      · subst same
        have moved := congrArg Prod.snd
          (seen.outcome_trackers arrival.env arrival.loader (rates.of seen.family))
        dsimp only at moved
        rw [if_pos rfl, moved]
        cases seen.dropped arrival.loader with
        | true => simp only [if_true, Bool.true_eq_false, and_false, if_false]
        | false =>
            simp only [Bool.false_eq_true, if_false, true_and, and_true]
            cases seen.offPort with
            | none => simp only [ite_self]
            | some port =>
                simp only [getElem?_insert_update
                  (fun entry => (scanPort entry port arrival.env.now).1)]
                split <;> rfl
      · simp only [same, false_and, if_false]

theorem verdict_scanRate {source : Bytes} (port : UInt16) (width : source.length = family.width) :
    ((arrival.verdict rates).rates.of family).scanRate[family.path.scanKey source port]? =
      if arrival.probe family source = some port then
        some (countPacket (rates.of family).scanRate[family.path.scanKey source port]?
          arrival.env.now)
      else (rates.of family).scanRate[family.path.scanKey source port]? := by
  cases found : sight arrival.frame with
  | none => simp only [verdict_unseen arrival found, Arrival.probe, found, reduceCtorEq, if_false]
  | some seen =>
      rw [verdict_rates arrival family found, arrival.probe_of_sight family source found]
      by_cases same : seen.family = family
      · subst same
        have moved := congrArg Prod.fst
          (seen.outcome_trackers arrival.env arrival.loader (rates.of seen.family))
        dsimp only at moved
        rw [if_pos rfl, moved]
        cases seen.dropped arrival.loader with
        | true => simp only [if_true, Bool.true_eq_false, and_false, if_false, reduceCtorEq]
        | false =>
            simp only [Bool.false_eq_true, if_false, true_and, and_true]
            cases seen.offPort with
            | none => simp only [ite_self, reduceCtorEq, if_false]
            | some other =>
                have keys : seen.path.scanKey seen.saddr other = seen.family.path.scanKey source
                    port ↔
                    seen.saddr = source ∧ other = port := by
                  constructor
                  · exact scanKey_inj seen.family seen.saddrWidth width
                  · rintro ⟨rfl, rfl⟩
                    rfl
                simp only [getElem?_insert_update (fun entry => countPacket entry arrival.env.now),
                  keys]
                by_cases own : seen.saddr = source
                · simp only [own, true_and, if_true, Option.some.injEq]
                · simp only [own, false_and, if_false, reduceCtorEq]
      · simp only [same, false_and, if_false, reduceCtorEq]

end Step

def selected (selects : Arrival → Bool) (arrivals : List Arrival) : List Step :=
  (run .empty arrivals).filter (fun step => selects step.1)

theorem selected_eq_turns (selects : Arrival → Bool) (arrivals : List Arrival) :
    selected selects arrivals =
      ((turns (fun rates arrival => (arrival.verdict rates).rates) .empty arrivals).filter
        (fun turn => selects turn.2)).map (fun turn => (turn.2, turn.2.verdict turn.1)) := by
  rw [selected, run_eq_turns, List.filter_map]
  rfl

theorem selected_concat (selects : Arrival → Bool) (past : List Arrival) (last : Arrival) :
    selected selects (past ++ [last]) =
      selected selects past ++
        if selects last then [(last, last.verdict (ratesAfter .empty past))] else [] := by
  rw [selected, run_concat, filter_concat, selected]

theorem throughout_selected {selects : Arrival → Bool} {holds : List Step → Step → Prop}
    {arrivals : List Arrival}
    (step : ∀ past last rest, arrivals = past ++ last :: rest → selects last = true →
      holds (selected selects past) (last, last.verdict (ratesAfter .empty past))) :
    Throughout holds (selected selects arrivals) := by
  rw [selected_eq_turns]
  apply Throughout.map
  apply throughout_filter_turns
  intro past last rest split chosen
  rw [← selected_eq_turns]
  exact step past last rest split chosen

theorem map_selected (selects : Arrival → Bool) (arrivals : List Arrival) :
    (selected selects arrivals).map Prod.fst = arrivals.filter selects := by
  have moves := congrArg (List.filter selects)
    (@map_snd_turns Rates Arrival (fun rates arrival => (arrival.verdict rates).rates) .empty
      arrivals)
  rw [List.filter_map] at moves
  rw [selected_eq_turns, List.map_map]
  exact moves

def Verdict.events (verdict : Verdict) (bootTime : Int) : List SignalingEvent :=
  verdict.records.filterMap (fun record => (record.decode bootTime).toOption)

def isPortScan (event : SignalingEvent) : Bool := decide (event.protocol = signalProtoPortScan)

/-- `SIGNAL_PROTO_UNKNOWN` and not malformed. -/
def isBurst (event : SignalingEvent) : Bool :=
  decide (event.protocol = signalProtoUnknown) && !event.malformed

theorem count_emitted (emits : Prop) [Decidable emits] (env : Env) (call : Nat)
    (record : SignalingEventRecord) (bootTime : Int) (kind : SignalingEvent → Bool)
    (expected : Bool) (same : ∀ timestampNs,
      kind (SignalingEventRecord.event { record with timestampNs := timestampNs } bootTime) =
        expected) :
    (((if emits then reserveAndSubmit env call record else []).map
      (fun written => written.event bootTime)).filter kind).length =
      if emits ∧ expected = true then (env.reserve call).isSome.toNat else 0 := by
  by_cases emitted : emits
  · simp only [emitted, if_true, true_and, reserveAndSubmit]
    cases env.reserve call with
    | none => simp
    | some timestampNs =>
        cases expected with
        | true => simp [same]
        | false => simp [same]
  · simp [emitted]

section Events

variable {arrival : Arrival} {seen : Sighting} {port size : UInt16}
  (found : sight arrival.frame = some seen) (passes : seen.dropped arrival.loader = false)
  (segment : seen.segment = .offPort port size) (rates : Rates) (bootTime : Int)

include found passes

theorem events_of_passed :
    (arrival.verdict rates).events bootTime =
      (seen.admitted arrival.env arrival.loader (rates.of seen.family)).records.map
        (fun written => written.event bootTime) := by
  have decodes : ∀ written ∈
      (seen.admitted arrival.env arrival.loader (rates.of seen.family)).records,
      RingRecord.decode ⟨seen.family, written.image⟩ bootTime = .ok (written.event bootTime) := by
    intro written member
    rw [← seen.outcome_of_passed _ _ _ passes] at member
    exact seen.decode_of_mem _ _ _ member bootTime
  rw [Verdict.events, Arrival.verdict, xdpPacketFilter_eq, found]
  dsimp only [Sighting.verdict]
  rw [seen.outcome_of_passed _ _ _ passes, List.filterMap_map, ← List.filterMap_eq_map]
  apply List.filterMap_congr
  intro written member
  simp only [Function.comp, decodes written member]
  rfl

include segment

theorem events_of_offPort :
    (arrival.verdict rates).events bootTime =
      ((if priorCount (rates.of seen.family).scanRate[seen.path.scanKey seen.saddr port]?
            arrival.env.now + 1 = scanEmitThreshold then
          reserveAndSubmit arrival.env 0 seen.event else []) ++
        (if (scanPort (rates.of seen.family).portScan[seen.saddr]? port arrival.env.now).2 then
          reserveAndSubmit arrival.env 1 { seen.event with
            payloadSize := UInt16.ofNat multiportScanThreshold
            protocol := signalProtoPortScan }
          else [])).map (fun written => written.event bootTime) := by
  have addressed : seen.event.saddr = seen.saddr := seen.event_addresses.1
  have dest : seen.event.destPort = port := by rw [Sighting.event, segment]
  rw [events_of_passed found passes]
  simp only [Sighting.admitted, segment, Sighting.inspectOffPort_eq, RateMaps.countPort,
    RateMaps.scanPorts, addressed, dest]

theorem count_portScan :
    (((arrival.verdict rates).events bootTime).filter isPortScan).length =
      if (scanPort (rates.of seen.family).portScan[seen.saddr]? port arrival.env.now).2 then
        (arrival.env.reserve 1).isSome.toNat
      else 0 := by
  have unknown : ∀ timestampNs, isPortScan (SignalingEventRecord.event
      { seen.event with timestampNs := timestampNs } bootTime) = false := by
    intro timestampNs
    rw [Sighting.event, segment]
    rfl
  rw [events_of_offPort found passes segment, List.map_append, List.filter_append,
    List.length_append, count_emitted _ _ _ _ _ _ false unknown,
    count_emitted _ _ _ _ _ _ true (fun _ => rfl)]
  simp

theorem count_burst :
    (((arrival.verdict rates).events bootTime).filter isBurst).length =
      if priorCount (rates.of seen.family).scanRate[seen.path.scanKey seen.saddr port]?
          arrival.env.now + 1 = scanEmitThreshold then
        (arrival.env.reserve 0).isSome.toNat
      else 0 := by
  have unknown : ∀ timestampNs, isBurst (SignalingEventRecord.event
      { seen.event with timestampNs := timestampNs } bootTime) = true := by
    intro timestampNs
    rw [Sighting.event, segment]
    rfl
  rw [events_of_offPort found passes segment, List.map_append, List.filter_append,
    List.length_append, count_emitted _ _ _ _ _ _ true unknown,
    count_emitted _ _ _ _ _ _ false (fun _ => rfl)]
  simp

end Events

/-- Both kinds of events are emitted for a frame to the port that they name. -/
theorem offPort_of_written {seen : Sighting} {env : Env} {loader : Loader} {maps : RateMaps}
    (passes : seen.dropped loader = false) {written : SignalingEventRecord}
    (inside : written ∈ (seen.admitted env loader maps).records) {bootTime : Int}
    (kind : isPortScan (written.event bootTime) = true ∨ isBurst (written.event bootTime) = true) :
    seen.offPort = some written.destPort := by
  have reported := seen.admitted_records env loader maps (Bool.or_eq_false_iff.mp passes).2
  cases segment : seen.segment with
  | unread =>
      rw [Sighting.admitted, segment] at inside
      cases inside
  | truncated =>
      rw [reported (by simp [segment]) (by simp [segment])] at inside
      rw [emitted_eq inside, Sighting.event, segment] at kind
      exact absurd kind (by simp [isPortScan, isBurst, SignalingEventRecord.event,
        signalProtoPortScan])
  | sip size =>
      rw [reported (by simp [segment]) (by simp [segment])] at inside
      rw [emitted_eq inside, Sighting.event, segment] at kind
      exact absurd kind (by simp [isPortScan, isBurst, SignalingEventRecord.event,
        signalProtoPortScan, signalProtoSip, signalProtoUnknown])
  | gtpu size parse teid =>
      rw [reported (by simp [segment]) (by simp [segment])] at inside
      rw [emitted_eq inside, Sighting.event, segment] at kind
      exact absurd kind (by simp [isPortScan, isBurst, SignalingEventRecord.event,
        signalProtoPortScan, signalProtoGtpu, signalProtoUnknown])
  | offPort destPort size =>
      have port : written.destPort = seen.event.destPort := by
        simp only [Sighting.admitted, segment, Sighting.inspectOffPort_eq, List.mem_append]
          at inside
        rcases inside with burst | scan
        · split at burst
          · rw [emitted_eq burst]
          · cases burst
        · split at scan
          · rw [emitted_eq scan]
          · cases scan
      rw [port, Sighting.offPort, Sighting.event, segment]

theorem probe_of_event {arrival : Arrival} {rates : Rates} {record : RingRecord}
    (member : record ∈ (arrival.verdict rates).records) {bootTime : Int} {event : SignalingEvent}
    (decoded : record.decode bootTime = .ok event)
    (kind : isPortScan event = true ∨ isBurst event = true) :
    arrival.probe record.family event.sourceIP = some event.destPort := by
  obtain ⟨seen, written, found, passes, inside, rfl, decodes⟩ := written_of_mem member
  rw [decodes bootTime] at decoded
  cases decoded
  have source : written.saddr = seen.saddr := (seen.admitted_addresses _ _ _ inside).1
  rw [arrival.probe_of_sight _ _ found, if_pos ⟨rfl, source.symm, passes⟩]
  exact offPort_of_written passes inside kind

def expired (span : UInt64) (start step : Step) : Bool :=
  decide (start.1.env.now.toNat + span.toNat < step.1.env.now.toNat)

theorem InOrder.upTo {arrivals past rest : List Arrival} {last : Arrival}
    (ordered : InOrder arrivals) (split : arrivals = past ++ last :: rest) :
    InOrder (past ++ [last]) := by
  rw [split, ← List.singleton_append, ← List.append_assoc] at ordered
  exact (List.pairwise_append.mp ordered).1

theorem InOrder.rolled_eq_expired {selects : Arrival → Bool} {past : List Arrival} {last : Arrival}
    (ordered : InOrder (past ++ [last])) (chosen : selects last = true) (verdict : Verdict)
    (span : UInt64) :
    (selected selects past ++ [(last, verdict)]).Pairwise (fun start step =>
      rolled start.1.env.now span step.1.env.now = expired span start step) := by
  have arrived := List.Pairwise.filter selects ordered
  rw [List.filter_append, List.filter_singleton, chosen, ← map_selected, cond_true] at arrived
  have mapped : (selected selects past).map Prod.fst ++ [last] =
      (selected selects past ++ [(last, verdict)]).map Prod.fst := by
    rw [List.map_append, List.map_singleton]
  rw [mapped, List.pairwise_map] at arrived
  exact arrived.imp fun before => rolled_eq span before

def probeFrame (port : UInt16) : Bytes :=
  List.replicate 12 0 ++ [0x08, 0x00] ++
    [0x45, 0, 0, 28, 0, 0, 0, 0, 64, 17, 0, 0, 10, 0, 0, 1, 10, 0, 0, 2] ++
    [0x80, 0x00] ++ beBytes 2 port.toNat ++ [0, 8, 0, 0]

def volley (env : Env) (ports : List UInt16) : List Arrival :=
  ports.map (fun port => ⟨env, bareLoader, probeFrame port⟩)

theorem volley_inOrder (env : Env) (ports : List UInt16) : InOrder (volley env ports) := by
  rw [InOrder, volley, List.pairwise_map]
  exact List.pairwise_of_forall fun _ _ => UInt64.le_refl _

theorem cut_volley (env : Env) (ports : List UInt16) (selects : Arrival → Bool) (span : UInt64)
    (nonempty : selected selects (volley env ports) ≠ []) :
    Cut (expired span) (selected selects (volley env ports))
      [selected selects (volley env ports)] := by
  have times : ∀ step ∈ selected selects (volley env ports), step.1.env = env := by
    intro step member
    have arrived : step.1 ∈ (volley env ports).filter selects := by
      rw [← map_selected]
      exact List.mem_map_of_mem member
    obtain ⟨port, -, same⟩ := List.mem_map.mp (List.mem_filter.mp arrived).1
    rw [← same]
  generalize selected selects (volley env ports) = steps at nonempty times ⊢
  obtain ⟨start, rest, rfl⟩ := List.exists_cons_of_ne_nil nonempty
  apply cut_of_fresh
  intro step member
  rw [expired, times start List.mem_cons_self, times step (List.mem_cons_of_mem _ member)]
  exact decide_eq_false (by omega)

def noRoom : Env := ⟨0, fun _ => none⟩

theorem probe_unique {arrival : Arrival} {family other : Family} {source peer : Bytes}
    {port second : UInt16} (probed : arrival.probe family source = some port)
    (again : arrival.probe other peer = some second) :
    family = other ∧ source = peer ∧ port = second := by
  obtain ⟨seen, size, found, rfl, rfl, -, segment⟩ := Arrival.probe_eq_some probed
  obtain ⟨seen', size', found', rfl, rfl, -, segment'⟩ := Arrival.probe_eq_some again
  cases found.symm.trans found'
  cases segment.symm.trans segment'
  exact ⟨rfl, rfl, rfl⟩

theorem probe_iff_of_event {rates : Rates} {arrivals : List Arrival} {step : Step}
    (member : step ∈ run rates arrivals) {record : RingRecord} (emitted : record ∈ step.2.records)
    {bootTime : Int} {event : SignalingEvent} (decoded : record.decode bootTime = .ok event)
    (kind : isPortScan event = true ∨ isBurst event = true) (family : Family) (source : Bytes)
    (port : UInt16) :
    step.1.probe family source = some port ↔
      record.family = family ∧ event.sourceIP = source ∧ event.destPort = port := by
  obtain ⟨before, made⟩ := verdict_of_mem_run member
  rw [made] at emitted
  have own := probe_of_event emitted decoded kind
  constructor
  · exact probe_unique own
  · rintro ⟨rfl, rfl, rfl⟩
    exact own

end Sentinel5G.Bpf
