import Sentinel5G.Bpf.TunnelRate
import Sentinel5G.Capture.Parity
import Mathlib.Algebra.Order.Field.Rat
import Mathlib.Tactic.Linarith

namespace Sentinel5G.Capture

open Base Bpf Ebpf

def signalingRateWindowS : ℚ := 1

structure Series where
  state : String × Nat → Option (ℚ × Nat)
  counts : List Nat

def Series.empty : Series := ⟨fun _ => none, []⟩

def bump (entry : Option (ℚ × Nat)) (timestamp : ℚ) : ℚ × Nat :=
  match entry with
  | none => (timestamp, 1)
  | some (windowStart, count) =>
      if timestamp - windowStart > signalingRateWindowS then (timestamp, 1)
      else (windowStart, count + 1)

def Series.step (series : Series) (packet : Packet) : Series :=
  if packet.teid = 0 then { series with counts := series.counts ++ [0] }
  else
    let key := (packet.sourceIp, packet.teid)
    let entry := bump (series.state key) packet.timestamp
    ⟨Function.update series.state key (some entry), series.counts ++ [entry.2]⟩

def runSeries (packets : List Packet) : Series := packets.foldl Series.step .empty

def tunnelRateSeries (packets : List Packet) : List Nat := (runSeries packets).counts

theorem runSeries_concat (packets : List Packet) (last : Packet) :
    runSeries (packets ++ [last]) = (runSeries packets).step last := by
  rw [runSeries, List.foldl_append, List.foldl_cons, List.foldl_nil, runSeries]

def lateS (start timestamp : ℚ) : Bool := decide (timestamp - start > signalingRateWindowS)

def packetTimes (key : String × Nat) (packets : List Packet) : List ℚ :=
  (packets.filter (fun packet => decide ((packet.sourceIp, packet.teid) = key))).map
    Packet.timestamp

theorem packetTimes_concat (key : String × Nat) (packets : List Packet) (last : Packet) :
    packetTimes key (packets ++ [last]) =
      packetTimes key packets ++ if (last.sourceIp, last.teid) = key then
        [last.timestamp] else [] := by
  rw [packetTimes, List.filter_append, List.map_append, packetTimes]
  congr 1
  by_cases same : (last.sourceIp, last.teid) = key
  · simp only [List.filter_cons, same, decide_true, List.filter_nil, List.map_cons, List.map_nil,
      if_true]
  · simp only [List.filter_cons, same, decide_false, List.filter_nil, List.map_nil,
      Bool.false_eq_true, if_false]

def stateOf : List ℚ → Option (ℚ × Nat)
  | [] => none
  | start :: rest => some (start, rest.length + 1)

theorem bump_stateOf (window : List ℚ) (timestamp : ℚ) :
    some (bump (stateOf window) timestamp) = stateOf (extendWindow lateS window timestamp) := by
  cases window with
  | nil => rfl
  | cons start rest =>
      by_cases passed : timestamp - start > signalingRateWindowS
      · simp only [stateOf, bump, extendWindow, lateS, passed, decide_true, if_true,
          List.length_nil]
      · simp only [stateOf, bump, extendWindow, lateS, passed, decide_false, Bool.false_eq_true,
          if_false, List.length_append, List.length_singleton]

theorem stateOf_count {window : List ℚ} {entry : ℚ × Nat} (present : some entry = stateOf window) :
    entry.2 = window.length := by
  cases window with
  | nil => cases present
  | cons start rest =>
      cases present
      rfl

theorem runSeries_state (packets : List Packet) (key : String × Nat) (tunnel : key.2 ≠ 0) :
    (runSeries packets).state key = stateOf (openWindow lateS (packetTimes key packets)) := by
  induction packets using List.reverseRecOn with
  | nil => rfl
  | append_singleton packets last ih =>
      rw [runSeries_concat, packetTimes_concat, Series.step]
      by_cases same : (last.sourceIp, last.teid) = key
      · subst same
        rw [if_neg tunnel, if_pos rfl, openWindow_concat, ← bump_stateOf, ← ih]
        exact Function.update_self _ _ _
      · rw [if_neg same, List.append_nil, ← ih]
        split
        · rfl
        · exact Function.update_of_ne (Ne.symm same) _ _

/-- The count of a packet is that of the window it is in. -/
theorem tunnelRateSeries_concat (packets : List Packet) (last : Packet) :
    tunnelRateSeries (packets ++ [last]) =
      tunnelRateSeries packets ++ [if last.teid = 0 then 0
        else (openWindow lateS (packetTimes (last.sourceIp, last.teid)
          (packets ++ [last]))).length] := by
  rw [tunnelRateSeries, runSeries_concat, Series.step]
  split
  · rfl
  · rename_i tunnel
    have state := runSeries_state packets (last.sourceIp, last.teid) tunnel
    have count := stateOf_count (bump_stateOf (openWindow lateS (packetTimes
      (last.sourceIp, last.teid) packets)) last.timestamp)
    rw [packetTimes_concat, if_pos rfl, openWindow_concat, ← count, ← state]
    rfl

def seconds (ns : UInt64) : ℚ := ns.toNat / 1000000000

def gtpuPacket (family : Family) (arrival : Arrival) : Option Packet :=
  (sight arrival.frame).bind (fun seen =>
    match seen.segment with
    | .gtpu _ _ _ =>
        if seen.family = family then packetOf (seconds arrival.env.now) seen else none
    | _ => none)

theorem gtpuPacket_eq_some {family : Family} {arrival : Arrival} {packet : Packet}
    (found : gtpuPacket family arrival = some packet) :
    ∃ seen size parse teid, sight arrival.frame = some seen ∧ seen.family = family ∧
      seen.segment = .gtpu size parse teid ∧
      packet = ⟨seconds arrival.env.now, IP.string seen.saddr, gtpuPort, size.toNat, teid.toNat,
        decide (parse = .malformed)⟩ := by
  obtain ⟨seen, read, found⟩ := Option.bind_eq_some_iff.mp found
  split at found
  · rename_i size parse teid segment
    split at found
    · rename_i same
      rw [packetOf, segment] at found
      exact ⟨seen, size, parse, teid, read, same, segment, (Option.some.inj found).symm⟩
    · cases found
  · cases found

theorem sight_of_carries {frame : Bytes} {l3 : Nat} {vlanId : UInt16}
    (carries : CarriesIPv4 frame l3 vlanId) : sight frame = sightIPv4 frame l3 vlanId := by
  have other : ethPIp ≠ ethPIpv6 := by decide
  simp only [sight, carries.ether, other, if_false, ne_eq, not_true_eq_false]

theorem gtpuPacket_eq_readFrame {arrival : Arrival} {l3 : Nat} {vlanId : UInt16}
    (carries : CarriesIPv4 arrival.frame l3 vlanId) (small : arrival.frame.length < 65536) :
    gtpuPacket .ipv4 arrival =
      (readFrame linktypeEthernet (seconds arrival.env.now) arrival.frame.length
        arrival.frame).filter (fun packet => packet.destPort = gtpuPort) := by
  rw [gtpuPacket, readFrame_eq carries small]
  cases found : sight arrival.frame with
  | none => rfl
  | some seen =>
      have family : seen.family = .ipv4 := by
        rw [sight_of_carries carries] at found
        exact sightIPv4_family found
      rw [Option.bind_some, Option.bind_some, packetOf]
      cases segment : seen.segment with
      | unread => rfl
      | truncated => rfl
      | sip size => rfl
      | gtpu size parse teid =>
          dsimp only
          rw [if_pos family]
          rfl
      | offPort destPort size =>
          have other : destPort.toNat ≠ gtpuPort :=
            fun same => (sight_offPort found segment).1 (UInt16.toNat_inj.mp same)
          simp only [Segment.packet, Option.filter_some, other, decide_false, Bool.false_eq_true,
            if_false]

theorem lateS_eq {start now : UInt64} (ordered : start ≤ now) :
    lateS (seconds start) (seconds now) = late start now := by
  have bound := UInt64.le_iff_toNat_le.mp ordered
  rw [← lateNs_eq ordered, lateS, lateNs, decide_eq_decide, seconds, seconds, signalingRateWindowS,
    ← sub_div, gt_iff_lt, lt_div_iff₀ (by norm_num), one_mul, lt_sub_iff_add_lt']
  exact_mod_cast Iff.rfl

theorem string_inj_of_width {family : Family} {first second : IP}
    (widthFirst : first.length = family.width) (widthSecond : second.length = family.width)
    (same : first.string = second.string) : first = second := by
  cases family with
  | ipv4 =>
      have long : ∀ ip : IP, ip.length = 4 → parseIP ip.string = some (v4InV6Prefix ++ ip) :=
        fun ip length => parseIP_string _ _ (to16_of_to4 _ _ (to4_of_length_four ip length))
      have parsed := long first widthFirst
      rw [same, long second widthSecond] at parsed
      exact (List.append_cancel_left (Option.some.inj parsed)).symm
  | ipv6 => exact string_inj first second widthFirst widthSecond same

section Correspondence

variable {arrivals : List Arrival} {family : Family}

theorem dropped_of_empty {loader : Loader} (empty : AllEmpty loader) (seen : Sighting) :
    seen.dropped loader = false := by
  rw [Sighting.dropped, Sighting.sourceBlocked, empty.not_blocked, empty.tunnelBlocked,
    Bool.false_or]

/-- With nothing blocked, the packets of a tunnel are the frames that count for it. -/
theorem packet_of_tunnel {arrival : Arrival} (empty : AllEmpty arrival.loader) {source : Bytes}
    (width : source.length = family.width) {teid : UInt32} (tunnel : teid ≠ 0) :
    (∃ packet, gtpuPacket family arrival = some packet ∧
      (packet.sourceIp, packet.teid) = (IP.string source, teid.toNat)) ↔
      arrival.counts family source teid = true := by
  constructor
  · rintro ⟨packet, found, key⟩
    obtain ⟨seen, size, parse, other, read, rfl, segment, rfl⟩ := gtpuPacket_eq_some found
    obtain ⟨text, identity⟩ := Prod.mk.inj key
    have same : seen.saddr = source := string_inj_of_width seen.saddrWidth width text
    have twin : other = teid := UInt32.toNat_inj.mp identity
    subst twin
    rw [counts_of_sight arrival _ _ _ read]
    refine decide_eq_true ⟨rfl, same, ?_⟩
    rw [Sighting.counted, dropped_of_empty empty, if_neg Bool.false_ne_true,
      seen.tunnel_eq_some_iff]
    exact ⟨tunnel, size, parse, segment⟩
  · intro counts
    cases read : sight arrival.frame with
    | none =>
        rw [counts_of_unseen arrival _ _ _ read] at counts
        cases counts
    | some seen =>
        rw [counts_of_sight arrival _ _ _ read] at counts
        obtain ⟨same, sender, counted⟩ := of_decide_eq_true counts
        rw [Sighting.counted, dropped_of_empty empty, if_neg Bool.false_ne_true,
          seen.tunnel_eq_some_iff] at counted
        obtain ⟨-, size, parse, segment⟩ := counted
        refine ⟨⟨seconds arrival.env.now, IP.string seen.saddr, gtpuPort, size.toNat, teid.toNat,
          decide (parse = .malformed)⟩, ?_, by rw [sender]⟩
        rw [gtpuPacket, read, Option.bind_some, segment]
        dsimp only
        rw [if_pos same, packetOf, segment]
        rfl

theorem packetTimes_eq (empty : ∀ arrival ∈ arrivals, AllEmpty arrival.loader) {source : Bytes}
    (width : source.length = family.width) {teid : UInt32} (tunnel : teid ≠ 0) :
    packetTimes (IP.string source, teid.toNat) (arrivals.filterMap (gtpuPacket family)) =
      (passTimes family source teid arrivals).map seconds := by
  induction arrivals using List.reverseRecOn with
  | nil => rfl
  | append_singleton past last ih =>
      have concerned := packet_of_tunnel
        (empty last (List.mem_append_right _ (List.mem_singleton_self last))) width tunnel
      rw [List.filterMap_append, passTimes_concat, List.map_append,
        ← ih fun arrival member => empty arrival (List.mem_append_left _ member)]
      cases found : gtpuPacket family last with
      | none =>
          have passed : ¬ last.counts family source teid = true := by
            rw [← concerned, found]
            simp
          rw [if_neg passed, List.filterMap_cons_none found, List.filterMap_nil, List.map_nil,
            List.append_nil, List.append_nil]
      | some packet =>
          rw [List.filterMap_cons_some found, List.filterMap_nil, packetTimes_concat]
          congr 1
          rw [found] at concerned
          simp only [Option.some.injEq, exists_eq_left'] at concerned
          obtain ⟨seen, size, parse, other, -, -, -, rfl⟩ := gtpuPacket_eq_some found
          split
          · rename_i key
            rw [if_pos (concerned.mp key)]
            rfl
          · rename_i key
            rw [if_neg (mt concerned.mpr key)]
            rfl

/-- A step that carries a value of the series: an event is emitted if the ring
buffer has room, and has the value for its tunnel rate. -/
structure Reports (bootTime : Int) (step : Arrival × Verdict) (value : Nat) : Prop where
  emitted : (∃ event, Emits step.2 bootTime event) ↔ (step.1.env.reserve 0).isSome
  rate : ∀ event, Emits step.2 bootTime event → event.protocol = signalProtoGtpu ∧
    (value < 2 ^ 32 → event.tunnelRate.toNat = value)

def gtpuSteps (family : Family) (arrivals : List Arrival) : List (Arrival × Verdict) :=
  (run .empty arrivals).filter (fun step => (gtpuPacket family step.1).isSome)

theorem emits_gtpu {arrival : Arrival} (empty : AllEmpty arrival.loader) {seen : Sighting}
    (read : sight arrival.frame = some seen) {size : UInt16} {parse : GtpuParse} {teid : UInt32}
    (segment : seen.segment = .gtpu size parse teid) (rates : Rates) (bootTime : Int)
    (event : SignalingEvent) :
    Emits (arrival.verdict rates) bootTime event ↔
      ∃ timestampNs, arrival.env.reserve 0 = some timestampNs ∧
        event = SignalingEventRecord.event
          { seen.event with
            tunnelRate := seen.reportedRate arrival.env (rates.of seen.family)
            timestampNs := timestampNs } bootTime := by
  rw [Arrival.verdict, xdpPacketFilter_eq, read]
  dsimp only
  rw [emits_iff seen empty, seen.admitted_records _ _ _ (empty.tunnelBlocked seen)
    (by simp [segment]) (by simp [segment])]
  simp only [mem_emit_iff, and_assoc, ↓existsAndEq, true_and]

theorem reportedRate_eq_packets {past : List Arrival} {last : Arrival}
    (ordered : InOrder (past ++ [last]))
    (empty : ∀ arrival ∈ past ++ [last], AllEmpty arrival.loader) {seen : Sighting}
    (read : sight last.frame = some seen) {size : UInt16} {parse : GtpuParse} {teid : UInt32}
    (segment : seen.segment = .gtpu size parse teid) (tunnel : teid ≠ 0) :
    seen.reportedRate last.env ((ratesAfter .empty past).of seen.family) =
      UInt32.ofNat (openWindow lateS (packetTimes (IP.string seen.saddr, teid.toNat)
        ((past ++ [last]).filterMap (gtpuPacket seen.family)))).length := by
  have unblocked := empty last (List.mem_append_right _ (List.mem_singleton_self last))
  have counted : seen.counted last.loader = some teid := by
    rw [Sighting.counted, dropped_of_empty unblocked, if_neg Bool.false_ne_true,
      seen.tunnel_eq_some_iff]
    exact ⟨tunnel, size, parse, segment⟩
  have times := ordered.passTimes seen.family seen.saddr teid
  have windows : (openWindow late (passTimes seen.family seen.saddr teid (past ++ [last]))).map
      seconds = openWindow lateS _ := map_openWindow (times.imp fun before => lateS_eq before)
  rw [reportedRate_eq past last read counted, packetTimes_eq empty seen.saddrWidth tunnel,
    ← windows, List.length_map]

theorem reports_last {past : List Arrival} {last : Arrival} (ordered : InOrder (past ++ [last]))
    (empty : ∀ arrival ∈ past ++ [last], AllEmpty arrival.loader) {packet : Packet}
    (found : gtpuPacket family last = some packet) (bootTime : Int) :
    Reports bootTime (last, last.verdict (ratesAfter .empty past))
      (if packet.teid = 0 then 0
        else (openWindow lateS (packetTimes (packet.sourceIp, packet.teid)
          ((past ++ [last]).filterMap (gtpuPacket family)))).length) := by
  obtain ⟨seen, size, parse, teid, read, rfl, segment, rfl⟩ := gtpuPacket_eq_some found
  have unblocked := empty last (List.mem_append_right _ (List.mem_singleton_self last))
  have emits := emits_gtpu unblocked read segment (ratesAfter .empty past) bootTime
  refine ⟨?_, fun event emitted => ?_⟩
  · simp only [emits, Option.isSome_iff_exists]
    constructor
    · rintro ⟨_, timestampNs, reserved, _⟩
      exact ⟨timestampNs, reserved⟩
    · rintro ⟨timestampNs, reserved⟩
      exact ⟨_, timestampNs, reserved, rfl⟩
  · obtain ⟨timestampNs, -, rfl⟩ := (emits event).mp emitted
    have kind : seen.event.protocol = signalProtoGtpu := by rw [Sighting.event, segment]
    refine ⟨kind, fun bounded => ?_⟩
    rw [SignalingEventRecord.event]
    dsimp only at bounded ⊢
    by_cases unset : teid = 0
    · have tunnel : seen.tunnel = none := by
        rw [Sighting.tunnel, segment, unset]
        rfl
      rw [Sighting.reportedRate, tunnel, unset]
      rfl
    · have set : teid.toNat ≠ 0 := fun zero => unset (UInt32.toNat_inj.mp zero)
      rw [if_neg set] at bounded ⊢
      rw [reportedRate_eq_packets ordered empty read segment unset, UInt32.toNat_ofNat']
      exact Nat.mod_eq_of_lt bounded

/-- The rates of a run without blocked sources or tunnels are the series of its packets. -/
theorem reports_series (ordered : InOrder arrivals)
    (empty : ∀ arrival ∈ arrivals, AllEmpty arrival.loader) (bootTime : Int) :
    List.Forall₂ (Reports bootTime) (gtpuSteps family arrivals)
      (tunnelRateSeries (arrivals.filterMap (gtpuPacket family))) := by
  induction arrivals using List.reverseRecOn with
  | nil => exact .nil
  | append_singleton past last ih =>
      have earlier := ih (List.pairwise_append.mp ordered).1
        fun arrival member => empty arrival (List.mem_append_left _ member)
      rw [gtpuSteps] at earlier
      rw [gtpuSteps, run_concat, List.filter_append, List.filterMap_append]
      cases found : gtpuPacket family last with
      | none =>
          simpa only [List.filter_cons, found, Option.isSome_none, Bool.false_eq_true, if_false,
            List.filter_nil, List.append_nil, List.filterMap_cons_none found, List.filterMap_nil]
            using earlier
      | some packet =>
          have reported := reports_last ordered empty found bootTime
          rw [List.filterMap_append] at reported
          simp only [List.filter_cons, found, Option.isSome_some, if_true, List.filter_nil,
            List.filterMap_cons_some found, List.filterMap_nil,
              tunnelRateSeries_concat] at reported ⊢
          exact List.rel_append earlier (.cons reported .nil)

end Correspondence

/-- In every run of frames in order, whatever is blocked at each of them, the
tunnel rate of a GTP-U event is a count over the frames up to its own; with
nothing blocked the rates are those `tunnel_rate_series` gives. -/
theorem tunnel_rate_is_window_count (arrivals : List Arrival) (ordered : InOrder arrivals)
    (bootTime : Int) :
    (∀ past last rest, arrivals = past ++ last :: rest →
      ∀ record ∈ (last.verdict (ratesAfter .empty past)).records, ∀ event,
        record.decode bootTime = .ok event → event.protocol = signalProtoGtpu →
        CountsItsWindow past last record event) ∧
    ((∀ arrival ∈ arrivals, AllEmpty arrival.loader) → ∀ family,
      List.Forall₂ (Reports bootTime) (gtpuSteps family arrivals)
        (tunnelRateSeries (arrivals.filterMap (gtpuPacket family)))) ∧
    ∀ arrival ∈ arrivals, ∀ l3 vlanId, CarriesIPv4 arrival.frame l3 vlanId →
      arrival.frame.length < 65536 →
      gtpuPacket .ipv4 arrival =
        (readFrame linktypeEthernet (seconds arrival.env.now) arrival.frame.length
          arrival.frame).filter (fun packet => packet.destPort = gtpuPort) := by
  refine ⟨?_, fun empty family => reports_series ordered empty bootTime,
    fun arrival _ l3 vlanId carries small => gtpuPacket_eq_readFrame carries small⟩
  intro past last rest split record member event decoded gtpu
  rw [split, ← List.singleton_append, ← List.append_assoc] at ordered
  exact counts_its_window (List.pairwise_append.mp ordered).1 member decoded gtpu

def twoFrames : List Arrival :=
  [⟨plainEnv, bareLoader, ipv4Frame⟩, ⟨⟨500000000, fun _ => some 0⟩, bareLoader, ipv4Frame⟩]

theorem tunnel_rate_of_twoFrames :
    tunnelRateSeries (twoFrames.filterMap (gtpuPacket .ipv4)) = [1, 2] ∧
    List.Forall₂ (Reports 0) (gtpuSteps .ipv4 twoFrames)
      (tunnelRateSeries (twoFrames.filterMap (gtpuPacket .ipv4))) := by
  have ordered : InOrder twoFrames := by
    rw [InOrder]
    decide
  have empty : ∀ arrival ∈ twoFrames, AllEmpty arrival.loader := by
    intro arrival member
    rcases List.mem_pair.mp member with rfl | rfl
    · exact bareLoader_empty
    · exact bareLoader_empty
  refine ⟨by decide +kernel, (tunnel_rate_is_window_count twoFrames ordered 0).2.1 empty .ipv4⟩

end Sentinel5G.Capture
