import Sentinel5G.Bpf.ClosedLoop

namespace Sentinel5G.Bpf

open Base Ebpf

inductive Segment
  /-- Not UDP, or a fragment that is not the first. -/
  | unread
  /-- An incomplete UDP header. -/
  | truncated
  | gtpu (payloadSize : UInt16) (parse : GtpuParse) (teid : UInt32)
  | sip (payloadSize : UInt16)
  | offPort (destPort payloadSize : UInt16)
  deriving DecidableEq, Repr

def Family.width : Family → Nat
  | .ipv4 => 4
  | .ipv6 => 16

structure Sighting where
  family : Family
  saddr : Bytes
  daddr : Bytes
  vlanId : UInt16
  segment : Segment
  saddrWidth : saddr.length = family.width
  daddrWidth : daddr.length = family.width

def segmentAt (frame : Bytes) (udp : Nat) : Segment :=
  if udp + 8 > frame.length then .truncated
  else
    let payloadSize := UInt16.ofNat (frame.length - (udp + 8))
    if loadBe16 frame (udp + 2) = gtpuPort then
      .gtpu payloadSize (parseGtpu (frame.drop (udp + 8))).1 (parseGtpu (frame.drop (udp + 8))).2
    else if loadBe16 frame (udp + 2) = sipPort then .sip payloadSize
    else .offPort (loadBe16 frame (udp + 2)) payloadSize

def sightIPv6 (frame : Bytes) (l3 : Nat) (vlanId : UInt16) : Option Sighting :=
  if short : l3 + 40 > frame.length then none
  else some {
    family := .ipv6
    saddr := slice frame (l3 + 8) 16
    daddr := slice frame (l3 + 24) 16
    vlanId := vlanId
    segment :=
      if byteAt frame (l3 + 6) ≠ ipprotoUdp then .unread else segmentAt frame (l3 + 40)
    saddrWidth := slice_length _ _ _ (by omega)
    daddrWidth := slice_length _ _ _ (by omega) }

def headerLength (frame : Bytes) (l3 : Nat) : Nat := (byteAt frame l3 &&& 0x0F).toNat

def sightIPv4 (frame : Bytes) (l3 : Nat) (vlanId : UInt16) : Option Sighting :=
  if short : l3 + 20 > frame.length then none
  else if headerLength frame l3 < 5 then none
  else some {
    family := .ipv4
    saddr := slice frame (l3 + 12) 4
    daddr := slice frame (l3 + 16) 4
    vlanId := vlanId
    segment :=
      if byteAt frame (l3 + 9) ≠ ipprotoUdp then .unread
      else if loadBe16 frame (l3 + 6) &&& 0x1FFF ≠ 0 then .unread
      else segmentAt frame (l3 + headerLength frame l3 * 4)
    saddrWidth := slice_length _ _ _ (by omega)
    daddrWidth := slice_length _ _ _ (by omega) }

def sight (frame : Bytes) : Option Sighting :=
  match etherHeader frame with
  | none => none
  | some (proto, l3, vlanId) =>
      if proto = ethPIpv6 then sightIPv6 frame l3 vlanId
      else if proto ≠ ethPIp then none
      else sightIPv4 frame l3 vlanId

def Rates.of (rates : Rates) : Family → RateMaps
  | .ipv4 => rates.ipv4
  | .ipv6 => rates.ipv6

def Rates.set (rates : Rates) (maps : RateMaps) : Family → Rates
  | .ipv4 => { rates with ipv4 := maps }
  | .ipv6 => { rates with ipv6 := maps }

@[simp] theorem Rates.set_of (rates : Rates) (family : Family) :
    rates.set (rates.of family) family = rates := by
  cases family <;> rfl

@[simp] theorem Rates.of_set (rates : Rates) (maps : RateMaps) (family : Family) :
    (rates.set maps family).of family = maps := by
  cases family <;> rfl

theorem Rates.of_set_of_ne (rates : Rates) (maps : RateMaps) {family other : Family}
    (different : other ≠ family) : (rates.set maps family).of other = rates.of other := by
  cases family <;> cases other <;> first | rfl | exact absurd rfl different

namespace Sighting

variable (seen : Sighting)

def path : Path := seen.family.path

def event : SignalingEventRecord :=
  let blank : SignalingEventRecord := ⟨0, seen.saddr, seen.daddr, 0, 0, 0, 0, seen.vlanId, 0, 0⟩
  match seen.segment with
  | .unread => blank
  | .truncated => { blank with malformed := 1 }
  | .gtpu payloadSize parse teid =>
      { blank with
        destPort := gtpuPort
        payloadSize := payloadSize
        protocol := signalProtoGtpu
        malformed := if parse = .malformed then 1 else 0
        teid := teid }
  | .sip payloadSize =>
      { blank with destPort := sipPort, payloadSize := payloadSize, protocol := signalProtoSip }
  | .offPort destPort payloadSize =>
      { blank with destPort := destPort, payloadSize := payloadSize }

def tunnel : Option UInt32 :=
  match seen.segment with
  | .gtpu _ _ teid => if teid = 0 then none else some teid
  | _ => none

def tunnelKey (teid : UInt32) : Bytes := seen.path.tunnelKey seen.saddr teid

def sourceBlocked (loader : Loader) : Bool := blocked loader seen.path.blocklist seen.saddr

def tunnelBlocked (loader : Loader) : Bool :=
  seen.tunnel.any (fun teid => blocked loader seen.path.tunnelBlocklist (seen.tunnelKey teid))

def admitted (env : Env) (loader : Loader) (maps : RateMaps) : Outcome :=
  match seen.segment with
  | .unread => ⟨.pass, maps, []⟩
  | .truncated => ⟨.pass, maps, reserveAndSubmit env 0 seen.event⟩
  | .gtpu _ _ teid =>
      let counted := maps.countSource seen.saddr env.now
      if teid = 0 then ⟨.pass, counted, reserveAndSubmit env 0 seen.event⟩
      else if blocked loader seen.path.tunnelBlocklist (seen.tunnelKey teid) then
        ⟨.drop, counted, []⟩
      else
        let (tracked, tunnelRate) := counted.countTunnel (seen.tunnelKey teid) env.now
        ⟨.pass, tracked, reserveAndSubmit env 0 { seen.event with tunnelRate := tunnelRate }⟩
  | .sip _ =>
      ⟨.pass, maps.countSource seen.saddr env.now, reserveAndSubmit env 0 seen.event⟩
  | .offPort _ _ => seen.path.inspectOffPort env seen.event maps

def outcome (env : Env) (loader : Loader) (maps : RateMaps) : Outcome :=
  if seen.sourceBlocked loader then ⟨.drop, maps, []⟩ else seen.admitted env loader maps

def verdict (env : Env) (loader : Loader) (rates : Rates) : Verdict :=
  let outcome := seen.outcome env loader (rates.of seen.family)
  ⟨outcome.action, rates.set outcome.maps seen.family,
    outcome.records.map (fun record => ⟨seen.family, record.image⟩)⟩

end Sighting

theorem Sighting.inspectOffPort_eq (seen : Sighting) (env : Env) (event : SignalingEventRecord)
    (maps : RateMaps) :
    seen.path.inspectOffPort env event maps =
      let prior := maps.countPort (seen.path.scanKey event.saddr event.destPort) env.now
      let crossed := prior.1.scanPorts event.saddr event.destPort env.now
      ⟨.pass, crossed.1,
        (if prior.2 + 1 = scanEmitThreshold then reserveAndSubmit env 0 event else []) ++
          if crossed.2 then
            reserveAndSubmit env 1 { event with
              payloadSize := UInt16.ofNat multiportScanThreshold
              protocol := signalProtoPortScan }
          else []⟩ := by
  rw [Sighting.path]
  simp only [Path.inspectOffPort, path_trackScanRate, path_trackPortScan, path_emitSignalingEvent]

theorem inspectUdp_eq (family : Family) (env : Env) (loader : Loader) (frame : Bytes) (udp : Nat)
    (saddr daddr : Bytes) (vlanId : UInt16) (maps : RateMaps)
    (saddrWidth : saddr.length = family.width) (daddrWidth : daddr.length = family.width) :
    family.path.inspectUdp env loader frame udp saddr daddr vlanId maps =
      Sighting.admitted ⟨family, saddr, daddr, vlanId, segmentAt frame udp, saddrWidth, daddrWidth⟩
        env loader maps := by
  by_cases short : udp + 8 > frame.length
  · simp only [Path.inspectUdp, segmentAt, short, if_true, Sighting.admitted, Sighting.event,
      signalProtoUnknown, path_emitSignalingEvent]
  · by_cases gtpu : loadBe16 frame (udp + 2) = gtpuPort
    · simp only [Path.inspectUdp, segmentAt, short, if_false, gtpu, if_true, isSignalingPort,
        decide_true, Bool.true_or, Path.inspectSignaling, Sighting.admitted, Sighting.event,
        Sighting.tunnelKey, Sighting.path, path_trackSignalRate, path_trackTunnelRate,
        path_emitSignalingEvent]
    · by_cases sip : loadBe16 frame (udp + 2) = sipPort
      · have other : sipPort ≠ gtpuPort := by decide
        simp only [Path.inspectUdp, segmentAt, short, if_false, sip, if_true, isSignalingPort,
          decide_true, Bool.or_true, Path.inspectSignaling, other, Sighting.admitted,
          Sighting.event, path_trackSignalRate, path_emitSignalingEvent]
      · simp only [Path.inspectUdp, segmentAt, short, if_false, gtpu, sip, isSignalingPort,
          decide_false, Bool.or_false, Bool.false_eq_true, Sighting.admitted, Sighting.event,
          Sighting.path, signalProtoUnknown]

theorem filterIPv6_eq (env : Env) (loader : Loader) (frame : Bytes) (l3 : Nat) (vlanId : UInt16)
    (maps : RateMaps) :
    filterIPv6 env loader frame l3 vlanId maps =
      match sightIPv6 frame l3 vlanId with
      | none => ⟨.pass, maps, []⟩
      | some seen => seen.outcome env loader maps := by
  have udp := inspectUdp_eq .ipv6 env loader frame (l3 + 40) (slice frame (l3 + 8) 16)
    (slice frame (l3 + 24) 16) vlanId maps
  by_cases short : l3 + 40 > frame.length
  · simp only [filterIPv6, sightIPv6, short, if_true, dif_pos]
  · simp only [filterIPv6, sightIPv6, short, if_false, dif_neg, not_false_eq_true, Sighting.outcome,
      Sighting.sourceBlocked, Sighting.path, Family.path] at udp ⊢
    by_cases other : byteAt frame (l3 + 6) = ipprotoUdp
    · simp only [other, ne_eq, not_true_eq_false, if_false]
      rw [udp (slice_length _ _ _ (by omega)) (slice_length _ _ _ (by omega))]
    · simp only [other, ne_eq, not_false_eq_true, if_true, Sighting.admitted]

theorem filterIPv4_eq (env : Env) (loader : Loader) (frame : Bytes) (l3 : Nat) (vlanId : UInt16)
    (maps : RateMaps) :
    filterIPv4 env loader frame l3 vlanId maps =
      match sightIPv4 frame l3 vlanId with
      | none => ⟨.pass, maps, []⟩
      | some seen => seen.outcome env loader maps := by
  have udp := inspectUdp_eq .ipv4 env loader frame (l3 + headerLength frame l3 * 4)
    (slice frame (l3 + 12) 4) (slice frame (l3 + 16) 4) vlanId maps
  by_cases short : l3 + 20 > frame.length
  · simp only [filterIPv4, sightIPv4, short, if_true, dif_pos]
  · by_cases noHeader : (byteAt frame l3 &&& 0x0F).toNat < 5
    · simp only [filterIPv4, sightIPv4, headerLength, short, if_false, dif_neg, not_false_eq_true,
        noHeader, if_true]
    · simp only [filterIPv4, sightIPv4, headerLength, short, noHeader, if_false, dif_neg,
        not_false_eq_true, Sighting.outcome, Sighting.sourceBlocked, Sighting.path,
        Family.path] at udp ⊢
      by_cases other : byteAt frame (l3 + 9) = ipprotoUdp
      · by_cases first : loadBe16 frame (l3 + 6) &&& 0x1FFF = 0
        · simp only [other, first, ne_eq, not_true_eq_false, if_false]
          rw [udp (slice_length _ _ _ (by omega)) (slice_length _ _ _ (by omega))]
        · simp only [other, first, ne_eq, not_true_eq_false, not_false_eq_true, if_false, if_true,
            Sighting.admitted]
      · simp only [other, ne_eq, not_false_eq_true, if_true, Sighting.admitted]

theorem segmentAt_offPort {frame : Bytes} {udp : Nat} {destPort size : UInt16}
    (segment : segmentAt frame udp = .offPort destPort size) :
    destPort ≠ gtpuPort ∧ destPort ≠ sipPort := by
  unfold segmentAt at segment
  split at segment
  · cases segment
  · dsimp only at segment
    split at segment
    · cases segment
    · rename_i notGtpu
      split at segment
      · cases segment
      · rename_i notSip
        cases segment
        exact ⟨notGtpu, notSip⟩

theorem sightIPv6_family {frame : Bytes} {l3 : Nat} {vlanId : UInt16} {seen : Sighting}
    (found : sightIPv6 frame l3 vlanId = some seen) : seen.family = .ipv6 := by
  unfold sightIPv6 at found
  split at found
  · cases found
  · cases found
    rfl

theorem sightIPv4_family {frame : Bytes} {l3 : Nat} {vlanId : UInt16} {seen : Sighting}
    (found : sightIPv4 frame l3 vlanId = some seen) : seen.family = .ipv4 := by
  unfold sightIPv4 at found
  split at found
  · cases found
  · split at found
    · cases found
    · cases found
      rfl

theorem sight_offPort {frame : Bytes} {seen : Sighting} (found : sight frame = some seen)
    {destPort size : UInt16} (segment : seen.segment = .offPort destPort size) :
    destPort ≠ gtpuPort ∧ destPort ≠ sipPort := by
  unfold sight at found
  split at found
  · cases found
  · split at found
    · unfold sightIPv6 at found
      split at found
      · cases found
      · cases found
        dsimp only at segment
        split at segment
        · cases segment
        · exact segmentAt_offPort segment
    · split at found
      · cases found
      · unfold sightIPv4 at found
        split at found
        · cases found
        · split at found
          · cases found
          · cases found
            dsimp only at segment
            split at segment
            · cases segment
            · split at segment
              · cases segment
              · exact segmentAt_offPort segment

/-- The program is its reading of the frame and the verdict on that. -/
theorem xdpPacketFilter_eq (env : Env) (loader : Loader) (frame : Bytes) (rates : Rates) :
    xdpPacketFilter env loader frame rates =
      match sight frame with
      | none => ⟨.pass, rates, []⟩
      | some seen => seen.verdict env loader rates := by
  rw [xdpPacketFilter, sight]
  cases etherHeader frame with
  | none => rfl
  | some fields =>
      obtain ⟨proto, l3, vlanId⟩ := fields
      by_cases v6 : proto = ethPIpv6
      · simp only [v6, if_true, filterIPv6_eq]
        cases found : sightIPv6 frame l3 vlanId with
        | none => rfl
        | some seen =>
            simp only [Sighting.verdict, sightIPv6_family found, Rates.of, Rates.set]
      · by_cases v4 : proto = ethPIp
        · simp only [if_neg v6, if_neg (not_not.mpr v4), filterIPv4_eq]
          cases found : sightIPv4 frame l3 vlanId with
          | none => rfl
          | some seen =>
              simp only [Sighting.verdict, sightIPv4_family found, Rates.of, Rates.set]
        · simp only [v6, v4, ne_eq, not_false_eq_true, if_true, if_false]

theorem mem_emit_iff (env : Env) (event written : SignalingEventRecord) :
    written ∈ reserveAndSubmit env 0 event ↔
      ∃ timestampNs, env.reserve 0 = some timestampNs ∧
        written = { event with timestampNs := timestampNs } := by
  rw [reserveAndSubmit]
  cases env.reserve 0 with
  | none => simp only [List.not_mem_nil, reduceCtorEq, false_and, exists_false]
  | some timestampNs =>
      simp only [List.mem_singleton, Option.some.injEq, exists_eq_left']

theorem countPacket_ne (entry : Option SignalRateEntry) (now : UInt64) :
    some (countPacket entry now) ≠ entry := by
  cases entry with
  | none => simp
  | some entry =>
      intro same
      have unchanged := Option.some.inj same
      simp only [countPacket] at unchanged
      split at unchanged
      · rename_i passed
        have start : entry.windowStartNs = now := by rw [← unchanged]
        rw [rolled, start, UInt64.sub_self] at passed
        exact absurd passed (by decide)
      · have count := congrArg SignalRateEntry.count unchanged
        exact absurd count (by simp)

theorem countSource_ne (maps : RateMaps) (saddr : Bytes) (now : UInt64) :
    maps.countSource saddr now ≠ maps := by
  intro same
  have entry := congrArg (fun maps : RateMaps => maps.signalRate[saddr]?) same
  dsimp only [RateMaps.countSource] at entry
  rw [Std.ExtTreeMap.getElem?_insert_self] at entry
  exact countPacket_ne _ now entry

namespace Sighting

variable (seen : Sighting) (env : Env) (loader : Loader) (maps : RateMaps)

theorem tunnel_eq_some_iff (teid : UInt32) :
    seen.tunnel = some teid ↔ teid ≠ 0 ∧ ∃ size parse, seen.segment = .gtpu size parse teid := by
  constructor
  · intro found
    unfold tunnel at found
    split at found
    · rename_i size parse read segment
      split at found
      · cases found
      · rename_i set
        cases found
        exact ⟨set, size, parse, segment⟩
    · cases found
  · rintro ⟨set, size, parse, segment⟩
    rw [tunnel, segment]
    exact if_neg set

/-- Behind an admitted source only a blocked tunnel is dropped. -/
theorem admitted_action :
    (seen.admitted env loader maps).action = .drop ↔ seen.tunnelBlocked loader = true := by
  cases segment : seen.segment with
  | unread => simp only [admitted, tunnelBlocked, tunnel, segment, Option.any_none, reduceCtorEq]
  | truncated => simp only [admitted, tunnelBlocked, tunnel, segment, Option.any_none, reduceCtorEq]
  | sip => simp only [admitted, tunnelBlocked, tunnel, segment, Option.any_none, reduceCtorEq]
  | offPort =>
      simp only [admitted, tunnelBlocked, tunnel, segment, Option.any_none, reduceCtorEq,
        Sighting.inspectOffPort_eq]
  | gtpu payloadSize parse teid =>
      simp only [admitted, tunnelBlocked, tunnel, segment]
      by_cases unset : teid = 0
      · simp only [unset, if_true, Option.any_none, reduceCtorEq]
      · simp only [unset, if_false, Option.any_some]
        split <;> simp_all only [reduceCtorEq]

/-- The source of a blocked tunnel is counted before the drop. -/
theorem admitted_of_tunnelBlocked (listed : seen.tunnelBlocked loader = true) :
    seen.admitted env loader maps = ⟨.drop, maps.countSource seen.saddr env.now, []⟩ := by
  obtain ⟨teid, found, blocked⟩ := (Option.any_eq_true _ _).mp listed
  obtain ⟨set, size, parse, segment⟩ := (seen.tunnel_eq_some_iff teid).mp found
  simp only [admitted, segment, set, blocked, if_false, if_true]

theorem event_addresses : seen.event.saddr = seen.saddr ∧ seen.event.daddr = seen.daddr := by
  unfold event
  split <;> exact ⟨rfl, rfl⟩

theorem admitted_addresses {written : SignalingEventRecord}
    (member : written ∈ (seen.admitted env loader maps).records) :
    written.saddr = seen.saddr ∧ written.daddr = seen.daddr := by
  obtain ⟨source, dest⟩ := seen.event_addresses
  have emitted : ∀ {call : Nat} {event : SignalingEventRecord},
      written ∈ reserveAndSubmit env call event →
      event.saddr = seen.event.saddr → event.daddr = seen.event.daddr →
      written.saddr = seen.saddr ∧ written.daddr = seen.daddr := by
    intro call event member sameSource sameDest
    obtain ⟨saddr, daddr, -⟩ := mem_submit member
    exact ⟨by rw [saddr, sameSource, source], by rw [daddr, sameDest, dest]⟩
  unfold admitted at member
  split at member
  · cases member
  · exact emitted member rfl rfl
  · dsimp only at member
    split at member
    · exact emitted member rfl rfl
    · split at member
      · cases member
      · exact emitted member rfl rfl
  · exact emitted member rfl rfl
  · obtain ⟨saddr, daddr, -⟩ := inspectOffPort_record member
    exact ⟨by rw [saddr, source], by rw [daddr, dest]⟩

def reportedRate (maps : RateMaps) : UInt32 :=
  match seen.tunnel with
  | none => 0
  | some teid => (maps.countTunnel (seen.tunnelKey teid) env.now).2

/-- A signaling packet, or one cut off in its UDP header, gives at most one record. -/
theorem admitted_records (passed : seen.tunnelBlocked loader = false)
    (read : seen.segment ≠ .unread)
    (onPort : ∀ destPort size, seen.segment ≠ .offPort destPort size) :
    (seen.admitted env loader maps).records =
      reserveAndSubmit env 0 { seen.event with tunnelRate := seen.reportedRate env maps } := by
  cases segment : seen.segment with
  | unread => exact absurd segment read
  | offPort destPort size => exact absurd segment (onPort destPort size)
  | truncated => simp only [admitted, segment, reportedRate, tunnel, event]
  | sip => simp only [admitted, segment, reportedRate, tunnel, event]
  | gtpu payloadSize parse teid =>
      by_cases unset : teid = 0
      · simp only [admitted, segment, reportedRate, tunnel, event, unset, if_true]
      · have admits : blocked loader seen.path.tunnelBlocklist (seen.tunnelKey teid) = false := by
          simpa only [tunnelBlocked, tunnel, segment, unset, if_false, Option.any_some] using passed
        simp only [admitted, segment, reportedRate, tunnel, event, unset, if_false, admits,
          Bool.false_eq_true]
        rfl

theorem offPort_records {destPort size : UInt16} (segment : seen.segment = .offPort destPort size)
    {written : SignalingEventRecord}
    (member : written ∈ (seen.admitted env loader maps).records) :
    (written.protocol = signalProtoUnknown ∧ written.malformed = 0) ∨
      written.protocol = signalProtoPortScan := by
  have event : seen.event.protocol = signalProtoUnknown ∧ seen.event.malformed = 0 := by
    rw [Sighting.event, segment]
    exact ⟨rfl, rfl⟩
  simp only [admitted, segment, Sighting.inspectOffPort_eq, List.mem_append] at member
  rcases member with burst | scan
  · split at burst
    · unfold reserveAndSubmit at burst
      split at burst
      · cases burst
      · rw [List.mem_singleton] at burst
        subst burst
        exact .inl event
    · cases burst
  · split at scan
    · unfold reserveAndSubmit at scan
      split at scan
      · cases scan
      · rw [List.mem_singleton] at scan
        subst scan
        exact .inr rfl
    · cases scan

theorem decode_of_mem {written : SignalingEventRecord}
    (member : written ∈ (seen.outcome env loader maps).records) (bootTime : Int) :
    RingRecord.decode ⟨seen.family, written.image⟩ bootTime = .ok (written.event bootTime) := by
  have admitted : written ∈ (seen.admitted env loader maps).records := by
    unfold outcome at member
    split at member
    · cases member
    · exact member
  obtain ⟨source, dest⟩ := seen.admitted_addresses env loader maps admitted
  have sized : written.Sized seen.family.width :=
    ⟨by rw [source, seen.saddrWidth], by rw [dest, seen.daddrWidth]⟩
  cases family : seen.family with
  | ipv4 =>
      rw [family] at sized
      exact decode_image sized bootTime
  | ipv6 =>
      rw [family] at sized
      exact decodeV6_image sized bootTime

end Sighting

/-- Nothing of a dropped frame is seen: the counters stand and no event is emitted. -/
def Silent (rates : Rates) (verdict : Verdict) : Prop :=
  verdict.action = .drop → verdict.rates = rates ∧ verdict.records = []

theorem drop_is_silent_iff (env : Env) (loader : Loader) (frame : Bytes) (rates : Rates) :
    Silent rates (xdpPacketFilter env loader frame rates) ↔
      ∀ seen, sight frame = some seen → seen.tunnelBlocked loader = true →
        seen.sourceBlocked loader = true := by
  rw [xdpPacketFilter_eq]
  cases found : sight frame with
  | none =>
      constructor
      · intro _ seen impossible
        cases impossible
      · intro _ dropped
        cases dropped
  | some seen =>
      dsimp only
      constructor
      · rintro silent _ ⟨⟩ listed
        by_contra admitted
        have outcome : seen.outcome env loader (rates.of seen.family) =
            ⟨.drop, (rates.of seen.family).countSource seen.saddr env.now, []⟩ := by
          rw [Sighting.outcome, if_neg admitted, seen.admitted_of_tunnelBlocked _ _ _ listed]
        rw [Silent, Sighting.verdict, outcome] at silent
        have unchanged := congrArg (fun rates => rates.of seen.family) (silent rfl).1
        simp only [Rates.of_set] at unchanged
        exact countSource_ne _ _ _ unchanged
      · intro covered dropped
        have listed : seen.sourceBlocked loader = true := by
          by_contra admitted
          rw [Sighting.verdict, Sighting.outcome, if_neg admitted] at dropped
          exact admitted (covered seen rfl ((seen.admitted_action _ _ _).mp dropped))
        rw [Sighting.verdict, Sighting.outcome, if_pos listed]
        exact ⟨Rates.set_of rates seen.family, rfl⟩

/-- The source of a tunnel that is dropped is still counted. -/
theorem dropped_tunnel_is_counted :
    ∃ loader, bareLoader.blockTunnel [10, 0, 0, 1] 7 = .ok loader ∧
      (xdpPacketFilter plainEnv loader ipv4Frame .empty).action = .drop ∧
      (xdpPacketFilter plainEnv loader ipv4Frame .empty).rates.ipv4.signalRate[
        ([10, 0, 0, 1] : Bytes)]? =
        some ⟨0, 1⟩ ∧
      ¬ Silent .empty (xdpPacketFilter plainEnv loader ipv4Frame .empty) := by
  have run : (bareLoader.blockTunnel [10, 0, 0, 1] 7).toOption.any (fun loader =>
      decide ((xdpPacketFilter plainEnv loader ipv4Frame .empty).action = .drop) &&
      decide ((xdpPacketFilter plainEnv loader ipv4Frame .empty).rates.ipv4.signalRate[
        ([10, 0, 0, 1] : Bytes)]? = some ⟨0, 1⟩)) = true := by decide +kernel
  cases placed : bareLoader.blockTunnel [10, 0, 0, 1] 7 with
  | error err =>
      rw [placed] at run
      cases run
  | ok loader =>
      rw [placed] at run
      obtain ⟨dropped, counted⟩ := Bool.and_eq_true_iff.mp run
      refine ⟨loader, rfl, of_decide_eq_true dropped, of_decide_eq_true counted, fun silent => ?_⟩
      have counted := of_decide_eq_true counted
      rw [(silent (of_decide_eq_true dropped)).1] at counted
      exact absurd counted (by decide +kernel)

end Sentinel5G.Bpf
