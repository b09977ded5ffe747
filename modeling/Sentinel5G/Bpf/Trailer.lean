import Sentinel5G.Bpf.Dissect
import Sentinel5G.Bpf.GtpuGrammar

/-! What follows an IP datagram in its frame. The program reads up to the end of
the frame and not up to that of the datagram, so a trailer shows in the size it
reports and may complete a GTP-U header. -/

namespace Sentinel5G.Bpf

open Base Ebpf

def udpOffset (frame : Bytes) : Option Nat :=
  match etherHeader frame with
  | none => none
  | some (proto, l3, _) =>
      if proto = ethPIpv6 then
        if l3 + 40 > frame.length ∨ byteAt frame (l3 + 6) ≠ ipprotoUdp then none
        else some (l3 + 40)
      else if proto ≠ ethPIp then none
      else if l3 + 20 > frame.length ∨ headerLength frame l3 < 5 ∨
          byteAt frame (l3 + 9) ≠ ipprotoUdp ∨ loadBe16 frame (l3 + 6) &&& 0x1FFF ≠ 0 then none
      else some (l3 + headerLength frame l3 * 4)

/-- Where the IP datagram ends by its own length, which covers the fixed header. -/
def datagramEnd (frame : Bytes) : Option Nat :=
  match etherHeader frame with
  | none => none
  | some (proto, l3, _) =>
      if proto = ethPIpv6 then some (l3 + 40 + (loadBe16 frame (l3 + 4)).toNat)
      else if proto ≠ ethPIp then none
      else if (loadBe16 frame (l3 + 2)).toNat < 20 then none
      else some (l3 + (loadBe16 frame (l3 + 2)).toNat)

structure Datagram (frame : Bytes) : Prop where
  ends : datagramEnd frame = some frame.length
  udp : ∀ udp, udpOffset frame = some udp →
    udp + 8 ≤ frame.length ∧ udp + (loadBe16 frame (udp + 4)).toNat = frame.length

theorem datagram_of_udpOffset {frame : Bytes} {udp : Nat} (found : udpOffset frame = some udp)
    (ends : datagramEnd frame = some frame.length) (inside : udp + 8 ≤ frame.length)
    (sized : udp + (loadBe16 frame (udp + 4)).toNat = frame.length) : Datagram frame := by
  refine ⟨ends, fun other same => ?_⟩
  rw [found, Option.some.injEq] at same
  rw [← same]
  exact ⟨inside, sized⟩

structure Env.Alike (env other : Env) : Prop where
  now : env.now = other.now
  room : ∀ call, (env.reserve call).isSome = (other.reserve call).isSome

def RingRecord.untimed (record : RingRecord) : Family × Bytes :=
  (record.family, record.sample.drop 8)

structure Verdict.Same (first second : Verdict) : Prop where
  action : first.action = second.action
  rates : first.rates = second.rates
  records : first.records.map RingRecord.untimed = second.records.map RingRecord.untimed

/-- The program cannot tell the two trailers apart, whatever is in its maps. -/
def TrailerBlind (datagram pad other : Bytes) : Prop :=
  ∀ env env' loader rates, env.Alike env' →
    (xdpPacketFilter env loader (datagram ++ pad) rates).Same
      (xdpPacketFilter env' loader (datagram ++ other) rates)

/-- A header that the parser reads to its end: the mandatory part and, with any of
the three flags, the optional octets and the chain behind them. -/
structure Readable (payload : Bytes) : Prop where
  mandatory : Mandatory payload
  messageType : byteAt payload 1 = 0xFF ∨ byteAt payload 1 ∈ pathManagement
  chain : byteAt payload 1 = 0xFF →
    Flag payload extensionBit ∨ Flag payload sequenceBit ∨ Flag payload nPduBit →
    12 ≤ payload.length ∧ BoundedChain payload 4 (byteAt payload 11) 12

def tunnelField (payload : Bytes) : UInt32 :=
  if 8 ≤ payload.length ∧ byteAt payload 0 &&& gtpuVersionPtMask = gtpuVersion1PtGtp ∧
      byteAt payload 1 = 0xFF then
    UInt32.ofNat (beNat (slice payload 4 4))
  else 0

theorem parseGtpu_malformed_iff (payload : Bytes) :
    (parseGtpu payload).1 = .malformed ↔ ¬ Readable payload := by
  rw [parseGtpu]
  by_cases header : Mandatory payload
  · by_cases userPlane : byteAt payload 1 = 0xFF
    · rw [GtpuParse.eq_malformed_iff, parseGtpuInto_eq_tpdu header userPlane,
        and_iff_left (parseGtpuInto_ne_other header userPlane 0)]
      constructor
      · intro broken readable
        exact broken (readable.chain userPlane)
      · intro unreadable chain
        exact unreadable ⟨header, .inl userPlane, fun _ => chain⟩
    · rw [parseGtpuInto_of_mandatory header, if_neg userPlane]
      by_cases control : byteAt payload 1 ∈ pathManagement
      · rw [if_pos control]
        simp only [reduceCtorEq, false_iff, not_not]
        exact ⟨header, .inr control, fun same => absurd same userPlane⟩
      · rw [if_neg control]
        simp only [true_iff]
        exact fun readable => readable.messageType.elim userPlane control
  · rw [parseGtpuInto_of_not_mandatory header]
    simp only [true_iff]
    exact fun readable => header readable.mandatory

theorem parseGtpu_teid (payload : Bytes) : (parseGtpu payload).2 = tunnelField payload := by
  by_cases header : Mandatory payload
  · obtain ⟨long, version⟩ := (mandatory_iff payload).mp header
    by_cases userPlane : byteAt payload 1 = 0xFF
    · rw [tunnelField, if_pos ⟨long, version, userPlane⟩, parseGtpu,
        parseGtpuInto_of_mandatory header, if_pos userPlane]
    · rw [tunnelField, if_neg fun whole => userPlane whole.2.2, parseGtpu,
        parseGtpuInto_of_mandatory header, if_neg userPlane]
      split <;> rfl
  · have unread : ¬ (8 ≤ payload.length ∧
        byteAt payload 0 &&& gtpuVersionPtMask = gtpuVersion1PtGtp ∧ byteAt payload 1 = 0xFF) :=
      fun whole => header ((mandatory_iff payload).mpr ⟨whole.1, whole.2.1⟩)
    rw [tunnelField, if_neg unread, parseGtpu, parseGtpuInto_of_not_mandatory header]

section Time

variable {env env' : Env} (alike : env.Alike env')

def Outcome.untimed (outcome : Outcome) (family : Family) :
    XdpAction × RateMaps × List (Family × Bytes) :=
  (outcome.action, outcome.maps,
    outcome.records.map (fun record => RingRecord.untimed ⟨family, record.image⟩))

theorem image_untimed (record : SignalingEventRecord) :
    record.image.drop 8 = record.saddr ++ (record.daddr ++ record.tail) := by
  rw [image_eq, List.drop_left' (leBytes_length 8 _)]

include alike

theorem emit_untimed (call : Nat) (event : SignalingEventRecord) (family : Family) :
    (reserveAndSubmit env call event).map
      (fun record => RingRecord.untimed ⟨family, record.image⟩) =
        (reserveAndSubmit env' call event).map
          (fun record => RingRecord.untimed ⟨family, record.image⟩) := by
  have room := alike.room call
  rw [reserveAndSubmit, reserveAndSubmit]
  cases first : env.reserve call with
  | none =>
      cases second : env'.reserve call with
      | none => rfl
      | some time => rw [first, second] at room; cases room
  | some time =>
      cases second : env'.reserve call with
      | none => rw [first, second] at room; cases room
      | some time' =>
          simp only [List.map_singleton, RingRecord.untimed, image_untimed]
          rfl

theorem admitted_untimed (seen : Sighting) (loader : Loader) (maps : RateMaps) (family : Family) :
    (seen.admitted env loader maps).untimed family =
      (seen.admitted env' loader maps).untimed family := by
  have emit := emit_untimed alike
  cases segment : seen.segment with
  | unread => simp only [Sighting.admitted, segment]
  | truncated => simp only [Sighting.admitted, segment, Outcome.untimed, emit]
  | sip size => simp only [Sighting.admitted, segment, Outcome.untimed, alike.now, emit]
  | gtpu size parse teid =>
      simp only [Sighting.admitted, segment, alike.now]
      split
      · simp only [Outcome.untimed, emit]
      · split
        · rfl
        · simp only [Outcome.untimed, emit]
  | offPort port size =>
      simp only [Sighting.admitted, segment, Sighting.inspectOffPort_eq, alike.now, Outcome.untimed,
        List.map_append]
      congr 3
      · split
        · exact emit _ _ _
        · rfl
      · split
        · exact emit _ _ _
        · rfl

theorem same_of_alike (loader : Loader) (frame : Bytes) (rates : Rates) :
    (xdpPacketFilter env loader frame rates).Same (xdpPacketFilter env' loader frame rates) := by
  rw [xdpPacketFilter_eq, xdpPacketFilter_eq]
  cases sight frame with
  | none => exact ⟨rfl, rfl, rfl⟩
  | some seen =>
      have outcome : (seen.outcome env loader (rates.of seen.family)).untimed seen.family =
          (seen.outcome env' loader (rates.of seen.family)).untimed seen.family := by
        rw [Sighting.outcome, Sighting.outcome]
        split
        · rfl
        · exact admitted_untimed alike seen loader _ _
      simp only [Outcome.untimed, Prod.mk.injEq] at outcome
      obtain ⟨action, maps, records⟩ := outcome
      refine ⟨action, by simp only [Sighting.verdict, maps], ?_⟩
      dsimp only [Sighting.verdict]
      rw [List.map_map, List.map_map]
      exact records

end Time

section Reading

variable {datagram : Bytes} (pad : Bytes)

theorem loadBe16_append {off : Nat} (inside : off + 2 ≤ datagram.length) :
    loadBe16 (datagram ++ pad) off = loadBe16 datagram off := by
  rw [loadBe16, slice_append_left pad inside, loadBe16]

theorem etherHeader_append {header : UInt16 × Nat × UInt16}
    (found : etherHeader datagram = some header) :
    etherHeader (datagram ++ pad) = some header := by
  have length : (datagram ++ pad).length = datagram.length + pad.length := List.length_append
  rw [etherHeader] at found
  split at found
  · cases found
  · rw [etherHeader, if_neg (by omega), loadBe16_append pad (by omega)]
    split at found
    · rename_i tagged
      split at found
      · cases found
      · rw [if_pos tagged, if_neg (by omega), loadBe16_append pad (by omega),
          loadBe16_append pad (by omega)]
        exact found
    · rename_i untagged
      rw [if_neg untagged]
      exact found

theorem sightIPv6_append {l3 : Nat} (complete : l3 + 40 ≤ datagram.length) (vlanId : UInt16) :
    sightIPv6 (datagram ++ pad) l3 vlanId = (sightIPv6 datagram l3 vlanId).map (fun seen =>
      { seen with
        segment := if byteAt datagram (l3 + 6) ≠ ipprotoUdp then .unread
          else segmentAt (datagram ++ pad) (l3 + 40) }) := by
  have length : (datagram ++ pad).length = datagram.length + pad.length := List.length_append
  rw [sightIPv6, sightIPv6, dif_neg (by omega), dif_neg (by omega), Option.map_some]
  simp only [slice_append_left pad (show l3 + 8 + 16 ≤ datagram.length by omega),
    slice_append_left pad (show l3 + 24 + 16 ≤ datagram.length by omega),
    byteAt_append_left datagram pad (l3 + 6) (by omega)]

theorem sightIPv4_append {l3 : Nat} (complete : l3 + 20 ≤ datagram.length) (vlanId : UInt16) :
    sightIPv4 (datagram ++ pad) l3 vlanId = (sightIPv4 datagram l3 vlanId).map (fun seen =>
      { seen with
        segment := if byteAt datagram (l3 + 9) ≠ ipprotoUdp then .unread
          else if loadBe16 datagram (l3 + 6) &&& 0x1FFF ≠ 0 then .unread
          else segmentAt (datagram ++ pad) (l3 + headerLength datagram l3 * 4) }) := by
  have length : (datagram ++ pad).length = datagram.length + pad.length := List.length_append
  have header : headerLength (datagram ++ pad) l3 = headerLength datagram l3 := by
    rw [headerLength, byteAt_append_left datagram pad l3 (by omega), headerLength]
  rw [sightIPv4, sightIPv4, dif_neg (by omega), dif_neg (by omega), header]
  by_cases short : headerLength datagram l3 < 5
  · rw [if_pos short, if_pos short, Option.map_none]
  · rw [if_neg short, if_neg short, Option.map_some]
    simp only [slice_append_left pad (show l3 + 12 + 4 ≤ datagram.length by omega),
      slice_append_left pad (show l3 + 16 + 4 ≤ datagram.length by omega),
      byteAt_append_left datagram pad (l3 + 9) (by omega),
      loadBe16_append pad (show l3 + 6 + 2 ≤ datagram.length by omega)]

/-- What the program reads of the datagram before the UDP header is the same with
every trailer. -/
theorem sight_append (framed : Datagram datagram) :
    sight (datagram ++ pad) = (sight datagram).map (fun seen =>
      { seen with
        segment := (udpOffset datagram).elim .unread (segmentAt (datagram ++ pad)) }) := by
  have ends := framed.ends
  rw [datagramEnd] at ends
  rw [sight, sight, udpOffset]
  cases found : etherHeader datagram with
  | none =>
      rw [found] at ends
      cases ends
  | some header =>
      obtain ⟨proto, l3, vlanId⟩ := header
      rw [found] at ends
      rw [etherHeader_append pad found]
      dsimp only at ends ⊢
      by_cases v6 : proto = ethPIpv6
      · rw [if_pos v6, Option.some.injEq] at ends
        have complete : ¬ l3 + 40 > datagram.length := by omega
        rw [if_pos v6, if_pos v6, if_pos v6, sightIPv6_append pad (by omega)]
        by_cases udp : byteAt datagram (l3 + 6) = ipprotoUdp
        · simp only [udp, complete, ne_eq, not_true_eq_false, or_self, if_false, Option.elim_some]
        · simp only [udp, ne_eq, not_false_eq_true, or_true, if_true, Option.elim_none]
      · by_cases v4 : proto = ethPIp
        · rw [if_neg v6, if_neg (not_not.mpr v4)] at ends
          split at ends
          · cases ends
          · rw [Option.some.injEq] at ends
            have complete : ¬ l3 + 20 > datagram.length := by omega
            rw [if_neg v6, if_neg v6, if_neg v6, if_neg (not_not.mpr v4), if_neg (not_not.mpr v4),
              if_neg (not_not.mpr v4), sightIPv4_append pad (by omega)]
            by_cases short : headerLength datagram l3 < 5
            · rw [sightIPv4, dif_neg complete, if_pos short, Option.map_none, Option.map_none]
            · by_cases udp : byteAt datagram (l3 + 9) = ipprotoUdp
              · by_cases first : loadBe16 datagram (l3 + 6) &&& 0x1FFF = 0
                · simp only [short, udp, first, complete, ne_eq, not_true_eq_false, or_self,
                    if_false, Option.elim_some]
                · simp only [udp, first, ne_eq, not_true_eq_false, not_false_eq_true, or_true,
                    if_true, if_false, Option.elim_none]
              · simp only [udp, ne_eq, not_false_eq_true, true_or, or_true, if_true,
                  Option.elim_none]
        · simp [v6, v4]

theorem sight_of_udpOffset {frame : Bytes} {udp : Nat} (found : udpOffset frame = some udp) :
    ∃ seen, sight frame = some seen := by
  rw [udpOffset] at found
  rw [sight]
  cases header : etherHeader frame with
  | none =>
      rw [header] at found
      cases found
  | some fields =>
      obtain ⟨proto, l3, vlanId⟩ := fields
      rw [header] at found
      dsimp only at found ⊢
      split at found
      · rename_i v6
        split at found
        · cases found
        · rename_i read
          rw [if_pos v6, sightIPv6, dif_neg fun short => read (.inl short)]
          exact ⟨_, rfl⟩
      · rename_i v6
        split at found
        · cases found
        · rename_i v4
          split at found
          · cases found
          · rename_i read
            rw [if_neg v6, if_neg v4, sightIPv4, dif_neg fun short => read (.inl short),
              if_neg fun short => read (.inr (.inl short))]
            exact ⟨_, rfl⟩

theorem segmentAt_append {udp : Nat} (inside : udp + 8 ≤ datagram.length) :
    segmentAt (datagram ++ pad) udp =
      (let size := UInt16.ofNat (datagram.length - (udp + 8) + pad.length)
      let payload := datagram.drop (udp + 8) ++ pad
      if loadBe16 datagram (udp + 2) = gtpuPort then
        .gtpu size (parseGtpu payload).1 (parseGtpu payload).2
      else if loadBe16 datagram (udp + 2) = sipPort then .sip size
      else .offPort (loadBe16 datagram (udp + 2)) size) := by
  have length : (datagram ++ pad).length = datagram.length + pad.length := List.length_append
  rw [segmentAt, if_neg (by omega), loadBe16_append pad (by omega),
    List.drop_append_of_le_length inside, length, Nat.sub_add_comm inside]

theorem xdpPacketFilter_append (framed : Datagram datagram) {udp : Nat}
    (found : udpOffset datagram = some udp) {seen : Sighting} (sighted : sight datagram = some seen)
    (env : Env) (loader : Loader) (rates : Rates) :
    xdpPacketFilter env loader (datagram ++ pad) rates =
      Sighting.verdict { seen with segment := segmentAt (datagram ++ pad) udp } env loader
        rates := by
  rw [xdpPacketFilter_eq, sight_append pad framed, sighted, found]
  rfl

end Reading

/-- What a run shows of a GTP-U header is whether it is malformed, and the tunnel. -/
theorem verdict_gtpu_congr {seen : Sighting} {size : UInt16} {first second : GtpuParse}
    {teid : UInt32} (same : first = .malformed ↔ second = .malformed) (env : Env) (loader : Loader)
    (rates : Rates) :
    Sighting.verdict { seen with segment := .gtpu size first teid } env loader rates =
      Sighting.verdict { seen with segment := .gtpu size second teid } env loader rates := by
  have event : Sighting.event { seen with segment := .gtpu size first teid } =
      Sighting.event { seen with segment := .gtpu size second teid } := by
    simp only [Sighting.event, same]
  have admitted : ∀ maps, Sighting.admitted { seen with segment := .gtpu size first teid } env
      loader maps =
      Sighting.admitted { seen with segment := .gtpu size second teid } env loader maps := by
    intro maps
    dsimp only [Sighting.admitted, Sighting.tunnelKey, Sighting.path]
    rw [event]
    rfl
  dsimp only [Sighting.verdict, Sighting.outcome]
  rw [admitted]
  rfl

def primed (family : Family) (saddr : Bytes) (port : UInt16) : Rates :=
  Rates.empty.set { RateMaps.empty with
    scanRate := (∅ : RateMap).insert (family.path.scanKey saddr port) ⟨0, 9⟩ } family

theorem not_blocked_bare (map : EnforcementMap) (key : Bytes) :
    blocked bareLoader map key = false := by
  have absent : (bareLoader.maps map).lookup key = none := Std.ExtTreeMap.getElem?_empty
  rw [blocked, absent]

theorem records_primed (seen : Sighting) (read : seen.segment ≠ .unread)
    (complete : seen.segment ≠ .truncated) :
    ∃ written : SignalingEventRecord, (seen.verdict plainEnv bareLoader
        (primed seen.family seen.saddr seen.event.destPort)).records =
      [⟨seen.family, written.image⟩] ∧
      written.saddr = seen.saddr ∧ written.daddr = seen.daddr ∧
      written.payloadSize = seen.event.payloadSize ∧ written.malformed = seen.event.malformed ∧
      written.teid = seen.event.teid := by
  obtain ⟨source, dest⟩ := seen.event_addresses
  have open_source : seen.sourceBlocked bareLoader = false := not_blocked_bare _ _
  have open_tunnel : seen.tunnelBlocked bareLoader = false := by
    rw [Sighting.tunnelBlocked]
    cases seen.tunnel with
    | none => rfl
    | some teid => rw [Option.any_some, not_blocked_bare]
  rw [Sighting.verdict, Sighting.outcome, if_neg (by simp [open_source])]
  cases segment : seen.segment with
  | unread => exact absurd segment read
  | truncated => exact absurd segment complete
  | offPort port size =>
      refine ⟨{ seen.event with timestampNs := 0 }, ?_, source, dest, rfl, rfl, rfl⟩
      have maps : (primed seen.family seen.saddr seen.event.destPort).of seen.family =
          { RateMaps.empty with
            scanRate := (∅ : RateMap).insert
              (seen.path.scanKey seen.event.saddr seen.event.destPort)
              ⟨0, 9⟩ } := by
        rw [primed, Rates.of_set, source]
        rfl
      have unscanned : (∅ : PortScanMap)[seen.event.saddr]? = none := Std.ExtTreeMap.getElem?_empty
      rw [Sighting.admitted, segment, maps]
      simp only [Sighting.inspectOffPort_eq, RateMaps.countPort, RateMaps.scanPorts,
        Std.ExtTreeMap.getElem?_insert_self, RateMaps.empty, unscanned]
      rfl
  | sip size =>
      rw [seen.admitted_records _ _ _ open_tunnel read (by simp [segment])]
      exact ⟨_, rfl, source, dest, rfl, rfl, rfl⟩
  | gtpu size parse teid =>
      rw [seen.admitted_records _ _ _ open_tunnel read (by simp [segment])]
      exact ⟨_, rfl, source, dest, rfl, rfl, rfl⟩

theorem tail_inj {first second : SignalingEventRecord} (same : first.tail = second.tail) :
    first.payloadSize = second.payloadSize ∧ first.malformed = second.malformed ∧
      first.teid = second.teid := by
  have size : ∀ record : SignalingEventRecord, UInt16.ofNat (leNat (slice record.tail 2 2)) =
      record.payloadSize := fun record => u16_of_leBytes _
  have flag : ∀ record : SignalingEventRecord, record.tail.getD 5 0 = record.malformed :=
    fun record => rfl
  have teid : ∀ record : SignalingEventRecord, UInt32.ofNat (leNat (slice record.tail 8 4)) =
      record.teid := fun record => u32_of_leBytes _
  refine ⟨?_, ?_, ?_⟩
  · rw [← size first, same, size]
  · rw [← flag first, same, flag]
  · rw [← teid first, same, teid]

theorem event_of_same (seen : Sighting) {first second : Segment}
    (read : first ≠ .unread ∧ second ≠ .unread)
    (complete : first ≠ .truncated ∧ second ≠ .truncated)
    (port : (Sighting.event { seen with segment := first }).destPort =
      (Sighting.event { seen with segment := second }).destPort)
    (same : ∀ rates, (Sighting.verdict { seen with segment := first } plainEnv bareLoader
      rates).Same
      (Sighting.verdict { seen with segment := second } plainEnv bareLoader rates)) :
    (Sighting.event { seen with segment := first }).payloadSize =
        (Sighting.event { seen with segment := second }).payloadSize ∧
      (Sighting.event { seen with segment := first }).malformed =
        (Sighting.event { seen with segment := second }).malformed ∧
      (Sighting.event { seen with segment := first }).teid =
        (Sighting.event { seen with segment := second }).teid := by
  obtain ⟨one, records, source, dest, size, flag, teid⟩ :=
    records_primed { seen with segment := first } read.1 complete.1
  obtain ⟨two, records', source', dest', size', flag', teid'⟩ :=
    records_primed { seen with segment := second } read.2 complete.2
  have shown := (same (primed seen.family seen.saddr
    (Sighting.event { seen with segment := first }).destPort)).records
  rw [records, port, records'] at shown
  simp only [List.map_singleton, List.cons.injEq, and_true, RingRecord.untimed, Prod.mk.injEq,
    true_and, image_untimed, source, source', dest, dest', List.append_cancel_left_eq] at shown
  obtain ⟨sizes, flags, teids⟩ := tail_inj shown
  exact ⟨by rw [← size, sizes, size'], by rw [← flag, flags, flag'], by rw [← teid, teids, teid']⟩

theorem ofNat_add_eq_iff (start first second : Nat) :
    UInt16.ofNat (start + first) = UInt16.ofNat (start + second) ↔
      first % 2 ^ 16 = second % 2 ^ 16 := by
  rw [← UInt16.toNat_inj, UInt16.toNat_ofNat', UInt16.toNat_ofNat']
  omega

/-- The trailers of a datagram are of one length, modulo the size field, and a GTP-U
header that may run into them is read alike. -/
def TrailersAlike (datagram : Bytes) (udp : Nat) (pad other : Bytes) : Prop :=
  pad.length % 2 ^ 16 = other.length % 2 ^ 16 ∧
    (loadBe16 datagram (udp + 2) = gtpuPort →
      (Readable (datagram.drop (udp + 8) ++ pad) ↔ Readable (datagram.drop (udp + 8) ++ other)) ∧
      tunnelField (datagram.drop (udp + 8) ++ pad) = tunnelField (datagram.drop (udp + 8) ++ other))

section Alike

variable {datagram pad other : Bytes} {udp : Nat} (inside : udp + 8 ≤ datagram.length)
  {seen : Sighting}

include inside

theorem segmentAt_event (seen : Sighting) (pad : Bytes) :
    (segmentAt (datagram ++ pad) udp ≠ .unread ∧ segmentAt (datagram ++ pad) udp ≠ .truncated) ∧
      (Sighting.event { seen with segment := segmentAt (datagram ++ pad) udp }).destPort =
        loadBe16 datagram (udp + 2) ∧
      (Sighting.event { seen with segment := segmentAt (datagram ++ pad) udp }).payloadSize =
        UInt16.ofNat (datagram.length - (udp + 8) + pad.length) := by
  rw [segmentAt_append pad inside]
  dsimp only
  by_cases gtpu : loadBe16 datagram (udp + 2) = gtpuPort
  · rw [if_pos gtpu]
    exact ⟨by simp, gtpu.symm, rfl⟩
  · rw [if_neg gtpu]
    by_cases sip : loadBe16 datagram (udp + 2) = sipPort
    · rw [if_pos sip]
      exact ⟨by simp, sip.symm, rfl⟩
    · rw [if_neg sip]
      exact ⟨by simp, rfl, rfl⟩

theorem trailersAlike_of_same
    (same : ∀ rates,
      (Sighting.verdict { seen with segment := segmentAt (datagram ++ pad) udp }
        plainEnv bareLoader rates).Same
      (Sighting.verdict { seen with segment := segmentAt (datagram ++ other) udp }
        plainEnv bareLoader rates)) :
    TrailersAlike datagram udp pad other := by
  obtain ⟨⟨read, complete⟩, port, length⟩ := segmentAt_event inside seen pad
  obtain ⟨⟨read', complete'⟩, port', length'⟩ := segmentAt_event inside seen other
  obtain ⟨size, flag, teid⟩ :=
    event_of_same seen ⟨read, read'⟩ ⟨complete, complete'⟩ (port.trans port'.symm) same
  rw [length, length', ofNat_add_eq_iff] at size
  refine ⟨size, fun gtpu => ?_⟩
  rw [segmentAt_append pad inside, segmentAt_append other inside, if_pos gtpu,
    if_pos gtpu] at flag teid
  have malformed : (parseGtpu (datagram.drop (udp + 8) ++ pad)).1 = .malformed ↔
      (parseGtpu (datagram.drop (udp + 8) ++ other)).1 = .malformed := by
    dsimp only [Sighting.event] at flag
    split at flag <;> split at flag <;> simp_all
  rw [parseGtpu_malformed_iff, parseGtpu_malformed_iff] at malformed
  refine ⟨not_iff_not.mp malformed, ?_⟩
  rw [← parseGtpu_teid, ← parseGtpu_teid]
  exact teid

theorem verdict_of_trailersAlike (alike : TrailersAlike datagram udp pad other) (env : Env)
    (loader : Loader) (rates : Rates) :
    Sighting.verdict { seen with segment := segmentAt (datagram ++ pad) udp } env loader rates =
      Sighting.verdict { seen with segment := segmentAt (datagram ++ other) udp } env loader
        rates := by
  obtain ⟨length, header⟩ := alike
  have size := (ofNat_add_eq_iff (datagram.length - (udp + 8)) _ _).mpr length
  rw [segmentAt_append pad inside, segmentAt_append other inside]
  dsimp only
  rw [size]
  by_cases gtpu : loadBe16 datagram (udp + 2) = gtpuPort
  · obtain ⟨readable, teid⟩ := header gtpu
    rw [if_pos gtpu, if_pos gtpu, parseGtpu_teid, parseGtpu_teid, teid]
    apply verdict_gtpu_congr
    rw [parseGtpu_malformed_iff, parseGtpu_malformed_iff, readable]
  · rw [if_neg gtpu, if_neg gtpu]

end Alike

/-- Which trailers the program does not tell apart. -/
theorem trailerBlind_iff {datagram : Bytes} (framed : Datagram datagram) (pad other : Bytes) :
    TrailerBlind datagram pad other ↔
      ∀ udp, udpOffset datagram = some udp → TrailersAlike datagram udp pad other := by
  cases found : udpOffset datagram with
  | none =>
      apply iff_of_true _ (by simp)
      intro env env' loader rates alike
      have same : sight (datagram ++ pad) = sight (datagram ++ other) := by
        rw [sight_append pad framed, sight_append other framed, found]
        rfl
      rw [xdpPacketFilter_eq env, same, ← xdpPacketFilter_eq]
      exact same_of_alike alike loader _ rates
  | some udp =>
      obtain ⟨seen, sighted⟩ := sight_of_udpOffset found
      obtain ⟨inside, -⟩ := framed.udp udp found
      simp only [Option.some.injEq, forall_eq']
      constructor
      · intro blind
        have same : ∀ rates,
            (Sighting.verdict { seen with segment := segmentAt (datagram ++ pad) udp }
              plainEnv bareLoader rates).Same
            (Sighting.verdict { seen with segment := segmentAt (datagram ++ other) udp }
              plainEnv bareLoader rates) := by
          intro rates
          rw [← xdpPacketFilter_append pad framed found sighted,
            ← xdpPacketFilter_append other framed found sighted]
          exact blind _ _ _ _ ⟨rfl, fun _ => rfl⟩
        exact trailersAlike_of_same inside same
      · intro alike env env' loader rates times
        rw [xdpPacketFilter_append pad framed found sighted, verdict_of_trailersAlike inside alike,
          ← xdpPacketFilter_append other framed found sighted]
        exact same_of_alike times loader _ rates

theorem ipv4Frame_datagram : udpOffset ipv4Frame = some 34 ∧ Datagram ipv4Frame := by
  have found : udpOffset ipv4Frame = some 34 := by decide +kernel
  exact ⟨found, datagram_of_udpOffset found (by decide +kernel) (by decide) (by decide +kernel)⟩

theorem padding_of_one_size_is_not_told :
    Datagram ipv4Frame ∧ TrailerBlind ipv4Frame (List.replicate 10 0) (List.replicate 10 0xFF) := by
  obtain ⟨found, framed⟩ := ipv4Frame_datagram
  refine ⟨framed, (trailerBlind_iff framed _ _).mpr fun udp same => ?_⟩
  rw [found, Option.some.injEq] at same
  rw [← same]
  have zeros : Readable (ipv4Frame.drop (34 + 8) ++ List.replicate 10 0) :=
    not_not.mp ((parseGtpu_malformed_iff _).not.mp (by decide +kernel))
  have ones : Readable (ipv4Frame.drop (34 + 8) ++ List.replicate 10 0xFF) :=
    not_not.mp ((parseGtpu_malformed_iff _).not.mp (by decide +kernel))
  exact ⟨rfl, fun _ => ⟨iff_of_true zeros ones, by decide +kernel⟩⟩

def cutFrame : Bytes :=
  List.replicate 12 0 ++ [0x08, 0x00] ++
    [0x45, 0, 0, 32, 0, 0, 0, 0, 64, 17, 0, 0, 10, 0, 0, 1, 10, 0, 0, 2] ++
    [0x08, 0x68, 0x08, 0x68, 0, 12, 0, 0] ++ [0x30, 0xFF, 0, 0]

/-- Padding shows in the size, and completes the header. -/
theorem padding_is_told :
    Datagram ipv4Frame ∧ ¬ TrailerBlind ipv4Frame (List.replicate 10 0) [] ∧
      Datagram cutFrame ∧
      (xdpPacketFilter plainEnv bareLoader cutFrame .empty).records =
        [⟨.ipv4, [0, 0, 0, 0, 0, 0, 0, 0, 10, 0, 0, 1, 10, 0, 0, 2, 104, 8, 4, 0, 1, 1, 0, 0,
          0, 0, 0, 0, 0, 0, 0, 0]⟩] ∧
      (xdpPacketFilter plainEnv bareLoader (cutFrame ++ [0, 0, 0, 7]) .empty).records =
        [⟨.ipv4, [0, 0, 0, 0, 0, 0, 0, 0, 10, 0, 0, 1, 10, 0, 0, 2, 104, 8, 8, 0, 1, 0, 0, 0,
          7, 0, 0, 0, 1, 0, 0, 0]⟩] := by
  have cut : udpOffset cutFrame = some 34 := by decide +kernel
  refine ⟨ipv4Frame_datagram.2, ?_,
    datagram_of_udpOffset cut (by decide +kernel) (by decide) (by decide +kernel),
    by decide +kernel, by decide +kernel⟩
  intro blind
  have records := (blind plainEnv plainEnv bareLoader .empty ⟨rfl, fun _ => rfl⟩).records
  exact absurd records (by decide +kernel)

end Sentinel5G.Bpf
