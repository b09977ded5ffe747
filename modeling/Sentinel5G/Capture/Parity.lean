import Sentinel5G.Bpf.Dissect
import Sentinel5G.Bpf.GtpuGrammar
import Sentinel5G.Capture.Pcap

namespace Sentinel5G.Capture

open Base Bpf Ebpf

theorem walkChain_eq (payload : Bytes) (left : Nat) (next : UInt8) (off : Nat) :
    walkChain payload left next off =
      decide (walkExtensions payload left next off = .malformed) := by
  induction left generalizing next off with
  | zero =>
      by_cases announced : next = 0
      · simp only [walkChain, walkExtensions, announced, ne_eq, not_true_eq_false, if_false,
          reduceCtorEq, decide_false]
      · simp only [walkChain, walkExtensions, announced, ne_eq, not_false_eq_true, if_true,
          decide_true]
  | succ left ih =>
      have cap : gtpuMaxHdrBytes = Bpf.gtpuMaxHdrBytes := rfl
      have past : off ≥ payload.length ↔ off + 1 > payload.length := Nat.lt_succ_iff.symm
      rw [walkChain, walkExtensions, cap]
      simp only [past]
      by_cases announced : next = 0
      · simp only [announced, if_true, reduceCtorEq, decide_false]
      · rw [if_neg announced, if_neg announced]
        by_cases late : off > Bpf.gtpuMaxHdrBytes - 4
        · simp only [late, true_or, if_true, decide_true]
        · by_cases short : off + 1 > payload.length
          · simp only [late, short, or_true, if_true, if_false, decide_true]
          · by_cases empty : (byteAt payload off).toNat * 4 = 0
            · simp only [late, short, empty, or_false, true_or, if_true, if_false, decide_true]
            · by_cases beyond : off + (byteAt payload off).toNat * 4 > Bpf.gtpuMaxHdrBytes
              · simp only [late, short, empty, beyond, or_false, or_true, if_true, if_false,
                  decide_true]
              · by_cases outside : off + (byteAt payload off).toNat * 4 > payload.length
                · simp only [late, short, empty, beyond, outside, or_false, if_true, if_false,
                    decide_true]
                · simp only [late, short, empty, beyond, outside, or_false, if_false, ih]

theorem parseGtpu_of_not_mandatory {payload : Bytes} (bad : ¬ Mandatory payload) :
    parseGtpu payload = (0, true) := by
  rw [mandatory_iff] at bad
  rw [parseGtpu]
  by_cases short : payload.length < 8
  · rw [if_pos short]
  · have version : byteAt payload 0 &&& gtpuVersionPtMask ≠ gtpuVersion1PtGtp :=
      fun same => bad ⟨Nat.not_lt.mp short, same⟩
    rw [if_neg short, if_pos version]

theorem parseGtpu_of_mandatory {payload : Bytes} (header : Mandatory payload) :
    parseGtpu payload =
      if byteAt payload 1 = 0xFF then
        (beNat (slice payload 4 4),
          if byteAt payload 0 &&& Bpf.gtpuExtFlagsMask = 0 then false
          else if 12 > payload.length then true
          else walkChain payload Bpf.gtpuMaxExtHeaders (byteAt payload 11) 12)
      else (0, decide (byteAt payload 1 ∉ pathManagement)) := by
  obtain ⟨present, version⟩ := (mandatory_iff payload).mp header
  have sameVersion : ¬ byteAt payload 0 &&& gtpuVersionPtMask ≠ gtpuVersion1PtGtp :=
    not_not.mpr version
  have tpdu : (0xFF : UInt8) = gtpuMsgTpdu := rfl
  have mask : Bpf.gtpuExtFlagsMask = gtpuExtFlagsMask := rfl
  rw [parseGtpu, if_neg (Nat.not_lt.mpr present), tpdu, mask]
  dsimp only
  rw [if_neg sameVersion]
  by_cases userPlane : byteAt payload 1 = gtpuMsgTpdu
  · rw [if_neg (not_not.mpr userPlane), if_pos userPlane]
    split_ifs <;> rfl
  · rw [if_pos userPlane, if_neg userPlane]
    rfl

theorem teid_toNat {payload : Bytes} (header : Mandatory payload) :
    (UInt32.ofNat (beNat (slice payload 4 4))).toNat = beNat (slice payload 4 4) := by
  have present := header.present
  have bound := beNat_lt (slice payload 4 4)
  rw [slice_length payload 4 4 (by omega)] at bound
  rw [UInt32.toNat_ofNat']
  exact Nat.mod_eq_of_lt bound

/-- The two parsers agree on every payload. -/
theorem parseGtpu_eq (payload : Bytes) :
    parseGtpu payload =
      ((Bpf.parseGtpu payload).2.toNat, decide ((Bpf.parseGtpu payload).1 = .malformed)) := by
  rw [Bpf.parseGtpu]
  by_cases header : Mandatory payload
  · rw [parseGtpu_of_mandatory header, parseGtpuInto_of_mandatory header]
    by_cases userPlane : byteAt payload 1 = 0xFF
    · rw [if_pos userPlane, if_pos userPlane, teid_toNat header]
      congr 1
      split_ifs
      · rfl
      · rfl
      · exact walkChain_eq _ _ _ _
    · rw [if_neg userPlane, if_neg userPlane]
      by_cases listed : byteAt payload 1 ∈ pathManagement
      · simp only [listed, not_true_eq_false, decide_false, if_true, reduceCtorEq]
        rfl
      · simp only [listed, not_false_eq_true, decide_true, if_false]
        rfl
  · rw [parseGtpu_of_not_mandatory header, parseGtpuInto_of_not_mandatory header]
    rfl

theorem loadBe16_toNat (frame : Bytes) (off : Nat) :
    (loadBe16 frame off).toNat = unpackBe16 frame off := by
  have bound := beNat_lt (slice frame off 2)
  have width : (slice frame off 2).length ≤ 2 := List.length_take_le _ _
  have small : beNat (slice frame off 2) < 2 ^ 16 :=
    lt_of_lt_of_le bound (Nat.pow_le_pow_right (by decide) width)
  rw [loadBe16, unpackBe16, UInt16.toNat_ofNat']
  exact Nat.mod_eq_of_lt small

theorem unpackBe16_eq (frame : Bytes) (off : Nat) (value : UInt16) :
    unpackBe16 frame off = value.toNat ↔ loadBe16 frame off = value := by
  rw [← loadBe16_toNat]
  exact UInt16.toNat_inj

theorem fragment_iff (frame : Bytes) (off : Nat) :
    unpackBe16 frame off &&& 0x1FFF ≠ 0 ↔ loadBe16 frame off &&& 0x1FFF ≠ 0 := by
  have same : (loadBe16 frame off &&& 0x1FFF).toNat = unpackBe16 frame off &&& 0x1FFF := by
    rw [UInt16.toNat_and, loadBe16_toNat]
    rfl
  rw [← same, ne_eq, ne_eq, ← UInt16.toNat_inj]
  rfl

/-- An Ethernet frame with an IPv4 packet, directly or behind one 802.1Q tag,
whose version field says so. -/
structure CarriesIPv4 (frame : Bytes) (l3 : Nat) (vlanId : UInt16) : Prop where
  ether : etherHeader frame = some (ethPIp, l3, vlanId)
  version : byteAt frame l3 >>> 4 = 4

theorem ipOffset_of_ether {frame : Bytes} {l3 : Nat} {vlanId : UInt16}
    (ether : etherHeader frame = some (ethPIp, l3, vlanId)) :
    ipOffset linktypeEthernet frame = some l3 := by
  have tag : unpackBe16 frame 12 = 0x8100 ↔ loadBe16 frame 12 = ethP8021q :=
    unpackBe16_eq frame 12 ethP8021q
  have plain : unpackBe16 frame 12 = 0x0800 ↔ loadBe16 frame 12 = ethPIp :=
    unpackBe16_eq frame 12 ethPIp
  have inner : unpackBe16 frame 16 = 0x0800 ↔ loadBe16 frame 16 = ethPIp :=
    unpackBe16_eq frame 16 ethPIp
  rw [ipOffset, if_pos rfl]
  simp only [tag, plain, inner]
  unfold etherHeader at ether
  split at ether
  · cases ether
  · rename_i long
    rw [if_neg long]
    split at ether
    · rename_i tagged
      rw [if_pos tagged]
      split at ether
      · cases ether
      · rename_i longer
        simp only [Option.some.injEq, Prod.mk.injEq] at ether
        rw [if_neg longer, if_pos ether.1, ether.2.1]
    · rename_i untagged
      simp only [Option.some.injEq, Prod.mk.injEq] at ether
      rw [if_neg untagged, if_pos ether.1, ether.2.1]

def Segment.packet (timestamp : ℚ) (sourceIp : String) : Segment → Option Packet
  | .unread => none
  | .truncated => some ⟨timestamp, sourceIp, 0, 0, 0, true⟩
  | .gtpu payloadSize parse teid =>
      some ⟨timestamp, sourceIp, gtpuPort, payloadSize.toNat, teid.toNat,
        decide (parse = .malformed)⟩
  | .sip payloadSize => some ⟨timestamp, sourceIp, sipPort.toNat, payloadSize.toNat, 0, false⟩
  | .offPort destPort payloadSize =>
      some ⟨timestamp, sourceIp, destPort.toNat, payloadSize.toNat, 0, false⟩

def packetOf (timestamp : ℚ) (seen : Sighting) : Option Packet :=
  Segment.packet timestamp (IP.string seen.saddr) seen.segment

theorem readUdp_eq {frame : Bytes} (small : frame.length < 65536) (timestamp : ℚ)
    (sourceIp : String) (udpOff : Nat) :
    some (readUdp timestamp frame.length frame sourceIp udpOff) =
      Segment.packet timestamp sourceIp (segmentAt frame udpOff) := by
  rw [readUdp, segmentAt]
  by_cases short : frame.length < udpOff + 8
  · rw [if_pos short, if_pos short]
    rfl
  · have size : (UInt16.ofNat (frame.length - (udpOff + 8))).toNat = frame.length -
        (udpOff + 8) := by
      rw [UInt16.toNat_ofNat']
      exact Nat.mod_eq_of_lt (by omega)
    have whole : max (frame.length - (udpOff + 8)) (frame.drop (udpOff + 8)).length =
        frame.length - (udpOff + 8) := by
      rw [List.length_drop, max_self]
    have gtpu : unpackBe16 frame (udpOff + 2) = gtpuPort ↔
        loadBe16 frame (udpOff + 2) = Bpf.gtpuPort := unpackBe16_eq frame _ Bpf.gtpuPort
    rw [if_neg short, if_neg short]
    dsimp only
    rw [whole]
    by_cases tunnel : loadBe16 frame (udpOff + 2) = Bpf.gtpuPort
    · rw [if_pos (gtpu.mpr tunnel), if_pos tunnel, Segment.packet, size, gtpu.mpr tunnel,
        parseGtpu_eq]
    · rw [if_neg (mt gtpu.mp tunnel), if_neg tunnel]
      by_cases sip : loadBe16 frame (udpOff + 2) = sipPort
      · rw [if_pos sip, Segment.packet, size, ← loadBe16_toNat, sip]
      · rw [if_neg sip, Segment.packet, size, loadBe16_toNat]

theorem string_of_length_four (ip : IP) (length : ip.length = 4) :
    ip.string = String.ofList (formatIPv4 ip) := by
  have present : ip ≠ [] := by
    rintro rfl
    cases length
  rw [IP.string, if_neg present, to4_of_length_four ip length]

theorem readFrame_eq {frame : Bytes} {l3 : Nat} {vlanId : UInt16}
    (carries : CarriesIPv4 frame l3 vlanId) (small : frame.length < 65536) (timestamp : ℚ) :
    readFrame linktypeEthernet timestamp frame.length frame =
      (sight frame).bind (packetOf timestamp) := by
  have ihl : (byteAt frame l3 &&& 0x0F).toNat * 4 < 20 ↔ headerLength frame l3 < 5 := by
    rw [headerLength]
    omega
  have udp : (17 : UInt8) = ipprotoUdp := rfl
  have other : ethPIp ≠ ethPIpv6 := by decide
  rw [readFrame, ipOffset_of_ether carries.ether, sight, carries.ether]
  dsimp only
  rw [if_neg other, if_neg (not_not.mpr rfl), if_neg (not_not.mpr carries.version), sightIPv4, udp]
  simp only [ihl, fragment_iff]
  by_cases short : frame.length < l3 + 20
  · rw [if_pos short, dif_pos short]
    rfl
  · rw [if_neg short, dif_neg short]
    by_cases header : headerLength frame l3 < 5
    · simp only [header, true_or, if_true, Option.bind_none]
    · have text : IP.string (slice frame (l3 + 12) 4) =
          String.ofList (formatIPv4 (slice frame (l3 + 12) 4)) :=
        string_of_length_four _ (slice_length _ _ _ (by omega))
      simp only [header, false_or, if_false, Option.bind_some, packetOf, text]
      split_ifs
      · rfl
      · rfl
      · exact readUdp_eq small timestamp _ _

section File

def ByteOrder.bytes : ByteOrder → Nat → Nat → Bytes
  | .little => leBytes
  | .big => beBytes

theorem ByteOrder.bytes_length (order : ByteOrder) (width n : Nat) :
    (order.bytes width n).length = width := by
  cases order
  · exact leBytes_length width n
  · exact beBytes_length width n

theorem ByteOrder.nat_bytes (order : ByteOrder) {n : Nat} (small : n < 2 ^ 32) :
    order.nat (order.bytes 4 n) = n := by
  have value : leNat (leBytes 4 n) = n := by
    rw [leNat_leBytes]
    exact Nat.mod_eq_of_lt small
  cases order with
  | little => exact value
  | big =>
      rw [ByteOrder.nat, ByteOrder.bytes, beNat, beBytes, List.reverse_reverse]
      exact value

structure Record where
  seconds : Nat
  fraction : Nat
  origlen : Nat
  frame : Bytes
  secondsBound : seconds < 2 ^ 32
  fractionBound : fraction < 2 ^ 32
  origlenBound : origlen < 2 ^ 32
  frameBound : frame.length < 2 ^ 32

def Record.image (order : ByteOrder) (record : Record) : Bytes :=
  order.bytes 4 record.seconds ++ (order.bytes 4 record.fraction ++
    (order.bytes 4 record.frame.length ++ (order.bytes 4 record.origlen ++ record.frame)))

def Record.timestamp (record : Record) (tsDivisor : Nat) : ℚ :=
  record.seconds + record.fraction / tsDivisor

def Record.packets (record : Record) (tsDivisor linkType : Nat) : List Packet :=
  (readFrame linkType (record.timestamp tsDivisor) record.origlen record.frame).toList

structure CaptureFile where
  order : ByteOrder
  nano : Bool
  /-- Format version, time zone, accuracy and snapshot length, which the reader skips. -/
  skipped : Bytes
  skippedLength : skipped.length = 16
  linkType : Nat
  linkTypeBound : linkType < 2 ^ 32
  records : List Record

namespace CaptureFile

variable (file : CaptureFile)

def magic : Nat := if file.nano then pcapMagicLeNano else pcapMagicLe

def tsDivisor : Nat := if file.nano then 1000000000 else 1000000

def body : Bytes := file.records.flatMap (Record.image file.order)

def image : Bytes :=
  file.order.bytes 4 file.magic ++ (file.skipped ++ (file.order.bytes 4 file.linkType ++ file.body))

def packets : List Packet :=
  file.records.flatMap (fun record => record.packets file.tsDivisor file.linkType)

end CaptureFile

theorem readRecords_image (order : ByteOrder) (tsDivisor linkType : Nat) (record : Record)
    (rest : Bytes) :
    readRecords order tsDivisor linkType (record.image order ++ rest) =
      record.packets tsDivisor linkType ++ readRecords order tsDivisor linkType rest := by
  have width := order.bytes_length 4
  have parts : record.image order ++ rest =
      order.bytes 4 record.seconds ++ (order.bytes 4 record.fraction ++
        (order.bytes 4 record.frame.length ++ (order.bytes 4 record.origlen ++
          (record.frame ++ rest)))) := by
    simp only [Record.image, List.append_assoc]
  have seconds : order.nat (slice (record.image order ++ rest) 0 4) = record.seconds := by
    rw [parts, slice_front _ _ 4 (width _), order.nat_bytes record.secondsBound]
  have fraction : order.nat (slice (record.image order ++ rest) 4 4) = record.fraction := by
    rw [parts, slice_append _ _ _ 4 4 (width _) (width _), order.nat_bytes record.fractionBound]
  have caplen : order.nat (slice (record.image order ++ rest) 8 4) = record.frame.length := by
    rw [parts, slice_after _ _ _ _ (by rw [width]; decide), width,
      slice_append _ _ _ _ 4 (width _) (width _), order.nat_bytes record.frameBound]
  have origlen : order.nat (slice (record.image order ++ rest) 12 4) = record.origlen := by
    rw [parts, slice_after _ _ _ _ (by rw [width]; decide), width,
      slice_after _ _ _ _ (by rw [width]; decide), width,
      slice_append _ _ _ _ 4 (width _) (width _), order.nat_bytes record.origlenBound]
  have header : ∃ front : Bytes, front.length = 16 ∧
      record.image order ++ rest = front ++ (record.frame ++ rest) := by
    refine ⟨order.bytes 4 record.seconds ++ (order.bytes 4 record.fraction ++
      (order.bytes 4 record.frame.length ++ order.bytes 4 record.origlen)), ?_, ?_⟩
    · simp only [List.length_append, width]
    · rw [parts]
      simp only [List.append_assoc]
  obtain ⟨front, frontLength, split⟩ := header
  have frame : slice (record.image order ++ rest) 16 record.frame.length = record.frame := by
    rw [split, slice_append _ _ _ 16 _ frontLength rfl]
  have after : (record.image order ++ rest).drop (16 + record.frame.length) = rest := by
    rw [split, ← List.append_assoc]
    exact List.drop_left' (by rw [List.length_append, frontLength])
  have long : ¬ (record.image order ++ rest).length < 16 := by
    rw [split, List.length_append, frontLength]
    omega
  rw [readRecords, if_neg long]
  simp only [seconds, fraction, caplen, origlen, frame, after, lt_irrefl, if_false]
  rfl

theorem readRecords_body (order : ByteOrder) (tsDivisor linkType : Nat) (records : List Record) :
    readRecords order tsDivisor linkType (records.flatMap (Record.image order)) =
      records.flatMap (fun record => record.packets tsDivisor linkType) := by
  induction records with
  | nil =>
      rw [List.flatMap_nil, List.flatMap_nil, readRecords]
      rfl
  | cons record records ih => rw [List.flatMap_cons, List.flatMap_cons, readRecords_image, ih]

theorem slice_image_magic (file : CaptureFile) :
    slice file.image 0 4 = file.order.bytes 4 file.magic :=
  slice_front _ _ 4 (file.order.bytes_length 4 _)

theorem slice_image_linkType (file : CaptureFile) :
    slice file.image 20 4 = file.order.bytes 4 file.linkType := by
  rw [CaptureFile.image, slice_after _ _ _ _ (by rw [ByteOrder.bytes_length]; decide),
    ByteOrder.bytes_length,
    slice_append _ _ _ _ 4 file.skippedLength (file.order.bytes_length 4 _)]

theorem drop_image (file : CaptureFile) : file.image.drop 24 = file.body := by
  rw [CaptureFile.image, ← List.append_assoc, ← List.append_assoc]
  apply List.drop_left'
  simp only [List.length_append, ByteOrder.bytes_length, file.skippedLength]

theorem readMagic_image (file : CaptureFile) : readMagic file.image = (file.order, file.magic) := by
  rw [readMagic, slice_image_magic, CaptureFile.magic]
  cases file.order <;> cases file.nano <;> decide

theorem readUdpPackets_image (file : CaptureFile) (path : String) :
    readUdpPackets path file.image = .ok file.packets := by
  have long : ¬ file.image.length < 24 := by
    simp only [CaptureFile.image, List.length_append, ByteOrder.bytes_length, file.skippedLength]
    omega
  have classic : ¬ (file.magic ≠ pcapMagicLe ∧ file.magic ≠ pcapMagicLeNano) := by
    rw [CaptureFile.magic]
    cases file.nano <;> decide
  have divisor : (if file.magic = pcapMagicLeNano then 1000000000 else 1000000) =
      file.tsDivisor := by
    rw [CaptureFile.magic, CaptureFile.tsDivisor]
    cases file.nano <;> decide
  rw [readUdpPackets, if_neg long, readMagic_image]
  dsimp only
  rw [if_neg classic, divisor, slice_image_linkType, file.order.nat_bytes file.linkTypeBound,
    drop_image, CaptureFile.body, readRecords_body, CaptureFile.packets]

end File

def Emits (verdict : Verdict) (bootTime : Int) (event : SignalingEvent) : Prop :=
  ∃ record ∈ verdict.records, record.decode bootTime = .ok event

def IsSignaling (event : SignalingEvent) : Prop :=
  event.protocol = signalProtoGtpu ∨ event.protocol = signalProtoSip

def IsTruncated (event : SignalingEvent) : Prop :=
  event.protocol = Bpf.signalProtoUnknown ∧ event.malformed = true

structure SameFields (event : SignalingEvent) (packet : Packet) : Prop where
  source : IP.string event.sourceIP = packet.sourceIp
  destPort : event.destPort.toNat = packet.destPort
  payloadSize : event.payloadSize.toNat = packet.payloadSize
  teid : event.teid.toNat = packet.teid
  malformed : event.malformed = packet.malformed

/-- What the filter writes, where the ring buffer has room, is what the reader yields. -/
structure Parity (verdict : Verdict) (room : Prop) (yielded : List Packet) (bootTime : Int) :
    Prop where
  signaling : (∃ event, Emits verdict bootTime event ∧ IsSignaling event) ↔
    room ∧ ∃ packet ∈ yielded, packet.destPort = 2152 ∨ packet.destPort = 5060
  truncated : (∃ event, Emits verdict bootTime event ∧ IsTruncated event) ↔
    room ∧ ∃ packet ∈ yielded, packet.destPort = 0 ∧ packet.malformed = true
  fields : ∀ event packet, Emits verdict bootTime event → IsSignaling event ∨ IsTruncated event →
    packet ∈ yielded → SameFields event packet

def AllEmpty (loader : Loader) : Prop := ∀ slot, slot ∉ loader

theorem AllEmpty.not_blocked {loader : Loader} (empty : AllEmpty loader) (map : EnforcementMap)
    (key : Bytes) : blocked loader map key = false := by
  have absent : (loader.maps map).lookup key = none := by
    rw [← Option.not_isSome_iff_eq_none, BpfHash.lookup_isSome]
    exact empty ⟨map, key⟩
  rw [blocked, absent]

theorem AllEmpty.tunnelBlocked {loader : Loader} (empty : AllEmpty loader) (seen : Sighting) :
    seen.tunnelBlocked loader = false := by
  unfold Sighting.tunnelBlocked
  cases seen.tunnel with
  | none => rfl
  | some teid => exact empty.not_blocked _ _

theorem emits_iff (seen : Sighting) {loader : Loader} (empty : AllEmpty loader) (env : Env)
    (rates : Rates) (bootTime : Int) (event : SignalingEvent) :
    Emits (seen.verdict env loader rates) bootTime event ↔
      ∃ written ∈ (seen.admitted env loader (rates.of seen.family)).records,
        event = written.event bootTime := by
  have admitted : seen.outcome env loader (rates.of seen.family) =
      seen.admitted env loader (rates.of seen.family) := by
    rw [Sighting.outcome, Sighting.sourceBlocked, empty.not_blocked]
    rfl
  have decodes : ∀ written ∈ (seen.admitted env loader (rates.of seen.family)).records,
      RingRecord.decode ⟨seen.family, written.image⟩ bootTime = .ok (written.event bootTime) := by
    intro written member
    rw [← admitted] at member
    exact seen.decode_of_mem env loader _ member bootTime
  rw [Emits, Sighting.verdict, admitted]
  constructor
  · rintro ⟨record, member, decoded⟩
    obtain ⟨written, inside, rfl⟩ := List.mem_map.mp member
    rw [decodes written inside] at decoded
    exact ⟨written, inside, (Except.ok.inj decoded).symm⟩
  · rintro ⟨written, inside, rfl⟩
    exact ⟨_, List.mem_map.mpr ⟨written, inside, rfl⟩, decodes written inside⟩

theorem parity_of_one {verdict : Verdict} {env : Env} {event : SignalingEventRecord}
    {packet : Packet} {bootTime : Int}
    (emitted : ∀ seen, Emits verdict bootTime seen ↔
      ∃ written ∈ reserveAndSubmit env 0 event, seen = written.event bootTime)
    (signaling : (event.protocol = signalProtoGtpu ∨ event.protocol = signalProtoSip) ↔
      packet.destPort = 2152 ∨ packet.destPort = 5060)
    (truncated : (event.protocol = Bpf.signalProtoUnknown ∧ decide (event.malformed ≠ 0) = true) ↔
      packet.destPort = 0 ∧ packet.malformed = true)
    (fields : ∀ timestampNs,
      SameFields ({ event with timestampNs := timestampNs }.event bootTime) packet) :
    Parity verdict (env.reserve 0).isSome [packet] bootTime := by
  have emits : ∀ seen, Emits verdict bootTime seen ↔ ∃ timestampNs, env.reserve 0 =
      some timestampNs ∧
      seen = { event with timestampNs := timestampNs }.event bootTime := by
    intro seen
    simp only [emitted, mem_emit_iff, and_assoc, ↓existsAndEq, true_and]
  have existence : ∀ (kind : SignalingEvent → Prop) (counterpart : Packet → Prop),
      (∀ timestampNs, kind ({ event with timestampNs := timestampNs }.event bootTime) ↔
        counterpart packet) →
      ((∃ seen, Emits verdict bootTime seen ∧ kind seen) ↔
        (env.reserve 0).isSome ∧ ∃ other ∈ [packet], counterpart other) := by
    intro kind counterpart same
    constructor
    · rintro ⟨seen, found, holds⟩
      obtain ⟨timestampNs, room, rfl⟩ := (emits seen).mp found
      exact ⟨by rw [room]; rfl, packet, List.mem_singleton_self packet,
        (same timestampNs).mp holds⟩
    · rintro ⟨room, other, member, holds⟩
      obtain ⟨timestampNs, reserved⟩ := Option.isSome_iff_exists.mp room
      rw [List.mem_singleton.mp member] at holds
      exact ⟨_, (emits _).mpr ⟨timestampNs, reserved, rfl⟩, (same timestampNs).mpr holds⟩
  refine ⟨existence IsSignaling (fun other => other.destPort = 2152 ∨ other.destPort = 5060)
    fun _ => signaling, existence IsTruncated
    (fun other => other.destPort = 0 ∧ other.malformed = true) fun _ => truncated, ?_⟩
  intro seen other found _ member
  obtain ⟨timestampNs, -, rfl⟩ := (emits seen).mp found
  rw [List.mem_singleton.mp member]
  exact fields timestampNs

theorem parity_of_none {verdict : Verdict} {room : Prop} {yielded : List Packet} {bootTime : Int}
    (silent : ∀ event, Emits verdict bootTime event → ¬ IsSignaling event ∧ ¬ IsTruncated event)
    (none_ : ∀ packet ∈ yielded, ¬ (packet.destPort = 2152 ∨ packet.destPort = 5060) ∧
      ¬ (packet.destPort = 0 ∧ packet.malformed = true)) :
    Parity verdict room yielded bootTime := by
  refine ⟨?_, ?_, ?_⟩
  · constructor
    · rintro ⟨event, found, kind⟩
      exact absurd kind (silent event found).1
    · rintro ⟨_, packet, member, port⟩
      exact absurd port (none_ packet member).1
  · constructor
    · rintro ⟨event, found, kind⟩
      exact absurd kind (silent event found).2
    · rintro ⟨_, packet, member, cut⟩
      exact absurd cut (none_ packet member).2
  · intro event packet found kind
    rcases kind with signaling | truncated
    · exact absurd signaling (silent event found).1
    · exact absurd truncated (silent event found).2

/-- What the filter reports of a sighting is the packet the reader makes of it. -/
theorem parity_of_sighting (seen : Sighting) (env : Env) {loader : Loader} (empty : AllEmpty loader)
    (rates : Rates) (timestamp : ℚ) (bootTime : Int)
    (offPort : ∀ destPort size, seen.segment = .offPort destPort size →
      destPort ≠ Bpf.gtpuPort ∧ destPort ≠ sipPort) :
    Parity (seen.verdict env loader rates) (env.reserve 0).isSome
      (packetOf timestamp seen).toList bootTime := by
  have emitted := emits_iff seen empty env rates bootTime
  have reported := seen.admitted_records env loader (rates.of seen.family)
      (empty.tunnelBlocked seen)
  cases segment : seen.segment with
  | unread =>
      apply parity_of_none
      · intro event found
        obtain ⟨written, member, -⟩ := (emitted event).mp found
        rw [Sighting.admitted, segment] at member
        cases member
      · rw [packetOf, segment]
        intro packet member
        cases member
  | offPort destPort size =>
      obtain ⟨notGtpu, notSip⟩ := offPort destPort size segment
      apply parity_of_none
      · intro event found
        obtain ⟨written, member, rfl⟩ := (emitted event).mp found
        rw [IsSignaling, IsTruncated]
        rcases seen.offPort_records env loader _ segment member with ⟨unknown, intact⟩ | scan
        · have calm : (written.event bootTime).malformed = false := by
            rw [SignalingEventRecord.event, intact]
            rfl
          have plain : (written.event bootTime).protocol = Bpf.signalProtoUnknown := unknown
          rw [plain, calm]
          decide
        · have kind : (written.event bootTime).protocol = Bpf.signalProtoPortScan := scan
          rw [kind]
          exact ⟨by decide, fun both => absurd both.1 (by decide)⟩
      · rw [packetOf, segment]
        intro packet member
        have same := List.mem_singleton.mp member
        subst same
        have distinct : ∀ port : UInt16, destPort ≠ port → destPort.toNat ≠ port.toNat :=
          fun port different same => different (UInt16.toNat_inj.mp same)
        exact ⟨fun either => either.elim (distinct Bpf.gtpuPort notGtpu) (distinct sipPort notSip),
          fun both => absurd both.2 (by simp)⟩
  | truncated =>
      rw [reported (by simp [segment]) (by simp [segment]), Sighting.event, segment]
        at emitted
      rw [packetOf, segment]
      refine parity_of_one emitted ?_ ?_ fun _ => ⟨rfl, rfl, rfl, rfl, rfl⟩
      · have unknown : ¬ (Bpf.signalProtoUnknown = signalProtoGtpu ∨
            Bpf.signalProtoUnknown = signalProtoSip) := by decide
        have portless : ¬ (0 = 2152 ∨ 0 = 5060) := by decide
        exact ⟨fun kind => absurd kind unknown, fun port => absurd port portless⟩
      · exact ⟨fun _ => ⟨rfl, rfl⟩, fun _ => ⟨rfl, rfl⟩⟩
  | sip size =>
      rw [reported (by simp [segment]) (by simp [segment]), Sighting.event, segment]
        at emitted
      rw [packetOf, segment]
      refine parity_of_one emitted ?_ ?_ fun _ => ⟨rfl, rfl, rfl, rfl, rfl⟩
      · exact ⟨fun _ => .inr rfl, fun _ => .inr rfl⟩
      · have known : signalProtoSip ≠ Bpf.signalProtoUnknown := by decide
        have port : sipPort.toNat ≠ 0 := by decide
        exact ⟨fun cut => absurd cut.1 known, fun cut => absurd cut.1 port⟩
  | gtpu size parse teid =>
      rw [reported (by simp [segment]) (by simp [segment]), Sighting.event, segment]
        at emitted
      rw [packetOf, segment]
      refine parity_of_one emitted ?_ ?_ fun _ => ⟨rfl, rfl, rfl, rfl, ?_⟩
      · exact ⟨fun _ => .inl rfl, fun _ => .inl rfl⟩
      · have known : signalProtoGtpu ≠ Bpf.signalProtoUnknown := by decide
        have port : gtpuPort ≠ 0 := by decide
        exact ⟨fun cut => absurd cut.1 known, fun cut => absurd cut.1 port⟩
      · cases parse <;> rfl

/-- With nothing blocked, the filter reports a frame as the reader yields it. -/
theorem parity_of_frame {frame : Bytes} {l3 : Nat} {vlanId : UInt16}
    (carries : CarriesIPv4 frame l3 vlanId) (small : frame.length < 65536) (env : Env)
    {loader : Loader} (empty : AllEmpty loader) (rates : Rates) (timestamp : ℚ) (bootTime : Int) :
    Parity (xdpPacketFilter env loader frame rates) (env.reserve 0).isSome
      (readFrame linktypeEthernet timestamp frame.length frame).toList bootTime := by
  rw [readFrame_eq carries small, xdpPacketFilter_eq]
  cases found : sight frame with
  | none =>
      refine parity_of_none (fun event emitted => ?_) (fun packet member => ?_)
      · obtain ⟨_, impossible, -⟩ := emitted
        cases impossible
      · cases member
  | some seen =>
      exact parity_of_sighting seen env empty rates timestamp bootTime
        fun _ _ segment => sight_offPort found segment

/-- In every capture file of whole frames, on every frame with an IPv4 packet:
where the ring buffer has room, the filter reports what the reader yields. -/
theorem capture_parity (file : CaptureFile) (path : String) :
    readUdpPackets path file.image = .ok file.packets ∧
    (file.linkType = linktypeEthernet → ∀ record ∈ file.records,
      record.origlen = record.frame.length → record.frame.length < 65536 →
      ∀ l3 vlanId, CarriesIPv4 record.frame l3 vlanId →
      ∀ env loader rates bootTime, AllEmpty loader →
        Parity (xdpPacketFilter env loader record.frame rates) (env.reserve 0).isSome
          (record.packets file.tsDivisor file.linkType) bootTime) ∧
    ∀ payload, parseGtpu payload =
      ((Bpf.parseGtpu payload).2.toNat, decide ((Bpf.parseGtpu payload).1 = .malformed)) := by
  refine ⟨readUdpPackets_image file path, ?_, parseGtpu_eq⟩
  intro ethernet record _ whole small l3 vlanId carries env loader rates bootTime empty
  rw [Record.packets, ethernet, whole]
  exact parity_of_frame carries small env empty rates _ bootTime

theorem bareLoader_empty : AllEmpty bareLoader :=
  fun _ => Std.ExtTreeMap.not_mem_empty

def fullRing : Env := ⟨0, fun _ => none⟩

def capturedFrame : Record where
  seconds := 0
  fraction := 0
  origlen := ipv4Frame.length
  frame := ipv4Frame
  secondsBound := by decide
  fractionBound := by decide
  origlenBound := by decide
  frameBound := by decide

def capturedFile : CaptureFile where
  order := .little
  nano := false
  skipped := List.replicate 16 0
  skippedLength := rfl
  linkType := linktypeEthernet
  linkTypeBound := by decide
  records := [capturedFrame]

theorem captured_frame_is_reported :
    readUdpPackets "capture.pcap" capturedFile.image =
      .ok [⟨0, "10.0.0.1", 2152, 8, 7, false⟩] ∧
    ∃ event, Emits (xdpPacketFilter plainEnv bareLoader ipv4Frame .empty) 0 event ∧
      IsSignaling event ∧ SameFields event ⟨0, "10.0.0.1", 2152, 8, 7, false⟩ := by
  have yielded : capturedFile.packets = [⟨0, "10.0.0.1", 2152, 8, 7, false⟩] := by decide +kernel
  have yields : capturedFrame.packets capturedFile.tsDivisor capturedFile.linkType =
      [⟨0, "10.0.0.1", 2152, 8, 7, false⟩] := by decide +kernel
  obtain ⟨read, reports, -⟩ := capture_parity capturedFile "capture.pcap"
  have parity := reports rfl capturedFrame (List.mem_singleton_self _) rfl (by decide) 14 0
    ⟨by decide, by decide⟩ plainEnv bareLoader .empty 0 bareLoader_empty
  rw [yields] at parity
  obtain ⟨event, emitted, kind⟩ :=
    parity.signaling.mpr ⟨rfl, _, List.mem_singleton_self _, .inl rfl⟩
  rw [yielded] at read
  exact ⟨read, event, emitted, kind,
    parity.fields event _ emitted (.inl kind) (List.mem_singleton_self _)⟩

/-- Without room in the ring buffer the observation is dropped; the reader
still yields the packet. -/
theorem full_ring_drops_observation :
    CarriesIPv4 ipv4Frame 14 0 ∧ ipv4Frame.length < 65536 ∧ AllEmpty bareLoader ∧
    (xdpPacketFilter fullRing bareLoader ipv4Frame .empty).records = [] ∧
    ∃ packets, readUdpPackets "capture.pcap" capturedFile.image = .ok packets ∧
      packets = [⟨0, "10.0.0.1", 2152, 8, 7, false⟩] := by
  refine ⟨⟨by decide, by decide⟩, by decide, bareLoader_empty, by decide +kernel,
    capturedFile.packets, readUdpPackets_image capturedFile _, by decide +kernel⟩

end Sentinel5G.Capture
