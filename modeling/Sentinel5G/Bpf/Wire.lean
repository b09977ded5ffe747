import Sentinel5G.Bpf.Filter
import Sentinel5G.Ebpf.Decode

namespace Sentinel5G.Bpf

open Base Ebpf

theorem u16_of_leBytes (value : UInt16) : UInt16.ofNat (leNat (leBytes 2 value.toNat)) = value := by
  have small : value.toNat < 256 ^ 2 := value.toNat_lt
  rw [leNat_leBytes, Nat.mod_eq_of_lt small, UInt16.ofNat_toNat]

theorem u32_of_leBytes (value : UInt32) : UInt32.ofNat (leNat (leBytes 4 value.toNat)) = value := by
  have small : value.toNat < 256 ^ 4 := value.toNat_lt
  rw [leNat_leBytes, Nat.mod_eq_of_lt small, UInt32.ofNat_toNat]

theorem u64_of_leBytes (value : UInt64) : UInt64.ofNat (leNat (leBytes 8 value.toNat)) = value := by
  have small : value.toNat < 256 ^ 8 := value.toNat_lt
  rw [leNat_leBytes, Nat.mod_eq_of_lt small, UInt64.ofNat_toNat]

def SignalingEventRecord.event (record : SignalingEventRecord) (bootTime : Int) :
    SignalingEvent where
  observedAt := bootTime + durationOfU64 record.timestampNs
  sourceIP := record.saddr
  destIP := record.daddr
  destPort := record.destPort
  payloadSize := record.payloadSize
  protocol := record.protocol
  malformed := decide (record.malformed ≠ 0)
  vlanID := record.vlanId
  teid := record.teid
  tunnelRate := record.tunnelRate

structure SignalingEventRecord.Sized (record : SignalingEventRecord) (width : Nat) : Prop where
  saddr : record.saddr.length = width
  daddr : record.daddr.length = width

def SignalingEventRecord.tail (record : SignalingEventRecord) : Bytes :=
  leBytes 2 record.destPort.toNat ++ leBytes 2 record.payloadSize.toNat ++
    [record.protocol, record.malformed] ++ leBytes 2 record.vlanId.toNat ++
    leBytes 4 record.teid.toNat ++ leBytes 4 record.tunnelRate.toNat

section Image

variable {record : SignalingEventRecord} {width : Nat}

theorem image_eq (record : SignalingEventRecord) :
    record.image =
      leBytes 8 record.timestampNs.toNat ++ (record.saddr ++ (record.daddr ++ record.tail)) := by
  simp only [SignalingEventRecord.image, SignalingEventRecord.tail, List.append_assoc]

theorem image_length (sized : record.Sized width) : record.image.length = 24 + 2 * width := by
  simp only [image_eq, SignalingEventRecord.tail, List.length_append, leBytes_length, sized.saddr,
    sized.daddr, List.length_cons, List.length_nil]
  omega

theorem image_timestamp (record : SignalingEventRecord) :
    leUint64 record.image 0 = record.timestampNs := by
  have field : slice record.image 0 8 = leBytes 8 record.timestampNs.toNat := by
    rw [image_eq]
    exact slice_append [] _ _ 0 8 rfl (leBytes_length 8 _)
  rw [leUint64, field, u64_of_leBytes]

theorem image_saddr (sized : record.Sized width) : slice record.image 8 width = record.saddr := by
  rw [image_eq, slice_append _ _ _ 8 width (leBytes_length 8 _) sized.saddr]

theorem image_daddr (sized : record.Sized width) :
    slice record.image (8 + width) width = record.daddr := by
  rw [image_eq, slice_after _ _ _ _ (by rw [leBytes_length]; omega), leBytes_length,
    Nat.add_sub_cancel_left, slice_append _ _ _ width width sized.saddr sized.daddr]

theorem image_split (sized : record.Sized width) :
    ∃ head, head.length = 8 + 2 * width ∧ record.image = head ++ record.tail := by
  refine ⟨leBytes 8 record.timestampNs.toNat ++ (record.saddr ++ record.daddr), ?_, ?_⟩
  · simp only [List.length_append, leBytes_length, sized.saddr, sized.daddr]
    omega
  · rw [image_eq, List.append_assoc, List.append_assoc]

theorem image_tail (sized : record.Sized width) (off len : Nat) :
    slice record.image (8 + 2 * width + off) len = slice record.tail off len := by
  obtain ⟨head, length, split⟩ := image_split sized
  rw [split, slice_after _ _ _ _ (by omega), length, Nat.add_sub_cancel_left]

theorem image_tail_byte (sized : record.Sized width) (off : Nat) :
    record.image.getD (8 + 2 * width + off) 0 = record.tail.getD off 0 := by
  obtain ⟨head, length, split⟩ := image_split sized
  rw [split, getD_after _ _ _ (by omega), length, Nat.add_sub_cancel_left]

section Tail

variable (sized : record.Sized width)

include sized

theorem image_destPort : leUint16 record.image (8 + 2 * width) = record.destPort := by
  have field : slice record.tail 0 2 = leBytes 2 record.destPort.toNat := rfl
  rw [leUint16, ← Nat.add_zero (8 + 2 * width), image_tail sized, field, u16_of_leBytes]

theorem image_payloadSize : leUint16 record.image (8 + 2 * width + 2) = record.payloadSize := by
  have field : slice record.tail 2 2 = leBytes 2 record.payloadSize.toNat := rfl
  rw [leUint16, image_tail sized, field, u16_of_leBytes]

theorem image_vlanId : leUint16 record.image (8 + 2 * width + 6) = record.vlanId := by
  have field : slice record.tail 6 2 = leBytes 2 record.vlanId.toNat := rfl
  rw [leUint16, image_tail sized, field, u16_of_leBytes]

theorem image_teid : leUint32 record.image (8 + 2 * width + 8) = record.teid := by
  have field : slice record.tail 8 4 = leBytes 4 record.teid.toNat := rfl
  rw [leUint32, image_tail sized, field, u32_of_leBytes]

theorem image_tunnelRate : leUint32 record.image (8 + 2 * width + 12) = record.tunnelRate := by
  have field : slice record.tail 12 4 = leBytes 4 record.tunnelRate.toNat := rfl
  rw [leUint32, image_tail sized, field, u32_of_leBytes]

theorem image_protocol : record.image.getD (8 + 2 * width + 4) 0 = record.protocol := by
  rw [image_tail_byte sized]
  rfl

theorem image_malformed : record.image.getD (8 + 2 * width + 5) 0 = record.malformed := by
  rw [image_tail_byte sized]
  rfl

end Tail

theorem ipv4FromU32_leUint32 (sample : Bytes) (off : Nat) (address : IP)
    (field : slice sample off 4 = address) (length : address.length = 4) :
    ipv4FromU32 (leUint32 sample off) = address := by
  have small : leNat address < 2 ^ 32 := by
    have bound := leNat_lt address
    rw [length] at bound
    exact bound
  rw [leUint32, field, ipv4FromU32, UInt32.toNat_ofNat_of_lt' small, leBytes_of_length 4 _ length]

/-- Every field comes back as the packet filter wrote it. -/
theorem decode_image (sized : record.Sized 4) (bootTime : Int) :
    decodeSignalingEvent bootTime record.image = .ok (record.event bootTime) := by
  have long : ¬ record.image.length < rawSignalingEventSize := by
    rw [image_length sized, rawSignalingEventSize]
    omega
  have source := ipv4FromU32_leUint32 _ 8 _ (image_saddr sized) sized.saddr
  have dest := ipv4FromU32_leUint32 _ 12 _ (image_daddr sized) sized.daddr
  rw [decodeSignalingEvent, if_neg long, source, dest, image_timestamp, image_destPort sized,
    image_payloadSize sized, image_vlanId sized, image_teid sized, image_tunnelRate sized,
    image_protocol sized, image_malformed sized]
  rfl

theorem decodeV6_image (sized : record.Sized 16) (bootTime : Int) :
    decodeSignalingEventV6 bootTime record.image = .ok (record.event bootTime) := by
  have long : ¬ record.image.length < rawSignalingEventV6Size := by
    rw [image_length sized, rawSignalingEventV6Size]
    omega
  rw [decodeSignalingEventV6, if_neg long, image_saddr sized, image_daddr sized, image_timestamp,
    image_destPort sized, image_payloadSize sized, image_vlanId sized, image_teid sized,
    image_tunnelRate sized, image_protocol sized, image_malformed sized]
  rfl

end Image

theorem decode_take (bootTime : Int) (sample : Bytes)
    (long : rawSignalingEventSize ≤ sample.length) :
    decodeSignalingEvent bootTime sample =
      decodeSignalingEvent bootTime (sample.take rawSignalingEventSize) := by
  have cut : ¬ (sample.take rawSignalingEventSize).length < rawSignalingEventSize := by
    rw [List.length_take]
    omega
  rw [decodeSignalingEvent, decodeSignalingEvent, if_neg (by omega), if_neg cut]
  simp (disch := decide) only [leUint64, leUint32, leUint16, slice_take, getD_take]

theorem decodeV6_take (bootTime : Int) (sample : Bytes)
    (long : rawSignalingEventV6Size ≤ sample.length) :
    decodeSignalingEventV6 bootTime sample =
      decodeSignalingEventV6 bootTime (sample.take rawSignalingEventV6Size) := by
  have cut : ¬ (sample.take rawSignalingEventV6Size).length < rawSignalingEventV6Size := by
    rw [List.length_take]
    omega
  rw [decodeSignalingEventV6, decodeSignalingEventV6, if_neg (by omega), if_neg cut]
  simp (disch := decide) only [leUint64, leUint32, leUint16, slice_take, getD_take]

/-- An address that went through a `__u32`: loaded from the packet and stored in
the record, both little-endian. -/
def storedU32 (frame : Bytes) (off : Nat) : Bytes := leBytes 4 (leUint32 frame off).toNat

def copied16 (frame : Bytes) (off : Nat) : Bytes := slice frame off 16

theorem storedU32_eq (frame : Bytes) (off : Nat) (inside : off + 4 ≤ frame.length) :
    storedU32 frame off = slice frame off 4 :=
  ipv4FromU32_leUint32 frame off _ rfl (slice_length frame off 4 inside)

structure RoundTrip (emit : Env → Nat → SignalingEventRecord → List SignalingEventRecord)
    (decode : Int → Bytes → Except Err SignalingEvent) (size width : Nat)
    (stored : Bytes → Nat → Bytes) : Prop where
  /-- What is emitted comes back, the addresses with their bytes as in the packet. -/
  fields : ∀ (env : Env) (call : Nat) (frame : Bytes) (source dest : Nat)
    (record written : SignalingEventRecord) (bootTime : Int),
    source + width ≤ frame.length → dest + width ≤ frame.length →
    record.saddr = stored frame source → record.daddr = stored frame dest →
    written ∈ emit env call record → written.timestampNs.toNat < 2 ^ 63 →
    written.image.length = size ∧
    decode bootTime written.image = .ok {
      observedAt := bootTime + written.timestampNs.toNat
      sourceIP := slice frame source width
      destIP := slice frame dest width
      destPort := record.destPort
      payloadSize := record.payloadSize
      protocol := record.protocol
      malformed := decide (record.malformed ≠ 0)
      vlanID := record.vlanId
      teid := record.teid
      tunnelRate := record.tunnelRate }
  short : ∀ bootTime sample, sample.length < size → ∃ err, decode bootTime sample = .error err
  long : ∀ bootTime sample, size ≤ sample.length →
    decode bootTime sample = decode bootTime (sample.take size)

theorem emitted_eq {env : Env} {call : Nat} {record written : SignalingEventRecord}
    (emitted : written ∈ reserveAndSubmit env call record) :
    written = { record with timestampNs := written.timestampNs } := by
  rw [reserveAndSubmit] at emitted
  split at emitted
  · cases emitted
  · rw [List.mem_singleton] at emitted
    rw [emitted]

theorem emitted_decodes {decode : Int → Bytes → Except Err SignalingEvent} {width : Nat}
    {stored : Bytes → Nat → Bytes}
    (address : ∀ frame off, off + width ≤ frame.length → stored frame off = slice frame off width)
    (image : ∀ record : SignalingEventRecord, record.Sized width → ∀ bootTime,
      decode bootTime record.image = .ok (record.event bootTime))
    {env : Env} {call : Nat} {frame : Bytes} {source dest : Nat}
    {record written : SignalingEventRecord} (bootTime : Int)
    (sourceInside : source + width ≤ frame.length) (destInside : dest + width ≤ frame.length)
    (saddr : record.saddr = stored frame source) (daddr : record.daddr = stored frame dest)
    (emitted : written ∈ reserveAndSubmit env call record)
    (early : written.timestampNs.toNat < 2 ^ 63) :
    written.image.length = 24 + 2 * width ∧
    decode bootTime written.image = .ok {
      observedAt := bootTime + written.timestampNs.toNat
      sourceIP := slice frame source width
      destIP := slice frame dest width
      destPort := record.destPort
      payloadSize := record.payloadSize
      protocol := record.protocol
      malformed := decide (record.malformed ≠ 0)
      vlanID := record.vlanId
      teid := record.teid
      tunnelRate := record.tunnelRate } := by
  have fields := emitted_eq emitted
  rw [address frame source sourceInside] at saddr
  rw [address frame dest destInside] at daddr
  have sized : written.Sized width := by
    rw [fields]
    constructor
    · rw [saddr, slice_length frame source width sourceInside]
    · rw [daddr, slice_length frame dest width destInside]
  constructor
  · exact image_length sized
  · rw [image written sized, SignalingEventRecord.event, durationOfU64, if_pos early, ← saddr,
      ← daddr, fields]

/-- Both layouts agree with their decoders. -/
theorem wire_round_trip :
    RoundTrip emitSignalingEvent decodeSignalingEvent 32 4 storedU32 ∧
      RoundTrip emitSignalingEventV6 decodeSignalingEventV6 56 16 copied16 := by
  constructor
  · constructor
    · intro env call frame source dest record written bootTime
      apply emitted_decodes storedU32_eq fun record sized => decode_image sized
    · intro bootTime sample short
      exact ⟨_, if_pos short⟩
    · exact decode_take
  · constructor
    · intro env call frame source dest record written bootTime
      apply emitted_decodes (fun _ _ _ => rfl) fun record sized => decodeV6_image sized
    · intro bootTime sample short
      exact ⟨_, if_pos short⟩
    · exact decodeV6_take

/-- A datagram of tunnel 7 between two addresses. -/
def tunnelSeven (saddr daddr : Bytes) : SignalingEventRecord :=
  ⟨0, saddr, daddr, gtpuPort, 8, signalProtoGtpu, 0, 12, 7, 3000⟩

theorem tunnelSeven_round_trip :
    (∃ written ∈ emitSignalingEvent ⟨0, fun _ => some 5⟩ 0
        (tunnelSeven [10, 0, 0, 1] [10, 0, 0, 2]),
      decodeSignalingEvent 1000 written.image =
        .ok ⟨1005, [10, 0, 0, 1], [10, 0, 0, 2], 2152, 8, 1, false, 12, 7, 3000⟩) ∧
    ∃ written ∈ emitSignalingEventV6 ⟨0, fun _ => some 5⟩ 0
        (tunnelSeven (List.replicate 15 0 ++ [1]) (List.replicate 15 0 ++ [2])),
      decodeSignalingEventV6 1000 written.image =
        .ok ⟨1005, List.replicate 15 0 ++ [1], List.replicate 15 0 ++ [2], 2152, 8, 1, false, 12, 7,
          3000⟩ := by
  refine ⟨⟨_, List.mem_singleton_self _, ?_⟩, ⟨_, List.mem_singleton_self _, ?_⟩⟩
  · exact (wire_round_trip.1.fields ⟨0, fun _ => some 5⟩ 0 [10, 0, 0, 1, 10, 0, 0, 2] 0 4
      (tunnelSeven [10, 0, 0, 1] [10, 0, 0, 2]) _ 1000 (by decide) (by decide) rfl rfl
      (List.mem_singleton_self _) (by decide)).2
  · exact (wire_round_trip.2.fields ⟨0, fun _ => some 5⟩ 0
      (List.replicate 15 0 ++ [1] ++ (List.replicate 15 0 ++ [2])) 0 16
      (tunnelSeven (List.replicate 15 0 ++ [1]) (List.replicate 15 0 ++ [2])) _ 1000 (by decide)
      (by decide) rfl rfl (List.mem_singleton_self _) (by decide)).2

end Sentinel5G.Bpf
