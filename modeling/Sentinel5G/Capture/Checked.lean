import Sentinel5G.Base.CheckedRead
import Sentinel5G.Capture.Pcap

/-! The capture reader with every subscript and `unpack_from` as Python makes it: one
beyond the end of its bytes raises. None of them is. -/

namespace Sentinel5G.Capture.Checked

open Base Bpf

def walkChain (payload : Bytes) : Nat → UInt8 → Nat → Except Overrun Bool
  | 0, nextType, _ => .ok (decide (nextType ≠ 0))
  | left + 1, nextType, off =>
      if nextType = 0 then .ok false
      else if off > gtpuMaxHdrBytes - 4 ∨ off ≥ payload.length then .ok true
      else do
        let words ← byteIn payload off
        let extLen := words.toNat * 4
        if extLen = 0 ∨ off + extLen > gtpuMaxHdrBytes then return true
        else if off + extLen > payload.length then return true
        else
          let next ← byteIn payload (off + extLen - 1)
          walkChain payload left next (off + extLen)

def parseGtpu (payload : Bytes) : Except Overrun (Nat × Bool) :=
  if payload.length < 8 then .ok (0, true)
  else do
    let flags ← byteIn payload 0
    let msgType ← byteIn payload 1
    if flags &&& gtpuVersionPtMask ≠ gtpuVersion1PtGtp then return (0, true)
    else if msgType ≠ gtpuMsgTpdu then return (0, decide (msgType ∉ gtpuMsgPathManagement))
    else
      let teid ← fieldIn payload 4 4
      if flags &&& gtpuExtFlagsMask = 0 then return (beNat teid, false)
      else if payload.length < 12 then return (beNat teid, true)
      else
        let next ← byteIn payload 11
        let malformed ← walkChain payload gtpuMaxExtHeaders next 12
        return (beNat teid, malformed)

def ipOffset (linkType : Nat) (frame : Bytes) : Except Overrun (Option Nat) :=
  if linkType = linktypeEthernet then
    if frame.length < 14 then .ok none
    else do
      let ethertype ← fieldIn frame 12 2
      if beNat ethertype = 0x8100 then
        if frame.length < 18 then return none
        else
          let tagged ← fieldIn frame 16 2
          return if beNat tagged = 0x0800 then some 18 else none
      else return if beNat ethertype = 0x0800 then some 14 else none
  else if linkType = linktypeRaw then .ok (some 0)
  else if linkType = linktypeLinuxSll then
    if frame.length < 16 then .ok none
    else do
      let protocol ← fieldIn frame 14 2
      return if beNat protocol = 0x0800 then some 16 else none
  else .ok none

def readTunnel (destPort : Nat) (payload : Bytes) : Except Overrun (Nat × Bool) :=
  if destPort = gtpuPort then parseGtpu payload else .ok (0, false)

def readUdp (timestamp : ℚ) (origlen : Nat) (frame : Bytes) (sourceIp : String) (udpOff : Nat) :
    Except Overrun Packet :=
  if frame.length < udpOff + 8 then .ok ⟨timestamp, sourceIp, 0, 0, 0, true⟩
  else do
    let destPort ← fieldIn frame (udpOff + 2) 2
    let payload := frame.drop (udpOff + 8)
    let (teid, malformed) ← readTunnel (beNat destPort) payload
    return ⟨timestamp, sourceIp, beNat destPort, max (origlen - (udpOff + 8)) payload.length, teid,
      malformed⟩

def readFrame (linkType : Nat) (timestamp : ℚ) (origlen : Nat) (frame : Bytes) :
    Except Overrun (Option Packet) := do
  match ← ipOffset linkType frame with
  | none => return none
  | some ipOff =>
      if frame.length < ipOff + 20 then return none
      else
        let versionIhl ← byteIn frame ipOff
        if versionIhl >>> 4 ≠ 4 then return none
        else
          let ihl := (versionIhl &&& 0x0F).toNat * 4
          if ihl < 20 then return none
          else
            let protocol ← byteIn frame (ipOff + 9)
            if protocol ≠ 17 then return none
            else
              let fragment ← fieldIn frame (ipOff + 6) 2
              if beNat fragment &&& 0x1FFF ≠ 0 then return none
              else
                let sourceIp := String.ofList (formatIPv4 (slice frame (ipOff + 12) 4))
                let packet ← readUdp timestamp origlen frame sourceIp (ipOff + ihl)
                return some packet

def readRecords (order : ByteOrder) (tsDivisor linkType : Nat) (raw : Bytes) (offset : Nat) :
    Except Overrun (List Packet) :=
  if offset + 16 ≤ raw.length then do
    let header ← fieldIn raw offset 16
    let tsSec := order.nat (slice header 0 4)
    let tsFrac := order.nat (slice header 4 4)
    let caplen := order.nat (slice header 8 4)
    let origlen := order.nat (slice header 12 4)
    let frame := slice raw (offset + 16) caplen
    if frame.length < caplen then return []
    else
      let packet ← readFrame linkType (tsSec + tsFrac / tsDivisor) origlen frame
      let rest ← readRecords order tsDivisor linkType raw (offset + 16 + caplen)
      return packet.toList ++ rest
  else .ok []
termination_by raw.length - offset
decreasing_by omega

def readMagic (raw : Bytes) : Except Overrun (ByteOrder × Nat) := do
  let little ← fieldIn raw 0 4
  if leNat little = pcapMagicLe ∨ leNat little = pcapMagicLeNano then
    return (.little, leNat little)
  else
    let big ← fieldIn raw 0 4
    return (.big, beNat big)

def readUdpPackets (path : String) (raw : Bytes) : Except Overrun (Except String (List Packet)) :=
  if raw.length < 24 then .ok (.error (path ++ ": too short to be a pcap file"))
  else do
    let (order, magic) ← readMagic raw
    if magic ≠ pcapMagicLe ∧ magic ≠ pcapMagicLeNano then
      return .error (path ++ ": not a classic pcap file (magic " ++ hexLiteral magic ++ ")")
    else
      let tsDivisor := if magic = pcapMagicLeNano then 1000000000 else 1000000
      let linkType ← fieldIn raw 20 4
      let packets ← readRecords order tsDivisor (order.nat linkType) raw 24
      return .ok packets

theorem byteIn_of_lt {bytes : Bytes} {i : Nat} (inside : i < bytes.length) :
    byteIn bytes i = .ok (byteAt bytes i) :=
  if_pos inside

theorem walkChain_eq (payload : Bytes) (left : Nat) (nextType : UInt8) (off : Nat) :
    walkChain payload left nextType off = .ok (Capture.walkChain payload left nextType off) := by
  induction left generalizing nextType off with
  | zero => rfl
  | succ left ih =>
      rw [walkChain, Capture.walkChain]
      refine ite_eq_ok (fun _ => rfl) (fun _ => ?_)
      refine ite_eq_ok (fun _ => rfl) (fun inside => ?_)
      apply bind_eq_ok (byteIn_of_lt (by omega))
      refine ite_eq_ok (fun _ => rfl) (fun sized => ?_)
      refine ite_eq_ok (fun _ => rfl) (fun fits => ?_)
      exact bind_eq_ok (byteIn_of_lt (by omega)) (ih _ _)

theorem parseGtpu_eq (payload : Bytes) : parseGtpu payload = .ok (Capture.parseGtpu payload) := by
  rw [parseGtpu, Capture.parseGtpu]
  refine ite_eq_ok (fun _ => rfl) (fun long => ?_)
  apply bind_eq_ok (byteIn_of_lt (by omega))
  apply bind_eq_ok (byteIn_of_lt (by omega))
  refine ite_eq_ok (fun _ => rfl) (fun _ => ?_)
  refine ite_eq_ok (fun _ => rfl) (fun _ => ?_)
  apply bind_eq_ok (fieldIn_of_le (by omega))
  refine ite_eq_ok (fun _ => rfl) (fun _ => ?_)
  refine ite_eq_ok (fun _ => rfl) (fun optional => ?_)
  apply bind_eq_ok (byteIn_of_lt (by omega))
  exact bind_eq_ok (walkChain_eq _ _ _ _) rfl

theorem ipOffset_eq (linkType : Nat) (frame : Bytes) :
    ipOffset linkType frame = .ok (Capture.ipOffset linkType frame) := by
  rw [ipOffset, Capture.ipOffset]
  refine ite_eq_ok (fun _ => ?_) (fun _ => ?_)
  · refine ite_eq_ok (fun _ => rfl) (fun long => ?_)
    apply bind_eq_ok (fieldIn_of_le (by omega))
    refine ite_eq_ok (fun _ => ?_) (fun _ => rfl)
    refine ite_eq_ok (fun _ => rfl) (fun tagged => ?_)
    exact bind_eq_ok (fieldIn_of_le (by omega)) rfl
  · refine ite_eq_ok (fun _ => rfl) (fun _ => ?_)
    refine ite_eq_ok (fun _ => ?_) (fun _ => rfl)
    refine ite_eq_ok (fun _ => rfl) (fun long => ?_)
    exact bind_eq_ok (fieldIn_of_le (by omega)) rfl

theorem readUdp_eq (timestamp : ℚ) (origlen : Nat) (frame : Bytes) (sourceIp : String)
    (udpOff : Nat) :
    readUdp timestamp origlen frame sourceIp udpOff =
      .ok (Capture.readUdp timestamp origlen frame sourceIp udpOff) := by
  rw [readUdp, Capture.readUdp]
  refine ite_eq_ok (fun _ => rfl) (fun long => ?_)
  apply bind_eq_ok (fieldIn_of_le (by omega))
  have parsed : readTunnel (unpackBe16 frame (udpOff + 2)) (frame.drop (udpOff + 8)) = .ok _ :=
    ite_eq_ok (fun _ => parseGtpu_eq _) (fun _ => rfl)
  exact bind_eq_ok parsed rfl

theorem readFrame_eq (linkType : Nat) (timestamp : ℚ) (origlen : Nat) (frame : Bytes) :
    readFrame linkType timestamp origlen frame =
      .ok (Capture.readFrame linkType timestamp origlen frame) := by
  rw [readFrame, Capture.readFrame]
  apply bind_eq_ok (ipOffset_eq linkType frame)
  cases Capture.ipOffset linkType frame with
  | none => rfl
  | some ipOff =>
      refine ite_eq_ok (fun _ => rfl) (fun long => ?_)
      apply bind_eq_ok (byteIn_of_lt (by omega))
      refine ite_eq_ok (fun _ => rfl) (fun _ => ?_)
      -- The two conditions of one `if` are looked at one after the other.
      by_cases small : (byteAt frame ipOff &&& 0x0F).toNat * 4 < 20
      · rw [if_pos small]
        simp only [small, true_or, if_true]
        rfl
      rw [if_neg small]
      simp only [small, false_or]
      apply bind_eq_ok (byteIn_of_lt (by omega))
      refine ite_eq_ok (fun _ => rfl) (fun _ => ?_)
      apply bind_eq_ok (fieldIn_of_le (by omega))
      refine ite_eq_ok (fun _ => rfl) (fun _ => ?_)
      exact bind_eq_ok (readUdp_eq _ _ _ _ _) rfl

theorem readRecords_eq (order : ByteOrder) (tsDivisor linkType : Nat) (raw : Bytes) (offset : Nat) :
    readRecords order tsDivisor linkType raw offset =
      .ok (Capture.readRecords order tsDivisor linkType (raw.drop offset)) := by
  induction remaining : raw.length - offset using Nat.strong_induction_on generalizing offset with
  | h remaining ih =>
      rw [readRecords, Capture.readRecords, List.length_drop]
      by_cases more : offset + 16 ≤ raw.length
      · rw [if_pos more, if_neg (by omega)]
        apply bind_eq_ok (fieldIn_of_le more)
        have header : ∀ off, off + 4 ≤ 16 →
            slice (slice raw offset 16) off 4 = slice (raw.drop offset) off 4 :=
          fun off inside => slice_take (raw.drop offset) inside
        rw [header 0 (by omega), header 4 (by omega), header 8 (by omega), header 12 (by omega)]
        generalize order.nat (slice (raw.drop offset) 8 4) = caplen
        have frame : slice raw (offset + 16) caplen = slice (raw.drop offset) 16 caplen := by
          rw [slice, slice, List.drop_drop]
        dsimp only
        rw [frame]
        refine ite_eq_ok (fun _ => rfl) (fun _ => ?_)
        apply bind_eq_ok (readFrame_eq _ _ _ _)
        apply bind_eq_ok (ih _ (by omega) (offset + 16 + caplen) rfl)
        rw [List.drop_drop, ← Nat.add_assoc]
        rfl
      · rw [if_neg more, if_pos (by omega)]

theorem readMagic_eq {raw : Bytes} (long : 4 ≤ raw.length) :
    readMagic raw = .ok (Capture.readMagic raw) := by
  rw [readMagic, Capture.readMagic]
  apply bind_eq_ok (fieldIn_of_le (by omega))
  refine ite_eq_ok (fun _ => rfl) (fun _ => ?_)
  exact bind_eq_ok (fieldIn_of_le (by omega)) rfl

/-- Whatever the file holds, no read of it is out of range. -/
theorem readUdpPackets_eq (path : String) (raw : Bytes) :
    readUdpPackets path raw = .ok (Capture.readUdpPackets path raw) := by
  rw [readUdpPackets, Capture.readUdpPackets]
  refine ite_eq_ok (fun _ => rfl) (fun long => ?_)
  apply bind_eq_ok (readMagic_eq (by omega))
  refine ite_eq_ok (fun _ => rfl) (fun _ => ?_)
  apply bind_eq_ok (fieldIn_of_le (by omega))
  exact bind_eq_ok (readRecords_eq _ _ _ _ _) rfl

end Sentinel5G.Capture.Checked
