import Sentinel5G.Base.Error
import Sentinel5G.Base.IP
import Sentinel5G.Bpf.Gtpu
import Mathlib.Data.Rat.Defs

namespace Sentinel5G.Capture

open Base Bpf

def gtpuPort : Nat := 2152

def gtpuVersionPtMask : UInt8 := 0xF0

def gtpuVersion1PtGtp : UInt8 := 0x30

def gtpuExtFlagsMask : UInt8 := 0x07

def gtpuMsgTpdu : UInt8 := 0xFF

def gtpuMsgPathManagement : List UInt8 := [1, 2, 26, 31, 254]

def gtpuMaxExtHeaders : Nat := 4

def gtpuMaxHdrBytes : Nat := 64

def pcapMagicLe : Nat := 0xA1B2C3D4

def pcapMagicLeNano : Nat := 0xA1B23C4D

def linktypeEthernet : Nat := 1

def linktypeRaw : Nat := 101

def linktypeLinuxSll : Nat := 113

/-- One UDP packet of a capture; the timestamp is the exact number of seconds. -/
structure Packet where
  timestamp : ℚ
  sourceIp : String
  destPort : Nat
  payloadSize : Nat
  teid : Nat
  malformed : Bool
  deriving DecidableEq

def walkChain (payload : Bytes) : Nat → UInt8 → Nat → Bool
  | 0, nextType, _ => decide (nextType ≠ 0)
  | left + 1, nextType, off =>
      if nextType = 0 then false
      else if off > gtpuMaxHdrBytes - 4 ∨ off ≥ payload.length then true
      else
        let extLen := (byteAt payload off).toNat * 4
        if extLen = 0 ∨ off + extLen > gtpuMaxHdrBytes then true
        else if off + extLen > payload.length then true
        else walkChain payload left (byteAt payload (off + extLen - 1)) (off + extLen)

def parseGtpu (payload : Bytes) : Nat × Bool :=
  if payload.length < 8 then (0, true)
  else
    let flags := byteAt payload 0
    let msgType := byteAt payload 1
    if flags &&& gtpuVersionPtMask ≠ gtpuVersion1PtGtp then (0, true)
    else if msgType ≠ gtpuMsgTpdu then (0, decide (msgType ∉ gtpuMsgPathManagement))
    else
      let teid := beNat (slice payload 4 4)
      if flags &&& gtpuExtFlagsMask = 0 then (teid, false)
      else if payload.length < 12 then (teid, true)
      else (teid, walkChain payload gtpuMaxExtHeaders (byteAt payload 11) 12)

def unpackBe16 (frame : Bytes) (off : Nat) : Nat := beNat (slice frame off 2)

def ipOffset (linkType : Nat) (frame : Bytes) : Option Nat :=
  if linkType = linktypeEthernet then
    if frame.length < 14 then none
    else if unpackBe16 frame 12 = 0x8100 then
      if frame.length < 18 then none
      else if unpackBe16 frame 16 = 0x0800 then some 18 else none
    else if unpackBe16 frame 12 = 0x0800 then some 14 else none
  else if linkType = linktypeRaw then some 0
  else if linkType = linktypeLinuxSll then
    if frame.length < 16 then none
    else if unpackBe16 frame 14 = 0x0800 then some 16 else none
  else none

def readUdp (timestamp : ℚ) (origlen : Nat) (frame : Bytes) (sourceIp : String) (udpOff : Nat) :
    Packet :=
  if frame.length < udpOff + 8 then ⟨timestamp, sourceIp, 0, 0, 0, true⟩
  else
    let destPort := unpackBe16 frame (udpOff + 2)
    let payload := frame.drop (udpOff + 8)
    let (teid, malformed) := if destPort = gtpuPort then parseGtpu payload else (0, false)
    ⟨timestamp, sourceIp, destPort, max (origlen - (udpOff + 8)) payload.length, teid, malformed⟩

/-- The body of the record loop: what one captured frame adds to the packets. -/
def readFrame (linkType : Nat) (timestamp : ℚ) (origlen : Nat) (frame : Bytes) : Option Packet :=
  match ipOffset linkType frame with
  | none => none
  | some ipOff =>
      if frame.length < ipOff + 20 then none
      else if byteAt frame ipOff >>> 4 ≠ 4 then none
      else
        let ihl := (byteAt frame ipOff &&& 0x0F).toNat * 4
        if ihl < 20 ∨ byteAt frame (ipOff + 9) ≠ 17 then none
        else if unpackBe16 frame (ipOff + 6) &&& 0x1FFF ≠ 0 then none
        else
          let sourceIp := String.ofList (formatIPv4 (slice frame (ipOff + 12) 4))
          some (readUdp timestamp origlen frame sourceIp (ipOff + ihl))

inductive ByteOrder
  | little
  | big
  deriving DecidableEq, Repr

def ByteOrder.nat : ByteOrder → Bytes → Nat
  | .little => leNat
  | .big => beNat

def readRecords (order : ByteOrder) (tsDivisor linkType : Nat) (raw : Bytes) : List Packet :=
  if raw.length < 16 then []
  else
    let tsSec := order.nat (slice raw 0 4)
    let tsFrac := order.nat (slice raw 4 4)
    let caplen := order.nat (slice raw 8 4)
    let origlen := order.nat (slice raw 12 4)
    let frame := slice raw 16 caplen
    if frame.length < caplen then []
    else
      (readFrame linkType (tsSec + tsFrac / tsDivisor) origlen frame).toList ++
        readRecords order tsDivisor linkType (raw.drop (16 + caplen))
termination_by raw.length
decreasing_by
  rw [List.length_drop]
  omega

def readMagic (raw : Bytes) : ByteOrder × Nat :=
  if leNat (slice raw 0 4) = pcapMagicLe ∨ leNat (slice raw 0 4) = pcapMagicLeNano then
    (.little, leNat (slice raw 0 4))
  else (.big, beNat (slice raw 0 4))

def readUdpPackets (path : String) (raw : Bytes) : Except String (List Packet) :=
  if raw.length < 24 then .error (path ++ ": too short to be a pcap file")
  else
    let (order, magic) := readMagic raw
    if magic ≠ pcapMagicLe ∧ magic ≠ pcapMagicLeNano then
      .error (path ++ ": not a classic pcap file (magic " ++ hexLiteral magic ++ ")")
    else
      let tsDivisor := if magic = pcapMagicLeNano then 1000000000 else 1000000
      .ok (readRecords order tsDivisor (order.nat (slice raw 20 4)) (raw.drop 24))

end Sentinel5G.Capture
