import Sentinel5G.Base.Bytes

namespace Sentinel5G.Bpf

open Base

def gtpuVersionPtMask : UInt8 := 0xF0

def gtpuVersion1PtGtp : UInt8 := 0x30

def gtpuExtFlagsMask : UInt8 := 0x07

def gtpuMsgTpdu : UInt8 := 0xFF

def gtpuMsgEchoRequest : UInt8 := 1

def gtpuMsgEchoResponse : UInt8 := 2

def gtpuMsgErrorIndication : UInt8 := 26

def gtpuMsgSupportedExtHdrNotification : UInt8 := 31

def gtpuMsgEndMarker : UInt8 := 254

def gtpuMaxExtHeaders : Nat := 4

def gtpuMaxHdrBytes : Nat := 64

inductive GtpuParse
  | tpdu
  | other
  | malformed
  deriving DecidableEq, Repr

def byteAt (bytes : Bytes) (off : Nat) : UInt8 := bytes.getD off 0

/-- The extension headers from `off` on, `left` of them at most; `next` is the
type announced for the first. -/
def walkExtensions (payload : Bytes) : Nat → UInt8 → Nat → GtpuParse
  | 0, next, _ => if next ≠ 0 then .malformed else .tpdu
  | left + 1, next, off =>
      if next = 0 then .tpdu
      else if off > gtpuMaxHdrBytes - 4 then .malformed
      else if off + 1 > payload.length then .malformed
      else
        let elen := (byteAt payload off).toNat * 4
        if elen = 0 then .malformed
        else if off + elen > gtpuMaxHdrBytes then .malformed
        else if off + elen > payload.length then .malformed
        else walkExtensions payload left (byteAt payload (off + elen - 1)) (off + elen)

/-- The result, and what `*teid_out` holds afterwards when it held `teidOut`. -/
def parseGtpuInto (payload : Bytes) (teidOut : UInt32) : GtpuParse × UInt32 :=
  if 8 > payload.length then (.malformed, teidOut)
  else if byteAt payload 0 &&& gtpuVersionPtMask ≠ gtpuVersion1PtGtp then (.malformed, teidOut)
  else
    let msgType := byteAt payload 1
    if msgType = gtpuMsgTpdu then
      -- The identity stays written when the rest of the header is malformed.
      let teid := UInt32.ofNat (beNat (slice payload 4 4))
      if byteAt payload 0 &&& gtpuExtFlagsMask = 0 then (.tpdu, teid)
      else if 12 > payload.length then (.malformed, teid)
      else (walkExtensions payload gtpuMaxExtHeaders (byteAt payload 11) 12, teid)
    else if msgType = gtpuMsgEchoRequest ∨ msgType = gtpuMsgEchoResponse ∨
        msgType = gtpuMsgErrorIndication ∨ msgType = gtpuMsgSupportedExtHdrNotification ∨
        msgType = gtpuMsgEndMarker then (.other, teidOut)
    else (.malformed, teidOut)

def parseGtpu (payload : Bytes) : GtpuParse × UInt32 := parseGtpuInto payload 0

end Sentinel5G.Bpf
