import Sentinel5G.Base.Error
import Sentinel5G.Base.IPText

namespace Sentinel5G.Ebpf

open Base

/-- `SignalProtocol`: any byte, four of them named. -/
abbrev SignalProtocol := UInt8

def signalProtoUnknown : SignalProtocol := 0

def signalProtoGTPU : SignalProtocol := 1

def signalProtoSIP : SignalProtocol := 2

def signalProtoPortScan : SignalProtocol := 3

structure SignalingEvent where
  /-- In nanoseconds, as `Loader.bootTime` is. -/
  observedAt : Int
  sourceIP : IP
  destIP : IP
  destPort : UInt16
  payloadSize : UInt16
  protocol : SignalProtocol
  malformed : Bool
  vlanID : UInt16
  teid : UInt32
  tunnelRate : UInt32
  deriving DecidableEq, Repr

def ipv4FromU32 (raw : UInt32) : IP := leBytes 4 raw.toNat

def durationOfU64 (reading : UInt64) : Int :=
  if reading.toNat < 2 ^ 63 then reading.toNat else (reading.toNat : Int) - 2 ^ 64

def leUint16 (sample : Bytes) (off : Nat) : UInt16 := UInt16.ofNat (leNat (slice sample off 2))

def leUint32 (sample : Bytes) (off : Nat) : UInt32 := UInt32.ofNat (leNat (slice sample off 4))

def leUint64 (sample : Bytes) (off : Nat) : UInt64 := UInt64.ofNat (leNat (slice sample off 8))

def rawSignalingEventSize : Nat := 32

def rawSignalingEventV6Size : Nat := 56

def decodeSignalingEvent (bootTime : Int) (sample : Bytes) : Except Err SignalingEvent :=
  if sample.length < rawSignalingEventSize then
    .error (errorf ("signaling_events record is " ++ toString sample.length ++ " bytes, want " ++
      toString rawSignalingEventSize))
  else
    .ok {
      observedAt := bootTime + durationOfU64 (leUint64 sample 0)
      sourceIP := ipv4FromU32 (leUint32 sample 8)
      destIP := ipv4FromU32 (leUint32 sample 12)
      destPort := leUint16 sample 16
      payloadSize := leUint16 sample 18
      protocol := sample.getD 20 0
      malformed := decide (sample.getD 21 0 ≠ 0)
      vlanID := leUint16 sample 22
      teid := leUint32 sample 24
      tunnelRate := leUint32 sample 28 }

def decodeSignalingEventV6 (bootTime : Int) (sample : Bytes) : Except Err SignalingEvent :=
  if sample.length < rawSignalingEventV6Size then
    .error (errorf ("signaling_events_v6 record is " ++ toString sample.length ++ " bytes, want " ++
      toString rawSignalingEventV6Size))
  else
    .ok {
      observedAt := bootTime + durationOfU64 (leUint64 sample 0)
      sourceIP := slice sample 8 16
      destIP := slice sample 24 16
      destPort := leUint16 sample 40
      payloadSize := leUint16 sample 42
      protocol := sample.getD 44 0
      malformed := decide (sample.getD 45 0 ≠ 0)
      vlanID := leUint16 sample 46
      teid := leUint32 sample 48
      tunnelRate := leUint32 sample 52 }

end Sentinel5G.Ebpf
