import Sentinel5G.Base.Bytes
import Std.Data.ExtTreeMap.Lemmas

/-! The observation maps of the packet filter and the functions that count a
packet in them. Every map is keyed by the bytes of the C key. -/

namespace Sentinel5G.Bpf

open Base

def signalingRateWindowNs : UInt64 := 1000000000

def scanEmitThreshold : UInt32 := 10

def multiportScanThreshold : Nat := 15

def multiportScanWindowNs : UInt64 := 30000000000

structure SignalRateEntry where
  windowStartNs : UInt64
  count : UInt32
  deriving DecidableEq, Repr

structure PortScanEntry where
  windowStartNs : UInt64
  distinctCount : UInt16
  emitted : Bool
  ports : List UInt16
  slots : ports.length = multiportScanThreshold

abbrev RateMap := Std.ExtTreeMap Bytes SignalRateEntry compare

abbrev PortScanMap := Std.ExtTreeMap Bytes PortScanEntry compare

structure RateMaps where
  signalRate : RateMap
  scanRate : RateMap
  tunnelRate : RateMap
  portScan : PortScanMap

def RateMaps.empty : RateMaps := ⟨∅, ∅, ∅, ∅⟩

def scanKey (saddr : Bytes) (destPort : UInt16) : Bytes :=
  saddr ++ leBytes 2 destPort.toNat ++ [0, 0]

/-- `aligned(8)` rounds the 20 bytes of the struct up to 24. -/
def scanKeyV6 (saddr : Bytes) (destPort : UInt16) : Bytes :=
  saddr ++ leBytes 2 destPort.toNat ++ [0, 0, 0, 0, 0, 0]

def tunnelKey (saddr : Bytes) (teid : UInt32) : Bytes := saddr ++ leBytes 4 teid.toNat

def tunnelKeyV6 (saddr : Bytes) (teid : UInt32) : Bytes :=
  saddr ++ leBytes 4 teid.toNat ++ [0, 0, 0, 0]

def rolled (windowStartNs window now : UInt64) : Bool := decide (now - windowStartNs > window)

def countPacket (entry : Option SignalRateEntry) (now : UInt64) : SignalRateEntry :=
  match entry with
  | none => ⟨now, 1⟩
  | some entry =>
      if rolled entry.windowStartNs signalingRateWindowNs now then ⟨now, 1⟩
      else { entry with count := entry.count + 1 }

def priorCount (entry : Option SignalRateEntry) (now : UInt64) : UInt32 :=
  match entry with
  | none => 0
  | some entry =>
      if rolled entry.windowStartNs signalingRateWindowNs now then 0 else entry.count

def PortScanEntry.fresh (now : UInt64) (destPort : UInt16) : PortScanEntry where
  windowStartNs := now
  distinctCount := 1
  emitted := false
  ports := (List.replicate multiportScanThreshold 0).set 0 destPort
  slots := by rw [List.length_set, List.length_replicate]

/-- One more port in an entry whose window is running, and whether it is the
one that completes the scan. -/
def PortScanEntry.touch (entry : PortScanEntry) (destPort : UInt16) : PortScanEntry × Bool :=
  if entry.emitted then (entry, false)
  else if destPort ∈ entry.ports.take entry.distinctCount.toNat then (entry, false)
  else if entry.distinctCount.toNat ≥ multiportScanThreshold then (entry, false)
  else
    let grown := { entry with
      ports := entry.ports.set entry.distinctCount.toNat destPort
      slots := by rw [List.length_set, entry.slots]
      distinctCount := entry.distinctCount + 1 }
    if grown.distinctCount.toNat = multiportScanThreshold then
      ({ grown with emitted := true }, true)
    else (grown, false)

def scanPort (entry : Option PortScanEntry) (destPort : UInt16) (now : UInt64) :
    PortScanEntry × Bool :=
  match entry with
  | none => (.fresh now destPort, false)
  | some entry =>
      if rolled entry.windowStartNs multiportScanWindowNs now then (.fresh now destPort, false)
      else entry.touch destPort

namespace RateMaps

def countSource (maps : RateMaps) (saddr : Bytes) (now : UInt64) : RateMaps :=
  { maps with signalRate := maps.signalRate.insert saddr (countPacket maps.signalRate[saddr]? now) }

def countPort (maps : RateMaps) (key : Bytes) (now : UInt64) : RateMaps × UInt32 :=
  ({ maps with scanRate := maps.scanRate.insert key (countPacket maps.scanRate[key]? now) },
    priorCount maps.scanRate[key]? now)

def countTunnel (maps : RateMaps) (key : Bytes) (now : UInt64) : RateMaps × UInt32 :=
  let entry := countPacket maps.tunnelRate[key]? now
  ({ maps with tunnelRate := maps.tunnelRate.insert key entry }, entry.count)

def scanPorts (maps : RateMaps) (saddr : Bytes) (destPort : UInt16) (now : UInt64) :
    RateMaps × Bool :=
  let entry := scanPort maps.portScan[saddr]? destPort now
  ({ maps with portScan := maps.portScan.insert saddr entry.1 }, entry.2)

def trackSignalRate (maps : RateMaps) (saddr : Bytes) (now : UInt64) : RateMaps :=
  maps.countSource saddr now

def trackScanRate (maps : RateMaps) (saddr : Bytes) (destPort : UInt16) (now : UInt64) :
    RateMaps × UInt32 :=
  maps.countPort (scanKey saddr destPort) now

def trackTunnelRate (maps : RateMaps) (saddr : Bytes) (teid : UInt32) (now : UInt64) :
    RateMaps × UInt32 :=
  maps.countTunnel (tunnelKey saddr teid) now

def trackPortScan (maps : RateMaps) (saddr : Bytes) (destPort : UInt16) (now : UInt64) :
    RateMaps × Bool :=
  maps.scanPorts saddr destPort now

-- The IPv6 trackers have maps of their own, so `maps` is not the one of the IPv4 trackers.
def trackSignalRateV6 (maps : RateMaps) (saddr6 : Bytes) (now : UInt64) : RateMaps :=
  maps.countSource saddr6 now

def trackScanRateV6 (maps : RateMaps) (saddr6 : Bytes) (destPort : UInt16) (now : UInt64) :
    RateMaps × UInt32 :=
  maps.countPort (scanKeyV6 saddr6 destPort) now

def trackTunnelRateV6 (maps : RateMaps) (saddr6 : Bytes) (teid : UInt32) (now : UInt64) :
    RateMaps × UInt32 :=
  maps.countTunnel (tunnelKeyV6 saddr6 teid) now

def trackPortScanV6 (maps : RateMaps) (saddr6 : Bytes) (destPort : UInt16) (now : UInt64) :
    RateMaps × Bool :=
  maps.scanPorts saddr6 destPort now

end RateMaps

end Sentinel5G.Bpf
