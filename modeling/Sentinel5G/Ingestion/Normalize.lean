import Sentinel5G.Api.Policy
import Sentinel5G.Controller.PodIPIndex
import Sentinel5G.Ebpf.Decode

namespace Sentinel5G.Ingestion

open Base Api Ebpf Controller

inductive Protocol
  | gtpu
  | sip
  | smpp
  | http2
  | portScan
  | unknown
  deriving DecidableEq, Repr

structure NormalizedEvent where
  eventID : String
  observedAt : Time
  ns : String
  podName : String
  nodeName : String
  sourceIP : String
  destIP : String
  destPort : UInt16
  protocol : Protocol
  payloadSize : UInt32
  ratePerSecond : ℚ
  malformed : Bool
  vlanID : UInt16
  teid : UInt32
  tunnelRatePerSecond : ℚ
  deriving DecidableEq

abbrev SignalRateLookup := IP → UInt16 → Option UInt32

def protocolFromSignal (protocol : SignalProtocol) : Protocol :=
  if protocol = signalProtoGTPU then .gtpu
  else if protocol = signalProtoSIP then .sip
  else if protocol = signalProtoPortScan then .portScan
  else .unknown

/-- `eventID` is the fresh UUID the event is given. An address that no Pod owns
leaves the namespace and the name empty. -/
def fromSignalingEvent (event : SignalingEvent) (podIndex : PodIPIndex)
    (rateLookup : SignalRateLookup) (nodeName eventID : String) : NormalizedEvent :=
  let ref := (podIndex.lookup event.sourceIP.string).getD ⟨"", ""⟩
  { eventID := eventID
    observedAt := event.observedAt
    ns := ref.ns
    podName := ref.name
    nodeName := nodeName
    sourceIP := event.sourceIP.string
    destIP := event.destIP.string
    destPort := event.destPort
    protocol := protocolFromSignal event.protocol
    payloadSize := event.payloadSize.toUInt32
    ratePerSecond :=
      match rateLookup event.sourceIP event.destPort with
      | some count => count.toNat
      | none => 0
    malformed := event.malformed
    vlanID := event.vlanID
    teid := event.teid
    tunnelRatePerSecond := event.tunnelRate.toNat }

end Sentinel5G.Ingestion
