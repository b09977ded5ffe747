import Sentinel5G.Bpf.Gtpu
import Sentinel5G.Bpf.Maps
import Sentinel5G.Ebpf.Loader

namespace Sentinel5G.Bpf

open Base Ebpf

def ethPIp : UInt16 := 0x0800

def ethPIpv6 : UInt16 := 0x86DD

def ethP8021q : UInt16 := 0x8100

def vlanVidMask : UInt16 := 0x0FFF

def ipprotoUdp : UInt8 := 17

def gtpuPort : UInt16 := 2152

def sipPort : UInt16 := 5060

def signalProtoUnknown : UInt8 := 0

def signalProtoGtpu : UInt8 := 1

def signalProtoSip : UInt8 := 2

def signalProtoPortScan : UInt8 := 3

inductive XdpAction
  | drop
  | pass
  deriving DecidableEq, Repr

inductive Family
  | ipv4
  | ipv6
  deriving DecidableEq, Repr

structure SignalingEventRecord where
  timestampNs : UInt64
  saddr : Bytes
  daddr : Bytes
  destPort : UInt16
  payloadSize : UInt16
  protocol : UInt8
  malformed : UInt8
  vlanId : UInt16
  teid : UInt32
  tunnelRate : UInt32
  deriving DecidableEq, Repr

def SignalingEventRecord.image (record : SignalingEventRecord) : Bytes :=
  leBytes 8 record.timestampNs.toNat ++ record.saddr ++ record.daddr ++
    leBytes 2 record.destPort.toNat ++ leBytes 2 record.payloadSize.toNat ++
    [record.protocol, record.malformed] ++ leBytes 2 record.vlanId.toNat ++
    leBytes 4 record.teid.toNat ++ leBytes 4 record.tunnelRate.toNat

structure RingRecord where
  family : Family
  sample : Bytes
  deriving DecidableEq, Repr

/-- What the helpers answer during one run: the time the trackers use and, for
each emission, the time in the record, or that the ring buffer has no room. -/
structure Env where
  now : UInt64
  reserve : Nat → Option UInt64

def loadBe16 (frame : Bytes) (off : Nat) : UInt16 := UInt16.ofNat (beNat (slice frame off 2))

def blocked (loader : Loader) (map : EnforcementMap) (key : Bytes) : Bool :=
  match (loader.maps map).lookup key with
  | some value => decide (value ≠ 0)
  | none => false

def isSignalingPort (destPort : UInt16) : Bool :=
  decide (destPort = gtpuPort) || decide (destPort = sipPort)

def reserveAndSubmit (env : Env) (call : Nat) (record : SignalingEventRecord) :
    List SignalingEventRecord :=
  match env.reserve call with
  | none => []
  | some timestampNs => [{ record with timestampNs := timestampNs }]

/-- Into the `signaling_events` ring buffer. -/
def emitSignalingEvent (env : Env) (call : Nat) (record : SignalingEventRecord) :
    List SignalingEventRecord :=
  reserveAndSubmit env call record

/-- Into the `signaling_events_v6` ring buffer. -/
def emitSignalingEventV6 (env : Env) (call : Nat) (record : SignalingEventRecord) :
    List SignalingEventRecord :=
  reserveAndSubmit env call record

/-- What the two branches of the program differ in once the IP header is read. -/
structure Path where
  family : Family
  blocklist : EnforcementMap
  tunnelBlocklist : EnforcementMap
  scanKey : Bytes → UInt16 → Bytes
  tunnelKey : Bytes → UInt32 → Bytes
  trackSignalRate : RateMaps → Bytes → UInt64 → RateMaps
  trackScanRate : RateMaps → Bytes → UInt16 → UInt64 → RateMaps × UInt32
  trackTunnelRate : RateMaps → Bytes → UInt32 → UInt64 → RateMaps × UInt32
  trackPortScan : RateMaps → Bytes → UInt16 → UInt64 → RateMaps × Bool
  emitSignalingEvent : Env → Nat → SignalingEventRecord → List SignalingEventRecord

def ipv4Path : Path where
  family := .ipv4
  blocklist := .blocklist
  tunnelBlocklist := .tunnelBlocklist
  scanKey := scanKey
  tunnelKey := tunnelKey
  trackSignalRate := RateMaps.trackSignalRate
  trackScanRate := RateMaps.trackScanRate
  trackTunnelRate := RateMaps.trackTunnelRate
  trackPortScan := RateMaps.trackPortScan
  emitSignalingEvent := emitSignalingEvent

def ipv6Path : Path where
  family := .ipv6
  blocklist := .blocklistV6
  tunnelBlocklist := .tunnelBlocklistV6
  scanKey := scanKeyV6
  tunnelKey := tunnelKeyV6
  trackSignalRate := RateMaps.trackSignalRateV6
  trackScanRate := RateMaps.trackScanRateV6
  trackTunnelRate := RateMaps.trackTunnelRateV6
  trackPortScan := RateMaps.trackPortScanV6
  emitSignalingEvent := emitSignalingEventV6

def Family.path : Family → Path
  | .ipv4 => ipv4Path
  | .ipv6 => ipv6Path

section Path

variable (family : Family)

@[simp] theorem path_trackSignalRate : family.path.trackSignalRate = RateMaps.countSource := by
  cases family <;> rfl

@[simp] theorem path_trackScanRate (maps : RateMaps) (saddr : Bytes) (destPort : UInt16)
    (now : UInt64) :
    family.path.trackScanRate maps saddr destPort now =
      maps.countPort (family.path.scanKey saddr destPort) now := by
  cases family <;> rfl

@[simp] theorem path_trackTunnelRate (maps : RateMaps) (saddr : Bytes) (teid : UInt32)
    (now : UInt64) :
    family.path.trackTunnelRate maps saddr teid now =
      maps.countTunnel (family.path.tunnelKey saddr teid) now := by
  cases family <;> rfl

@[simp] theorem path_trackPortScan : family.path.trackPortScan = RateMaps.scanPorts := by
  cases family <;> rfl

@[simp] theorem path_emitSignalingEvent : family.path.emitSignalingEvent = reserveAndSubmit := by
  cases family <;> rfl

end Path

structure Outcome where
  action : XdpAction
  maps : RateMaps
  records : List SignalingEventRecord

/-- A datagram to the GTP-U or the SIP port. The source is counted before its
tunnel is known to be blocked. -/
def Path.inspectSignaling (path : Path) (env : Env) (loader : Loader) (payload : Bytes)
    (event : SignalingEventRecord) (maps : RateMaps) : Outcome :=
  let counted := path.trackSignalRate maps event.saddr env.now
  if event.destPort = gtpuPort then
    let (result, teid) := parseGtpu payload
    let gtpu := { event with
      protocol := signalProtoGtpu
      malformed := if result = .malformed then 1 else 0
      teid := teid }
    if teid = 0 then ⟨.pass, counted, path.emitSignalingEvent env 0 gtpu⟩
    else
      let key := path.tunnelKey event.saddr teid
      if blocked loader path.tunnelBlocklist key then ⟨.drop, counted, []⟩
      else
        let tracked := path.trackTunnelRate counted event.saddr teid env.now
        ⟨.pass, tracked.1, path.emitSignalingEvent env 0 { gtpu with tunnelRate := tracked.2 }⟩
  else ⟨.pass, counted, path.emitSignalingEvent env 0 { event with protocol := signalProtoSip }⟩

def Path.inspectOffPort (path : Path) (env : Env) (event : SignalingEventRecord)
    (maps : RateMaps) : Outcome :=
  let prior := path.trackScanRate maps event.saddr event.destPort env.now
  let burst := if prior.2 + 1 = scanEmitThreshold then path.emitSignalingEvent env 0 event else []
  let crossed := path.trackPortScan prior.1 event.saddr event.destPort env.now
  let scan := if crossed.2 then
    path.emitSignalingEvent env 1 { event with
      payloadSize := UInt16.ofNat multiportScanThreshold
      protocol := signalProtoPortScan }
    else []
  ⟨.pass, crossed.1, burst ++ scan⟩

def Path.inspectUdp (path : Path) (env : Env) (loader : Loader) (frame : Bytes) (udp : Nat)
    (saddr daddr : Bytes) (vlanId : UInt16) (maps : RateMaps) : Outcome :=
  let event : SignalingEventRecord :=
    { timestampNs := 0
      saddr := saddr
      daddr := daddr
      destPort := 0
      payloadSize := 0
      protocol := signalProtoUnknown
      malformed := 0
      vlanId := vlanId
      teid := 0
      tunnelRate := 0 }
  if udp + 8 > frame.length then
    ⟨.pass, maps, path.emitSignalingEvent env 0 { event with malformed := 1 }⟩
  else
    let seen := { event with
      destPort := loadBe16 frame (udp + 2)
      payloadSize := UInt16.ofNat (frame.length - (udp + 8)) }
    if isSignalingPort seen.destPort then
      path.inspectSignaling env loader (frame.drop (udp + 8)) seen maps
    else path.inspectOffPort env seen maps

def filterIPv6 (env : Env) (loader : Loader) (frame : Bytes) (l3 : Nat) (vlanId : UInt16)
    (maps : RateMaps) : Outcome :=
  if l3 + 40 > frame.length then ⟨.pass, maps, []⟩
  else
    let saddr := slice frame (l3 + 8) 16
    if blocked loader ipv6Path.blocklist saddr then ⟨.drop, maps, []⟩
    else if byteAt frame (l3 + 6) ≠ ipprotoUdp then ⟨.pass, maps, []⟩
    else ipv6Path.inspectUdp env loader frame (l3 + 40) saddr (slice frame (l3 + 24) 16) vlanId maps

/-- The IPv4 branch; a fragment that is not the first has no UDP header. -/
def filterIPv4 (env : Env) (loader : Loader) (frame : Bytes) (l3 : Nat) (vlanId : UInt16)
    (maps : RateMaps) : Outcome :=
  if l3 + 20 > frame.length then ⟨.pass, maps, []⟩
  else
    let ihl := (byteAt frame l3 &&& 0x0F).toNat
    if ihl < 5 then ⟨.pass, maps, []⟩
    else
      let saddr := slice frame (l3 + 12) 4
      if blocked loader ipv4Path.blocklist saddr then ⟨.drop, maps, []⟩
      else if byteAt frame (l3 + 9) ≠ ipprotoUdp then ⟨.pass, maps, []⟩
      else if loadBe16 frame (l3 + 6) &&& 0x1FFF ≠ 0 then ⟨.pass, maps, []⟩
      else
        ipv4Path.inspectUdp env loader frame (l3 + ihl * 4) saddr (slice frame (l3 + 16) 4) vlanId
          maps

/-- EtherType, offset of the network header and VLAN ID, one 802.1Q tag
unwrapped; nothing when the frame is too short. -/
def etherHeader (frame : Bytes) : Option (UInt16 × Nat × UInt16) :=
  if 14 > frame.length then none
  else if loadBe16 frame 12 = ethP8021q then
    if 18 > frame.length then none
    else some (loadBe16 frame 16, 18, loadBe16 frame 14 &&& vlanVidMask)
  else some (loadBe16 frame 12, 14, 0)

structure Rates where
  ipv4 : RateMaps
  ipv6 : RateMaps

def Rates.empty : Rates := ⟨.empty, .empty⟩

structure Verdict where
  action : XdpAction
  rates : Rates
  records : List RingRecord

def xdpPacketFilter (env : Env) (loader : Loader) (frame : Bytes) (rates : Rates) : Verdict :=
  match etherHeader frame with
  | none => ⟨.pass, rates, []⟩
  | some (proto, l3, vlanId) =>
      if proto = ethPIpv6 then
        let outcome := filterIPv6 env loader frame l3 vlanId rates.ipv6
        ⟨outcome.action, { rates with ipv6 := outcome.maps },
          outcome.records.map (fun record => ⟨.ipv6, record.image⟩)⟩
      else if proto ≠ ethPIp then ⟨.pass, rates, []⟩
      else
        let outcome := filterIPv4 env loader frame l3 vlanId rates.ipv4
        ⟨outcome.action, { rates with ipv4 := outcome.maps },
          outcome.records.map (fun record => ⟨.ipv4, record.image⟩)⟩

end Sentinel5G.Bpf
