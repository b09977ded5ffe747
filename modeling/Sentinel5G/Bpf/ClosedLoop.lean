import Sentinel5G.Bpf.Wire
import Sentinel5G.Ebpf.Drop

namespace Sentinel5G.Bpf

open Base Ebpf

/-- What a run of a branch must drop on account of a record it emitted, whatever
the helpers answer and the counters hold. -/
structure Traced (path : Path) (branch : Env → Loader → RateMaps → Outcome)
    (record : SignalingEventRecord) : Prop where
  source : ∀ env loader maps, blocked loader path.blocklist record.saddr = true →
    (branch env loader maps).action = .drop
  tunnel : record.teid ≠ 0 → ∀ env loader maps,
    blocked loader path.tunnelBlocklist (path.tunnelKey record.saddr record.teid) = true →
    (branch env loader maps).action = .drop

section Udp

variable {family : Family} {env : Env} {loader : Loader} {frame payload : Bytes}
  {event record : SignalingEventRecord} {maps : RateMaps}

theorem mem_submit {call : Nat} (submitted : record ∈ reserveAndSubmit env call event) :
    record.saddr = event.saddr ∧ record.daddr = event.daddr ∧ record.teid = event.teid := by
  rw [reserveAndSubmit] at submitted
  split at submitted
  · cases submitted
  · rw [List.mem_singleton] at submitted
    subst submitted
    exact ⟨rfl, rfl, rfl⟩

theorem mem_emit {call : Nat} (emitted : record ∈ family.path.emitSignalingEvent env call event) :
    record.saddr = event.saddr ∧ record.daddr = event.daddr ∧ record.teid = event.teid := by
  rw [path_emitSignalingEvent] at emitted
  exact mem_submit emitted

/-- A signaling record has the addresses of the packet; its tunnel identity is
the one the tunnel blocklist is asked about. -/
theorem inspectSignaling_record
    (emitted : record ∈ (family.path.inspectSignaling env loader payload event maps).records) :
    record.saddr = event.saddr ∧ record.daddr = event.daddr ∧
    (record.teid = event.teid ∨
      event.destPort = gtpuPort ∧ record.teid = (parseGtpu payload).2) := by
  dsimp only [Path.inspectSignaling] at emitted
  split at emitted
  · rename_i gtpu
    split at emitted
    · obtain ⟨source, dest, teid⟩ := mem_emit emitted
      exact ⟨source, dest, .inr ⟨gtpu, teid⟩⟩
    · split at emitted
      · cases emitted
      · obtain ⟨source, dest, teid⟩ := mem_emit emitted
        exact ⟨source, dest, .inr ⟨gtpu, teid⟩⟩
  · obtain ⟨source, dest, teid⟩ := mem_emit emitted
    exact ⟨source, dest, .inl teid⟩

theorem inspectSignaling_drop (gtpu : event.destPort = gtpuPort)
    (identified : (parseGtpu payload).2 ≠ 0)
    (listed : blocked loader family.path.tunnelBlocklist
      (family.path.tunnelKey event.saddr (parseGtpu payload).2) = true) :
    (family.path.inspectSignaling env loader payload event maps).action = .drop := by
  dsimp only [Path.inspectSignaling]
  rw [if_pos gtpu, if_neg identified, if_pos listed]

theorem inspectOffPort_record
    (emitted : record ∈ (family.path.inspectOffPort env event maps).records) :
    record.saddr = event.saddr ∧ record.daddr = event.daddr ∧ record.teid = event.teid := by
  dsimp only [Path.inspectOffPort] at emitted
  rcases List.mem_append.mp emitted with burst | scan
  · split at burst
    · exact mem_emit burst
    · cases burst
  · split at scan
    · obtain ⟨source, dest, teid⟩ := mem_emit scan
      exact ⟨source, dest, teid⟩
    · cases scan

theorem inspectUdp_record (family : Family) {udp : Nat} {saddr daddr : Bytes} {vlanId : UInt16}
    (emitted : record ∈
      (family.path.inspectUdp env loader frame udp saddr daddr vlanId maps).records) :
    record.saddr = saddr ∧ record.daddr = daddr ∧
    (record.teid ≠ 0 → ∀ env loader maps,
      blocked loader family.path.tunnelBlocklist (family.path.tunnelKey saddr record.teid) = true →
      (family.path.inspectUdp env loader frame udp saddr daddr vlanId maps).action = .drop) := by
  dsimp only [Path.inspectUdp] at emitted ⊢
  split at emitted
  · obtain ⟨source, dest, teid⟩ := mem_emit emitted
    exact ⟨source, dest, fun identified => absurd teid identified⟩
  · rename_i complete
    split at emitted
    · rename_i signaling
      obtain ⟨source, dest, teid⟩ := inspectSignaling_record emitted
      refine ⟨source, dest, fun identified env loader maps listed => ?_⟩
      rcases teid with unset | ⟨gtpu, same⟩
      · exact absurd unset identified
      · rw [same] at identified listed
        rw [if_neg complete, if_pos signaling]
        exact inspectSignaling_drop gtpu identified listed
    · obtain ⟨source, dest, teid⟩ := inspectOffPort_record emitted
      exact ⟨source, dest, fun identified => absurd teid identified⟩

end Udp

section Branches

variable {env : Env} {loader : Loader} {frame : Bytes} {l3 : Nat} {vlanId : UInt16}
  {maps : RateMaps} {record : SignalingEventRecord}

theorem filterIPv4_traced
    (emitted : record ∈ (filterIPv4 env loader frame l3 vlanId maps).records) :
    record.Sized 4 ∧
    Traced ipv4Path (fun env loader maps => filterIPv4 env loader frame l3 vlanId maps) record := by
  dsimp only [filterIPv4] at emitted ⊢
  split at emitted
  · cases emitted
  · rename_i complete
    split at emitted
    · cases emitted
    · rename_i header
      split at emitted
      · cases emitted
      · split at emitted
        · cases emitted
        · rename_i udp
          split at emitted
          · cases emitted
          · rename_i first
            obtain ⟨source, dest, tunnel⟩ := inspectUdp_record .ipv4 emitted
            refine ⟨⟨?_, ?_⟩, fun env loader maps listed => ?_,
              fun identified env loader maps listed => ?_⟩
            · rw [source]
              exact slice_length _ _ _ (by omega)
            · rw [dest]
              exact slice_length _ _ _ (by omega)
            · rw [source] at listed
              rw [if_neg complete, if_neg header, if_pos listed]
            · rw [source] at listed
              rw [if_neg complete, if_neg header, if_neg udp, if_neg first]
              split
              · rfl
              · exact tunnel identified env loader maps listed

theorem filterIPv6_traced
    (emitted : record ∈ (filterIPv6 env loader frame l3 vlanId maps).records) :
    record.Sized 16 ∧ record.saddr = slice frame (l3 + 8) 16 ∧
    Traced ipv6Path (fun env loader maps => filterIPv6 env loader frame l3 vlanId maps) record := by
  dsimp only [filterIPv6] at emitted ⊢
  split at emitted
  · cases emitted
  · rename_i complete
    split at emitted
    · cases emitted
    · split at emitted
      · cases emitted
      · rename_i udp
        obtain ⟨source, dest, tunnel⟩ := inspectUdp_record .ipv6 emitted
        refine ⟨⟨?_, ?_⟩, source, fun env loader maps listed => ?_,
          fun identified env loader maps listed => ?_⟩
        · rw [source]
          exact slice_length _ _ _ (by omega)
        · rw [dest]
          exact slice_length _ _ _ (by omega)
        · rw [source] at listed
          rw [if_neg complete, if_pos listed]
        · rw [source] at listed
          rw [if_neg complete, if_neg udp]
          split
          · rfl
          · exact tunnel identified env loader maps listed

end Branches

section Blocked

variable {before after : Loader} {ip : IP} {address : Address}

theorem blocked_of_insert {slot : Slot} {context : String}
    (accepted : before.insert slot context = .ok after) :
    blocked after slot.map slot.key = true := by
  rw [blocked, Loader.lookup_insert accepted]
  rfl

theorem blocked_of_block (long : ip.to16 = some address.val)
    (accepted : before.block ip = .ok after) :
    blocked after (Drop.source address).slot.map (Drop.source address).slot.key = true := by
  rw [Loader.block, blocklistMapAndKey_eq ip address long] at accepted
  exact blocked_of_insert accepted

theorem blocked_of_blockTunnel {teid : UInt32} (long : ip.to16 = some address.val)
    (identified : teid ≠ 0) (accepted : before.blockTunnel ip teid = .ok after) :
    blocked after (Drop.tunnel address teid).slot.map (Drop.tunnel address teid).slot.key =
      true := by
  rw [Loader.blockTunnel, tunnelBlocklistMapAndKey_eq ip address teid long identified] at accepted
  exact blocked_of_insert accepted

end Blocked

structure Routed (path : Path) (address : Address) (saddr : Bytes) : Prop where
  source : (Drop.source address).slot = ⟨path.blocklist, saddr⟩
  tunnel : ∀ teid, (Drop.tunnel address teid).slot =
    ⟨path.tunnelBlocklist, path.tunnelKey saddr teid⟩

theorem routed_ipv4 (v4 : IP) (length : v4.length = 4) (address : Address)
    (mapped : address.val = v4InV6Prefix ++ v4) : Routed ipv4Path address v4 := by
  have short : IP.to4 address.val = some v4 := by rw [mapped, to4_mapped v4 length]
  refine ⟨by simp only [Drop.slot, short, ipv4Path], fun teid => ?_⟩
  simp only [Drop.slot, short, ipv4Path, tunnelRateKey, tunnelKey, leBytes_of_length 4 v4 length]

theorem routed_ipv6 (address : Address) (native : IP.to4 address.val = none) :
    Routed ipv6Path address address.val := by
  refine ⟨by simp only [Drop.slot, native, ipv6Path], fun teid => ?_⟩
  simp only [Drop.slot, native, ipv6Path, tunnelRateKeyV6, tunnelKeyV6]

def RingRecord.decode (record : RingRecord) (bootTime : Int) : Except Err SignalingEvent :=
  match record.family with
  | .ipv4 => decodeSignalingEvent bootTime record.sample
  | .ipv6 => decodeSignalingEventV6 bootTime record.sample

/-- An IPv6 frame whose source is an IPv4 address in IPv6 form, `::ffff:a.b.c.d`,
which userspace takes for the IPv4 address. -/
def MappedSource (frame : Bytes) : Prop :=
  ∃ l3 vlanId, etherHeader frame = some (ethPIpv6, l3, vlanId) ∧
    (IP.to4 (slice frame (l3 + 8) 16)).isSome

/-- Blocking what a record names, as userspace reads it, drops the frame. -/
structure Effective (frame : Bytes) (event : SignalingEvent) (ip : IP) : Prop where
  source : ∀ before after env rates, Loader.block before ip = .ok after →
    (xdpPacketFilter env after frame rates).action = .drop
  tunnel : event.teid ≠ 0 → ∀ before after env rates,
    Loader.blockTunnel before ip event.teid = .ok after →
    (xdpPacketFilter env after frame rates).action = .drop

theorem effective_of_traced {frame : Bytes} {record : SignalingEventRecord} {path : Path}
    {branch : Env → Loader → RateMaps → Outcome} {select : Rates → RateMaps} {address : Address}
    (traced : Traced path branch record) (routed : Routed path address record.saddr)
    (runs : ∀ env loader rates,
      (xdpPacketFilter env loader frame rates).action = (branch env loader (select rates)).action)
    (bootTime : Int) : Effective frame (record.event bootTime) address.val := by
  have long := to16_eq_self address.val address.2
  refine ⟨fun before after env rates accepted => ?_,
    fun identified before after env rates accepted => ?_⟩
  · have listed := blocked_of_block long accepted
    rw [routed.source] at listed
    rw [runs]
    exact traced.source env after (select rates) listed
  · have listed := blocked_of_blockTunnel long identified accepted
    rw [routed.tunnel] at listed
    rw [runs]
    exact traced.tunnel identified env after (select rates) listed

theorem xdpPacketFilter_ipv4 {frame : Bytes} {l3 : Nat} {vlanId proto : UInt16}
    (header : etherHeader frame = some (proto, l3, vlanId)) (other : proto ≠ ethPIpv6)
    (ipv4 : ¬ proto ≠ ethPIp) (env : Env) (loader : Loader) (rates : Rates) :
    (xdpPacketFilter env loader frame rates).action =
      (filterIPv4 env loader frame l3 vlanId rates.ipv4).action := by
  simp only [xdpPacketFilter, header, other, ipv4, if_false]

theorem xdpPacketFilter_ipv6 {frame : Bytes} {l3 : Nat} {vlanId : UInt16}
    (header : etherHeader frame = some (ethPIpv6, l3, vlanId)) (env : Env) (loader : Loader)
    (rates : Rates) :
    (xdpPacketFilter env loader frame rates).action =
      (filterIPv6 env loader frame l3 vlanId rates.ipv6).action := by
  simp only [xdpPacketFilter, header, if_true]

/-- For every frame but an IPv6 one with an IPv4-mapped source: a record it
gives rise to decodes, and blocking the source or the tunnel it names, rendered
and parsed as text in between, drops that frame from then on. -/
theorem blocking_observed_drops_frame (env : Env) (loader : Loader) (frame : Bytes) (rates : Rates)
    (bootTime : Int) (record : RingRecord)
    (emitted : record ∈ (xdpPacketFilter env loader frame rates).records)
    (native : ¬ MappedSource frame) :
    ∃ event ip, record.decode bootTime = .ok event ∧ parseIP event.sourceIP.string = some ip ∧
      Effective frame event ip := by
  cases header : etherHeader frame with
  | none =>
      simp only [xdpPacketFilter, header] at emitted
      cases emitted
  | some fields =>
      obtain ⟨proto, l3, vlanId⟩ := fields
      simp only [xdpPacketFilter, header] at emitted
      split at emitted
      · rename_i ipv6
        subst ipv6
        obtain ⟨written, member, rfl⟩ := List.mem_map.mp emitted
        obtain ⟨sized, source, traced⟩ := filterIPv6_traced member
        have unmapped : IP.to4 written.saddr = none := by
          rw [source]
          by_contra mapped
          exact native ⟨l3, vlanId, header, Option.isSome_iff_ne_none.mpr mapped⟩
        refine ⟨written.event bootTime, written.saddr, decodeV6_image sized bootTime, ?_, ?_⟩
        · exact parseIP_string _ _ (to16_eq_self _ sized.saddr)
        · exact effective_of_traced traced (routed_ipv6 ⟨written.saddr, sized.saddr⟩ unmapped)
            (xdpPacketFilter_ipv6 header) bootTime
      · rename_i other
        split at emitted
        · cases emitted
        · rename_i ipv4
          obtain ⟨written, member, rfl⟩ := List.mem_map.mp emitted
          obtain ⟨sized, traced⟩ := filterIPv4_traced member
          have long : IP.to16 written.saddr = some (v4InV6Prefix ++ written.saddr) :=
            to16_of_to4 _ _ (to4_of_length_four _ sized.saddr)
          refine ⟨written.event bootTime, v4InV6Prefix ++ written.saddr,
            decode_image sized bootTime, parseIP_string _ _ long, ?_⟩
          exact effective_of_traced traced
            (routed_ipv4 _ sized.saddr ⟨_, to16_length _ _ long⟩ rfl)
            (xdpPacketFilter_ipv4 header other ipv4) bootTime

def plainEnv : Env := ⟨0, fun _ => some 0⟩

def ipv4Frame : Bytes :=
  List.replicate 12 0 ++ [0x08, 0x00] ++
    [0x45, 0, 0, 36, 0, 0, 0, 0, 64, 17, 0, 0, 10, 0, 0, 1, 10, 0, 0, 2] ++
    [0x08, 0x68, 0x08, 0x68, 0, 16, 0, 0] ++ [0x30, 0xFF, 0, 0, 0, 0, 0, 7]

def mappedFrame : Bytes :=
  List.replicate 12 0 ++ [0x86, 0xDD] ++ [0x60, 0, 0, 0, 0, 16, 17, 64] ++
    [0, 0, 0, 0, 0, 0, 0, 0, 0, 0, 255, 255, 10, 0, 0, 1] ++
    [0xFD, 0, 0, 0, 0, 0, 0, 0, 0, 0, 0, 0, 0, 0, 0, 2] ++
    [0x08, 0x68, 0x08, 0x68, 0, 16, 0, 0] ++ [0x30, 0xFF, 0, 0, 0, 0, 0, 7]

def bareLoader : Loader := .empty (fun _ => 16)

theorem blocking_observed_drops_ipv4Frame :
    ∃ record ∈ (xdpPacketFilter plainEnv bareLoader ipv4Frame .empty).records,
      ∃ event ip, record.decode 0 = .ok event ∧ parseIP event.sourceIP.string = some ip ∧
        Effective ipv4Frame event ip := by
  have written : (xdpPacketFilter plainEnv bareLoader ipv4Frame .empty).records =
      [⟨.ipv4, [0, 0, 0, 0, 0, 0, 0, 0, 10, 0, 0, 1, 10, 0, 0, 2, 104, 8, 8, 0, 1, 0, 0, 0,
        7, 0, 0, 0, 1, 0, 0, 0]⟩] := by decide +kernel
  have native : ¬ MappedSource ipv4Frame := by
    rintro ⟨l3, vlanId, header, -⟩
    have proto : (etherHeader ipv4Frame).map Prod.fst = some ethPIp := by decide +kernel
    rw [header] at proto
    have same : ethPIpv6 = ethPIp := Option.some.inj proto
    exact absurd same (by decide)
  refine ⟨_, by rw [written]; exact List.mem_singleton_self _, ?_⟩
  exact blocking_observed_drops_frame plainEnv bareLoader ipv4Frame .empty 0 _
    (by rw [written]; exact List.mem_singleton_self _) native

def mappedRecord : SignalingEventRecord where
  timestampNs := 0
  saddr := slice mappedFrame 22 16
  daddr := slice mappedFrame 38 16
  destPort := 2152
  payloadSize := 8
  protocol := signalProtoGtpu
  malformed := 0
  vlanId := 0
  teid := 7
  tunnelRate := 1

/-- Neither blocking `::ffff:10.0.0.1` nor blocking its tunnel stops its IPv6
frames: both go to the IPv4 maps. -/
theorem mapped_source_is_not_dropped :
    ∃ record ∈ (xdpPacketFilter plainEnv bareLoader mappedFrame .empty).records,
      ∃ event ip, record.decode 0 = .ok event ∧ parseIP event.sourceIP.string = some ip ∧
        event.teid = 7 ∧
        (∃ after, bareLoader.block ip = .ok after ∧
          (xdpPacketFilter plainEnv after mappedFrame .empty).action = .pass) ∧
        ∃ after, bareLoader.blockTunnel ip event.teid = .ok after ∧
          (xdpPacketFilter plainEnv after mappedFrame .empty).action = .pass := by
  have written : (xdpPacketFilter plainEnv bareLoader mappedFrame .empty).records =
      [⟨.ipv6, mappedRecord.image⟩] := by decide +kernel
  have decoded : RingRecord.decode ⟨.ipv6, mappedRecord.image⟩ 0 = .ok (mappedRecord.event 0) :=
    decodeV6_image ⟨rfl, rfl⟩ 0
  have source : ((bareLoader.block mappedRecord.saddr).toOption).any (fun after =>
      decide ((xdpPacketFilter plainEnv after mappedFrame .empty).action = .pass)) = true := by
    decide +kernel
  have tunnel : ((bareLoader.blockTunnel mappedRecord.saddr 7).toOption).any (fun after =>
      decide ((xdpPacketFilter plainEnv after mappedFrame .empty).action = .pass)) = true := by
    decide +kernel
  have passes : ∀ result : Except Err Loader, result.toOption.any (fun after =>
      decide ((xdpPacketFilter plainEnv after mappedFrame .empty).action = .pass)) = true →
      ∃ after, result = .ok after ∧
        (xdpPacketFilter plainEnv after mappedFrame .empty).action = .pass := by
    intro result passed
    cases result with
    | error err => cases passed
    | ok after => exact ⟨after, rfl, of_decide_eq_true passed⟩
  refine ⟨_, by rw [written]; exact List.mem_singleton_self _, mappedRecord.event 0,
    mappedRecord.saddr, decoded, ?_, rfl, passes _ source, passes _ tunnel⟩
  exact parseIP_string _ _ (to16_eq_self _ rfl)

end Sentinel5G.Bpf
