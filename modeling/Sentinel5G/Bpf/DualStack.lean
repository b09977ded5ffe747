import Sentinel5G.Base.Rekey
import Sentinel5G.Bpf.TunnelRate

namespace Sentinel5G.Bpf

open Base Ebpf

structure AddressMap where
  map : Bytes → Bytes
  width : ∀ address, address.length = 4 → (map address).length = 16
  injective : ∀ first second, first.length = 4 → second.length = 4 → map first = map second →
    first = second

namespace AddressMap

variable (f : AddressMap)

def key (key : Bytes) : Bytes := f.map (key.take 4) ++ key.drop 4 ++ [0, 0, 0, 0]

def rates (maps : RateMaps) : RateMaps where
  signalRate := rekey f.map maps.signalRate
  scanRate := rekey f.key maps.scanRate
  tunnelRate := rekey f.key maps.tunnelRate
  portScan := rekey f.map maps.portScan

def record (record : SignalingEventRecord) : SignalingEventRecord :=
  { record with saddr := f.map record.saddr, daddr := f.map record.daddr }

theorem map_injOn : Set.InjOn f.map {address | address.length = 4} :=
  fun first lengthFirst second lengthSecond same => f.injective first second lengthFirst
    lengthSecond same

theorem key_injOn : Set.InjOn f.key {key | key.length = 8} := by
  intro first lengthFirst second lengthSecond same
  have heads : ∀ {key : Bytes}, key.length = 8 → (key.take 4).length = 4 := by
    intro key length
    rw [List.length_take, length]
    rfl
  have front := List.append_inj_left' same rfl
  obtain ⟨source, rest⟩ := List.append_inj front
    (by rw [f.width _ (heads lengthFirst), f.width _ (heads lengthSecond)])
  rw [← List.take_append_drop 4 first, ← List.take_append_drop 4 second, rest,
    f.injective _ _ (heads lengthFirst) (heads lengthSecond) source]

theorem key_scanKey {saddr : Bytes} (width : saddr.length = 4) (destPort : UInt16) :
    f.key (scanKey saddr destPort) = scanKeyV6 (f.map saddr) destPort := by
  rw [key, scanKey, List.append_assoc saddr, List.take_left' width, List.drop_left' width,
    scanKeyV6]
  simp only [List.append_assoc]
  rfl

theorem key_tunnelKey {saddr : Bytes} (width : saddr.length = 4) (teid : UInt32) :
    f.key (tunnelKey saddr teid) = tunnelKeyV6 (f.map saddr) teid := by
  rw [key, tunnelKey, List.take_left' width, List.drop_left' width, tunnelKeyV6]

end AddressMap

structure RateMaps.Sized (maps : RateMaps) : Prop where
  signalRate : ∀ key ∈ maps.signalRate, key.length = 4
  scanRate : ∀ key ∈ maps.scanRate, key.length = 8
  tunnelRate : ∀ key ∈ maps.tunnelRate, key.length = 8
  portScan : ∀ key ∈ maps.portScan, key.length = 4

theorem scanKey_length {saddr : Bytes} (width : saddr.length = 4) (destPort : UInt16) :
    (scanKey saddr destPort).length = 8 := by
  simp only [scanKey, List.length_append, width, leBytes_length, List.length_cons, List.length_nil]

theorem tunnelKey_length {saddr : Bytes} (width : saddr.length = 4) (teid : UInt32) :
    (tunnelKey saddr teid).length = 8 := by
  simp only [tunnelKey, List.length_append, width, leBytes_length]

section Trackers

variable (f : AddressMap) {maps : RateMaps} (sized : maps.Sized) {saddr : Bytes}
  (width : saddr.length = 4) (now : UInt64)

theorem mem_insert_length {v : Type} {map : Std.ExtTreeMap Bytes v compare} {size : Nat}
    (inside : ∀ key ∈ map, key.length = size) {key : Bytes} (length : key.length = size)
    (value : v) :
    ∀ other ∈ map.insert key value, other.length = size := by
  intro other member
  rcases Std.ExtTreeMap.mem_insert.mp member with same | old
  · rwa [← Std.LawfulEqCmp.compare_eq_iff_eq.mp same]
  · exact inside other old

include sized width

theorem countSource_sized : (maps.countSource saddr now).Sized :=
  { sized with signalRate := mem_insert_length sized.signalRate width _ }

theorem countPort_sized (destPort : UInt16) :
    (maps.countPort (scanKey saddr destPort) now).1.Sized :=
  { sized with scanRate := mem_insert_length sized.scanRate (scanKey_length width destPort) _ }

theorem countTunnel_sized (teid : UInt32) :
    (maps.countTunnel (tunnelKey saddr teid) now).1.Sized :=
  { sized with tunnelRate := mem_insert_length sized.tunnelRate (tunnelKey_length width teid) _ }

theorem scanPorts_sized (destPort : UInt16) :
    (maps.scanPorts saddr destPort now).1.Sized :=
  { sized with portScan := mem_insert_length sized.portScan width _ }

theorem countSource_mirror :
    (f.rates maps).countSource (f.map saddr) now = f.rates
      (maps.countSource saddr now) := by
  rw [RateMaps.countSource, RateMaps.countSource, AddressMap.rates, AddressMap.rates]
  dsimp only
  rw [getElem?_rekey f.map_injOn sized.signalRate width,
    rekey_insert f.map_injOn sized.signalRate width]

theorem countPort_mirror (destPort : UInt16) :
    (f.rates maps).countPort (scanKeyV6 (f.map saddr) destPort) now =
      (f.rates (maps.countPort (scanKey saddr destPort) now).1,
        (maps.countPort (scanKey saddr destPort) now).2) := by
  have length := scanKey_length width destPort
  rw [← f.key_scanKey width, RateMaps.countPort, RateMaps.countPort, AddressMap.rates,
    AddressMap.rates]
  dsimp only
  rw [getElem?_rekey f.key_injOn sized.scanRate length,
    rekey_insert f.key_injOn sized.scanRate length]

theorem countTunnel_mirror (teid : UInt32) :
    (f.rates maps).countTunnel (tunnelKeyV6 (f.map saddr) teid) now =
      (f.rates (maps.countTunnel (tunnelKey saddr teid) now).1,
        (maps.countTunnel (tunnelKey saddr teid) now).2) := by
  have length := tunnelKey_length width teid
  rw [← f.key_tunnelKey width, RateMaps.countTunnel, RateMaps.countTunnel,
    AddressMap.rates, AddressMap.rates]
  dsimp only
  rw [getElem?_rekey f.key_injOn sized.tunnelRate length,
    rekey_insert f.key_injOn sized.tunnelRate length]

theorem scanPorts_mirror (destPort : UInt16) :
    (f.rates maps).scanPorts (f.map saddr) destPort now =
      (f.rates (maps.scanPorts saddr destPort now).1,
        (maps.scanPorts saddr destPort now).2) := by
  rw [RateMaps.scanPorts, RateMaps.scanPorts, AddressMap.rates, AddressMap.rates]
  dsimp only
  rw [getElem?_rekey f.map_injOn sized.portScan width,
    rekey_insert f.map_injOn sized.portScan width]

end Trackers

structure AddressMap.Mirrors (f : AddressMap) (loader loader6 : Loader) : Prop where
  source : ∀ address, address.length = 4 →
    (loader6.maps .blocklistV6).lookup (f.map address) = (loader.maps .blocklist).lookup address
  tunnel : ∀ key, key.length = 8 →
    (loader6.maps .tunnelBlocklistV6).lookup (f.key key) = (loader.maps .tunnelBlocklist).lookup key

def AddressMap.outcome (f : AddressMap) (outcome : Outcome) : Outcome :=
  ⟨outcome.action, f.rates outcome.maps, outcome.records.map f.record⟩

theorem emit_mirror (f : AddressMap) (env : Env) (call : Nat) (event : SignalingEventRecord) :
    reserveAndSubmit env call (f.record event) =
      (reserveAndSubmit env call event).map f.record := by
  rw [reserveAndSubmit, reserveAndSubmit]
  cases env.reserve call <;> rfl

section Sightings

variable (f : AddressMap) (seen : Sighting) (ipv4 : seen.family = .ipv4)

theorem ipv4_width (ipv4 : seen.family = .ipv4) :
    seen.saddr.length = 4 ∧ seen.daddr.length = 4 := by
  have source := seen.saddrWidth
  have dest := seen.daddrWidth
  rw [ipv4] at source dest
  exact ⟨source, dest⟩

def AddressMap.sighting : Sighting where
  family := .ipv6
  saddr := f.map seen.saddr
  daddr := f.map seen.daddr
  vlanId := seen.vlanId
  segment := seen.segment
  saddrWidth := f.width _ (ipv4_width seen ipv4).1
  daddrWidth := f.width _ (ipv4_width seen ipv4).2

theorem event_mirror : (f.sighting seen ipv4).event = f.record seen.event := by
  rw [Sighting.event, Sighting.event, AddressMap.record]
  dsimp only [AddressMap.sighting]
  cases seen.segment <;> rfl

variable {env : Env} {loader loader6 : Loader} {maps : RateMaps}

theorem path_ipv4 (ipv4 : seen.family = .ipv4) : seen.path = ipv4Path := by
  rw [Sighting.path, ipv4]
  rfl

theorem sourceBlocked_mirror (mirrors : f.Mirrors loader loader6) :
    (f.sighting seen ipv4).sourceBlocked loader6 = seen.sourceBlocked loader := by
  rw [Sighting.sourceBlocked, Sighting.sourceBlocked, path_ipv4 seen ipv4]
  change blocked loader6 .blocklistV6 (f.map seen.saddr) = blocked loader .blocklist seen.saddr
  rw [blocked, blocked, mirrors.source _ (ipv4_width seen ipv4).1]

theorem tunnelBlocked_mirror (mirrors : f.Mirrors loader loader6) {saddr : Bytes}
    (width : saddr.length = 4) (teid : UInt32) :
    blocked loader6 .tunnelBlocklistV6 (tunnelKeyV6 (f.map saddr) teid) =
      blocked loader .tunnelBlocklist (tunnelKey saddr teid) := by
  rw [blocked, blocked, ← f.key_tunnelKey width, mirrors.tunnel _ (tunnelKey_length width teid)]

theorem gtpu_mirror (mirrors : f.Mirrors loader loader6) (sized : maps.Sized) {size : UInt16}
    {parse : GtpuParse} {teid : UInt32} (segment : seen.segment = .gtpu size parse teid) :
    (f.sighting seen ipv4).admitted env loader6 (f.rates maps) =
      f.outcome (seen.admitted env loader maps) := by
  have event := event_mirror f seen ipv4
  have width := (ipv4_width seen ipv4).1
  have same : (f.sighting seen ipv4).segment = .gtpu size parse teid := segment
  have key6 : (f.sighting seen ipv4).tunnelKey teid = tunnelKeyV6 (f.map seen.saddr) teid := rfl
  have path6 : (f.sighting seen ipv4).path.tunnelBlocklist = .tunnelBlocklistV6 := rfl
  have source6 : (f.sighting seen ipv4).saddr = f.map seen.saddr := rfl
  have key : seen.tunnelKey teid = tunnelKey seen.saddr teid := by
    rw [Sighting.tunnelKey, path_ipv4 seen ipv4]
    rfl
  have path : seen.path.tunnelBlocklist = .tunnelBlocklist := by
    rw [path_ipv4 seen ipv4]
    rfl
  have counted := countSource_sized sized width env.now
  simp only [Sighting.admitted, same, segment, key6, path6, source6, key, path, event,
    tunnelBlocked_mirror f mirrors width, countSource_mirror f sized width,
    countTunnel_mirror f counted width]
  split_ifs
  · simp only [AddressMap.outcome, emit_mirror]
  · rfl
  · simp only [AddressMap.outcome, ← emit_mirror]
    rfl

theorem offPort_mirror (sized : maps.Sized) (event : SignalingEventRecord)
    (width : event.saddr.length = 4) :
    ipv6Path.inspectOffPort env (f.record event) (f.rates maps) =
      f.outcome (ipv4Path.inspectOffPort env event maps) := by
  have source6 : (f.record event).saddr = f.map event.saddr := rfl
  have port6 : (f.record event).destPort = event.destPort := rfl
  have emit6 : ipv6Path.emitSignalingEvent = reserveAndSubmit := rfl
  have emit : ipv4Path.emitSignalingEvent = reserveAndSubmit := rfl
  have scanned : ipv6Path.trackScanRate (f.rates maps) (f.map event.saddr) event.destPort env.now =
      (f.rates (ipv4Path.trackScanRate maps event.saddr event.destPort env.now).1,
        (ipv4Path.trackScanRate maps event.saddr event.destPort env.now).2) :=
    countPort_mirror f sized width env.now event.destPort
  have counted : (ipv4Path.trackScanRate maps event.saddr event.destPort env.now).1.Sized :=
    countPort_sized sized width env.now event.destPort
  have crossed : ∀ prior : RateMaps, prior.Sized →
      ipv6Path.trackPortScan (f.rates prior) (f.map event.saddr) event.destPort env.now =
        (f.rates (ipv4Path.trackPortScan prior event.saddr event.destPort env.now).1,
          (ipv4Path.trackPortScan prior event.saddr event.destPort env.now).2) :=
    fun _ sized => scanPorts_mirror f sized width env.now event.destPort
  simp only [Path.inspectOffPort, source6, port6, scanned, crossed _ counted, emit6, emit,
    AddressMap.outcome, List.map_append]
  split_ifs
  · simp only [← emit_mirror]
    rfl
  · simp only [List.map_nil, ← emit_mirror]
  · simp only [List.map_nil, ← emit_mirror]
    rfl
  · rfl

theorem admitted_mirror (mirrors : f.Mirrors loader loader6) (sized : maps.Sized) :
    (f.sighting seen ipv4).admitted env loader6 (f.rates maps) =
      f.outcome (seen.admitted env loader maps) := by
  have event := event_mirror f seen ipv4
  have same : (f.sighting seen ipv4).segment = seen.segment := rfl
  have source6 : (f.sighting seen ipv4).saddr = f.map seen.saddr := rfl
  cases segment : seen.segment with
  | unread => simp only [Sighting.admitted, same, segment, AddressMap.outcome, List.map_nil]
  | truncated =>
      simp only [Sighting.admitted, same, segment, AddressMap.outcome, event, emit_mirror]
  | sip size =>
      simp only [Sighting.admitted, same, segment, AddressMap.outcome, event, emit_mirror, source6,
        countSource_mirror f sized (ipv4_width seen ipv4).1]
  | offPort destPort size =>
      have width : seen.event.saddr.length = 4 := by
        rw [seen.event_addresses.1]
        exact (ipv4_width seen ipv4).1
      simp only [Sighting.admitted, same, segment, event, path_ipv4 seen ipv4]
      exact offPort_mirror f sized seen.event width
  | gtpu size parse teid => exact gtpu_mirror f seen ipv4 mirrors sized segment

theorem outcome_mirror (mirrors : f.Mirrors loader loader6) (sized : maps.Sized) :
    (f.sighting seen ipv4).outcome env loader6 (f.rates maps) =
      f.outcome (seen.outcome env loader maps) := by
  rw [Sighting.outcome, Sighting.outcome, sourceBlocked_mirror f seen ipv4 mirrors,
    admitted_mirror f seen ipv4 mirrors sized]
  split
  · rfl
  · rfl

theorem outcome_sized (ipv4 : seen.family = .ipv4) (sized : maps.Sized) :
    (seen.outcome env loader maps).maps.Sized := by
  have width := (ipv4_width seen ipv4).1
  have counted := countSource_sized sized width env.now
  have key : ∀ teid, seen.tunnelKey teid = tunnelKey seen.saddr teid := by
    intro teid
    rw [Sighting.tunnelKey, path_ipv4 seen ipv4]
    rfl
  rw [Sighting.outcome]
  split
  · exact sized
  · unfold Sighting.admitted
    split
    · exact sized
    · exact sized
    · dsimp only
      split
      · exact counted
      · split
        · exact counted
        · rw [key]
          exact countTunnel_sized counted width env.now _
    · exact counted
    · have scanned := countPort_sized sized width env.now
      rw [path_ipv4 seen ipv4]
      dsimp only [Path.inspectOffPort, ipv4Path]
      rw [seen.event_addresses.1]
      exact scanPorts_sized (scanned _) width env.now _

end Sightings

/-- A frame with an IPv4 header without options that is no later fragment, and
one with an IPv6 header in its place: the addresses are mapped, the next header
is the protocol, and what follows the header is the same. -/
structure AddressMap.Translates (f : AddressMap) (frame frame6 : Bytes) : Prop where
  headers : ∃ l3 vlanId, etherHeader frame = some (ethPIp, l3, vlanId) ∧
    etherHeader frame6 = some (ethPIpv6, l3, vlanId) ∧
    l3 + 20 ≤ frame.length ∧ l3 + 40 ≤ frame6.length ∧
    headerLength frame l3 = 5 ∧ loadBe16 frame (l3 + 6) &&& 0x1FFF = 0 ∧
    slice frame6 (l3 + 8) 16 = f.map (slice frame (l3 + 12) 4) ∧
    slice frame6 (l3 + 24) 16 = f.map (slice frame (l3 + 16) 4) ∧
    byteAt frame6 (l3 + 6) = byteAt frame (l3 + 9) ∧
    frame6.drop (l3 + 40) = frame.drop (l3 + 20)

theorem segmentAt_congr {frame frame6 : Bytes} {udp udp6 : Nat} (inside : udp ≤ frame.length)
    (inside6 : udp6 ≤ frame6.length) (same : frame6.drop udp6 = frame.drop udp) :
    segmentAt frame6 udp6 = segmentAt frame udp := by
  have lengths := congrArg List.length same
  rw [List.length_drop, List.length_drop] at lengths
  have ports : loadBe16 frame6 (udp6 + 2) = loadBe16 frame (udp + 2) := by
    rw [loadBe16, loadBe16, slice, slice, ← List.drop_drop, ← List.drop_drop, same]
  have payloads : frame6.drop (udp6 + 8) = frame.drop (udp + 8) := by
    rw [← List.drop_drop, ← List.drop_drop, same]
  have sizes : frame6.length - (udp6 + 8) = frame.length - (udp + 8) := by omega
  have short : udp6 + 8 > frame6.length ↔ udp + 8 > frame.length := by omega
  simp only [segmentAt, short, ports, payloads, sizes]

theorem sight_translates {f : AddressMap} {frame frame6 : Bytes}
    (translates : f.Translates frame frame6) :
    ∃ seen, ∃ ipv4 : seen.family = .ipv4, sight frame = some seen ∧
      sight frame6 = some (f.sighting seen ipv4) := by
  obtain ⟨l3, vlanId, ether, ether6, long, long6, ihl, first, source, dest, protocol, rest⟩ :=
    translates.headers
  have segment : segmentAt frame6 (l3 + 40) = segmentAt frame (l3 + 5 * 4) :=
    segmentAt_congr long long6 rest
  have four : ethPIp ≠ ethPIpv6 := by decide
  have seen4 : sight frame = sightIPv4 frame l3 vlanId := by
    simp only [sight, ether, four, if_false, ne_eq, not_true_eq_false]
  have seen6 : sight frame6 = sightIPv6 frame6 l3 vlanId := by
    simp only [sight, ether6, if_true]
  rw [seen4, seen6, sightIPv4, dif_neg (Nat.not_lt.mpr long),
    if_neg (by rw [ihl]; decide), sightIPv6, dif_neg (Nat.not_lt.mpr long6)]
  refine ⟨_, rfl, rfl, ?_⟩
  simp only [AddressMap.sighting, source, dest, protocol, segment, ihl, first, ne_eq,
    not_true_eq_false, if_false]

structure AddressMap.Mirrored (f : AddressMap) (arrival arrival6 : Arrival) : Prop where
  env : arrival6.env = arrival.env
  loaders : f.Mirrors arrival.loader arrival6.loader
  frames : f.Translates arrival.frame arrival6.frame

/-- The same verdict, with the same events up to the addresses. -/
structure AddressMap.SameVerdict (f : AddressMap) (verdict verdict6 : Verdict) : Prop where
  action : verdict6.action = verdict.action
  records : ∃ events : List SignalingEventRecord,
    verdict.records = events.map (fun event => ⟨.ipv4, event.image⟩) ∧
    verdict6.records = events.map (fun event => ⟨.ipv6, (f.record event).image⟩)

/-- One frame: the same verdict, and the counters stay translations of each other. -/
theorem verdict_mirror {f : AddressMap} {arrival arrival6 : Arrival}
    (mirrored : f.Mirrored arrival arrival6) {rates rates6 : Rates} (sized : rates.ipv4.Sized)
    (start : rates6.ipv6 = f.rates rates.ipv4) :
    f.SameVerdict (arrival.verdict rates) (arrival6.verdict rates6) ∧
      (arrival.verdict rates).rates.ipv4.Sized ∧
      (arrival6.verdict rates6).rates.ipv6 = f.rates (arrival.verdict rates).rates.ipv4 := by
  obtain ⟨seen, ipv4, found, found6⟩ := sight_translates mirrored.frames
  have outcomes : (f.sighting seen ipv4).outcome arrival.env arrival6.loader (f.rates rates.ipv4) =
      f.outcome (seen.outcome arrival.env arrival.loader rates.ipv4) :=
    outcome_mirror f seen ipv4 mirrored.loaders sized
  have family6 : (f.sighting seen ipv4).family = .ipv6 := rfl
  simp only [Arrival.verdict, xdpPacketFilter_eq, found, found6, Sighting.verdict, ipv4, family6,
    Rates.of, Rates.set, mirrored.env, start, outcomes]
  refine ⟨⟨rfl, (seen.outcome arrival.env arrival.loader rates.ipv4).records, rfl, ?_⟩,
    outcome_sized seen ipv4 sized, rfl⟩
  rw [AddressMap.outcome, List.map_map]
  rfl

/-- For every injective map of addresses and every run of IPv4 frames, the
translated run from the translated maps goes the same way. -/
theorem ipv6_branch_mirrors_ipv4 (f : AddressMap) (arrivals arrivals6 : List Arrival)
    (mirrored : List.Forall₂ f.Mirrored arrivals arrivals6) (rates rates6 : Rates)
    (sized : rates.ipv4.Sized) (start : rates6.ipv6 = f.rates rates.ipv4) :
    List.Forall₂ f.SameVerdict ((run rates arrivals).map Prod.snd)
      ((run rates6 arrivals6).map Prod.snd) ∧
    (ratesAfter rates6 arrivals6).ipv6 = f.rates (ratesAfter rates arrivals).ipv4 := by
  induction mirrored generalizing rates rates6 with
  | nil => exact ⟨.nil, start⟩
  | cons head _ ih =>
      obtain ⟨same, sizedNext, startNext⟩ := verdict_mirror head sized start
      obtain ⟨verdicts, maps⟩ := ih _ _ sizedNext startNext
      exact ⟨.cons same verdicts, maps⟩

def documentationMap : AddressMap where
  map address := [0x20, 0x01, 0x0D, 0xB8, 0, 0, 0, 0, 0, 0, 0, 0] ++ address
  width address length := by rw [List.length_append, length]; rfl
  injective _ _ _ _ same := List.append_cancel_left same

def translatedFrame : Bytes :=
  List.replicate 12 0 ++ [0x86, 0xDD] ++ [0x60, 0, 0, 0, 0, 16, 17, 64] ++
    documentationMap.map [10, 0, 0, 1] ++ documentationMap.map [10, 0, 0, 2] ++
    [0x08, 0x68, 0x08, 0x68, 0, 16, 0, 0] ++ [0x30, 0xFF, 0, 0, 0, 0, 0, 7]

theorem AddressMap.Mirrors.insert_tunnel {f : AddressMap} {loader loader6 after after6 : Loader}
    (mirrors : f.Mirrors loader loader6) {key : Bytes} (length : key.length = 8)
    {context context6 : String}
    (placed : loader.insert ⟨.tunnelBlocklist, key⟩ context = .ok after)
    (placed6 : loader6.insert ⟨.tunnelBlocklistV6, f.key key⟩ context6 = .ok after6) :
    f.Mirrors after after6 where
  source address width := by
    have old := @Loader.lookup_insert_of_ne _ _ _ ⟨.blocklist, address⟩ _ placed (by simp)
    have old6 := @Loader.lookup_insert_of_ne _ _ _ ⟨.blocklistV6, f.map address⟩ _ placed6 (by simp)
    dsimp only at old old6
    rw [old, old6]
    exact mirrors.source address width
  tunnel other width := by
    by_cases same : other = key
    · rw [same]
      exact (Loader.lookup_insert placed6).trans (Loader.lookup_insert placed).symm
    · have apart : f.key other ≠ f.key key := fun equal => same (f.key_injOn width length equal)
      have old := @Loader.lookup_insert_of_ne _ _ _ ⟨.tunnelBlocklist, other⟩ _ placed
        (by simp [same])
      have old6 := @Loader.lookup_insert_of_ne _ _ _ ⟨.tunnelBlocklistV6, f.key other⟩ _ placed6
        (by simp [apart])
      dsimp only at old old6
      rw [old, old6]
      exact mirrors.tunnel other width

/-- Tunnel 7 of the source is blocked. -/
def blockingSeven (source : IP) : Loader :=
  (bareLoader.blockTunnel source 7).toOption.getD bareLoader

theorem insert_seven {source : IP} {slot : Slot}
    (found : tunnelBlocklistMapAndKey source 7 = .ok slot)
    (accepted : (bareLoader.blockTunnel source 7).toOption.isSome = true) :
    ∃ context, bareLoader.insert slot context = .ok (blockingSeven source) := by
  rw [Loader.blockTunnel, found] at accepted
  rw [blockingSeven, Loader.blockTunnel, found]
  dsimp only at accepted ⊢
  generalize "insert tunnel " ++ source.string ++ "/" ++ _ ++ _ = context at accepted ⊢
  refine ⟨context, ?_⟩
  cases placed : bareLoader.insert slot context with
  | error err =>
      rw [placed] at accepted
      cases accepted
  | ok loader => rfl

/-- A tunnel is seen twice and then blocked. -/
def sevenThenBlocked (frame : Bytes) (source : IP) : List Arrival :=
  [⟨plainEnv, bareLoader, frame⟩, ⟨⟨5, fun _ => some 5⟩, bareLoader, frame⟩,
    ⟨⟨9, fun _ => some 9⟩, blockingSeven source, frame⟩]

theorem ipv6_branch_mirrors_ipv4Frame :
    let arrivals := sevenThenBlocked ipv4Frame [10, 0, 0, 1]
    let arrivals6 := sevenThenBlocked translatedFrame (documentationMap.map [10, 0, 0, 1])
    ((run .empty arrivals).map fun step => step.2.action) = [.pass, .pass, .drop] ∧
    (ratesAfter .empty arrivals).ipv4.tunnelRate[tunnelKey [10, 0, 0, 1] 7]? = some ⟨0, 2⟩ ∧
    List.Forall₂ documentationMap.SameVerdict ((run .empty arrivals).map Prod.snd)
      ((run ⟨.empty, documentationMap.rates .empty⟩ arrivals6).map Prod.snd) ∧
    (ratesAfter ⟨.empty, documentationMap.rates .empty⟩ arrivals6).ipv6 =
      documentationMap.rates (ratesAfter .empty arrivals).ipv4 := by
  have absent : ∀ map key, (bareLoader.maps map).lookup key = none :=
    fun _ _ => Std.ExtTreeMap.getElem?_empty
  have mirrors : documentationMap.Mirrors bareLoader bareLoader :=
    ⟨fun _ _ => by rw [absent, absent], fun _ _ => by rw [absent, absent]⟩
  have blocking : documentationMap.Mirrors (blockingSeven [10, 0, 0, 1])
      (blockingSeven (documentationMap.map [10, 0, 0, 1])) := by
    have width : (tunnelKey [10, 0, 0, 1] 7).length = 8 := tunnelKey_length rfl 7
    obtain ⟨context, placed⟩ := @insert_seven [10, 0, 0, 1]
      ⟨.tunnelBlocklist, tunnelKey [10, 0, 0, 1] 7⟩ rfl (by decide +kernel)
    obtain ⟨context6, placed6⟩ := @insert_seven (documentationMap.map [10, 0, 0, 1])
      ⟨.tunnelBlocklistV6, documentationMap.key (tunnelKey [10, 0, 0, 1] 7)⟩ rfl (by decide +kernel)
    exact mirrors.insert_tunnel width placed placed6
  have translates : documentationMap.Translates ipv4Frame translatedFrame :=
    ⟨14, 0, by decide +kernel⟩
  have sized : RateMaps.empty.Sized := by
    refine ⟨?_, ?_, ?_, ?_⟩ <;> exact fun _ member => absurd member Std.ExtTreeMap.not_mem_empty
  have mirrored : List.Forall₂ documentationMap.Mirrored
      (sevenThenBlocked ipv4Frame [10, 0, 0, 1])
      (sevenThenBlocked translatedFrame (documentationMap.map [10, 0, 0, 1])) :=
    .cons ⟨rfl, mirrors, translates⟩
      (.cons ⟨rfl, mirrors, translates⟩ (.cons ⟨rfl, blocking, translates⟩ .nil))
  exact ⟨by decide +kernel, by decide +kernel, ipv6_branch_mirrors_ipv4 documentationMap _ _
    mirrored .empty ⟨.empty, documentationMap.rates .empty⟩ sized rfl⟩

end Sentinel5G.Bpf
