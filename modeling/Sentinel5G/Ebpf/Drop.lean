import Sentinel5G.Ebpf.Loader

/-! What the enforcement maps are for: a set of drops, each naming a canonical
address or a tunnel of one. Every map operation is described by the drop it
adds or removes. -/

namespace Sentinel5G.Ebpf

open Base

/-- An address in the form `net.ParseIP` returns. -/
abbrev Address := {ip : IP // ip.length = 16}

inductive Drop
  | source (address : Address)
  | tunnel (address : Address) (teid : UInt32)
  deriving DecidableEq

def Drop.slot : Drop → Slot
  | .source address =>
      match IP.to4 address.val with
      | some v4 => ⟨.blocklist, v4⟩
      | none => ⟨.blocklistV6, address.val⟩
  | .tunnel address teid =>
      match IP.to4 address.val with
      | some v4 => ⟨.tunnelBlocklist, tunnelRateKey v4 teid⟩
      | none => ⟨.tunnelBlocklistV6, tunnelRateKeyV6 address.val teid⟩

/-- The kernel drops what `drop` names. -/
def Loader.Holds (loader : Loader) (drop : Drop) : Prop := drop.slot ∈ loader

instance (loader : Loader) (drop : Drop) : Decidable (loader.Holds drop) :=
  inferInstanceAs (Decidable (drop.slot ∈ loader))

theorem to4_of_to16_none (ip : IP) (invalid : ip.to16 = none) : ip.to4 = none := by
  cases short : ip.to4 with
  | none => rfl
  | some v4 =>
      rw [to16_of_to4 ip v4 short] at invalid
      cases invalid

theorem to16_mapped (ip : IP) (address : Address) (v4 : IP) (long : ip.to16 = some address.val)
    (short : ip.to4 = some v4) : address.val = v4InV6Prefix ++ v4 := by
  rw [to16_of_to4 ip v4 short, Option.some.injEq] at long
  exact long.symm

theorem to4_inj {first second : Address} {v4 : IP} (shortFirst : IP.to4 first.val = some v4)
    (shortSecond : IP.to4 second.val = some v4) : first = second := by
  apply Subtype.ext
  rw [to16_mapped first.val first v4 (to16_eq_self _ first.2) shortFirst,
    to16_mapped second.val second v4 (to16_eq_self _ second.2) shortSecond]

theorem leBytes_teid_inj {first second : UInt32}
    (same : leBytes 4 first.toNat = leBytes 4 second.toNat) : first = second := by
  apply UInt32.toNat.inj
  exact leBytes_inj 4 _ _ first.toNat_lt second.toNat_lt same

theorem tunnelRateKey_inj {first second : IP} {teid other : UInt32} (lengthFirst : first.length = 4)
    (lengthSecond : second.length = 4)
    (same : tunnelRateKey first teid = tunnelRateKey second other) :
    first = second ∧ teid = other := by
  rw [tunnelRateKey, tunnelRateKey, leBytes_of_length 4 first lengthFirst,
    leBytes_of_length 4 second lengthSecond] at same
  have parts := List.append_inj same (by rw [lengthFirst, lengthSecond])
  exact ⟨parts.1, leBytes_teid_inj parts.2⟩

theorem tunnelRateKeyV6_inj {first second : IP} {teid other : UInt32}
    (lengths : first.length = second.length)
    (same : tunnelRateKeyV6 first teid = tunnelRateKeyV6 second other) :
    first = second ∧ teid = other := by
  rw [tunnelRateKeyV6, tunnelRateKeyV6, List.append_left_inj] at same
  have parts := List.append_inj same lengths
  exact ⟨parts.1, leBytes_teid_inj parts.2⟩

theorem Drop.slot_inj {first second : Drop} (same : first.slot = second.slot) : first = second := by
  cases first with
  | source address =>
      cases second with
      | source other =>
          simp only [slot] at same
          split at same <;> rename_i shortFirst <;> split at same <;> rename_i shortSecond <;>
            simp only [Slot.mk.injEq, reduceCtorEq, true_and, false_and] at same
          · subst same
            rw [to4_inj shortFirst shortSecond]
          · rw [Subtype.ext same]
      | tunnel other teid =>
          simp only [slot] at same
          split at same <;> split at same <;>
            simp only [Slot.mk.injEq, reduceCtorEq, false_and] at same
  | tunnel address teid =>
      cases second with
      | source other =>
          simp only [slot] at same
          split at same <;> split at same <;>
            simp only [Slot.mk.injEq, reduceCtorEq, false_and] at same
      | tunnel other otherTeid =>
          simp only [slot] at same
          split at same <;> rename_i shortFirst <;> split at same <;> rename_i shortSecond <;>
            simp only [Slot.mk.injEq, reduceCtorEq, true_and, false_and] at same
          · obtain ⟨short, rfl⟩ := tunnelRateKey_inj (to4_length _ _ shortFirst)
              (to4_length _ _ shortSecond) same
            subst short
            rw [to4_inj shortFirst shortSecond]
          · obtain ⟨long, rfl⟩ := tunnelRateKeyV6_inj (address.2.trans other.2.symm) same
            rw [Subtype.ext long]

theorem Drop.slot_length (drop : Drop) : drop.slot.key.length = drop.slot.map.keySize := by
  cases drop with
  | source address =>
      simp only [slot]
      split
      · rename_i short
        exact to4_length _ _ short
      · exact address.2
  | tunnel address teid =>
      simp only [slot]
      split
      · rw [tunnelRateKey, List.length_append, leBytes_length, leBytes_length]
        rfl
      · rw [tunnelRateKeyV6, List.length_append, List.length_append, leBytes_length, address.2]
        rfl

theorem blocklistMapAndKey_eq (ip : IP) (address : Address) (long : ip.to16 = some address.val) :
    blocklistMapAndKey ip = .ok (Drop.source address).slot := by
  have same := to4_to16 ip address.val long
  cases short : ip.to4 with
  | some v4 => simp [blocklistMapAndKey, isIPv4, ipv4Key, Drop.slot, same, short, Except.map]
  | none =>
      simp [blocklistMapAndKey, isIPv4, ipv6Key, Drop.slot, same, short, long, Except.map]

theorem tunnelBlocklistMapAndKey_eq (ip : IP) (address : Address) (teid : UInt32)
    (long : ip.to16 = some address.val) (identified : teid ≠ 0) :
    tunnelBlocklistMapAndKey ip teid = .ok (Drop.tunnel address teid).slot := by
  have same := to4_to16 ip address.val long
  cases short : ip.to4 with
  | some v4 => simp [tunnelBlocklistMapAndKey, identified, Drop.slot, same, short]
  | none =>
      simp [tunnelBlocklistMapAndKey, identified, isIPv4, ipv6Key, Drop.slot, same, short, long,
        Except.map]

theorem blocklistMapAndKey_inv (ip : IP) (slot : Slot) (routed : blocklistMapAndKey ip = .ok slot) :
    ∃ address : Address, ip.to16 = some address.val ∧ slot = (Drop.source address).slot := by
  cases long : ip.to16 with
  | some v6 =>
      refine ⟨⟨v6, to16_length ip v6 long⟩, rfl, ?_⟩
      rw [blocklistMapAndKey_eq ip ⟨v6, to16_length ip v6 long⟩ long] at routed
      exact (Except.ok.inj routed).symm
  | none =>
      have short := to4_of_to16_none ip long
      simp [blocklistMapAndKey, isIPv4, ipv6Key, short, long, Except.map] at routed

theorem tunnelBlocklistMapAndKey_inv (ip : IP) (teid : UInt32) (slot : Slot)
    (routed : tunnelBlocklistMapAndKey ip teid = .ok slot) :
    ∃ address : Address, ip.to16 = some address.val ∧ teid ≠ 0 ∧
      slot = (Drop.tunnel address teid).slot := by
  by_cases zero : teid = 0
  · simp [tunnelBlocklistMapAndKey, zero] at routed
  · cases long : ip.to16 with
    | some v6 =>
        refine ⟨⟨v6, to16_length ip v6 long⟩, rfl, zero, ?_⟩
        rw [tunnelBlocklistMapAndKey_eq ip ⟨v6, to16_length ip v6 long⟩ teid long zero] at routed
        exact (Except.ok.inj routed).symm
    | none =>
        have short := to4_of_to16_none ip long
        simp [tunnelBlocklistMapAndKey, zero, isIPv4, ipv6Key, short, long, Except.map] at routed

namespace Loader

def Adds (before after : Loader) (drop : Drop) : Prop :=
  (∀ slot, slot ∈ after ↔ slot = drop.slot ∨ slot ∈ before) ∧
    ∀ map, (after.maps map).maxEntries = (before.maps map).maxEntries

def Removes (before after : Loader) (drop : Drop) : Prop :=
  (∀ slot, slot ∈ after ↔ slot ≠ drop.slot ∧ slot ∈ before) ∧
    ∀ map, (after.maps map).maxEntries = (before.maps map).maxEntries

theorem Adds.holds {before after : Loader} {drop : Drop} (adds : Adds before after drop)
    (other : Drop) : after.Holds other ↔ other = drop ∨ before.Holds other := by
  rw [Holds, adds.1]
  exact or_congr_left ⟨Drop.slot_inj, congrArg Drop.slot⟩

theorem Removes.holds {before after : Loader} {drop : Drop} (removes : Removes before after drop)
    (other : Drop) : after.Holds other ↔ other ≠ drop ∧ before.Holds other := by
  rw [Holds, removes.1]
  exact and_congr_left' (not_congr ⟨Drop.slot_inj, congrArg Drop.slot⟩)

theorem insert_adds {before after : Loader} {drop : Drop} {context : String}
    (accepted : before.insert drop.slot context = .ok after) : Adds before after drop :=
  ⟨mem_insert accepted, insert_maxEntries accepted⟩

theorem remove_removes {before after : Loader} {drop : Drop} {context : String}
    (accepted : before.remove drop.slot context = .ok after) : Removes before after drop :=
  ⟨mem_remove accepted, remove_maxEntries accepted⟩

theorem block_adds {before after : Loader} {ip : IP} (accepted : before.block ip = .ok after) :
    ∃ address : Address, ip.to16 = some address.val ∧ Adds before after (.source address) := by
  rw [block] at accepted
  split at accepted
  · cases accepted
  · rename_i slot routed
    obtain ⟨address, long, rfl⟩ := blocklistMapAndKey_inv ip slot routed
    exact ⟨address, long, insert_adds accepted⟩

theorem blockTunnel_adds {before after : Loader} {ip : IP} {teid : UInt32}
    (accepted : before.blockTunnel ip teid = .ok after) :
    ∃ address : Address, ip.to16 = some address.val ∧ teid ≠ 0 ∧
      Adds before after (.tunnel address teid) := by
  rw [blockTunnel] at accepted
  split at accepted
  · cases accepted
  · rename_i slot routed
    obtain ⟨address, long, identified, rfl⟩ := tunnelBlocklistMapAndKey_inv ip teid slot routed
    exact ⟨address, long, identified, insert_adds accepted⟩

theorem unblock_removes {before after : Loader} {ip : IP}
    (accepted : before.unblock ip = .ok after) :
    ∃ address : Address, ip.to16 = some address.val ∧ Removes before after (.source address) := by
  rw [unblock] at accepted
  split at accepted
  · cases accepted
  · rename_i slot routed
    obtain ⟨address, long, rfl⟩ := blocklistMapAndKey_inv ip slot routed
    exact ⟨address, long, remove_removes accepted⟩

theorem unblockTunnel_removes {before after : Loader} {ip : IP} {teid : UInt32}
    (accepted : before.unblockTunnel ip teid = .ok after) :
    ∃ address : Address, ip.to16 = some address.val ∧ teid ≠ 0 ∧
      Removes before after (.tunnel address teid) := by
  rw [unblockTunnel] at accepted
  split at accepted
  · cases accepted
  · rename_i slot routed
    obtain ⟨address, long, identified, rfl⟩ := tunnelBlocklistMapAndKey_inv ip teid slot routed
    exact ⟨address, long, identified, remove_removes accepted⟩

/-- Every entry is one the loader's own operations can have placed: no IPv4
address in an IPv6 map and no tunnel 0. -/
def Canonical (loader : Loader) : Prop :=
  ∀ slot ∈ loader, ∃ drop : Drop, slot = drop.slot ∧ ∀ address, drop ≠ .tunnel address 0

theorem Adds.canonical {before after : Loader} {drop : Drop} (adds : Adds before after drop)
    (canonical : before.Canonical) (identified : ∀ address, drop ≠ .tunnel address 0) :
    after.Canonical := by
  intro slot member
  rcases (adds.1 slot).mp member with rfl | present
  · exact ⟨drop, rfl, identified⟩
  · exact canonical slot present

theorem Removes.canonical {before after : Loader} {drop : Drop}
    (removes : Removes before after drop) (canonical : before.Canonical) : after.Canonical :=
  fun slot member => canonical slot ((removes.1 slot).mp member).2

theorem empty_canonical (capacity : EnforcementMap → Nat) : (empty capacity).Canonical := by
  intro slot member
  change slot.key ∈ (∅ : Std.ExtTreeMap Bytes UInt8 compare) at member
  simp at member

theorem mem_blockedIPs {loader : Loader} (canonical : loader.Canonical) (ip : IP)
    (member : ip ∈ loader.blockedIPs) :
    ∃ address : Address, ip.to16 = some address.val ∧ loader.Holds (.source address) := by
  rcases List.mem_append.mp member with inV4 | inV6
  · have present : (⟨.blocklist, ip⟩ : Slot) ∈ loader := BpfHash.mem_keys.mp inV4
    have length : ip.length = 4 := BpfHash.length_of_mem (BpfHash.mem_keys.mp inV4)
    have long : ip.to16 = some (v4InV6Prefix ++ ip) :=
      to16_of_to4 ip ip (to4_of_length_four ip length)
    refine ⟨⟨v4InV6Prefix ++ ip, to16_length ip _ long⟩, long, ?_⟩
    simpa only [Holds, Drop.slot, to4_mapped ip length] using present
  · have present : (⟨.blocklistV6, ip⟩ : Slot) ∈ loader := BpfHash.mem_keys.mp inV6
    have length : ip.length = 16 := BpfHash.length_of_mem (BpfHash.mem_keys.mp inV6)
    refine ⟨⟨ip, length⟩, to16_eq_self ip length, ?_⟩
    obtain ⟨drop, same, -⟩ := canonical _ present
    have routed : drop = .source ⟨ip, length⟩ := by
      cases drop with
      | source address =>
          simp only [Drop.slot] at same
          split at same
          · cases same
          · congr 1
            exact Subtype.ext (Slot.mk.inj same).2.symm
      | tunnel address teid =>
          simp only [Drop.slot] at same
          split at same <;> cases same
    rw [Holds, ← routed, ← same]
    exact present

theorem blockedIPs_of_holds {loader : Loader} (address : Address)
    (held : loader.Holds (.source address)) :
    ∃ ip ∈ loader.blockedIPs, ip.to16 = some address.val := by
  simp only [Holds, Drop.slot] at held
  split at held
  · rename_i v4 short
    refine ⟨v4, List.mem_append_left _ (BpfHash.mem_keys.mpr held), ?_⟩
    rw [to16_of_to4 v4 v4 (to4_of_length_four v4 (to4_length _ _ short)),
      ← to16_mapped address.val address v4 (to16_eq_self _ address.2) short]
  · exact ⟨address.val, List.mem_append_right _ (BpfHash.mem_keys.mpr held),
      to16_eq_self _ address.2⟩

theorem teid_of_bytes (teid : UInt32) : UInt32.ofNat (leNat (leBytes 4 teid.toNat)) = teid := by
  have small : teid.toNat < 256 ^ 4 := teid.toNat_lt
  rw [leNat_leBytes, Nat.mod_eq_of_lt small, UInt32.ofNat_toNat]

theorem tunnelOfKey_tunnelRateKey (v4 : IP) (teid : UInt32) (length : v4.length = 4) :
    tunnelOfKey (tunnelRateKey v4 teid) = ⟨v4, teid⟩ := by
  have address : slice (tunnelRateKey v4 teid) 0 4 = v4 := by
    rw [slice, List.drop_zero, tunnelRateKey, leBytes_of_length 4 v4 length]
    exact List.take_left' length
  have identity : slice (tunnelRateKey v4 teid) 4 4 = leBytes 4 teid.toNat := by
    rw [slice, tunnelRateKey, List.drop_left' (leBytes_length 4 _)]
    exact List.take_of_length_le (by rw [leBytes_length])
  rw [tunnelOfKey, address, identity, leBytes_of_length 4 v4 length, teid_of_bytes]

theorem tunnelOfKeyV6_tunnelRateKeyV6 (v6 : IP) (teid : UInt32) (length : v6.length = 16) :
    tunnelOfKeyV6 (tunnelRateKeyV6 v6 teid) = ⟨v6, teid⟩ := by
  have address : slice (tunnelRateKeyV6 v6 teid) 0 16 = v6 := by
    rw [slice, List.drop_zero, tunnelRateKeyV6, List.append_assoc]
    exact List.take_left' length
  have identity : slice (tunnelRateKeyV6 v6 teid) 16 4 = leBytes 4 teid.toNat := by
    rw [slice, tunnelRateKeyV6, List.append_assoc, List.drop_left' length]
    exact List.take_left' (leBytes_length 4 _)
  rw [tunnelOfKeyV6, address, identity, teid_of_bytes]

theorem tunnelOfKey_slot {address : Address} {teid : UInt32} {key : Bytes}
    (same : ⟨.tunnelBlocklist, key⟩ = Drop.slot (.tunnel address teid)) :
    (tunnelOfKey key).ip.to16 = some address.val ∧ (tunnelOfKey key).teid = teid := by
  simp only [Drop.slot] at same
  split at same
  · rename_i v4 short
    obtain rfl := (Slot.mk.inj same).2
    have length := to4_length _ _ short
    rw [tunnelOfKey_tunnelRateKey v4 teid length]
    refine ⟨?_, rfl⟩
    rw [to16_of_to4 v4 v4 (to4_of_length_four v4 length),
      ← to16_mapped address.val address v4 (to16_eq_self _ address.2) short]
  · cases same

theorem tunnelOfKeyV6_slot {address : Address} {teid : UInt32} {key : Bytes}
    (same : ⟨.tunnelBlocklistV6, key⟩ = Drop.slot (.tunnel address teid)) :
    (tunnelOfKeyV6 key).ip.to16 = some address.val ∧ (tunnelOfKeyV6 key).teid = teid := by
  simp only [Drop.slot] at same
  split at same
  · cases same
  · obtain rfl := (Slot.mk.inj same).2
    rw [tunnelOfKeyV6_tunnelRateKeyV6 _ teid address.2]
    exact ⟨to16_eq_self _ address.2, rfl⟩

theorem Canonical.tunnel_of_mem {loader : Loader} (canonical : loader.Canonical)
    {map : EnforcementMap} {key : Bytes} (present : (⟨map, key⟩ : Slot) ∈ loader)
    (tunnels : map = .tunnelBlocklist ∨ map = .tunnelBlocklistV6) :
    ∃ address teid, ⟨map, key⟩ = Drop.slot (.tunnel address teid) ∧ teid ≠ 0 ∧
      loader.Holds (.tunnel address teid) := by
  obtain ⟨drop, same, identified⟩ := canonical _ present
  cases drop with
  | source address =>
      simp only [Drop.slot] at same
      split at same <;> cases same <;> simp at tunnels
  | tunnel address teid =>
      refine ⟨address, teid, same, fun zero => identified address (zero ▸ rfl), ?_⟩
      rw [Holds, ← same]
      exact present

theorem mem_blockedTunnels {loader : Loader} (canonical : loader.Canonical) (entry : BlockedTunnel)
    (member : entry ∈ loader.blockedTunnels) :
    ∃ address : Address, entry.ip.to16 = some address.val ∧ entry.teid ≠ 0 ∧
      loader.Holds (.tunnel address entry.teid) := by
  rcases List.mem_append.mp member with inV4 | inV6
  · obtain ⟨key, stored, rfl⟩ := List.mem_map.mp inV4
    obtain ⟨address, teid, same, identified, held⟩ :=
      canonical.tunnel_of_mem (BpfHash.mem_keys.mp stored) (.inl rfl)
    obtain ⟨long, shown⟩ := tunnelOfKey_slot same
    rw [shown]
    exact ⟨address, long, identified, held⟩
  · obtain ⟨key, stored, rfl⟩ := List.mem_map.mp inV6
    obtain ⟨address, teid, same, identified, held⟩ :=
      canonical.tunnel_of_mem (BpfHash.mem_keys.mp stored) (.inr rfl)
    obtain ⟨long, shown⟩ := tunnelOfKeyV6_slot same
    rw [shown]
    exact ⟨address, long, identified, held⟩

theorem tunnel_slot (address : Address) (teid : UInt32) :
    (∃ key, ⟨.tunnelBlocklist, key⟩ = Drop.slot (.tunnel address teid)) ∨
      ∃ key, ⟨.tunnelBlocklistV6, key⟩ = Drop.slot (.tunnel address teid) := by
  simp only [Drop.slot]
  split
  · exact .inl ⟨_, rfl⟩
  · exact .inr ⟨_, rfl⟩

theorem blockedTunnels_of_holds {loader : Loader} (address : Address) (teid : UInt32)
    (held : loader.Holds (.tunnel address teid)) :
    ∃ entry ∈ loader.blockedTunnels, entry.ip.to16 = some address.val ∧ entry.teid = teid := by
  rw [Holds] at held
  rcases tunnel_slot address teid with ⟨key, same⟩ | ⟨key, same⟩
  · rw [← same] at held
    exact ⟨_, List.mem_append_left _ (List.mem_map_of_mem (BpfHash.mem_keys.mpr held)),
      tunnelOfKey_slot same⟩
  · rw [← same] at held
    exact ⟨_, List.mem_append_right _ (List.mem_map_of_mem (BpfHash.mem_keys.mpr held)),
      tunnelOfKeyV6_slot same⟩

end Loader

def Address.text (address : Address) : String := IP.string address.val

theorem Address.text_inj {first second : Address} (same : first.text = second.text) :
    first = second :=
  Subtype.ext (string_inj first.val second.val first.2 second.2 same)

theorem string_eq_text (ip : IP) (address : Address) (long : ip.to16 = some address.val) :
    ip.string = address.text := by
  have same := to4_to16 ip address.val long
  have present : ip ≠ [] := by
    rintro rfl
    cases long
  have presentLong : address.val ≠ [] := by
    intro empty
    have length := address.2
    rw [empty] at length
    cases length
  rw [Address.text, IP.string, IP.string, if_neg present, if_neg presentLong, same]
  cases short : ip.to4 with
  | some v4 => rfl
  | none =>
      have length : ip.length = 16 := by
        by_contra other
        have four : ip.length ≠ 4 := by
          intro four
          rw [to4_of_length_four ip four] at short
          cases short
        rw [IP.to16, if_neg four, if_neg other] at long
        cases long
      rw [to16_eq_self ip length, Option.some.injEq] at long
      rw [long]

theorem parseIP_text (address : Address) : parseIP address.text = some address.val :=
  parseIP_string address.val address.val (to16_eq_self _ address.2)

end Sentinel5G.Ebpf
