import Mathlib.Data.Finset.Card
import Mathlib.Data.Finset.Image
import Sentinel5G.Ebpf.Updater

namespace Sentinel5G.Ebpf

open Base

/-- The drops in force, each address by the text `net.IP.String` prints. -/
structure DropSets where
  sources : Finset String
  tunnels : Finset (String × UInt32)

def printedIPv4 (text : String) : Bool := (parseIP text).any isIPv4

def sourceMap (ipv4 : Bool) : EnforcementMap := if ipv4 then .blocklist else .blocklistV6

def tunnelMap (ipv4 : Bool) : EnforcementMap :=
  if ipv4 then .tunnelBlocklist else .tunnelBlocklistV6

theorem sourceMap_inj {first second : Bool} (same : sourceMap first = sourceMap second) :
    first = second := by
  revert same
  cases first <;> cases second <;> decide

theorem tunnelMap_inj {first second : Bool} (same : tunnelMap first = tunnelMap second) :
    first = second := by
  revert same
  cases first <;> cases second <;> decide

theorem sourceMap_ne_tunnelMap (first second : Bool) : sourceMap first ≠ tunnelMap second := by
  cases first <;> cases second <;> decide

namespace DropSets

def empty : DropSets := ⟨∅, ∅⟩

/-- The members one map has to hold; a source is written with tunnel 0. -/
def share (sets : DropSets) : EnforcementMap → Finset (String × UInt32)
  | .blocklist => {text ∈ sets.sources | printedIPv4 text = true}.image (fun text => (text, 0))
  | .blocklistV6 => {text ∈ sets.sources | printedIPv4 text = false}.image (fun text => (text, 0))
  | .tunnelBlocklist => {name ∈ sets.tunnels | printedIPv4 name.1 = true}
  | .tunnelBlocklistV6 => {name ∈ sets.tunnels | printedIPv4 name.1 = false}

def HasRoom (sets : DropSets) (capacity : EnforcementMap → Nat) (map : EnforcementMap) : Prop :=
  (sets.share map).card < capacity map

instance (sets : DropSets) (capacity : EnforcementMap → Nat) (map : EnforcementMap) :
    Decidable (sets.HasRoom capacity map) := inferInstanceAs (Decidable (_ < _))

theorem mem_share_source (sets : DropSets) (v4 : Bool) (text : String) (teid : UInt32) :
    (text, teid) ∈ sets.share (sourceMap v4) ↔
      teid = 0 ∧ text ∈ sets.sources ∧ printedIPv4 text = v4 := by
  cases v4 <;>
    simp only [sourceMap, share, if_true, Bool.false_eq_true, if_false, Finset.mem_image,
      Finset.mem_filter, Prod.mk.injEq] <;>
    grind

theorem mem_share_tunnel (sets : DropSets) (v4 : Bool) (text : String) (teid : UInt32) :
    (text, teid) ∈ sets.share (tunnelMap v4) ↔
      (text, teid) ∈ sets.tunnels ∧ printedIPv4 text = v4 := by
  cases v4 <;> exact Finset.mem_filter

def apply (capacity : EnforcementMap → Nat) (sets : DropSets) : BlocklistCall → Option DropSets
  | .block ip =>
      if (ip.length = 4 ∨ ip.length = 16) ∧
          (ip.string ∈ sets.sources ∨ sets.HasRoom capacity (sourceMap (isIPv4 ip))) then
        some { sets with sources := insert ip.string sets.sources }
      else none
  | .unblock ip =>
      if ip.length = 4 ∨ ip.length = 16 then
        some { sets with sources := sets.sources.erase ip.string }
      else none
  | .blockTunnel ip teid =>
      if (ip.length = 4 ∨ ip.length = 16) ∧ teid ≠ 0 ∧
          ((ip.string, teid) ∈ sets.tunnels ∨
            sets.HasRoom capacity (tunnelMap (isIPv4 ip))) then
        some { sets with tunnels := insert (ip.string, teid) sets.tunnels }
      else none
  | .unblockTunnel ip teid =>
      if (ip.length = 4 ∨ ip.length = 16) ∧ teid ≠ 0 then
        some { sets with tunnels := sets.tunnels.erase (ip.string, teid) }
      else none

def after (capacity : EnforcementMap → Nat) (sets : DropSets) (call : BlocklistCall) : DropSets :=
  (sets.apply capacity call).getD sets

end DropSets

/-- The maps once a call has returned; an error leaves them alone. -/
def Loader.after (loader : Loader) (call : BlocklistCall) : Loader :=
  match call.apply loader with
  | .ok next => next
  | .error _ => loader

def nameOfKey : EnforcementMap → Bytes → String × UInt32
  | .blocklist, key => (IP.string key, 0)
  | .blocklistV6, key => (IP.string key, 0)
  | .tunnelBlocklist, key =>
      (IP.string (Loader.tunnelOfKey key).ip, (Loader.tunnelOfKey key).teid)
  | .tunnelBlocklistV6, key =>
      (IP.string (Loader.tunnelOfKeyV6 key).ip, (Loader.tunnelOfKeyV6 key).teid)

def BlockedTunnel.name (entry : BlockedTunnel) : String × UInt32 := (entry.ip.string, entry.teid)

namespace Drop

def name : Drop → String × UInt32
  | .source address => (address.text, 0)
  | .tunnel address teid => (address.text, teid)

def Identified (drop : Drop) : Prop := ∀ address, drop ≠ .tunnel address 0

theorem name_inj {first second : Drop} (one : first.Identified) (other : second.Identified)
    (same : first.name = second.name) : first = second := by
  cases first with
  | source address =>
      cases second with
      | source another =>
          rw [Address.text_inj (Prod.mk.inj same).1]
      | tunnel another teid =>
          obtain rfl : 0 = teid := (Prod.mk.inj same).2
          exact absurd rfl (other another)
  | tunnel address teid =>
      cases second with
      | source another =>
          obtain rfl : teid = 0 := (Prod.mk.inj same).2
          exact absurd rfl (one address)
      | tunnel another identity =>
          obtain rfl : teid = identity := (Prod.mk.inj same).2
          rw [Address.text_inj (Prod.mk.inj same).1]

theorem printedIPv4_text (address : Address) : printedIPv4 address.text = isIPv4 address.val := by
  rw [printedIPv4, parseIP_text]
  rfl

theorem slot_map_source (address : Address) :
    (Drop.source address).slot.map = sourceMap (isIPv4 address.val) := by
  rw [slot, isIPv4]
  cases IP.to4 address.val <;> rfl

theorem slot_map_tunnel (address : Address) (teid : UInt32) :
    (Drop.tunnel address teid).slot.map = tunnelMap (isIPv4 address.val) := by
  rw [slot, isIPv4]
  cases IP.to4 address.val <;> rfl

theorem string_to4 {address : Address} {v4 : IP} (short : IP.to4 address.val = some v4) :
    IP.string v4 = address.text := by
  apply string_eq_text
  rw [to16_of_to4 v4 v4 (to4_of_length_four v4 (to4_length _ _ short)),
    ← to16_mapped address.val address v4 (to16_eq_self _ address.2) short]

theorem nameOfKey_slot (drop : Drop) : nameOfKey drop.slot.map drop.slot.key = drop.name := by
  cases drop with
  | source address =>
      rw [slot]
      cases short : IP.to4 address.val with
      | some v4 => exact congrArg (·, 0) (string_to4 short)
      | none => rfl
  | tunnel address teid =>
      rw [slot]
      cases short : IP.to4 address.val with
      | some v4 =>
          simp only [nameOfKey, Loader.tunnelOfKey_tunnelRateKey v4 teid (to4_length _ _ short)]
          exact congrArg (·, teid) (string_to4 short)
      | none =>
          simp only [nameOfKey, Loader.tunnelOfKeyV6_tunnelRateKeyV6 _ teid address.2]
          rfl

end Drop

namespace Loader

def names (loader : Loader) (map : EnforcementMap) : List (String × UInt32) :=
  (loader.maps map).keys.map (nameOfKey map)

theorem blockedIPs_names (loader : Loader) :
    loader.blockedIPs.map (fun ip => (ip.string, (0 : UInt32))) =
      loader.names .blocklist ++ loader.names .blocklistV6 := by
  rw [blockedIPs, List.map_append]
  rfl

theorem blockedTunnels_names (loader : Loader) :
    loader.blockedTunnels.map BlockedTunnel.name =
      loader.names .tunnelBlocklist ++ loader.names .tunnelBlocklistV6 := by
  rw [blockedTunnels, List.map_append, List.map_map, List.map_map]
  rfl

section Canonical

variable {loader : Loader} (canonical : loader.Canonical)
include canonical

theorem holds_identified {drop : Drop} (held : loader.Holds drop) : drop.Identified := by
  obtain ⟨other, same, identified⟩ := canonical _ held
  rw [Drop.slot_inj same]
  exact identified

theorem drop_of_key {map : EnforcementMap} {key : Bytes} (stored : key ∈ (loader.maps map).keys) :
    ∃ drop : Drop, drop.slot = ⟨map, key⟩ ∧ loader.Holds drop := by
  have present : (⟨map, key⟩ : Slot) ∈ loader := BpfHash.mem_keys.mp stored
  obtain ⟨drop, same, -⟩ := canonical _ present
  refine ⟨drop, same.symm, ?_⟩
  rw [Holds, ← same]
  exact present

theorem mem_names {map : EnforcementMap} {name : String × UInt32} :
    name ∈ loader.names map ↔
      ∃ drop : Drop, drop.slot.map = map ∧ loader.Holds drop ∧ drop.name = name := by
  constructor
  · intro member
    obtain ⟨key, stored, rfl⟩ := List.mem_map.mp member
    obtain ⟨drop, slot, held⟩ := drop_of_key canonical stored
    have named := drop.nameOfKey_slot
    rw [slot] at named
    exact ⟨drop, by rw [slot], held, named.symm⟩
  · rintro ⟨drop, rfl, held, rfl⟩
    rw [← drop.nameOfKey_slot]
    exact List.mem_map_of_mem (BpfHash.mem_keys.mpr held)

theorem names_nodup (map : EnforcementMap) : (loader.names map).Nodup := by
  apply (BpfHash.keys_nodup _).map_on
  intro key stored other storedOther same
  obtain ⟨drop, slot, held⟩ := drop_of_key canonical stored
  obtain ⟨second, slotSecond, heldSecond⟩ := drop_of_key canonical storedOther
  have named := drop.nameOfKey_slot
  have namedSecond := second.nameOfKey_slot
  rw [slot] at named
  rw [slotSecond] at namedSecond
  have one : drop = second :=
    Drop.name_inj (holds_identified canonical held) (holds_identified canonical heldSecond)
      (named.symm.trans (same.trans namedSecond))
  rw [one, slotSecond] at slot
  exact (Slot.mk.inj slot).2.symm

theorem names_disjoint {map other : EnforcementMap} (different : map ≠ other) :
    (loader.names map).Disjoint (loader.names other) := by
  intro name first second
  obtain ⟨drop, inFirst, held, named⟩ := (mem_names canonical).mp first
  obtain ⟨another, inSecond, heldSecond, namedSecond⟩ := (mem_names canonical).mp second
  have one : drop = another :=
    Drop.name_inj (holds_identified canonical held) (holds_identified canonical heldSecond)
      (named.trans namedSecond.symm)
  exact different (by rw [← inFirst, one, inSecond])

end Canonical

/-- The maps hold the members of the two sets. -/
structure Shows (loader : Loader) (sets : DropSets) : Prop where
  canonical : loader.Canonical
  sources : ∀ text, text ∈ sets.sources ↔
    ∃ address : Address, loader.Holds (.source address) ∧ address.text = text
  tunnels : ∀ text teid, (text, teid) ∈ sets.tunnels ↔
    ∃ address : Address, loader.Holds (.tunnel address teid) ∧ address.text = text

structure Lists (loader : Loader) (sets : DropSets) : Prop where
  distinctIPs : (loader.blockedIPs.map IP.string).Nodup
  ips : (loader.blockedIPs.map IP.string).toFinset = sets.sources
  distinctTunnels : (loader.blockedTunnels.map BlockedTunnel.name).Nodup
  tunnels : (loader.blockedTunnels.map BlockedTunnel.name).toFinset = sets.tunnels

namespace Shows

variable {loader after : Loader} {sets : DropSets} {address : Address} {teid : UInt32}

theorem mem_source (shown : loader.Shows sets) :
    address.text ∈ sets.sources ↔ loader.Holds (.source address) := by
  rw [shown.sources]
  constructor
  · rintro ⟨other, held, same⟩
    rwa [← Address.text_inj same]
  · exact fun held => ⟨address, held, rfl⟩

theorem mem_tunnel (shown : loader.Shows sets) :
    (address.text, teid) ∈ sets.tunnels ↔ loader.Holds (.tunnel address teid) := by
  rw [shown.tunnels]
  constructor
  · rintro ⟨other, held, same⟩
    rwa [← Address.text_inj same]
  · exact fun held => ⟨address, held, rfl⟩

theorem share_source (shown : loader.Shows sets) (v4 : Bool) :
    sets.share (sourceMap v4) = (loader.names (sourceMap v4)).toFinset := by
  ext ⟨text, teid⟩
  rw [DropSets.mem_share_source, List.mem_toFinset, mem_names shown.canonical]
  constructor
  · rintro ⟨rfl, inSet, family⟩
    obtain ⟨address, held, rfl⟩ := (shown.sources text).mp inSet
    rw [Drop.printedIPv4_text] at family
    exact ⟨.source address, by rw [Drop.slot_map_source, family], held, rfl⟩
  · rintro ⟨drop, routed, held, named⟩
    cases drop with
    | source address =>
        obtain ⟨rfl, rfl⟩ := Prod.mk.inj named
        rw [Drop.slot_map_source] at routed
        refine ⟨rfl, shown.mem_source.mpr held, ?_⟩
        rw [Drop.printedIPv4_text, sourceMap_inj routed]
    | tunnel address identity =>
        rw [Drop.slot_map_tunnel] at routed
        exact absurd routed.symm (sourceMap_ne_tunnelMap _ _)

theorem share_tunnel (shown : loader.Shows sets) (v4 : Bool) :
    sets.share (tunnelMap v4) = (loader.names (tunnelMap v4)).toFinset := by
  ext ⟨text, teid⟩
  rw [DropSets.mem_share_tunnel, List.mem_toFinset, mem_names shown.canonical]
  constructor
  · rintro ⟨inSet, family⟩
    obtain ⟨address, held, rfl⟩ := (shown.tunnels text teid).mp inSet
    rw [Drop.printedIPv4_text] at family
    exact ⟨.tunnel address teid, by rw [Drop.slot_map_tunnel, family], held, rfl⟩
  · rintro ⟨drop, routed, held, named⟩
    cases drop with
    | source address =>
        rw [Drop.slot_map_source] at routed
        exact absurd routed (sourceMap_ne_tunnelMap _ _)
    | tunnel address identity =>
        obtain ⟨rfl, rfl⟩ := Prod.mk.inj named
        rw [Drop.slot_map_tunnel] at routed
        refine ⟨shown.mem_tunnel.mpr held, ?_⟩
        rw [Drop.printedIPv4_text, tunnelMap_inj routed]

theorem share_eq (shown : loader.Shows sets) (map : EnforcementMap) :
    sets.share map = (loader.names map).toFinset := by
  cases map with
  | blocklist => exact shown.share_source true
  | blocklistV6 => exact shown.share_source false
  | tunnelBlocklist => exact shown.share_tunnel true
  | tunnelBlocklistV6 => exact shown.share_tunnel false

theorem card_share (shown : loader.Shows sets) (map : EnforcementMap) :
    (sets.share map).card = (loader.maps map).size := by
  rw [shown.share_eq, List.toFinset_card_of_nodup (names_nodup shown.canonical map), names,
    List.length_map, BpfHash.length_keys]

theorem lists (shown : loader.Shows sets) : loader.Lists sets where
  distinctIPs := by
    have distinct := (names_nodup shown.canonical .blocklist).append
      (names_nodup shown.canonical .blocklistV6) (names_disjoint shown.canonical (by decide))
    rw [← blockedIPs_names] at distinct
    apply List.Nodup.of_map (fun text => (text, (0 : UInt32)))
    rw [List.map_map]
    exact distinct
  ips := by
    ext text
    have listed : text ∈ loader.blockedIPs.map IP.string ↔
        (text, (0 : UInt32)) ∈ loader.blockedIPs.map (fun ip => (ip.string, (0 : UInt32))) := by
      simp only [List.mem_map, Prod.mk.injEq, and_true]
    have ipv4 := DropSets.mem_share_source sets true text 0
    have ipv6 := DropSets.mem_share_source sets false text 0
    rw [shown.share_source, List.mem_toFinset] at ipv4 ipv6
    rw [List.mem_toFinset, listed, blockedIPs_names, List.mem_append]
    refine (or_congr ipv4 ipv6).trans ?_
    cases printedIPv4 text <;> simp
  distinctTunnels := by
    rw [blockedTunnels_names]
    exact (names_nodup shown.canonical _).append (names_nodup shown.canonical _)
      (names_disjoint shown.canonical (by decide))
  tunnels := by
    ext ⟨text, teid⟩
    have ipv4 := DropSets.mem_share_tunnel sets true text teid
    have ipv6 := DropSets.mem_share_tunnel sets false text teid
    rw [shown.share_tunnel, List.mem_toFinset] at ipv4 ipv6
    rw [List.mem_toFinset, blockedTunnels_names, List.mem_append]
    refine (or_congr ipv4 ipv6).trans ?_
    cases printedIPv4 text <;> simp

theorem add_source (shown : loader.Shows sets)
    (adds : Adds loader after (.source address)) :
    after.Shows { sets with sources := Insert.insert address.text sets.sources } where
  canonical := adds.canonical shown.canonical (by simp)
  sources text := by
    rw [Finset.mem_insert, shown.sources]
    constructor
    · rintro (rfl | ⟨other, held, rfl⟩)
      · exact ⟨address, (adds.holds _).mpr (.inl rfl), rfl⟩
      · exact ⟨other, (adds.holds _).mpr (.inr held), rfl⟩
    · rintro ⟨other, held, rfl⟩
      rcases (adds.holds _).mp held with same | earlier
      · cases same
        exact .inl rfl
      · exact .inr ⟨other, earlier, rfl⟩
  tunnels text teid := by
    rw [shown.tunnels]
    simp only [adds.holds, reduceCtorEq, false_or]

theorem add_tunnel (shown : loader.Shows sets) (nonzero : teid ≠ 0)
    (adds : Adds loader after (.tunnel address teid)) :
    after.Shows { sets with tunnels := Insert.insert (address.text, teid) sets.tunnels } where
  canonical := adds.canonical shown.canonical (fun _ same => nonzero (Drop.tunnel.inj same).2)
  sources text := by
    rw [shown.sources]
    simp only [adds.holds, reduceCtorEq, false_or]
  tunnels text identity := by
    rw [Finset.mem_insert, shown.tunnels, Prod.mk.injEq]
    constructor
    · rintro (⟨rfl, rfl⟩ | ⟨other, held, rfl⟩)
      · exact ⟨address, (adds.holds _).mpr (.inl rfl), rfl⟩
      · exact ⟨other, (adds.holds _).mpr (.inr held), rfl⟩
    · rintro ⟨other, held, rfl⟩
      rcases (adds.holds _).mp held with same | earlier
      · cases same
        exact .inl ⟨rfl, rfl⟩
      · exact .inr ⟨other, earlier, rfl⟩

theorem remove_source (shown : loader.Shows sets)
    (removes : Removes loader after (.source address)) :
    after.Shows { sets with sources := sets.sources.erase address.text } where
  canonical := removes.canonical shown.canonical
  sources text := by
    rw [Finset.mem_erase, shown.sources]
    constructor
    · rintro ⟨different, other, held, rfl⟩
      refine ⟨other, (removes.holds _).mpr ⟨?_, held⟩, rfl⟩
      rintro ⟨⟩
      exact different rfl
    · rintro ⟨other, held, rfl⟩
      obtain ⟨different, earlier⟩ := (removes.holds _).mp held
      exact ⟨fun same => different (by rw [Address.text_inj same]), other, earlier, rfl⟩
  tunnels text teid := by
    rw [shown.tunnels]
    simp only [removes.holds, ne_eq, reduceCtorEq, not_false_eq_true, true_and]

theorem remove_tunnel (shown : loader.Shows sets)
    (removes : Removes loader after (.tunnel address teid)) :
    after.Shows { sets with tunnels := sets.tunnels.erase (address.text, teid) } where
  canonical := removes.canonical shown.canonical
  sources text := by
    rw [shown.sources]
    simp only [removes.holds, ne_eq, reduceCtorEq, not_false_eq_true, true_and]
  tunnels text identity := by
    rw [Finset.mem_erase, shown.tunnels, ne_eq, Prod.mk.injEq]
    constructor
    · rintro ⟨different, other, held, rfl⟩
      refine ⟨other, (removes.holds _).mpr ⟨?_, held⟩, rfl⟩
      rintro ⟨⟩
      exact different ⟨rfl, rfl⟩
    · rintro ⟨other, held, rfl⟩
      obtain ⟨different, earlier⟩ := (removes.holds _).mp held
      refine ⟨?_, other, earlier, rfl⟩
      rintro ⟨same, rfl⟩
      exact different (by rw [Address.text_inj same])

theorem accepts_iff (shown : loader.Shows sets) {capacity : EnforcementMap → Nat}
    (sized : ∀ map, (loader.maps map).maxEntries = capacity map) (drop : Drop) :
    loader.Accepts drop.slot ↔ loader.Holds drop ∨ sets.HasRoom capacity drop.slot.map := by
  rw [DropSets.HasRoom, shown.card_share, ← sized]
  exact Iff.rfl

end Shows

inductive Agree (capacity : EnforcementMap → Nat) : Except Err Loader → Option DropSets → Prop
  | refused (err : Err) : Agree capacity (.error err) none
  | accepted {next : Loader} {sets : DropSets} (shown : next.Shows sets)
      (sized : ∀ map, (next.maps map).maxEntries = capacity map) :
      Agree capacity (.ok next) (some sets)

theorem Agree.ok_iff {capacity : EnforcementMap → Nat} {result : Except Err Loader}
    {outcome : Option DropSets} (agrees : Agree capacity result outcome) :
    (∃ next, result = .ok next) ↔ outcome.isSome := by
  cases agrees with
  | refused err => simp only [reduceCtorEq, exists_false, Option.isSome_none, Bool.false_eq_true]
  | accepted shown sized => simp only [Except.ok.injEq, exists_eq', Option.isSome_some]

section Step

variable {loader : Loader} {sets : DropSets} {capacity : EnforcementMap → Nat} {ip : IP}
  {address : Address} {context : String}

theorem to16_of_valid (valid : ip.length = 4 ∨ ip.length = 16) :
    ∃ address : Address, ip.to16 = some address.val := by
  rcases valid with four | sixteen
  · have long := to16_of_to4 ip ip (to4_of_length_four ip four)
    exact ⟨⟨_, to16_length ip _ long⟩, long⟩
  · exact ⟨⟨ip, sixteen⟩, to16_eq_self ip sixteen⟩

theorem to16_of_invalid (invalid : ¬ (ip.length = 4 ∨ ip.length = 16)) : ip.to16 = none := by
  rw [IP.to16, if_neg (fun four => invalid (.inl four)),
    if_neg (fun sixteen => invalid (.inr sixteen))]

theorem isIPv4_to16 (long : ip.to16 = some address.val) : isIPv4 address.val = isIPv4 ip := by
  rw [isIPv4, isIPv4, to4_to16 ip address.val long]

theorem insert_agrees {drop : Drop} {map : EnforcementMap} {member : Prop} [Decidable member]
    {grown : DropSets} (shown : loader.Shows sets)
    (sized : ∀ map, (loader.maps map).maxEntries = capacity map) (routed : drop.slot.map = map)
    (listed : member ↔ loader.Holds drop)
    (grows : ∀ after, Adds loader after drop → after.Shows grown) :
    Agree capacity (loader.insert drop.slot context)
      (if member ∨ sets.HasRoom capacity map then some grown else none) := by
  subst routed
  have free := shown.accepts_iff sized drop
  rw [← listed] at free
  by_cases room : loader.Accepts drop.slot
  · obtain ⟨after, stored⟩ := insert_ok loader drop.slot context drop.slot_length room
    rw [if_pos (free.mp room), stored]
    exact .accepted (grows after (insert_adds stored))
      (fun map => (insert_maxEntries stored map).trans (sized map))
  · rw [if_neg (fun space => room (free.mpr space)),
      insert_full loader drop.slot context drop.slot_length room]
    exact .refused _

theorem remove_agrees {drop : Drop} {shrunk : DropSets}
    (sized : ∀ map, (loader.maps map).maxEntries = capacity map)
    (shrinks : ∀ after, Removes loader after drop → after.Shows shrunk) :
    Agree capacity (loader.remove drop.slot context) (some shrunk) := by
  obtain ⟨after, removed⟩ := remove_ok loader drop.slot context
  rw [removed]
  exact .accepted (shrinks after (remove_removes removed))
    (fun map => (remove_maxEntries removed map).trans (sized map))

theorem blocklistMapAndKey_invalid (invalid : ¬ (ip.length = 4 ∨ ip.length = 16)) :
    ∃ err, blocklistMapAndKey ip = .error err := by
  cases routed : blocklistMapAndKey ip with
  | error err => exact ⟨err, rfl⟩
  | ok slot =>
      obtain ⟨address, long, -⟩ := blocklistMapAndKey_inv ip slot routed
      rw [to16_of_invalid invalid] at long
      cases long

theorem tunnelBlocklistMapAndKey_invalid {teid : UInt32}
    (invalid : ¬ ((ip.length = 4 ∨ ip.length = 16) ∧ teid ≠ 0)) :
    ∃ err, tunnelBlocklistMapAndKey ip teid = .error err := by
  cases routed : tunnelBlocklistMapAndKey ip teid with
  | error err => exact ⟨err, rfl⟩
  | ok slot =>
      obtain ⟨address, long, nonzero, -⟩ := tunnelBlocklistMapAndKey_inv ip teid slot routed
      have length : ¬ (ip.length = 4 ∨ ip.length = 16) := fun valid => invalid ⟨valid, nonzero⟩
      rw [to16_of_invalid length] at long
      cases long

/-- One call: the maps and the sets accept it together, and still agree after it. -/
theorem apply_agrees (shown : loader.Shows sets)
    (sized : ∀ map, (loader.maps map).maxEntries = capacity map) (call : BlocklistCall) :
    Agree capacity (call.apply loader) (sets.apply capacity call) := by
  cases call with
  | block ip =>
      rw [BlocklistCall.apply, block, DropSets.apply]
      by_cases valid : ip.length = 4 ∨ ip.length = 16
      · obtain ⟨address, long⟩ := to16_of_valid valid
        simp only [blocklistMapAndKey_eq ip address long, valid, true_and,
          string_eq_text ip address long]
        exact insert_agrees shown sized (by rw [Drop.slot_map_source, isIPv4_to16 long])
          shown.mem_source (fun _ adds => shown.add_source adds)
      · obtain ⟨err, refused⟩ := blocklistMapAndKey_invalid valid
        rw [if_neg (fun accepted => valid accepted.1), refused]
        exact .refused err
  | unblock ip =>
      rw [BlocklistCall.apply, unblock, DropSets.apply]
      by_cases valid : ip.length = 4 ∨ ip.length = 16
      · obtain ⟨address, long⟩ := to16_of_valid valid
        rw [if_pos valid, blocklistMapAndKey_eq ip address long, string_eq_text ip address long]
        exact remove_agrees sized (fun _ removes => shown.remove_source removes)
      · obtain ⟨err, refused⟩ := blocklistMapAndKey_invalid valid
        rw [if_neg valid, refused]
        exact .refused err
  | blockTunnel ip teid =>
      rw [BlocklistCall.apply, blockTunnel, DropSets.apply]
      by_cases valid : (ip.length = 4 ∨ ip.length = 16) ∧ teid ≠ 0
      · obtain ⟨address, long⟩ := to16_of_valid valid.1
        simp only [tunnelBlocklistMapAndKey_eq ip address teid long valid.2, valid.1, valid.2,
          ne_eq, not_false_eq_true, true_and, string_eq_text ip address long]
        exact insert_agrees shown sized (by rw [Drop.slot_map_tunnel, isIPv4_to16 long])
          shown.mem_tunnel (fun _ adds => shown.add_tunnel valid.2 adds)
      · obtain ⟨err, refused⟩ := tunnelBlocklistMapAndKey_invalid valid
        rw [if_neg (fun accepted => valid ⟨accepted.1, accepted.2.1⟩), refused]
        exact .refused err
  | unblockTunnel ip teid =>
      rw [BlocklistCall.apply, unblockTunnel, DropSets.apply]
      by_cases valid : (ip.length = 4 ∨ ip.length = 16) ∧ teid ≠ 0
      · obtain ⟨address, long⟩ := to16_of_valid valid.1
        rw [if_pos valid, tunnelBlocklistMapAndKey_eq ip address teid long valid.2,
          string_eq_text ip address long]
        exact remove_agrees sized (fun _ removes => shown.remove_tunnel removes)
      · obtain ⟨err, refused⟩ := tunnelBlocklistMapAndKey_invalid valid
        rw [if_neg valid, refused]
        exact .refused err

end Step

theorem empty_shows (capacity : EnforcementMap → Nat) : (empty capacity).Shows .empty := by
  have nothing : ∀ drop : Drop, ¬ (empty capacity).Holds drop := by
    intro drop held
    exact Std.ExtTreeMap.not_mem_empty held
  refine ⟨empty_canonical capacity, fun text => ?_, fun text teid => ?_⟩
  · simp only [DropSets.empty, Finset.notMem_empty, nothing, false_and, exists_false]
  · simp only [DropSets.empty, Finset.notMem_empty, nothing, false_and, exists_false]

theorem after_shows {loader : Loader} {sets : DropSets} {capacity : EnforcementMap → Nat}
    (shown : loader.Shows sets) (sized : ∀ map, (loader.maps map).maxEntries = capacity map)
    (call : BlocklistCall) :
    (loader.after call).Shows (sets.after capacity call) ∧
      ∀ map, ((loader.after call).maps map).maxEntries = capacity map := by
  have agrees := apply_agrees shown sized call
  rw [Loader.after, DropSets.after]
  generalize call.apply loader = result at agrees
  generalize sets.apply capacity call = outcome at agrees
  cases agrees with
  | refused err => exact ⟨shown, sized⟩
  | accepted shown sized => exact ⟨shown, sized⟩

theorem run_shows (capacity : EnforcementMap → Nat) (calls : List BlocklistCall) :
    (calls.foldl after (empty capacity)).Shows (calls.foldl (DropSets.after capacity) .empty) ∧
      ∀ map, ((calls.foldl after (empty capacity)).maps map).maxEntries = capacity map := by
  induction calls using List.reverseRecOn with
  | nil => exact ⟨empty_shows capacity, fun _ => rfl⟩
  | append_singleton calls call ih =>
      rw [List.foldl_concat, List.foldl_concat]
      exact after_shows ih.1 ih.2 call

theorem unblock_absent {loader : Loader} {sets : DropSets} (shown : loader.Shows sets) {ip : IP}
    (valid : ip.length = 4 ∨ ip.length = 16) (absent : ip.string ∉ sets.sources) :
    loader.unblock ip = .ok loader := by
  obtain ⟨address, long⟩ := to16_of_valid valid
  rw [string_eq_text ip address long, shown.mem_source] at absent
  rw [unblock, blocklistMapAndKey_eq ip address long]
  exact remove_absent absent

theorem unblockTunnel_absent {loader : Loader} {sets : DropSets} (shown : loader.Shows sets)
    {ip : IP} {teid : UInt32} (valid : ip.length = 4 ∨ ip.length = 16) (nonzero : teid ≠ 0)
    (absent : (ip.string, teid) ∉ sets.tunnels) : loader.unblockTunnel ip teid = .ok loader := by
  obtain ⟨address, long⟩ := to16_of_valid valid
  rw [string_eq_text ip address long, shown.mem_tunnel] at absent
  rw [unblockTunnel, tunnelBlocklistMapAndKey_eq ip address teid long nonzero]
  exact remove_absent absent

end Loader

theorem BlocklistCall.apply_frame {call : BlocklistCall} {before after : Loader}
    (accepted : call.apply before = .ok after) :
    ∃ drop : Drop, (call.Places drop ∨ call.Lifts drop) ∧
      ∀ slot, slot ≠ drop.slot →
        (after.maps slot.map).lookup slot.key = (before.maps slot.map).lookup slot.key := by
  cases call with
  | block ip =>
      rw [apply, Loader.block] at accepted
      split at accepted
      · cases accepted
      · rename_i slot routed
        obtain ⟨address, long, rfl⟩ := blocklistMapAndKey_inv ip slot routed
        exact ⟨.source address, .inl ⟨address, long, rfl⟩,
          fun _ different => Loader.lookup_insert_of_ne accepted different⟩
  | unblock ip =>
      rw [apply, Loader.unblock] at accepted
      split at accepted
      · cases accepted
      · rename_i slot routed
        obtain ⟨address, long, rfl⟩ := blocklistMapAndKey_inv ip slot routed
        exact ⟨.source address, .inr ⟨address, long, rfl⟩,
          fun _ different => Loader.lookup_remove_of_ne accepted different⟩
  | blockTunnel ip teid =>
      rw [apply, Loader.blockTunnel] at accepted
      split at accepted
      · cases accepted
      · rename_i slot routed
        obtain ⟨address, long, nonzero, rfl⟩ := tunnelBlocklistMapAndKey_inv ip teid slot routed
        exact ⟨.tunnel address teid, .inl ⟨address, long, nonzero, rfl⟩,
          fun _ different => Loader.lookup_insert_of_ne accepted different⟩
  | unblockTunnel ip teid =>
      rw [apply, Loader.unblockTunnel] at accepted
      split at accepted
      · cases accepted
      · rename_i slot routed
        obtain ⟨address, long, nonzero, rfl⟩ := tunnelBlocklistMapAndKey_inv ip teid slot routed
        exact ⟨.tunnel address teid, .inr ⟨address, long, nonzero, rfl⟩,
          fun _ different => Loader.lookup_remove_of_ne accepted different⟩

end Sentinel5G.Ebpf
