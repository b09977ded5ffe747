import Sentinel5G.Base.Error
import Sentinel5G.Base.IPText

namespace Sentinel5G.Ebpf

open Base

inductive EnforcementMap
  | blocklist
  | blocklistV6
  | tunnelBlocklist
  | tunnelBlocklistV6
  deriving DecidableEq, Repr

def EnforcementMap.keySize : EnforcementMap → Nat
  | .blocklist => 4
  | .blocklistV6 => 16
  | .tunnelBlocklist => 8
  | .tunnelBlocklistV6 => 24

/-- The place of one drop: a map and a key of it. -/
structure Slot where
  map : EnforcementMap
  key : Bytes
  deriving DecidableEq, Repr

structure BlockedTunnel where
  ip : IP
  teid : UInt32
  deriving DecidableEq, Repr

structure Loader where
  maps : (map : EnforcementMap) → BpfHash map.keySize

def blockedValue : UInt8 := 1

def isIPv4 (ip : IP) : Bool := ip.to4.isSome

def ipv4Key (ip : IP) : Except Err Bytes :=
  match ip.to4 with
  | none => .error (errorf ("blocklist only supports IPv4 addresses, got " ++ quoted ip.string))
  | some v4 => .ok v4

def ipv6Key (ip : IP) : Except Err Bytes :=
  if isIPv4 ip then
    .error (errorf ("blocklist_v6 only supports IPv6 addresses, got " ++ quoted ip.string))
  else match ip.to16 with
    | none => .error (errorf ("blocklist_v6 only supports IPv6 addresses, got " ++
        quoted ip.string))
    | some v6 => .ok v6

def tunnelRateKey (v4 : IP) (teid : UInt32) : Bytes :=
  leBytes 4 (leNat v4) ++ leBytes 4 teid.toNat

def tunnelRateKeyV6 (v6 : IP) (teid : UInt32) : Bytes :=
  v6 ++ leBytes 4 teid.toNat ++ [0, 0, 0, 0]

def blocklistMapAndKey (ip : IP) : Except Err Slot :=
  if isIPv4 ip then (ipv4Key ip).map (Slot.mk .blocklist)
  else (ipv6Key ip).map (Slot.mk .blocklistV6)

def tunnelBlocklistMapAndKey (ip : IP) (teid : UInt32) : Except Err Slot :=
  if teid = 0 then
    .error (errorf ("refusing to block tunnel 0 for " ++ ip.string ++
      ": 0 means \"no tunnel identity\", not a tunnel"))
  else match ip.to4 with
    | some v4 => .ok ⟨.tunnelBlocklist, tunnelRateKey v4 teid⟩
    | none => (ipv6Key ip).map (fun v6 => ⟨.tunnelBlocklistV6, tunnelRateKeyV6 v6 teid⟩)

namespace Loader

instance : Membership Slot Loader := ⟨fun loader slot => slot.key ∈ loader.maps slot.map⟩

instance (loader : Loader) (slot : Slot) : Decidable (slot ∈ loader) :=
  inferInstanceAs (Decidable (slot.key ∈ loader.maps slot.map))

def withMap (loader : Loader) (map : EnforcementMap) (after : BpfHash map.keySize) : Loader :=
  ⟨Function.update loader.maps map after⟩

def insert (loader : Loader) (slot : Slot) (context : String) : Except Err Loader :=
  match (loader.maps slot.map).put slot.key blockedValue with
  | .error err => .error ((mapErr err).wrap context)
  | .ok after => .ok (loader.withMap slot.map after)

/-- `m.Delete(key)`, an absent key being the outcome asked for. -/
def remove (loader : Loader) (slot : Slot) (context : String) : Except Err Loader :=
  match (loader.maps slot.map).delete slot.key with
  | .error .keyNotExist => .ok loader
  | .error err => .error ((mapErr err).wrap context)
  | .ok after => .ok (loader.withMap slot.map after)

def block (loader : Loader) (ip : IP) : Except Err Loader :=
  match blocklistMapAndKey ip with
  | .error err => .error err
  | .ok slot => loader.insert slot ("insert " ++ ip.string ++ " into blocklist map")

def unblock (loader : Loader) (ip : IP) : Except Err Loader :=
  match blocklistMapAndKey ip with
  | .error err => .error err
  | .ok slot => loader.remove slot ("remove " ++ ip.string ++ " from blocklist map")

def blockTunnel (loader : Loader) (ip : IP) (teid : UInt32) : Except Err Loader :=
  match tunnelBlocklistMapAndKey ip teid with
  | .error err => .error err
  | .ok slot =>
      loader.insert slot
        ("insert tunnel " ++ ip.string ++ "/" ++ hexLiteral teid.toNat ++
          " into tunnel blocklist map")

def unblockTunnel (loader : Loader) (ip : IP) (teid : UInt32) : Except Err Loader :=
  match tunnelBlocklistMapAndKey ip teid with
  | .error err => .error err
  | .ok slot =>
      loader.remove slot
        ("remove tunnel " ++ ip.string ++ "/" ++ hexLiteral teid.toNat ++
          " from tunnel blocklist map")

def blockedIPs (loader : Loader) : List IP :=
  (loader.maps .blocklist).keys ++ (loader.maps .blocklistV6).keys

def tunnelOfKey (key : Bytes) : BlockedTunnel :=
  ⟨leBytes 4 (leNat (slice key 0 4)), UInt32.ofNat (leNat (slice key 4 4))⟩

def tunnelOfKeyV6 (key : Bytes) : BlockedTunnel :=
  ⟨slice key 0 16, UInt32.ofNat (leNat (slice key 16 4))⟩

def blockedTunnels (loader : Loader) : List BlockedTunnel :=
  (loader.maps .tunnelBlocklist).keys.map tunnelOfKey ++
    (loader.maps .tunnelBlocklistV6).keys.map tunnelOfKeyV6

/-- `max_entries` of the two IPv4 enforcement maps, which both families share. -/
def mapCapacity (loader : Loader) : Nat × Nat :=
  ((loader.maps .blocklist).maxEntries, (loader.maps .tunnelBlocklist).maxEntries)

def empty (capacity : EnforcementMap → Nat) : Loader :=
  ⟨fun map => BpfHash.empty map.keySize (capacity map)⟩

@[simp] theorem withMap_self (loader : Loader) (map : EnforcementMap)
    (after : BpfHash map.keySize) : (loader.withMap map after).maps map = after := by
  simp only [withMap, Function.update_self]

theorem withMap_of_ne (loader : Loader) (map other : EnforcementMap)
    (after : BpfHash map.keySize) (different : other ≠ map) :
    (loader.withMap map after).maps other = loader.maps other := by
  simp only [withMap, ne_eq, different, not_false_eq_true, Function.update_of_ne]

theorem mem_withMap (loader : Loader) (slot other : Slot) (after : BpfHash slot.map.keySize)
    (replaced : Prop) (kept : ∀ key, key ∈ after ↔ (key = slot.key ∧ replaced) ∨
      (key ≠ slot.key ∧ key ∈ loader.maps slot.map)) :
    other ∈ loader.withMap slot.map after ↔
      (other = slot ∧ replaced) ∨ (other ≠ slot ∧ other ∈ loader) := by
  obtain ⟨map, key⟩ := slot
  obtain ⟨otherMap, otherKey⟩ := other
  by_cases same : otherMap = map
  · subst same
    have inside : (⟨otherMap, otherKey⟩ : Slot) ∈ loader.withMap otherMap after ↔
        otherKey ∈ after := by
      change otherKey ∈ (loader.withMap otherMap after).maps otherMap ↔ _
      rw [withMap_self]
    rw [inside, kept otherKey]
    simp only [Slot.mk.injEq, true_and, ne_eq]
    exact Iff.rfl
  · have outside : (⟨otherMap, otherKey⟩ : Slot) ∈ loader.withMap map after ↔
        (⟨otherMap, otherKey⟩ : Slot) ∈ loader := by
      change otherKey ∈ (loader.withMap map after).maps otherMap ↔ _
      rw [withMap_of_ne loader map otherMap after same]
      exact Iff.rfl
    simp only [outside, Slot.mk.injEq, same, false_and, false_or, ne_eq, not_false_eq_true,
      true_and]

theorem lookup_insert {loader after : Loader} {slot : Slot} {context : String}
    (accepted : loader.insert slot context = .ok after) :
    (after.maps slot.map).lookup slot.key = some blockedValue := by
  rw [insert] at accepted
  split at accepted
  · cases accepted
  · rename_i map stored
    cases accepted
    rw [withMap_self]
    exact BpfHash.lookup_put stored

theorem lookup_withMap (loader : Loader) {slot other : Slot} (after : BpfHash slot.map.keySize)
    (kept : ∀ key, key ≠ slot.key → after.lookup key = (loader.maps slot.map).lookup key)
    (different : other ≠ slot) :
    ((loader.withMap slot.map after).maps other.map).lookup other.key =
      (loader.maps other.map).lookup other.key := by
  obtain ⟨map, key⟩ := slot
  obtain ⟨otherMap, otherKey⟩ := other
  by_cases same : otherMap = map
  · subst same
    rw [withMap_self]
    exact kept otherKey (fun sameKey => different (by rw [sameKey]))
  · rw [withMap_of_ne loader map otherMap after same]

theorem lookup_insert_of_ne {loader after : Loader} {slot other : Slot} {context : String}
    (accepted : loader.insert slot context = .ok after) (different : other ≠ slot) :
    (after.maps other.map).lookup other.key = (loader.maps other.map).lookup other.key := by
  rw [insert] at accepted
  split at accepted
  · cases accepted
  · rename_i map stored
    cases accepted
    exact lookup_withMap loader map (fun _ => BpfHash.lookup_put_of_ne stored) different

theorem mem_insert {loader after : Loader} {slot : Slot} {context : String}
    (accepted : loader.insert slot context = .ok after) (other : Slot) :
    other ∈ after ↔ other = slot ∨ other ∈ loader := by
  rw [insert] at accepted
  split at accepted
  · cases accepted
  · rename_i map stored
    cases accepted
    rw [mem_withMap loader slot other map True (fun key => by
      rw [BpfHash.mem_put stored key]
      tauto)]
    tauto

theorem remove_ok (loader : Loader) (slot : Slot) (context : String) :
    ∃ after, loader.remove slot context = .ok after := by
  rw [remove]
  by_cases member : slot.key ∈ loader.maps slot.map
  · obtain ⟨map, deleted⟩ := BpfHash.delete_ok _ _ member
    rw [deleted]
    exact ⟨_, rfl⟩
  · rw [BpfHash.delete_absent _ _ member]
    exact ⟨_, rfl⟩

theorem mem_remove {loader after : Loader} {slot : Slot} {context : String}
    (accepted : loader.remove slot context = .ok after) (other : Slot) :
    other ∈ after ↔ other ≠ slot ∧ other ∈ loader := by
  rw [remove] at accepted
  by_cases member : slot.key ∈ loader.maps slot.map
  · obtain ⟨map, deleted⟩ := BpfHash.delete_ok _ _ member
    rw [deleted] at accepted
    cases accepted
    rw [mem_withMap loader slot other map False (fun key => by
      rw [BpfHash.mem_delete deleted key]
      tauto)]
    tauto
  · rw [BpfHash.delete_absent _ _ member] at accepted
    cases accepted
    have absent : slot ∉ loader := member
    constructor
    · intro present
      exact ⟨fun same => absent (same ▸ present), present⟩
    · exact And.right

theorem remove_absent {loader : Loader} {slot : Slot} {context : String} (absent : slot ∉ loader) :
    loader.remove slot context = .ok loader := by
  rw [remove, BpfHash.delete_absent _ _ absent]

theorem lookup_remove_of_ne {loader after : Loader} {slot other : Slot} {context : String}
    (accepted : loader.remove slot context = .ok after) (different : other ≠ slot) :
    (after.maps other.map).lookup other.key = (loader.maps other.map).lookup other.key := by
  rw [remove] at accepted
  split at accepted
  · cases accepted
    rfl
  · cases accepted
  · rename_i map deleted
    cases accepted
    exact lookup_withMap loader map (fun _ => BpfHash.lookup_delete_of_ne deleted) different

def Accepts (loader : Loader) (slot : Slot) : Prop := (loader.maps slot.map).Accepts slot.key

theorem insert_ok (loader : Loader) (slot : Slot) (context : String)
    (length : slot.key.length = slot.map.keySize) (room : loader.Accepts slot) :
    ∃ after, loader.insert slot context = .ok after := by
  obtain ⟨map, stored⟩ := BpfHash.put_ok _ _ blockedValue length room
  rw [insert, stored]
  exact ⟨_, rfl⟩

theorem insert_full (loader : Loader) (slot : Slot) (context : String)
    (length : slot.key.length = slot.map.keySize) (full : ¬ loader.Accepts slot) :
    loader.insert slot context = .error ((mapErr .full).wrap context) := by
  rw [insert, BpfHash.put_full _ _ blockedValue length full]

theorem insert_maxEntries {loader after : Loader} {slot : Slot} {context : String}
    (accepted : loader.insert slot context = .ok after) (map : EnforcementMap) :
    (after.maps map).maxEntries = (loader.maps map).maxEntries := by
  rw [insert] at accepted
  split at accepted
  · cases accepted
  · rename_i stored put
    cases accepted
    by_cases same : map = slot.map
    · subst same
      rw [withMap_self, BpfHash.put_maxEntries put]
    · rw [withMap_of_ne _ _ _ _ same]

theorem remove_maxEntries {loader after : Loader} {slot : Slot} {context : String}
    (accepted : loader.remove slot context = .ok after) (map : EnforcementMap) :
    (after.maps map).maxEntries = (loader.maps map).maxEntries := by
  rw [remove] at accepted
  split at accepted
  · cases accepted
    rfl
  · cases accepted
  · rename_i stored deleted
    cases accepted
    by_cases same : map = slot.map
    · subst same
      rw [withMap_self, BpfHash.delete_maxEntries deleted]
    · rw [withMap_of_ne _ _ _ _ same]

end Loader

end Sentinel5G.Ebpf
