import Sentinel5G.Ebpf.Drop

namespace Sentinel5G.Ebpf

open Base

inductive BlocklistCall
  | block (ip : IP)
  | unblock (ip : IP)
  | blockTunnel (ip : IP) (teid : UInt32)
  | unblockTunnel (ip : IP) (teid : UInt32)
  deriving DecidableEq, Repr

namespace BlocklistCall

def apply : BlocklistCall → Loader → Except Err Loader
  | .block ip, loader => loader.block ip
  | .unblock ip, loader => loader.unblock ip
  | .blockTunnel ip teid, loader => loader.blockTunnel ip teid
  | .unblockTunnel ip teid, loader => loader.unblockTunnel ip teid

/-- The call asks for `drop`. -/
def Places : BlocklistCall → Drop → Prop
  | .block ip, drop => ∃ address : Address, ip.to16 = some address.val ∧ drop = .source address
  | .blockTunnel ip teid, drop =>
      ∃ address : Address, ip.to16 = some address.val ∧ teid ≠ 0 ∧ drop = .tunnel address teid
  | _, _ => False

/-- The call asks for `drop` to end. -/
def Lifts : BlocklistCall → Drop → Prop
  | .unblock ip, drop => ∃ address : Address, ip.to16 = some address.val ∧ drop = .source address
  | .unblockTunnel ip teid, drop =>
      ∃ address : Address, ip.to16 = some address.val ∧ teid ≠ 0 ∧ drop = .tunnel address teid
  | _, _ => False

def placing : BlocklistCall → Bool
  | .block _ => true
  | .unblock _ => false
  | .blockTunnel _ _ => true
  | .unblockTunnel _ _ => false

theorem address_unique {ip : IP} {first second : Address} (one : ip.to16 = some first.val)
    (other : ip.to16 = some second.val) : first = second := by
  apply Subtype.ext
  rw [one, Option.some.injEq] at other
  exact other

theorem Places.identified {call : BlocklistCall} {drop : Drop} (places : call.Places drop) :
    ∀ address, drop ≠ .tunnel address 0 := by
  cases call with
  | block ip =>
      obtain ⟨address, -, rfl⟩ := places
      simp
  | blockTunnel ip teid =>
      obtain ⟨address, -, nonzero, rfl⟩ := places
      simp [nonzero]
  | unblock ip => exact places.elim
  | unblockTunnel ip teid => exact places.elim

theorem apply_adds {call : BlocklistCall} {drop : Drop} {before after : Loader}
    (places : call.Places drop) (accepted : call.apply before = .ok after) :
    Loader.Adds before after drop := by
  cases call with
  | block ip =>
      obtain ⟨address, long, rfl⟩ := places
      obtain ⟨placed, same, adds⟩ := Loader.block_adds accepted
      rwa [address_unique long same]
  | blockTunnel ip teid =>
      obtain ⟨address, long, -, rfl⟩ := places
      obtain ⟨placed, same, -, adds⟩ := Loader.blockTunnel_adds accepted
      rwa [address_unique long same]
  | unblock ip => exact places.elim
  | unblockTunnel ip teid => exact places.elim

theorem apply_refused {call : BlocklistCall} {drop : Drop} {loader : Loader} {err : Err}
    (places : call.Places drop) (refused : call.apply loader = .error err) :
    ¬ loader.Accepts drop.slot := by
  intro room
  cases call with
  | block ip =>
      obtain ⟨address, long, rfl⟩ := places
      obtain ⟨after, stored⟩ := Loader.insert_ok loader _
        ("insert " ++ ip.string ++ " into blocklist map") (Drop.slot_length _) room
      rw [apply, Loader.block, blocklistMapAndKey_eq ip address long] at refused
      cases stored.symm.trans refused
  | blockTunnel ip teid =>
      obtain ⟨address, long, nonzero, rfl⟩ := places
      obtain ⟨after, stored⟩ := Loader.insert_ok loader _
        ("insert tunnel " ++ ip.string ++ "/" ++ hexLiteral teid.toNat ++
          " into tunnel blocklist map") (Drop.slot_length _) room
      rw [apply, Loader.blockTunnel,
        tunnelBlocklistMapAndKey_eq ip address teid long nonzero] at refused
      cases stored.symm.trans refused
  | unblock ip => exact places.elim
  | unblockTunnel ip teid => exact places.elim

theorem apply_lifts {call : BlocklistCall} {drop : Drop} (lifts : call.Lifts drop)
    (loader : Loader) :
    ∃ after, call.apply loader = .ok after ∧ Loader.Removes loader after drop := by
  cases call with
  | unblock ip =>
      obtain ⟨address, long, rfl⟩ := lifts
      obtain ⟨after, removed⟩ := Loader.remove_ok loader (Drop.source address).slot
        ("remove " ++ ip.string ++ " from blocklist map")
      refine ⟨after, ?_, Loader.remove_removes removed⟩
      rw [apply, Loader.unblock, blocklistMapAndKey_eq ip address long]
      exact removed
  | unblockTunnel ip teid =>
      obtain ⟨address, long, nonzero, rfl⟩ := lifts
      obtain ⟨after, removed⟩ := Loader.remove_ok loader (Drop.tunnel address teid).slot
        ("remove tunnel " ++ ip.string ++ "/" ++ hexLiteral teid.toNat ++
          " from tunnel blocklist map")
      refine ⟨after, ?_, Loader.remove_removes removed⟩
      rw [apply, Loader.unblockTunnel, tunnelBlocklistMapAndKey_eq ip address teid long nonzero]
      exact removed
  | block ip => exact lifts.elim
  | blockTunnel ip teid => exact lifts.elim

theorem apply_cases {call : BlocklistCall} {before after : Loader}
    (accepted : call.apply before = .ok after) :
    (∃ drop, call.Places drop ∧ Loader.Adds before after drop) ∨
      ∃ drop, call.Lifts drop ∧ Loader.Removes before after drop := by
  cases call with
  | block ip =>
      obtain ⟨address, long, adds⟩ := Loader.block_adds accepted
      exact .inl ⟨_, ⟨address, long, rfl⟩, adds⟩
  | blockTunnel ip teid =>
      obtain ⟨address, long, nonzero, adds⟩ := Loader.blockTunnel_adds accepted
      exact .inl ⟨_, ⟨address, long, nonzero, rfl⟩, adds⟩
  | unblock ip =>
      obtain ⟨address, long, removes⟩ := Loader.unblock_removes accepted
      exact .inr ⟨_, ⟨address, long, rfl⟩, removes⟩
  | unblockTunnel ip teid =>
      obtain ⟨address, long, nonzero, removes⟩ := Loader.unblockTunnel_removes accepted
      exact .inr ⟨_, ⟨address, long, nonzero, rfl⟩, removes⟩

end BlocklistCall

namespace Loader

/-- From `before` to `after` only `fresh` drops came and only `gone` drops left. -/
structure Moves (fresh gone : Drop → Prop) (before after : Loader) : Prop where
  kept : ∀ drop, before.Holds drop → after.Holds drop ∨ gone drop
  added : ∀ drop, after.Holds drop → before.Holds drop ∨ fresh drop
  canonical : before.Canonical → after.Canonical
  capacity : ∀ map, (after.maps map).maxEntries = (before.maps map).maxEntries

namespace Moves

variable {fresh gone : Drop → Prop} {before middle after : Loader}

theorem refl (loader : Loader) : Moves fresh gone loader loader where
  kept := fun _ held => .inl held
  added := fun _ held => .inl held
  canonical := id
  capacity := fun _ => rfl

theorem trans (earlier : Moves fresh gone before middle) (later : Moves fresh gone middle after) :
    Moves fresh gone before after where
  kept := fun drop held => (earlier.kept drop held).elim (later.kept drop) .inr
  added := fun drop held => (later.added drop held).elim (earlier.added drop) .inr
  canonical := fun canonical => later.canonical (earlier.canonical canonical)
  capacity := fun map => (later.capacity map).trans (earlier.capacity map)

theorem of_adds {drop : Drop} (adds : Adds before after drop)
    (identified : ∀ address, drop ≠ .tunnel address 0) (comes : fresh drop) :
    Moves fresh gone before after where
  kept := fun other held => .inl ((adds.holds other).mpr (.inr held))
  added := by
    intro other held
    rcases (adds.holds other).mp held with rfl | earlier
    · exact .inr comes
    · exact .inl earlier
  canonical := fun canonical => adds.canonical canonical identified
  capacity := adds.2

theorem of_removes {drop : Drop} (removes : Removes before after drop) (leaves : gone drop) :
    Moves fresh gone before after where
  kept := by
    intro other held
    by_cases same : other = drop
    · exact .inr (same ▸ leaves)
    · exact .inl ((removes.holds other).mpr ⟨same, held⟩)
  added := fun other held => .inl ((removes.holds other).mp held).2
  canonical := removes.canonical
  capacity := removes.2

end Moves

/-- What the kernel can hold: the maps started empty, and every change was made
through the loader. -/
inductive Reachable : Loader → Prop
  | empty (capacity : EnforcementMap → Nat) : Reachable (.empty capacity)
  | call {before after : Loader} (reached : Reachable before) (call : BlocklistCall)
      (accepted : call.apply before = .ok after) : Reachable after

theorem Reachable.canonical {loader : Loader} (reached : loader.Reachable) :
    loader.Canonical := by
  induction reached with
  | empty capacity => exact empty_canonical capacity
  | call reached call accepted ih =>
      rcases BlocklistCall.apply_cases accepted with ⟨drop, places, adds⟩ | ⟨drop, -, removes⟩
      · exact adds.canonical ih places.identified
      · exact removes.canonical ih

/-- The map has no room for another key. -/
def Full (loader : Loader) (map : EnforcementMap) : Prop :=
  (loader.maps map).maxEntries ≤ (loader.maps map).size

theorem full_of_refused {loader : Loader} {slot : Slot} (refused : ¬ loader.Accepts slot) :
    loader.Full slot.map := by
  rw [Full]
  by_contra room
  exact refused (.inr (Nat.not_le.mp room))

theorem Adds.full {before after : Loader} {drop : Drop} (adds : Adds before after drop)
    {map : EnforcementMap} (full : before.Full map) : after.Full map := by
  have larger : (before.maps map).size ≤ (after.maps map).size := by
    apply BpfHash.size_le_of_subset
    intro key member
    exact (adds.1 ⟨map, key⟩).mpr (.inr member)
  calc (after.maps map).maxEntries = (before.maps map).maxEntries := adds.2 map
    _ ≤ (before.maps map).size := full
    _ ≤ (after.maps map).size := larger

end Loader

end Sentinel5G.Ebpf
