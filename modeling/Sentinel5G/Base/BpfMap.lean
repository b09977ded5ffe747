import Sentinel5G.Base.Bytes
import Mathlib.Data.List.Perm.Subperm
import Std.Data.ExtTreeMap.Lemmas

/-! BPF hash maps: opaque byte keys of a fixed size, a fixed capacity, and an
insertion of a new key that is refused, never evicting, when the map is full. -/

namespace Sentinel5G.Base

inductive MapError
  | keySize
  | full
  | keyNotExist
  deriving DecidableEq, Repr

theorem getElem?_insert_update {β : Type} (update : Option β → β)
    (map : Std.ExtTreeMap Bytes β compare) (key other : Bytes) :
    (map.insert key (update map[key]?))[other]? =
      if key = other then some (update map[other]?) else map[other]? := by
  rw [Std.ExtTreeMap.getElem?_insert]
  simp only [Std.LawfulEqCmp.compare_eq_iff_eq]
  split
  · rename_i same
    rw [same]
  · rfl

structure BpfHash (keySize : Nat) where
  entries : Std.ExtTreeMap Bytes UInt8 compare
  maxEntries : Nat
  sized : ∀ key ∈ entries, key.length = keySize
  bounded : entries.size ≤ maxEntries

namespace BpfHash

variable {keySize : Nat}

instance : Membership Bytes (BpfHash keySize) := ⟨fun map key => key ∈ map.entries⟩

instance (map : BpfHash keySize) (key : Bytes) : Decidable (key ∈ map) :=
  inferInstanceAs (Decidable (key ∈ map.entries))

def empty (keySize maxEntries : Nat) : BpfHash keySize where
  entries := ∅
  maxEntries := maxEntries
  sized := by simp
  bounded := by simp

def lookup (map : BpfHash keySize) (key : Bytes) : Option UInt8 := map.entries[key]?

def keys (map : BpfHash keySize) : List Bytes := map.entries.keys

def size (map : BpfHash keySize) : Nat := map.entries.size

/-- A key that is present, or for which there is still room. -/
def Accepts (map : BpfHash keySize) (key : Bytes) : Prop :=
  key ∈ map ∨ map.size < map.maxEntries

instance (map : BpfHash keySize) (key : Bytes) : Decidable (map.Accepts key) :=
  inferInstanceAs (Decidable (_ ∨ _))

theorem insert_bounded (map : BpfHash keySize) (key : Bytes) (value : UInt8)
    (room : map.Accepts key) : (map.entries.insert key value).size ≤ map.maxEntries := by
  rw [Std.ExtTreeMap.size_insert]
  rcases room with present | space
  · rw [if_pos (Std.ExtTreeMap.mem_iff_contains.mp present)]
    exact map.bounded
  · split
    · exact map.bounded
    · exact space

def put (map : BpfHash keySize) (key : Bytes) (value : UInt8) : Except MapError (BpfHash keySize) :=
  if length : key.length = keySize then
    if room : map.Accepts key then
      .ok {
        map with
        entries := map.entries.insert key value
        sized := by
          intro other member
          rcases Std.ExtTreeMap.mem_insert.mp member with same | member
          · rwa [← Std.LawfulEqCmp.eq_of_compare same]
          · exact map.sized other member
        bounded := insert_bounded map key value room }
    else .error .full
  else .error .keySize

def delete (map : BpfHash keySize) (key : Bytes) : Except MapError (BpfHash keySize) :=
  if key ∈ map then
    .ok {
      map with
      entries := map.entries.erase key
      sized := fun other member => map.sized other (Std.ExtTreeMap.mem_of_mem_erase member)
      bounded := Nat.le_trans Std.ExtTreeMap.size_erase_le map.bounded }
  else .error .keyNotExist

theorem length_of_mem {map : BpfHash keySize} {key : Bytes} (member : key ∈ map) :
    key.length = keySize := map.sized key member

theorem mem_keys {map : BpfHash keySize} {key : Bytes} : key ∈ map.keys ↔ key ∈ map :=
  Std.ExtTreeMap.mem_keys

theorem keys_nodup (map : BpfHash keySize) : map.keys.Nodup := by
  have distinct : map.entries.keys.Pairwise (fun first second => ¬ compare first second = .eq) :=
    Std.ExtTreeMap.distinct_keys
  simp only [Std.LawfulEqCmp.compare_eq_iff_eq] at distinct
  exact distinct

theorem length_keys (map : BpfHash keySize) : map.keys.length = map.size :=
  Std.ExtTreeMap.length_keys

theorem lookup_isSome {map : BpfHash keySize} {key : Bytes} :
    (map.lookup key).isSome ↔ key ∈ map := by
  rw [lookup]
  exact Std.ExtTreeMap.mem_iff_isSome_getElem?.symm

theorem mem_put {map after : BpfHash keySize} {key : Bytes} {value : UInt8}
    (accepted : map.put key value = .ok after) (other : Bytes) :
    other ∈ after ↔ other = key ∨ other ∈ map := by
  simp only [put] at accepted
  split at accepted
  · split at accepted
    · cases accepted
      have step : other ∈ map.entries.insert key value ↔
          compare key other = .eq ∨ other ∈ map.entries := Std.ExtTreeMap.mem_insert
      rw [Std.LawfulEqCmp.compare_eq_iff_eq] at step
      exact step.trans (or_congr_left eq_comm)
    · cases accepted
  · cases accepted

theorem lookup_put {map after : BpfHash keySize} {key : Bytes} {value : UInt8}
    (accepted : map.put key value = .ok after) : after.lookup key = some value := by
  simp only [put] at accepted
  split at accepted
  · split at accepted
    · cases accepted
      exact Std.ExtTreeMap.getElem?_insert_self
    · cases accepted
  · cases accepted

theorem lookup_put_of_ne {map after : BpfHash keySize} {key other : Bytes} {value : UInt8}
    (accepted : map.put key value = .ok after) (different : other ≠ key) :
    after.lookup other = map.lookup other := by
  simp only [put] at accepted
  split at accepted
  · split at accepted
    · cases accepted
      have step : (map.entries.insert key value)[other]? =
          if compare key other = .eq then some value else map.entries[other]? :=
        Std.ExtTreeMap.getElem?_insert
      simp only [Std.LawfulEqCmp.compare_eq_iff_eq, different.symm, if_false] at step
      exact step
    · cases accepted
  · cases accepted

theorem lookup_delete_of_ne {map after : BpfHash keySize} {key other : Bytes}
    (accepted : map.delete key = .ok after) (different : other ≠ key) :
    after.lookup other = map.lookup other := by
  simp only [delete] at accepted
  split at accepted
  · cases accepted
    have step : (map.entries.erase key)[other]? =
        if compare key other = .eq then none else map.entries[other]? :=
      Std.ExtTreeMap.getElem?_erase
    simp only [Std.LawfulEqCmp.compare_eq_iff_eq, different.symm, if_false] at step
    exact step
  · cases accepted

theorem mem_delete {map after : BpfHash keySize} {key : Bytes}
    (accepted : map.delete key = .ok after) (other : Bytes) :
    other ∈ after ↔ other ≠ key ∧ other ∈ map := by
  simp only [delete] at accepted
  split at accepted
  · cases accepted
    have step : other ∈ map.entries.erase key ↔
        compare key other ≠ .eq ∧ other ∈ map.entries := Std.ExtTreeMap.mem_erase
    rw [ne_eq, Std.LawfulEqCmp.compare_eq_iff_eq] at step
    exact step.trans (and_congr_left' (not_congr eq_comm))
  · cases accepted

theorem put_maxEntries {map after : BpfHash keySize} {key : Bytes} {value : UInt8}
    (accepted : map.put key value = .ok after) : after.maxEntries = map.maxEntries := by
  simp only [put] at accepted
  split at accepted
  · split at accepted
    · cases accepted
      rfl
    · cases accepted
  · cases accepted

theorem delete_maxEntries {map after : BpfHash keySize} {key : Bytes}
    (accepted : map.delete key = .ok after) : after.maxEntries = map.maxEntries := by
  simp only [delete] at accepted
  split at accepted
  · cases accepted
    rfl
  · cases accepted

theorem put_ok (map : BpfHash keySize) (key : Bytes) (value : UInt8)
    (length : key.length = keySize) (room : map.Accepts key) :
    ∃ after, map.put key value = .ok after := by
  rw [put, dif_pos length, dif_pos room]
  exact ⟨_, rfl⟩

theorem put_full (map : BpfHash keySize) (key : Bytes) (value : UInt8)
    (length : key.length = keySize) (full : ¬ map.Accepts key) :
    map.put key value = .error .full := by
  rw [put, dif_pos length, dif_neg full]

theorem delete_ok (map : BpfHash keySize) (key : Bytes) (member : key ∈ map) :
    ∃ after, map.delete key = .ok after := by
  rw [delete, if_pos member]
  exact ⟨_, rfl⟩

theorem delete_absent (map : BpfHash keySize) (key : Bytes) (absent : key ∉ map) :
    map.delete key = .error .keyNotExist := by
  rw [delete, if_neg absent]

theorem size_le_of_keys_subset (map : BpfHash keySize) (keys : List Bytes)
    (covered : ∀ key ∈ map, key ∈ keys) : map.size ≤ keys.length := by
  rw [← length_keys]
  exact (map.keys_nodup.subperm (fun key member => covered key (mem_keys.mp member))).length_le

theorem size_le_of_subset {map wider : BpfHash keySize} (inside : ∀ key ∈ map, key ∈ wider) :
    map.size ≤ wider.size := by
  rw [← length_keys wider]
  exact size_le_of_keys_subset map wider.keys (fun key member => mem_keys.mpr (inside key member))

theorem size_lt_of_missing (map : BpfHash keySize) (keys : List Bytes)
    (covered : ∀ key ∈ map, key ∈ keys) {missing : Bytes} (listed : missing ∈ keys)
    (absent : missing ∉ map) : map.size < keys.length := by
  have fewer := size_le_of_keys_subset map (keys.erase missing) (by
    intro key member
    have different : key ≠ missing := fun same => absent (same ▸ member)
    exact (List.mem_erase_of_ne different).mpr (covered key member))
  have shorter := List.length_erase_of_mem listed
  have nonempty := List.length_pos_of_mem listed
  omega

end BpfHash

end Sentinel5G.Base
