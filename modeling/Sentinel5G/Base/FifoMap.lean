import Mathlib.Data.List.Nodup
import Std.Data.ExtTreeMap.Lemmas

/-! A map of fixed capacity: a ring remembers the keys in the order they came,
and a new key takes the place of the oldest once the map is full. -/

namespace Sentinel5G.Base

structure FifoMap (K V : Type) (cmp : K → K → Ordering) [Std.TransCmp cmp] where
  entries : Std.ExtTreeMap K V cmp
  order : List K
  next : Nat
  inside : next < order.length

namespace FifoMap

variable {K V : Type} {cmp : K → K → Ordering} [Std.TransCmp cmp]

def empty [Inhabited K] (capacity : Nat) (positive : 0 < capacity) : FifoMap K V cmp where
  entries := ∅
  order := List.replicate capacity default
  next := 0
  inside := by rwa [List.length_replicate]

def lookup (map : FifoMap K V cmp) (key : K) : Option V := map.entries[key]?

def oldest (map : FifoMap K V cmp) : K := map.order.get ⟨map.next, map.inside⟩

def remember (map : FifoMap K V cmp) (key : K) (value : V) : FifoMap K V cmp where
  entries :=
    (if map.order.length ≤ map.entries.size then map.entries.erase map.oldest
      else map.entries).insert key value
  order := map.order.set map.next key
  next := (map.next + 1) % map.order.length
  inside := by
    rw [List.length_set]
    exact Nat.mod_lt _ (Nat.lt_of_le_of_lt (Nat.zero_le _) map.inside)

def update (map : FifoMap K V cmp) (key : K) (value : V) : FifoMap K V cmp :=
  { map with entries := map.entries.insert key value }

def ring (map : FifoMap K V cmp) : List K := map.order.drop map.next ++ map.order.take map.next

def capacity (map : FifoMap K V cmp) : Nat := map.order.length

end FifoMap

def latest {α : Type} (count : Nat) (xs : List α) : List α := xs.drop (xs.length - count)

theorem length_latest {α : Type} (count : Nat) (xs : List α) :
    (latest count xs).length = min count xs.length := by
  rw [latest, List.length_drop]
  omega

theorem latest_eq_self {α : Type} {count : Nat} {xs : List α} (few : xs.length ≤ count) :
    latest count xs = xs := by
  rw [latest, Nat.sub_eq_zero_of_le few, List.drop_zero]

theorem latest_concat {α : Type} {count : Nat} (positive : 0 < count) (xs : List α) (x : α) :
    latest count (xs ++ [x]) =
      (if xs.length < count then latest count xs else (latest count xs).tail) ++ [x] := by
  rw [latest, latest, List.length_append, List.length_singleton]
  split
  · rename_i room
    rw [List.drop_append_of_le_length (by omega), show xs.length + 1 - count = 0 by omega,
      show xs.length - count = 0 by omega]
  · rw [List.tail_drop, List.drop_append_of_le_length (by omega),
      show xs.length - count + 1 = xs.length + 1 - count by omega]

theorem others_of_not_mem_latest {α : Type} [DecidableEq α] {count : Nat} {before after : List α}
    {x : α} (gone : x ∉ latest count (before ++ x :: after)) :
    count ≤ (after.filter (fun y => decide (y ≠ x))).length := by
  have behind : count ≤ after.length := by
    by_contra short
    apply gone
    rw [latest, List.length_append, List.length_cons, List.drop_append_of_le_length (by omega)]
    simp
  have last : latest count (before ++ x :: after) = latest count after := by
    rw [latest, latest, ← List.singleton_append, ← List.append_assoc, List.drop_append,
      List.drop_eq_nil_of_le (by simp; omega), List.nil_append]
    congr 1
    simp
    omega
  rw [last] at gone
  have others : (latest count after).filter (fun y => decide (y ≠ x)) = latest count after := by
    rw [List.filter_eq_self]
    intro y member
    exact decide_eq_true fun same => gone (same ▸ member)
  have shorter := (List.Sublist.filter (fun y => decide (y ≠ x))
    (List.drop_sublist (after.length - count) after)).length_le
  rw [← latest, others, length_latest] at shorter
  omega

namespace FifoMap

variable {K V : Type} {cmp : K → K → Ordering} [Std.TransCmp cmp]

/-- The map after keys were entered in this order: it holds the last of them. -/
structure Records (map : FifoMap K V cmp) (history : List K) : Prop where
  cursor : map.next = history.length % map.capacity
  size : map.entries.size = min map.capacity history.length
  held : map.ring.drop (map.capacity - map.entries.size) = latest map.capacity history
  distinct : (latest map.capacity history).Nodup
  keys : ∀ key, (map.lookup key).isSome ↔ key ∈ latest map.capacity history

theorem ring_length (map : FifoMap K V cmp) : map.ring.length = map.capacity := by
  rw [ring, List.length_append, List.length_drop, List.length_take, capacity]
  have := map.inside
  omega

theorem ring_eq_cons (map : FifoMap K V cmp) :
    map.ring = map.oldest :: (map.order.drop (map.next + 1) ++ map.order.take map.next) := by
  rw [ring, List.drop_eq_getElem_cons map.inside]
  rfl

@[simp] theorem remember_capacity (map : FifoMap K V cmp) (key : K) (value : V) :
    (map.remember key value).capacity = map.capacity :=
  List.length_set

@[simp] theorem update_capacity (map : FifoMap K V cmp) (key : K) (value : V) :
    (map.update key value).capacity = map.capacity := rfl

theorem remember_ring (map : FifoMap K V cmp) (key : K) (value : V) :
    (map.remember key value).ring = map.ring.tail ++ [key] := by
  have inside := map.inside
  rw [map.ring_eq_cons, List.tail_cons, ring]
  dsimp only [remember]
  by_cases wraps : map.next + 1 = map.order.length
  · rw [wraps, Nat.mod_self, List.drop_zero, List.take_zero, List.append_nil,
      List.drop_length, List.nil_append, List.set_eq_take_append_cons_drop, if_pos inside, wraps,
      List.drop_length]
  · rw [Nat.mod_eq_of_lt (by omega), List.drop_set_of_lt (by omega), List.take_add_one,
      List.take_set_of_le (Nat.le_refl _), List.getElem?_set_self inside, List.append_assoc]
    rfl

theorem records_empty [Inhabited K] (count : Nat) (positive : 0 < count) :
    Records (empty count positive : FifoMap K V cmp) [] where
  cursor := (Nat.zero_mod _).symm
  size := by
    rw [List.length_nil, Nat.min_zero]
    exact Std.ExtTreeMap.size_empty
  held := by
    rw [latest, List.drop_nil]
    apply List.drop_eq_nil_of_le
    rw [ring_length]
    exact Nat.le_of_eq (by rw [empty, Std.ExtTreeMap.size_empty, Nat.sub_zero])
  distinct := by
    rw [latest, List.drop_nil]
    exact List.nodup_nil
  keys key := by
    simp [lookup, empty, latest]

namespace Records

variable {map : FifoMap K V cmp} {history : List K}

theorem full_iff (recorded : map.Records history) :
    map.capacity ≤ map.entries.size ↔ map.capacity ≤ history.length := by
  rw [recorded.size]
  omega

theorem oldest_cons (recorded : map.Records history) (full : map.capacity ≤ history.length) :
    latest map.capacity history = map.oldest :: (latest map.capacity history).tail := by
  rw [← recorded.held, recorded.size, Nat.min_eq_left full, Nat.sub_self, List.drop_zero,
    ring_eq_cons, List.tail_cons]

theorem slots_perm (recorded : map.Records history) :
    (map.order.take map.entries.size).Perm (latest map.capacity history) := by
  have inside := map.inside
  have length : map.capacity = map.order.length := rfl
  have size := recorded.size
  rw [← recorded.held]
  by_cases full : map.capacity ≤ history.length
  · rw [show map.capacity - map.entries.size = 0 by omega, List.drop_zero, ring,
      List.take_of_length_le (by omega)]
    apply List.Perm.trans (List.Perm.of_eq (List.take_append_drop map.next map.order).symm)
    exact List.perm_append_comm
  · have next : map.next = map.entries.size := by
      rw [recorded.cursor, Nat.mod_eq_of_lt (by omega)]
      omega
    rw [ring, List.drop_append_of_le_length (by rw [List.length_drop]; omega), List.drop_drop,
      List.drop_eq_nil_of_le (by omega), List.nil_append, next]

theorem absent_iff (recorded : map.Records history) {key : K} :
    map.lookup key = none ↔ key ∉ latest map.capacity history := by
  rw [← recorded.keys key, Option.not_isSome_iff_eq_none]

end Records

theorem lookup_isSome (map : FifoMap K V cmp) (key : K) :
    (map.lookup key).isSome = map.entries.contains key := by
  rw [lookup, Std.ExtTreeMap.contains_eq_isSome_getElem?]

/-- A new key takes the room of the oldest one, if there is no other. -/
theorem remember_size {map : FifoMap K V cmp} {history : List K} (recorded : map.Records history)
    {key : K} (absent : map.lookup key = none) (value : V) :
    (map.remember key value).entries.size = min map.capacity (history.length + 1) := by
  have inside := map.inside
  have absent' : map.entries.contains key = false := by
    rw [← lookup_isSome, absent]
    rfl
  have size := recorded.size
  dsimp only [remember]
  by_cases full : map.capacity ≤ history.length
  · have oldest : map.entries.contains map.oldest = true := by
      rw [← lookup_isSome, recorded.keys, recorded.oldest_cons full]
      exact List.mem_cons_self
    have gone : (map.entries.erase map.oldest).contains key = false := by
      rw [Std.ExtTreeMap.contains_erase, absent', Bool.and_false]
    have crowded : map.order.length ≤ map.entries.size := recorded.full_iff.mpr full
    have length : map.capacity = map.order.length := rfl
    rw [if_pos crowded, Std.ExtTreeMap.size_insert, gone, if_neg Bool.false_ne_true,
      Std.ExtTreeMap.size_erase, oldest, if_pos rfl]
    omega
  · have room : ¬ map.order.length ≤ map.entries.size := by
      rw [← capacity, recorded.full_iff]
      exact full
    rw [if_neg room, Std.ExtTreeMap.size_insert, absent', if_neg Bool.false_ne_true]
    omega

section Lawful

variable [Std.LawfulEqCmp cmp] [DecidableEq K] {map : FifoMap K V cmp} {history : List K} {key : K}

theorem update_lookup (map : FifoMap K V cmp) (key other : K) (value : V) :
    (map.update key value).lookup other = if key = other then some value else map.lookup other := by
  simp only [lookup, update, Std.ExtTreeMap.getElem?_insert, Std.LawfulEqCmp.compare_eq_iff_eq]

theorem remember_lookup (map : FifoMap K V cmp) (key other : K) (value : V) :
    (map.remember key value).lookup other =
      if key = other then some value
      else if map.capacity ≤ map.entries.size ∧ map.oldest = other then none
      else map.lookup other := by
  simp only [lookup, remember, Std.ExtTreeMap.getElem?_insert, Std.LawfulEqCmp.compare_eq_iff_eq,
    capacity]
  split
  · rfl
  · by_cases full : map.order.length ≤ map.entries.size
    · simp only [full, if_true, true_and, Std.ExtTreeMap.getElem?_erase,
        Std.LawfulEqCmp.compare_eq_iff_eq]
    · simp only [full, if_false, false_and]

theorem Records.update (recorded : map.Records history) {value : V}
    (present : (map.lookup key).isSome) : (map.update key value).Records history := by
  have kept : (map.update key value).entries.size = map.entries.size := by
    rw [FifoMap.update, Std.ExtTreeMap.size_insert, ← lookup_isSome, present, if_pos rfl]
  refine ⟨recorded.cursor, kept.trans recorded.size, ?_, recorded.distinct, fun other => ?_⟩
  · rw [kept]
    exact recorded.held
  · rw [update_lookup, update_capacity, ← recorded.keys other]
    split
    · rename_i same
      rw [← same, present]
      rfl
    · rfl

/-- Entering a new key drops the first one held, if the map is full. -/
theorem Records.remember (recorded : map.Records history) {value : V}
    (absent : map.lookup key = none) :
    (map.remember key value).Records (history ++ [key]) := by
  have positive : 0 < map.capacity := Nat.lt_of_le_of_lt (Nat.zero_le _) map.inside
  have size := remember_size recorded absent value
  have new := recorded.absent_iff.mp absent
  have after := latest_concat positive history key
  constructor
  · rw [remember_capacity, List.length_append, List.length_singleton, ← Nat.mod_add_mod,
      ← recorded.cursor]
    rfl
  · rw [remember_capacity, size, List.length_append, List.length_singleton]
  · rw [remember_capacity, size, remember_ring, after]
    by_cases room : history.length < map.capacity
    · rw [if_pos room, ← recorded.held, recorded.size,
        List.drop_append_of_le_length (by rw [List.length_tail, ring_length]; omega),
        List.drop_tail, show map.capacity - min map.capacity (history.length + 1) + 1 =
          map.capacity - min map.capacity history.length by omega]
    · rw [if_neg room, ← recorded.held, recorded.size,
        show map.capacity - min map.capacity (history.length + 1) = 0 by omega,
        show map.capacity - min map.capacity history.length = 0 by omega, List.drop_zero,
        List.drop_zero]
  · rw [remember_capacity, after]
    apply List.Nodup.append
    · split
      · exact recorded.distinct
      · exact recorded.distinct.tail
    · exact List.nodup_singleton key
    · rw [List.disjoint_singleton]
      split
      · exact new
      · exact fun member => new (List.mem_of_mem_tail member)
  · intro other
    rw [remember_capacity, after, remember_lookup, List.mem_append, List.mem_singleton]
    by_cases same : key = other
    · simp [same]
    · simp only [same, if_false, recorded.full_iff]
      by_cases full : map.capacity ≤ history.length
      · have first := recorded.oldest_cons full
        have distinct := recorded.distinct
        rw [first, List.nodup_cons] at distinct
        rw [if_neg (by omega : ¬ history.length < map.capacity)]
        by_cases gone : map.oldest = other
        · subst gone
          simp only [full, and_self, if_true, Option.isSome_none, Bool.false_eq_true, distinct.1,
            Ne.symm same, or_self]
        · rw [if_neg (fun both => gone both.2), recorded.keys, first]
          simp [Ne.symm gone, Ne.symm same]
      · rw [if_neg (fun both => full both.1), if_pos (by omega), recorded.keys]
        simp [Ne.symm same]

end Lawful

end FifoMap

end Sentinel5G.Base
