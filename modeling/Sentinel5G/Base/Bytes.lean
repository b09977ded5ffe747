import Mathlib.Tactic.Ring

namespace Sentinel5G.Base

abbrev Bytes := List UInt8

def leNat : Bytes → Nat
  | [] => 0
  | byte :: rest => byte.toNat + 256 * leNat rest

def leBytes : Nat → Nat → Bytes
  | 0, _ => []
  | width + 1, n => UInt8.ofNat n :: leBytes width (n / 256)

def beNat (bytes : Bytes) : Nat := leNat bytes.reverse

def beBytes (width n : Nat) : Bytes := (leBytes width n).reverse

def slice (bytes : Bytes) (off len : Nat) : Bytes := (bytes.drop off).take len

@[simp] theorem leBytes_length (width n : Nat) : (leBytes width n).length = width := by
  induction width generalizing n with
  | zero => rfl
  | succ width ih => rw [leBytes, List.length_cons, ih]

@[simp] theorem beBytes_length (width n : Nat) : (beBytes width n).length = width := by
  rw [beBytes, List.length_reverse, leBytes_length]

theorem leNat_lt (bytes : Bytes) : leNat bytes < 256 ^ bytes.length := by
  induction bytes with
  | nil => decide
  | cons byte rest ih =>
      have small : byte.toNat < 256 := byte.toNat_lt
      rw [leNat, List.length_cons, pow_succ]
      omega

theorem leNat_leBytes (width n : Nat) : leNat (leBytes width n) = n % 256 ^ width := by
  induction width generalizing n with
  | zero => rw [leBytes, leNat, pow_zero, Nat.mod_one]
  | succ width ih =>
      have low : (UInt8.ofNat n).toNat = n % 256 := UInt8.toNat_ofNat'
      rw [leBytes, leNat, ih, low, pow_succ', Nat.mod_mul]

theorem leBytes_leNat (bytes : Bytes) : leBytes bytes.length (leNat bytes) = bytes := by
  induction bytes with
  | nil => rfl
  | cons byte rest ih =>
      have small : byte.toNat < 256 := byte.toNat_lt
      have high : (byte.toNat + 256 * leNat rest) / 256 = leNat rest := by omega
      have low : UInt8.ofNat (byte.toNat + 256 * leNat rest) = byte := by
        apply UInt8.toNat.inj
        rw [UInt8.toNat_ofNat']
        omega
      rw [List.length_cons, leNat, leBytes, low, high, ih]

theorem leBytes_of_length (width : Nat) (bytes : Bytes) (length : bytes.length = width) :
    leBytes width (leNat bytes) = bytes := by
  rw [← length]
  exact leBytes_leNat bytes

theorem leBytes_inj (width first second : Nat) (boundFirst : first < 256 ^ width)
    (boundSecond : second < 256 ^ width) (same : leBytes width first = leBytes width second) :
    first = second := by
  have values := congrArg leNat same
  rw [leNat_leBytes, leNat_leBytes, Nat.mod_eq_of_lt boundFirst,
    Nat.mod_eq_of_lt boundSecond] at values
  exact values

theorem beNat_lt (bytes : Bytes) : beNat bytes < 256 ^ bytes.length := by
  have bound := leNat_lt bytes.reverse
  rwa [List.length_reverse] at bound

theorem slice_length (bytes : Bytes) (off len : Nat) (inside : off + len ≤ bytes.length) :
    (slice bytes off len).length = len := by
  rw [slice, List.length_take, List.length_drop]
  omega

theorem slice_append (before field after : Bytes) (off len : Nat) (start : before.length = off)
    (size : field.length = len) : slice (before ++ (field ++ after)) off len = field := by
  rw [slice, List.drop_left' start, List.take_left' size]

theorem slice_front (field after : Bytes) (len : Nat) (size : field.length = len) :
    slice (field ++ after) 0 len = field :=
  slice_append [] field after 0 len rfl size

theorem slice_after (before after : Bytes) (off len : Nat) (start : before.length ≤ off) :
    slice (before ++ after) off len = slice after (off - before.length) len := by
  rw [slice, slice, List.drop_append, List.drop_of_length_le start, List.nil_append]

theorem getD_after (before after : Bytes) (off : Nat) (start : before.length ≤ off) :
    (before ++ after).getD off 0 = after.getD (off - before.length) 0 := by
  rw [List.getD_eq_getElem?_getD, List.getElem?_append_right start, List.getD_eq_getElem?_getD]

theorem slice_append_left {bytes : Bytes} (after : Bytes) {off len : Nat}
    (inside : off + len ≤ bytes.length) : slice (bytes ++ after) off len = slice bytes off len := by
  rw [slice, slice, List.drop_append_of_le_length (by omega), List.take_append_of_le_length]
  rw [List.length_drop]
  omega

theorem slice_take (bytes : Bytes) {off len size : Nat} (inside : off + len ≤ size) :
    slice (bytes.take size) off len = slice bytes off len := by
  rw [slice, slice, List.drop_take, List.take_take, Nat.min_eq_left (by omega)]

theorem getD_take (bytes : Bytes) {off size : Nat} (inside : off < size) :
    (bytes.take size).getD off 0 = bytes.getD off 0 := by
  rw [List.getD_eq_getElem?_getD, List.getElem?_take_of_lt inside, List.getD_eq_getElem?_getD]

end Sentinel5G.Base
