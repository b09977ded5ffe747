import Mathlib.Tactic.IntervalCases

namespace Sentinel5G.Base

def digitValue (c : Char) : Option Nat :=
  if '0' ≤ c ∧ c ≤ '9' then some (c.toNat - '0'.toNat)
  else if 'a' ≤ c ∧ c ≤ 'f' then some (c.toNat - 'a'.toNat + 10)
  else if 'A' ≤ c ∧ c ≤ 'F' then some (c.toNat - 'A'.toNat + 10)
  else none

def parseDigits (base : Nat) : Nat → List Char → Option Nat
  | acc, [] => some acc
  | acc, c :: rest =>
      match digitValue c with
      | some value => if value < base then parseDigits base (acc * base + value) rest else none
      | none => none

/-- `strconv.ParseUint` for an explicit base: at least one digit, no sign, no
underscore, and a value that fits the requested width. -/
def parseUint (base bitSize : Nat) (text : List Char) : Option Nat :=
  if text = [] then none
  else (parseDigits base 0 text).filter (fun value => decide (value < 2 ^ bitSize))

theorem digitValue_digitChar (value : Nat) (small : value < 16) :
    digitValue (Nat.digitChar value) = some value := by
  interval_cases value <;> decide

theorem parseDigits_append (base acc : Nat) (front back : List Char) :
    parseDigits base acc (front ++ back) =
      (parseDigits base acc front).bind (fun value => parseDigits base value back) := by
  induction front generalizing acc with
  | nil => rfl
  | cons c rest ih =>
      simp only [List.cons_append, parseDigits]
      cases digitValue c with
      | none => rfl
      | some value =>
          by_cases digit : value < base
          · simp only [digit, if_true, ih]
          · simp only [digit, if_false, Option.bind_none]

theorem parseDigits_singleton (base acc value : Nat) (digit : value < base) (hex : base ≤ 16) :
    parseDigits base acc [Nat.digitChar value] = some (acc * base + value) := by
  have known := digitValue_digitChar value (by omega)
  simp only [parseDigits, known, digit, if_true]

theorem parseDigits_toDigits (base n : Nat) (radix : 1 < base) (hex : base ≤ 16) :
    parseDigits base 0 (Nat.toDigits base n) = some n := by
  induction n using Nat.strong_induction_on with
  | h n ih =>
      rw [Nat.toDigits_eq_if radix]
      by_cases small : n < base
      · rw [if_pos small, parseDigits_singleton base 0 n small hex]
        simp
      · have shorter : n / base < n := Nat.div_lt_self (by omega) radix
        have last : n % base < base := Nat.mod_lt n (by omega)
        rw [if_neg small, parseDigits_append, ih _ shorter, Option.bind_some,
          parseDigits_singleton base _ _ last hex, Nat.div_add_mod']

theorem parseUint_toDigits (base bitSize n : Nat) (radix : 1 < base) (hex : base ≤ 16)
    (fits : n < 2 ^ bitSize) : parseUint base bitSize (Nat.toDigits base n) = some n := by
  rw [parseUint, if_neg Nat.toDigits_ne_nil, parseDigits_toDigits base n radix hex]
  simp [fits]

theorem toDigits_inj {base n m : Nat} (radix : 1 < base) (hex : base ≤ 16)
    (same : Nat.toDigits base n = Nat.toDigits base m) : n = m := by
  have left := parseDigits_toDigits base n radix hex
  rw [same, parseDigits_toDigits base m radix hex] at left
  exact (Option.some.inj left).symm

theorem toString_int_inj {first second : Int} (same : toString first = toString second) :
    first = second := by
  have unsigned : ∀ n : Nat, '-' ∉ Nat.toDigits 10 n := fun n member =>
    absurd (Nat.isDigit_of_mem_toDigits (by decide) (by decide) member) (by decide)
  have decimal : ∀ n m : Nat, Nat.toDigits 10 n = Nat.toDigits 10 m → n = m := fun n m =>
    toDigits_inj (by decide) (by decide)
  have texts := congrArg String.toList same
  simp only [Int.toString_eq_repr, Int.repr_eq_if, Nat.repr_eq_ofList_toDigits] at texts
  split at texts
  · split at texts
    · have equal := decimal _ _ (by simpa using texts)
      omega
    · have plain := unsigned first.toNat
      simp only [String.toList_append, String.toList_ofList] at texts
      simp [texts] at plain
  · split at texts
    · have plain := unsigned second.toNat
      simp only [String.toList_append, String.toList_ofList] at texts
      simp [← texts] at plain
    · have equal := decimal _ _ (by simpa using texts)
      omega

theorem parseDigits_chars (base acc : Nat) (text : List Char) (value : Nat)
    (accepted : parseDigits base acc text = some value) :
    ∀ c ∈ text, ∃ digit, digitValue c = some digit := by
  induction text generalizing acc with
  | nil => intro c member; cases member
  | cons head rest ih =>
      simp only [parseDigits] at accepted
      cases known : digitValue head with
      | none => simp only [known, reduceCtorEq] at accepted
      | some digit =>
          simp only [known] at accepted
          split at accepted
          · intro c member
            rcases List.mem_cons.mp member with rfl | member
            · exact ⟨digit, known⟩
            · exact ih _ accepted c member
          · cases accepted

theorem digitChar_value (base n : Nat) (radix : 1 < base) (hex : base ≤ 16) :
    ∀ c ∈ Nat.toDigits base n, ∃ digit, digitValue c = some digit :=
  parseDigits_chars base 0 _ n (parseDigits_toDigits base n radix hex)

def IsHexDigit (c : Char) : Prop :=
  ('0' ≤ c ∧ c ≤ '9') ∨ ('a' ≤ c ∧ c ≤ 'f') ∨ ('A' ≤ c ∧ c ≤ 'F')

def digitsValue (base : Nat) (text : List Char) : Nat :=
  text.foldl (fun value c => value * base + (digitValue c).getD 0) 0

theorem digitValue_lt {c : Char} {value : Nat} (known : digitValue c = some value) :
    value < 16 := by
  rw [digitValue] at known
  split at known
  · rename_i range
    have below : c.toNat ≤ '9'.toNat := range.2
    cases known
    have nine : '9'.toNat = '0'.toNat + 9 := rfl
    omega
  · split at known
    · rename_i range
      have below : c.toNat ≤ 'f'.toNat := range.2
      cases known
      have five : 'f'.toNat = 'a'.toNat + 5 := rfl
      omega
    · split at known
      · rename_i range
        have below : c.toNat ≤ 'F'.toNat := range.2
        cases known
        have five : 'F'.toNat = 'A'.toNat + 5 := rfl
        omega
      · cases known

theorem isHexDigit_iff (c : Char) : IsHexDigit c ↔ ∃ value, digitValue c = some value := by
  rw [IsHexDigit, digitValue]
  split
  · simp [*]
  · split
    · simp [*]
    · split
      · simp [*]
      · simp [*]

theorem parseDigits_hex_iff (acc : Nat) (text : List Char) (value : Nat) :
    parseDigits 16 acc text = some value ↔
      (∀ c ∈ text, IsHexDigit c) ∧
        text.foldl (fun value c => value * 16 + (digitValue c).getD 0) acc = value := by
  induction text generalizing acc with
  | nil => simp [parseDigits]
  | cons c rest ih =>
      rw [parseDigits, List.forall_mem_cons, isHexDigit_iff, List.foldl_cons]
      cases known : digitValue c with
      | none => simp
      | some digit =>
          simp only [digitValue_lt known, if_true, Option.getD_some, ih]
          simp

theorem parseUint_hex_iff (bitSize : Nat) (text : List Char) (value : Nat) :
    parseUint 16 bitSize text = some value ↔
      text ≠ [] ∧ (∀ c ∈ text, IsHexDigit c) ∧ digitsValue 16 text = value ∧
        value < 2 ^ bitSize := by
  rw [parseUint]
  by_cases empty : text = []
  · simp [empty]
  · rw [if_neg empty, Option.filter_eq_some_iff, parseDigits_hex_iff, decide_eq_true_iff,
      digitsValue]
    simp only [ne_eq, empty, not_false_eq_true, true_and, and_assoc]

end Sentinel5G.Base
