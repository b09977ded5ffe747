import Sentinel5G.Base.Bytes
import Sentinel5G.Base.Numeral

/-! Go's `net.IP`: a byte slice holding a 4-byte or a 16-byte address, with its
text form. An address of any other length is a value of the type too. -/

namespace Sentinel5G.Base

abbrev IP := Bytes

def v4InV6Prefix : Bytes := [0, 0, 0, 0, 0, 0, 0, 0, 0, 0, 0xff, 0xff]

def IP.to4 (ip : IP) : Option IP :=
  if ip.length = 4 then some ip
  else if ip.length = 16 ∧ ip.take 12 = v4InV6Prefix then some (ip.drop 12)
  else none

def IP.to16 (ip : IP) : Option IP :=
  if ip.length = 4 then some (v4InV6Prefix ++ ip)
  else if ip.length = 16 then some ip
  else none

def IP.equal (ip other : IP) : Bool :=
  if ip.length = other.length then decide (ip = other)
  else if ip.length = 4 ∧ other.length = 16 then
    decide (other.take 12 = v4InV6Prefix ∧ ip = other.drop 12)
  else if ip.length = 16 ∧ other.length = 4 then
    decide (ip.take 12 = v4InV6Prefix ∧ ip.drop 12 = other)
  else false

def groups : Bytes → List Nat
  | high :: low :: rest => beNat [high, low] :: groups rest
  | _ => []

def ungroup (values : List Nat) : Bytes := values.flatMap (beBytes 2)

def zeroPrefix : List Nat → Nat
  | 0 :: rest => zeroPrefix rest + 1
  | _ => 0

/-- The start and length of the longest run of at least two zero groups, the
leftmost one when several are longest, and length 0 when there is none. -/
def longestZeros : Nat → List Nat → Nat × Nat → Nat × Nat
  | _, [], best => best
  | start, group :: rest, best =>
      let len := zeroPrefix (group :: rest)
      longestZeros (start + 1) rest (if 2 ≤ len ∧ best.2 < len then (start, len) else best)

def joinGroups (values : List Nat) : List Char :=
  [':'].intercalate (values.map (Nat.toDigits 16))

def formatIPv4 (ip : IP) : List Char :=
  ['.'].intercalate (ip.map (fun byte => Nat.toDigits 10 byte.toNat))

def formatIPv6 (ip : IP) : List Char :=
  let values := groups ip
  let run := longestZeros 0 values (0, 0)
  if run.2 = 0 then joinGroups values
  else joinGroups (values.take run.1) ++ [':', ':'] ++ joinGroups (values.drop (run.1 + run.2))

def hexByte (byte : UInt8) : List Char :=
  [Nat.digitChar (byte.toNat / 16), Nat.digitChar (byte.toNat % 16)]

/-- `net.IP.String`: dotted decimal for everything `To4` accepts, RFC 5952 text
for the other 16-byte addresses. -/
def IP.string (ip : IP) : String :=
  if ip = [] then "<nil>"
  else match ip.to4 with
    | some v4 => String.ofList (formatIPv4 v4)
    | none =>
        if ip.length = 16 then String.ofList (formatIPv6 ip)
        else String.ofList ('?' :: ip.flatMap hexByte)

def parseOctet (text : List Char) : Option UInt8 :=
  if text = [] ∨ (text.head? = some '0' ∧ 1 < text.length) then none
  else ((parseDigits 10 0 text).filter (fun value => decide (value ≤ 255))).map UInt8.ofNat

def parseIPv4 (text : List Char) : Option IP :=
  let fields := text.splitOn '.'
  if fields.length = 4 then fields.mapM parseOctet else none

def parseGroup (text : List Char) : Option Bytes :=
  if text = [] ∨ 4 < text.length then none
  else (parseDigits 16 0 text).map (beBytes 2)

/-- The bytes of a list of colon-separated fields. Only the very last field of
an address may be an embedded dotted-decimal address. -/
def parseFields (embedded : Bool) : List (List Char) → Option Bytes
  | [] => some []
  | [field] =>
      if embedded = true ∧ '.' ∈ field then parseIPv4 field else parseGroup field
  | field :: rest =>
      (parseGroup field).bind (fun head => (parseFields embedded rest).map (head ++ ·))

def parseSide (embedded : Bool) (text : List Char) : Option Bytes :=
  if text = [] then some [] else parseFields embedded (text.splitOn ':')

def cutEllipsis : List Char → Option (List Char × List Char)
  | [] => none
  | [_] => none
  | first :: second :: rest =>
      if first = ':' ∧ second = ':' then some ([], rest)
      else (cutEllipsis (second :: rest)).map (fun sides => (first :: sides.1, sides.2))

def parseIPv6 (text : List Char) : Option IP :=
  match cutEllipsis text with
  | none => (parseSide true text).filter (fun bytes => decide (bytes.length = 16))
  | some (front, back) =>
      (parseSide false front).bind fun head =>
      (parseSide true back).bind fun tail =>
        if head.length + tail.length < 16 then
          some (head ++ List.replicate (16 - (head.length + tail.length)) 0 ++ tail)
        else none

/-- `net.ParseIP`. An IPv4 address comes back in its 16-byte form, and a zoned
address is refused. -/
def parseIP (text : String) : Option IP :=
  if ':' ∈ text.toList then parseIPv6 text.toList
  else (parseIPv4 text.toList).map (v4InV6Prefix ++ ·)

theorem to4_length (ip v4 : IP) (short : ip.to4 = some v4) : v4.length = 4 := by
  simp only [IP.to4] at short
  split at short
  · cases short
    assumption
  · split at short
    · rename_i _ long
      cases short
      rw [List.length_drop, long.1]
    · cases short

theorem to16_length (ip v6 : IP) (long : ip.to16 = some v6) : v6.length = 16 := by
  simp only [IP.to16] at long
  split at long
  · rename_i four
    cases long
    rw [List.length_append, four]
    rfl
  · split at long
    · cases long
      assumption
    · cases long

theorem to16_eq_self (ip : IP) (length : ip.length = 16) : ip.to16 = some ip := by
  rw [IP.to16, if_neg (by omega), if_pos length]

theorem to16_of_to4 (ip v4 : IP) (short : ip.to4 = some v4) :
    ip.to16 = some (v4InV6Prefix ++ v4) := by
  simp only [IP.to4] at short
  split at short
  · rename_i four
    cases short
    rw [IP.to16, if_pos four]
  · split at short
    · rename_i _ long
      cases short
      rw [to16_eq_self ip long.1, ← long.2, List.take_append_drop]
    · cases short

theorem to4_mapped (v4 : IP) (length : v4.length = 4) :
    IP.to4 (v4InV6Prefix ++ v4) = some v4 := by
  have total : (v4InV6Prefix ++ v4).length = 16 := by
    rw [List.length_append, length]
    rfl
  have front : (v4InV6Prefix ++ v4).take 12 = v4InV6Prefix :=
    List.take_left' rfl
  have back : (v4InV6Prefix ++ v4).drop 12 = v4 :=
    List.drop_left' rfl
  rw [IP.to4, if_neg (by omega), if_pos ⟨total, front⟩, back]

theorem to4_of_length_four (ip : IP) (length : ip.length = 4) : ip.to4 = some ip := by
  rw [IP.to4, if_pos length]

theorem to4_to16 (ip v6 : IP) (long : ip.to16 = some v6) : v6.to4 = ip.to4 := by
  simp only [IP.to16] at long
  split at long
  · rename_i four
    cases long
    rw [to4_mapped ip four, to4_of_length_four ip four]
  · split at long
    · cases long
      rfl
    · cases long

theorem mapped_eq_iff (v4 v6 : IP) :
    v4InV6Prefix ++ v4 = v6 ↔ v6.take 12 = v4InV6Prefix ∧ v4 = v6.drop 12 := by
  constructor
  · rintro rfl
    have back : (v4InV6Prefix ++ v4).drop 12 = v4 := List.drop_left' rfl
    exact ⟨List.take_left' rfl, back.symm⟩
  · rintro ⟨front, rfl⟩
    rw [← front, List.take_append_drop]

/-- Valid addresses are equal if their 16-byte forms are the same. -/
theorem equal_iff {ip other : IP} {long otherLong : IP} (first : ip.to16 = some long)
    (second : other.to16 = some otherLong) : ip.equal other = true ↔ long = otherLong := by
  have shape : ∀ {ip long : IP}, ip.to16 = some long →
      ip.length = 4 ∧ long = v4InV6Prefix ++ ip ∨ ip.length = 16 ∧ long = ip := by
    intro ip long found
    rw [IP.to16] at found
    split at found
    · rename_i four
      exact .inl ⟨four, (Option.some.inj found).symm⟩
    · split at found
      · rename_i sixteen
        exact .inr ⟨sixteen, (Option.some.inj found).symm⟩
      · cases found
  rw [IP.equal]
  rcases shape first with ⟨length, form⟩ | ⟨length, form⟩
  · rcases shape second with ⟨otherLength, otherForm⟩ | ⟨otherLength, otherForm⟩
    · simp [length, otherLength, form, otherForm]
    · rw [form, otherForm, mapped_eq_iff ip other]
      simp [length, otherLength]
  · rcases shape second with ⟨otherLength, otherForm⟩ | ⟨otherLength, otherForm⟩
    · have mapped := mapped_eq_iff other ip
      rw [eq_comm] at mapped
      rw [form, otherForm, mapped]
      simp [length, otherLength, eq_comm (a := other)]
    · simp [length, otherLength, form, otherForm]

end Sentinel5G.Base
