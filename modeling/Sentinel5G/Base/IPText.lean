import Sentinel5G.Base.IP
import Mathlib.Data.List.Induction

namespace Sentinel5G.Base

theorem dot_not_digit : ¬ ∃ digit, digitValue '.' = some digit := by
  have none : digitValue '.' = none := by decide
  simp [none]

theorem colon_not_digit : ¬ ∃ digit, digitValue ':' = some digit := by
  have none : digitValue ':' = none := by decide
  simp [none]

theorem slash_not_digit : ¬ ∃ digit, digitValue '/' = some digit := by
  have none : digitValue '/' = none := by decide
  simp [none]

theorem not_mem_toDigits (base n : Nat) (radix : 1 < base) (hex : base ≤ 16) (c : Char)
    (separator : ¬ ∃ digit, digitValue c = some digit) : c ∉ Nat.toDigits base n :=
  fun member => separator (digitChar_value base n radix hex c member)

theorem parseOctet_toDigits (byte : UInt8) :
    parseOctet (Nat.toDigits 10 byte.toNat) = some byte := by
  have small : byte.toNat < 256 := byte.toNat_lt
  have plain : ∀ n < 256, ¬ (Nat.toDigits 10 n = [] ∨
      ((Nat.toDigits 10 n).head? = some '0' ∧ 1 < (Nat.toDigits 10 n).length)) := by
    decide +kernel
  have read := parseDigits_toDigits 10 byte.toNat (by decide) (by decide)
  rw [parseOctet, if_neg (plain _ small), read]
  simp [Nat.le_of_lt_succ small]

theorem parseIPv4_formatIPv4 (ip : IP) (length : ip.length = 4) :
    parseIPv4 (formatIPv4 ip) = some ip := by
  let fields := ip.map (fun byte => Nat.toDigits 10 byte.toNat)
  have separated : ∀ field ∈ fields, '.' ∉ field := by
    intro field member
    obtain ⟨byte, _, rfl⟩ := List.mem_map.mp member
    exact not_mem_toDigits 10 _ (by decide) (by decide) '.' dot_not_digit
  have count : fields.length = 4 := by rw [List.length_map, length]
  have split : (formatIPv4 ip).splitOn '.' = fields :=
    List.splitOn_intercalate '.' separated (List.ne_nil_of_length_eq_add_one count)
  have octets : fields.mapM parseOctet = some ip := by
    have each : (parseOctet ∘ fun byte : UInt8 => Nat.toDigits 10 byte.toNat) = pure :=
      funext parseOctet_toDigits
    have kept := List.mapM_pure (m := Option) (l := ip) (f := id)
    rw [List.map_id] at kept
    rw [List.mapM_map, each]
    exact kept
  simp only [parseIPv4, split, count, if_true, octets]

theorem parseGroup_toDigits (n : Nat) (bound : n < 65536) :
    parseGroup (Nat.toDigits 16 n) = some (beBytes 2 n) := by
  have short : (Nat.toDigits 16 n).length ≤ 4 :=
    (Nat.length_toDigits_le_iff (by decide) (by decide)).mpr (by simpa using bound)
  have shape : ¬ (Nat.toDigits 16 n = [] ∨ 4 < (Nat.toDigits 16 n).length) := by
    rintro (empty | long)
    · exact Nat.toDigits_ne_nil empty
    · omega
  rw [parseGroup, if_neg shape, parseDigits_toDigits 16 n (by decide) (by decide), Option.map_some]

theorem parseFields_toDigits (embedded : Bool) (values : List Nat)
    (bound : ∀ value ∈ values, value < 65536) :
    parseFields embedded (values.map (Nat.toDigits 16)) = some (ungroup values) := by
  induction values with
  | nil => rfl
  | cons value rest ih =>
      have head := parseGroup_toDigits value (bound value List.mem_cons_self)
      have tail := ih (fun next member => bound next (List.mem_cons_of_mem _ member))
      cases rest with
      | nil =>
          have plain : ¬ (embedded = true ∧ '.' ∈ Nat.toDigits 16 value) :=
            fun dotted => not_mem_toDigits 16 value (by decide) (by decide) '.' dot_not_digit
              dotted.2
          rw [List.map_cons, List.map_nil, parseFields, if_neg plain, head]
          simp [ungroup]
      | cons next rest =>
          rw [List.map_cons, List.map_cons, parseFields, head, Option.bind_some,
            ← List.map_cons, tail, Option.map_some]
          · simp [ungroup]
          · simp

theorem joinGroups_ne_nil (value : Nat) (rest : List Nat) : joinGroups (value :: rest) ≠ [] := by
  cases rest with
  | nil => simp [joinGroups]
  | cons next rest => simp [joinGroups, List.intercalate_cons_cons]

theorem parseSide_joinGroups (embedded : Bool) (values : List Nat)
    (bound : ∀ value ∈ values, value < 65536) :
    parseSide embedded (joinGroups values) = some (ungroup values) := by
  cases values with
  | nil => rfl
  | cons value rest =>
      have separated : ∀ field ∈ (value :: rest).map (Nat.toDigits 16), ':' ∉ field := by
        intro field member
        obtain ⟨n, _, rfl⟩ := List.mem_map.mp member
        exact not_mem_toDigits 16 n (by decide) (by decide) ':' colon_not_digit
      have split : (joinGroups (value :: rest)).splitOn ':' =
          (value :: rest).map (Nat.toDigits 16) :=
        List.splitOn_intercalate ':' separated (by simp)
      rw [parseSide, if_neg (joinGroups_ne_nil value rest), split, parseFields_toDigits _ _ bound]

/-- A digit is no separator, so a search for `::` passes over it. -/
theorem cutEllipsis_digit (c : Char) (rest : List Char)
    (digit : ∃ value, digitValue c = some value) :
    cutEllipsis (c :: rest) = (cutEllipsis rest).map (fun sides => (c :: sides.1, sides.2)) := by
  have plain : c ≠ ':' := fun same => colon_not_digit (same ▸ digit)
  cases rest with
  | nil => rfl
  | cons second rest => rw [cutEllipsis, if_neg (fun both => plain both.1)]

theorem cutEllipsis_digits (front rest : List Char)
    (digits : ∀ c ∈ front, ∃ value, digitValue c = some value) :
    cutEllipsis (front ++ rest) =
      (cutEllipsis rest).map (fun sides => (front ++ sides.1, sides.2)) := by
  induction front with
  | nil => simp
  | cons c front ih =>
      have tail := ih (fun next member => digits next (List.mem_cons_of_mem _ member))
      rw [List.cons_append, cutEllipsis_digit c _ (digits c List.mem_cons_self), tail,
        Option.map_map]
      rfl

theorem cutEllipsis_colon (c : Char) (rest : List Char)
    (digit : ∃ value, digitValue c = some value) :
    cutEllipsis (':' :: c :: rest) =
      (cutEllipsis (c :: rest)).map (fun sides => (':' :: sides.1, sides.2)) := by
  have plain : c ≠ ':' := fun same => colon_not_digit (same ▸ digit)
  rw [cutEllipsis, if_neg (fun both => plain both.2)]

theorem cutEllipsis_joinGroups (values : List Nat) (rest : List Char) :
    cutEllipsis (joinGroups values ++ rest) =
      (cutEllipsis rest).map (fun sides => (joinGroups values ++ sides.1, sides.2)) := by
  induction values with
  | nil => simp [joinGroups]
  | cons value tail ih =>
      have digits := digitChar_value 16 value (by decide) (by decide)
      cases tail with
      | nil =>
          have alone : joinGroups [value] = Nat.toDigits 16 value := by simp [joinGroups]
          rw [alone, cutEllipsis_digits _ _ digits]
      | cons next tail =>
          have unfolded : joinGroups (value :: next :: tail) =
              Nat.toDigits 16 value ++ (':' :: joinGroups (next :: tail)) := by
            simp [joinGroups, List.intercalate_cons_cons]
          obtain ⟨c, more, start⟩ := List.exists_cons_of_ne_nil
            (l := Nat.toDigits 16 next) Nat.toDigits_ne_nil
          have first : ∃ later, joinGroups (next :: tail) = c :: later := by
            cases tail with
            | nil => exact ⟨more, by simp [joinGroups, start]⟩
            | cons after tail =>
                exact ⟨_, by simp [joinGroups, List.intercalate_cons_cons, start]; rfl⟩
          obtain ⟨later, shape⟩ := first
          have digit : ∃ value, digitValue c = some value :=
            digitChar_value 16 next (by decide) (by decide) c (start ▸ List.mem_cons_self)
          have inner := ih
          rw [shape] at inner
          rw [unfolded, List.append_assoc, cutEllipsis_digits _ _ digits, shape,
            List.cons_append, List.cons_append, cutEllipsis_colon c _ digit,
            ← List.cons_append, inner, Option.map_map, Option.map_map]
          congr 1
          funext sides
          simp

def ZeroRun (values : List Nat) (run : Nat × Nat) : Prop :=
  (values.drop run.1).take run.2 = List.replicate run.2 0

theorem take_zeroPrefix (values : List Nat) :
    values.take (zeroPrefix values) = List.replicate (zeroPrefix values) 0 := by
  induction values with
  | nil => rfl
  | cons value rest ih =>
      cases value with
      | zero => rw [zeroPrefix, List.take_succ_cons, ih, List.replicate_succ]
      | succ n => rfl

theorem longestZeros_zeroRun (values : List Nat) (start : Nat) (rest : List Nat) (best : Nat × Nat)
    (position : values.drop start = rest) (zeros : ZeroRun values best) :
    ZeroRun values (longestZeros start rest best) := by
  induction rest generalizing start best with
  | nil => exact zeros
  | cons group rest ih =>
      rw [longestZeros]
      apply ih
      · rw [← List.drop_drop, position, List.drop_one, List.tail_cons]
      · split
        · exact position ▸ take_zeroPrefix _
        · exact zeros

theorem ZeroRun.bounds {values : List Nat} {run : Nat × Nat} (zeros : ZeroRun values run)
    (found : run.2 ≠ 0) : run.1 + run.2 ≤ values.length := by
  have lengths := congrArg List.length zeros
  rw [List.length_take, List.length_drop, List.length_replicate] at lengths
  omega

theorem ZeroRun.split {values : List Nat} {run : Nat × Nat} (zeros : ZeroRun values run) :
    values.take run.1 ++ List.replicate run.2 0 ++ values.drop (run.1 + run.2) = values := by
  rw [← zeros, ← List.drop_drop, List.append_assoc, List.take_append_drop, List.take_append_drop]

theorem beBytes_two (high low : UInt8) : beBytes 2 (beNat [high, low]) = [high, low] := by
  have bytes := leBytes_leNat [low, high]
  exact congrArg List.reverse bytes

theorem ungroup_groups (bytes : Bytes) (even : bytes.length % 2 = 0) :
    ungroup (groups bytes) = bytes := by
  induction bytes using groups.induct with
  | case1 high low rest ih =>
      rw [groups, ungroup, List.flatMap_cons, beBytes_two]
      have tail := ih (by
        rw [List.length_cons, List.length_cons] at even
        omega)
      rw [ungroup] at tail
      rw [tail]
      rfl
  | case2 bytes short =>
      match bytes, even, short with
      | [], _, _ => simp [groups, ungroup]
      | [_], even, _ => simp at even
      | high :: low :: rest, _, short => exact absurd rfl (short high low rest)

theorem groups_bound (bytes : Bytes) : ∀ value ∈ groups bytes, value < 65536 := by
  induction bytes using groups.induct with
  | case1 high low rest ih =>
      intro value member
      rw [groups] at member
      rcases List.mem_cons.mp member with rfl | member
      · have bound := beNat_lt [high, low]
        norm_num at bound
        exact bound
      · exact ih value member
  | case2 bytes short =>
      intro value member
      rw [groups.eq_2 bytes short] at member
      cases member

@[simp] theorem ungroup_length (values : List Nat) :
    (ungroup values).length = 2 * values.length := by
  induction values with
  | nil => rfl
  | cons value rest ih =>
      rw [ungroup] at ih
      rw [ungroup, List.flatMap_cons, List.length_append, ih, beBytes_length, List.length_cons]
      omega

@[simp] theorem ungroup_append (front back : List Nat) :
    ungroup (front ++ back) = ungroup front ++ ungroup back := List.flatMap_append

theorem ungroup_zeros (count : Nat) :
    ungroup (List.replicate count 0) = List.replicate (2 * count) 0 := by
  induction count with
  | zero => rfl
  | succ count ih =>
      rw [ungroup] at ih
      rw [List.replicate_succ, ungroup, List.flatMap_cons, ih, Nat.mul_succ, Nat.add_comm,
        ← List.replicate_append_replicate]
      rfl

theorem parseIPv6_joinGroups (values : List Nat) (bound : ∀ value ∈ values, value < 65536)
    (length : values.length = 8) : parseIPv6 (joinGroups values) = some (ungroup values) := by
  have whole := cutEllipsis_joinGroups values []
  rw [List.append_nil] at whole
  rw [parseIPv6, whole]
  simp [cutEllipsis, parseSide_joinGroups true values bound, length]

theorem parseIPv6_ellipsis (front back : List Nat) (boundFront : ∀ value ∈ front, value < 65536)
    (boundBack : ∀ value ∈ back, value < 65536) (room : front.length + back.length < 8) :
    parseIPv6 (joinGroups front ++ [':', ':'] ++ joinGroups back) =
      some (ungroup front ++ List.replicate (16 - (2 * front.length + 2 * back.length)) 0 ++
        ungroup back) := by
  have cut : cutEllipsis (joinGroups front ++ [':', ':'] ++ joinGroups back) =
      some (joinGroups front, joinGroups back) := by
    rw [List.append_assoc, cutEllipsis_joinGroups]
    simp [cutEllipsis]
  have short : 2 * front.length + 2 * back.length < 16 := by omega
  rw [parseIPv6, cut]
  simp only [parseSide_joinGroups _ _ boundFront, parseSide_joinGroups _ _ boundBack,
    Option.bind_some, ungroup_length, if_pos short]

theorem groups_length (bytes : Bytes) : (groups bytes).length = bytes.length / 2 := by
  induction bytes using groups.induct with
  | case1 high low rest ih =>
      rw [groups, List.length_cons, ih, List.length_cons, List.length_cons]
      omega
  | case2 bytes short =>
      match bytes, short with
      | [], _ => simp [groups]
      | [_], _ => simp [groups]
      | high :: low :: rest, short => exact absurd rfl (short high low rest)

theorem parseIPv6_formatIPv6 (ip : IP) (length : ip.length = 16) :
    parseIPv6 (formatIPv6 ip) = some ip := by
  have whole : ungroup (groups ip) = ip := ungroup_groups ip (by rw [length])
  have count : (groups ip).length = 8 := by rw [groups_length, length]
  have bound := groups_bound ip
  have zeros : ZeroRun (groups ip) (longestZeros 0 (groups ip) (0, 0)) :=
    longestZeros_zeroRun (groups ip) 0 (groups ip) (0, 0) rfl rfl
  simp only [formatIPv6]
  generalize longestZeros 0 (groups ip) (0, 0) = run at zeros
  split
  · rw [parseIPv6_joinGroups _ bound count, whole]
  · rename_i found
    have inside := zeros.bounds found
    have front : ((groups ip).take run.1).length = run.1 := by rw [List.length_take]; omega
    have back : ((groups ip).drop (run.1 + run.2)).length = 8 - (run.1 + run.2) := by
      rw [List.length_drop, count]
    have filled : 16 - (2 * run.1 + 2 * (8 - (run.1 + run.2))) = 2 * run.2 := by omega
    rw [parseIPv6_ellipsis _ _ (fun value member => bound value (List.mem_of_mem_take member))
      (fun value member => bound value (List.mem_of_mem_drop member)) (by omega),
      front, back, filled, ← ungroup_zeros, ← ungroup_append, ← ungroup_append, zeros.split, whole]

theorem colon_not_mem_formatIPv4 (ip : IP) : ':' ∉ formatIPv4 ip := by
  induction ip with
  | nil => simp [formatIPv4]
  | cons byte rest ih =>
      have digits := not_mem_toDigits 10 byte.toNat (by decide) (by decide) ':' colon_not_digit
      cases rest with
      | nil => simpa [formatIPv4] using digits
      | cons next rest =>
          have unfolded : formatIPv4 (byte :: next :: rest) =
              Nat.toDigits 10 byte.toNat ++ ('.' :: formatIPv4 (next :: rest)) := by
            simp [formatIPv4, List.intercalate_cons_cons]
          rw [unfolded, List.mem_append, List.mem_cons]
          rintro (digit | dot | tail)
          · exact digits digit
          · exact absurd dot (by decide)
          · exact ih tail

theorem colon_mem_formatIPv6 (ip : IP) (length : ip.length = 16) : ':' ∈ formatIPv6 ip := by
  have count : (groups ip).length = 8 := by rw [groups_length, length]
  simp only [formatIPv6]
  split
  · match groups ip, count with
    | first :: second :: rest, _ => simp [joinGroups, List.intercalate_cons_cons]
  · simp

/-- The printed form of an address reads back as its 16-byte form. -/
theorem parseIP_string (ip v6 : IP) (long : ip.to16 = some v6) : parseIP ip.string = some v6 := by
  have whole : ip.length = 4 ∨ ip.length = 16 := by
    rw [IP.to16] at long
    split at long
    · exact .inl ‹_›
    · split at long
      · exact .inr ‹_›
      · cases long
  have present : ip ≠ [] := by
    rintro rfl
    simp at whole
  cases short : ip.to4 with
  | some v4 =>
      have four := to4_length ip v4 short
      have mapped := to16_of_to4 ip v4 short
      rw [long, Option.some.injEq] at mapped
      rw [IP.string, if_neg present]
      simp only [short]
      rw [parseIP, String.toList_ofList, if_neg (colon_not_mem_formatIPv4 v4),
        parseIPv4_formatIPv4 v4 four, mapped]
      rfl
  | none =>
      have sixteen : ip.length = 16 := by
        rcases whole with four | sixteen
        · rw [to4_of_length_four ip four] at short
          cases short
        · exact sixteen
      rw [to16_eq_self ip sixteen, Option.some.injEq] at long
      rw [IP.string, if_neg present]
      simp only [short, sixteen, if_true]
      rw [parseIP, String.toList_ofList, if_pos (colon_mem_formatIPv6 ip sixteen),
        parseIPv6_formatIPv6 ip sixteen, long]

theorem string_inj (first second : IP) (lengthFirst : first.length = 16)
    (lengthSecond : second.length = 16) (same : first.string = second.string) : first = second := by
  have readFirst := parseIP_string first first (to16_eq_self first lengthFirst)
  have readSecond := parseIP_string second second (to16_eq_self second lengthSecond)
  rw [same, readSecond] at readFirst
  exact (Option.some.inj readFirst).symm

theorem mapM_option_length {α β : Type} (f : α → Option β) (values : List α) (results : List β)
    (accepted : values.mapM f = some results) : results.length = values.length := by
  induction values generalizing results with
  | nil =>
      cases accepted
      rfl
  | cons value rest ih =>
      rw [List.mapM_cons] at accepted
      simp only [bind, Option.bind_eq_some_iff, pure, Option.some.injEq] at accepted
      obtain ⟨head, _, tail, accepted, rfl⟩ := accepted
      rw [List.length_cons, List.length_cons, ih tail accepted]

theorem parseIP_length (text : String) (ip : IP) (accepted : parseIP text = some ip) :
    ip.length = 16 := by
  rw [parseIP] at accepted
  split at accepted
  · rw [parseIPv6] at accepted
    split at accepted
    · have checked := (Option.filter_eq_some_iff.mp accepted).2
      exact of_decide_eq_true checked
    · simp only [Option.bind_eq_some_iff] at accepted
      obtain ⟨head, _, tail, _, accepted⟩ := accepted
      split at accepted
      · cases accepted
        simp only [List.length_append, List.length_replicate]
        omega
      · cases accepted
  · obtain ⟨v4, octets, rfl⟩ := Option.map_eq_some_iff.mp accepted
    have four : v4.length = 4 := by
      rw [parseIPv4] at octets
      split at octets
      · rw [mapM_option_length _ _ _ octets]
        assumption
      · cases octets
    rw [List.length_append, four]
    rfl

def AddressChar (c : Char) : Prop := c = '.' ∨ c = ':' ∨ ∃ digit, digitValue c = some digit

theorem mem_intercalate (separator : Char) (fields : List (List Char)) (c : Char)
    (member : c ∈ [separator].intercalate fields) :
    c = separator ∨ ∃ field ∈ fields, c ∈ field := by
  induction fields with
  | nil => cases member
  | cons field rest ih =>
      cases rest with
      | nil => exact .inr ⟨field, List.mem_cons_self, by simpa using member⟩
      | cons next rest =>
          rw [List.intercalate_cons_cons, List.append_assoc, List.mem_append,
            List.singleton_append, List.mem_cons] at member
          rcases member with inside | same | later
          · exact .inr ⟨field, List.mem_cons_self, inside⟩
          · exact .inl same
          · rcases ih later with same | ⟨other, present, inside⟩
            · exact .inl same
            · exact .inr ⟨other, List.mem_cons_of_mem _ present, inside⟩

theorem mem_splitOn (separator : Char) (text : List Char) (c : Char) (member : c ∈ text) :
    c = separator ∨ ∃ field ∈ text.splitOn separator, c ∈ field :=
  mem_intercalate separator _ c ((List.intercalate_splitOn separator).symm ▸ member)

theorem parseOctet_chars (text : List Char) (byte : UInt8)
    (accepted : parseOctet text = some byte) :
    ∀ c ∈ text, AddressChar c := by
  rw [parseOctet] at accepted
  split at accepted
  · cases accepted
  · obtain ⟨value, filtered, _⟩ := Option.map_eq_some_iff.mp accepted
    have digits := (Option.filter_eq_some_iff.mp filtered).1
    exact fun c member => .inr (.inr (parseDigits_chars 10 0 text value digits c member))

theorem mapM_option_mem {α β : Type} (f : α → Option β) (values : List α) (results : List β)
    (accepted : values.mapM f = some results) :
    ∀ value ∈ values, ∃ result, f value = some result := by
  induction values generalizing results with
  | nil => intro value member; cases member
  | cons head rest ih =>
      rw [List.mapM_cons] at accepted
      simp only [bind, Option.bind_eq_some_iff] at accepted
      obtain ⟨first, known, tail, accepted, _⟩ := accepted
      intro value member
      rcases List.mem_cons.mp member with rfl | member
      · exact ⟨first, known⟩
      · exact ih tail accepted value member

theorem parseIPv4_chars (text : List Char) (ip : IP) (accepted : parseIPv4 text = some ip) :
    ∀ c ∈ text, AddressChar c := by
  rw [parseIPv4] at accepted
  split at accepted
  · intro c member
    rcases mem_splitOn '.' text c member with same | ⟨field, present, inside⟩
    · exact .inl same
    · obtain ⟨byte, octet⟩ := mapM_option_mem _ _ _ accepted field present
      exact parseOctet_chars field byte octet c inside
  · cases accepted

theorem parseGroup_chars (text : List Char) (bytes : Bytes)
    (accepted : parseGroup text = some bytes) :
    ∀ c ∈ text, AddressChar c := by
  rw [parseGroup] at accepted
  split at accepted
  · cases accepted
  · obtain ⟨value, digits, _⟩ := Option.map_eq_some_iff.mp accepted
    exact fun c member => .inr (.inr (parseDigits_chars 16 0 text value digits c member))

theorem parseFields_chars (embedded : Bool) (fields : List (List Char)) (bytes : Bytes)
    (accepted : parseFields embedded fields = some bytes) :
    ∀ field ∈ fields, ∀ c ∈ field, AddressChar c := by
  induction fields using parseFields.induct embedded generalizing bytes with
  | case1 => intro field member; cases member
  | case2 field dotted =>
      intro only member
      rw [List.mem_singleton.mp member]
      rw [parseFields, if_pos dotted] at accepted
      exact parseIPv4_chars field bytes accepted
  | case3 field plain =>
      intro only member
      rw [List.mem_singleton.mp member]
      rw [parseFields, if_neg plain] at accepted
      exact parseGroup_chars field bytes accepted
  | case4 head rest several ih =>
      rw [parseFields.eq_3 embedded head rest several] at accepted
      simp only [Option.bind_eq_some_iff, Option.map_eq_some_iff] at accepted
      obtain ⟨first, group, tail, later, _⟩ := accepted
      intro field member
      rcases List.mem_cons.mp member with rfl | member
      · exact parseGroup_chars field first group
      · exact ih tail later field member

theorem parseSide_chars (embedded : Bool) (text : List Char) (bytes : Bytes)
    (accepted : parseSide embedded text = some bytes) : ∀ c ∈ text, AddressChar c := by
  intro c member
  rw [parseSide, if_neg (List.ne_nil_of_mem member)] at accepted
  rcases mem_splitOn ':' text c member with same | ⟨field, present, inside⟩
  · exact .inr (.inl same)
  · exact parseFields_chars embedded _ bytes accepted field present c inside

theorem cutEllipsis_text (text front back : List Char)
    (found : cutEllipsis text = some (front, back)) :
    text = front ++ ':' :: ':' :: back := by
  induction text using cutEllipsis.induct generalizing front with
  | case1 => cases found
  | case2 c => cases found
  | case3 first second rest colons =>
      rw [cutEllipsis, if_pos colons] at found
      cases found
      rw [colons.1, colons.2, List.nil_append]
  | case4 first second rest plain ih =>
      rw [cutEllipsis, if_neg plain] at found
      obtain ⟨sides, later, same⟩ := Option.map_eq_some_iff.mp found
      cases same
      rw [List.cons_append, ← ih sides.1 later]

theorem parseIP_chars (text : String) (ip : IP) (accepted : parseIP text = some ip) :
    ∀ c ∈ text.toList, AddressChar c := by
  rw [parseIP] at accepted
  split at accepted
  · rw [parseIPv6] at accepted
    split at accepted
    · exact parseSide_chars true _ ip (Option.filter_eq_some_iff.mp accepted).1
    · rename_i front back found
      simp only [Option.bind_eq_some_iff] at accepted
      obtain ⟨head, before, tail, after, _⟩ := accepted
      intro c member
      rw [cutEllipsis_text _ _ _ found, List.mem_append, List.mem_cons, List.mem_cons] at member
      rcases member with left | colon | colon | right
      · exact parseSide_chars false front head before c left
      · exact .inr (.inl colon)
      · exact .inr (.inl colon)
      · exact parseSide_chars true back tail after c right
  · obtain ⟨v4, octets, _⟩ := Option.map_eq_some_iff.mp accepted
    exact parseIPv4_chars _ v4 octets

/-- No accepted address contains the separator of a tunnel text. -/
theorem slash_not_mem_parseIP (text : String) (ip : IP) (accepted : parseIP text = some ip) :
    '/' ∉ text.toList := by
  intro member
  rcases parseIP_chars text ip accepted '/' member with dot | colon | digit
  · exact absurd dot (by decide)
  · exact absurd colon (by decide)
  · exact slash_not_digit digit

end Sentinel5G.Base
