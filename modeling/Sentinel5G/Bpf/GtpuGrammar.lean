import Sentinel5G.Bpf.Gtpu

namespace Sentinel5G.Bpf

open Base

structure ExtensionHeader where
  octets : Bytes
  measured : octets.length = (byteAt octets 0).toNat * 4
  nonzero : byteAt octets 0 ≠ 0

namespace ExtensionHeader

def nextType (header : ExtensionHeader) : UInt8 :=
  byteAt header.octets (header.octets.length - 1)

def octetsOf (headers : List ExtensionHeader) : Bytes := (headers.map octets).flatten

def Chained : UInt8 → List ExtensionHeader → Prop
  | next, [] => next = 0
  | next, header :: headers => next ≠ 0 ∧ Chained header.nextType headers

end ExtensionHeader

open ExtensionHeader

def BoundedChain (payload : Bytes) (left : Nat) (next : UInt8) (off : Nat) : Prop :=
  ∃ headers rest, payload.drop off = octetsOf headers ++ rest ∧ headers.length ≤ left ∧
    off + (octetsOf headers).length ≤ gtpuMaxHdrBytes ∧ Chained next headers

theorem byteAt_drop (bytes : Bytes) (off index : Nat) :
    byteAt (bytes.drop off) index = byteAt bytes (off + index) := by
  rw [byteAt, byteAt, List.getD_eq_getElem?_getD, List.getD_eq_getElem?_getD, List.getElem?_drop]

theorem byteAt_append_left (first second : Bytes) (index : Nat) (inside : index < first.length) :
    byteAt (first ++ second) index = byteAt first index := by
  rw [byteAt, byteAt, List.getD_eq_getElem?_getD, List.getD_eq_getElem?_getD,
    List.getElem?_append_left inside]

theorem ExtensionHeader.length_pos (header : ExtensionHeader) : 0 < header.octets.length := by
  have units : (byteAt header.octets 0).toNat ≠ 0 :=
    fun zero => header.nonzero (UInt8.toNat.inj zero)
  have measured := header.measured
  omega

theorem ExtensionHeader.read {payload rest : Bytes} {off : Nat} (header : ExtensionHeader)
    (here : payload.drop off = header.octets ++ rest) :
    (byteAt payload off).toNat * 4 = header.octets.length ∧ byteAt payload off ≠ 0 ∧
      off + header.octets.length ≤ payload.length ∧
      byteAt payload (off + header.octets.length - 1) = header.nextType ∧
      payload.drop (off + header.octets.length) = rest := by
  have positive := header.length_pos
  have first : byteAt payload off = byteAt header.octets 0 := by
    rw [← byteAt_append_left _ rest 0 positive, ← here, byteAt_drop, Nat.add_zero]
  have last : byteAt payload (off + header.octets.length - 1) = header.nextType := by
    rw [nextType, ← byteAt_append_left _ rest _ (Nat.sub_lt positive Nat.one_pos), ← here,
      byteAt_drop, Nat.add_sub_assoc positive]
  have fits : off + header.octets.length ≤ payload.length := by
    have lengths := congrArg List.length here
    rw [List.length_drop, List.length_append] at lengths
    omega
  refine ⟨?_, ?_, fits, last, ?_⟩
  · rw [first, header.measured]
  · rw [first]
    exact header.nonzero
  · rw [← List.drop_drop, here, List.drop_left]

theorem ExtensionHeader.exists_at (payload : Bytes) (off : Nat) (nonzero : byteAt payload off ≠ 0)
    (fits : off + (byteAt payload off).toNat * 4 ≤ payload.length) :
    ∃ header : ExtensionHeader, payload.drop off =
      header.octets ++ payload.drop (off + (byteAt payload off).toNat * 4) := by
  have units : (byteAt payload off).toNat ≠ 0 := fun zero => nonzero (UInt8.toNat.inj zero)
  let size := (byteAt payload off).toNat * 4
  have parts : payload.drop off = slice payload off size ++ payload.drop (off + size) := by
    rw [slice, ← List.drop_drop, List.take_append_drop]
  have length : (slice payload off size).length = size := slice_length payload off size fits
  have first : byteAt (slice payload off size) 0 = byteAt payload off := by
    rw [← byteAt_append_left _ (payload.drop (off + size)) 0 (by omega), ← parts, byteAt_drop,
      Nat.add_zero]
  exact ⟨⟨slice payload off size, by rw [length, first], by rwa [first]⟩, parts⟩

theorem boundedChain_stop (payload : Bytes) (left off : Nat) (inside : off ≤ gtpuMaxHdrBytes) :
    BoundedChain payload left 0 off :=
  ⟨[], payload.drop off, rfl, Nat.zero_le left, inside, rfl⟩

theorem not_boundedChain_zero (payload : Bytes) {next : UInt8} (announced : next ≠ 0) (off : Nat) :
    ¬ BoundedChain payload 0 next off := by
  rintro ⟨headers, rest, -, few, -, chained⟩
  rw [List.length_eq_zero_iff.mp (Nat.le_zero.mp few)] at chained
  exact announced chained

theorem boundedChain_succ (payload : Bytes) (left : Nat) {next : UInt8} (announced : next ≠ 0)
    (off : Nat) :
    BoundedChain payload (left + 1) next off ↔
      byteAt payload off ≠ 0 ∧ off + (byteAt payload off).toNat * 4 ≤ payload.length ∧
        BoundedChain payload left (byteAt payload (off + (byteAt payload off).toNat * 4 - 1))
          (off + (byteAt payload off).toNat * 4) := by
  constructor
  · rintro ⟨headers, rest, here, few, inside, chained⟩
    cases headers with
    | nil => exact absurd chained announced
    | cons header headers =>
        have split : payload.drop off = header.octets ++ (octetsOf headers ++ rest) := by
          rw [here, octetsOf, List.map_cons, List.flatten_cons, List.append_assoc]
          rfl
        obtain ⟨size, nonzero, fits, last, after⟩ := header.read split
        rw [octetsOf, List.map_cons, List.flatten_cons, List.length_append,
          ← Nat.add_assoc] at inside
        rw [size, last]
        exact ⟨nonzero, fits, headers, rest, after, Nat.le_of_succ_le_succ few, inside, chained.2⟩
  · rintro ⟨nonzero, fits, headers, rest, after, few, inside, chained⟩
    obtain ⟨header, here⟩ := ExtensionHeader.exists_at payload off nonzero fits
    obtain ⟨size, -, -, last, -⟩ := header.read here
    rw [size] at here after inside chained
    rw [last] at chained
    refine ⟨header :: headers, rest, ?_, Nat.succ_le_succ few, ?_, announced, chained⟩
    · rw [here, after, octetsOf, octetsOf, List.map_cons, List.flatten_cons, List.append_assoc]
    · rwa [octetsOf, List.map_cons, List.flatten_cons, List.length_append, ← Nat.add_assoc]

theorem BoundedChain.within {payload : Bytes} {left : Nat} {next : UInt8} {off : Nat}
    (chain : BoundedChain payload left next off) : off ≤ gtpuMaxHdrBytes := by
  obtain ⟨headers, rest, -, -, inside, -⟩ := chain
  exact le_trans (Nat.le_add_right off _) inside

/-- One pass of the loop. -/
theorem walkExtensions_succ (payload : Bytes) (left : Nat) {next : UInt8} (announced : next ≠ 0)
    (off : Nat) :
    walkExtensions payload (left + 1) next off = .tpdu ↔
      byteAt payload off ≠ 0 ∧ off + (byteAt payload off).toNat * 4 ≤ payload.length ∧
        off + (byteAt payload off).toNat * 4 ≤ gtpuMaxHdrBytes ∧
        walkExtensions payload left (byteAt payload (off + (byteAt payload off).toNat * 4 - 1))
          (off + (byteAt payload off).toNat * 4) = .tpdu := by
  have units : byteAt payload off ≠ 0 ↔ (byteAt payload off).toNat ≠ 0 :=
    ⟨fun nonzero zero => nonzero (UInt8.toNat.inj zero),
      fun nonzero zero => nonzero (congrArg UInt8.toNat zero)⟩
  have cap : gtpuMaxHdrBytes = 64 := rfl
  rw [walkExtensions, if_neg announced, units]
  dsimp only
  split_ifs
  -- The first test of an offset excludes nothing that the later ones let through.
  iterate 5
    · simp only [false_iff]
      omega
  · constructor
    · intro accepted
      exact ⟨by omega, by omega, by omega, accepted⟩
    · rintro ⟨-, -, -, accepted⟩
      exact accepted

/-- The loop accepts exactly the bounded chains. -/
theorem walkExtensions_eq_tpdu (payload : Bytes) (left : Nat) (next : UInt8) (off : Nat)
    (inside : off ≤ gtpuMaxHdrBytes) :
    walkExtensions payload left next off = .tpdu ↔ BoundedChain payload left next off := by
  induction left generalizing next off with
  | zero =>
      by_cases announced : next = 0
      · simp only [walkExtensions, announced, ne_eq, not_true_eq_false, if_false, true_iff]
        exact boundedChain_stop payload 0 off inside
      · simp only [walkExtensions, announced, ne_eq, not_false_eq_true, if_true, reduceCtorEq,
          false_iff]
        exact not_boundedChain_zero payload announced off
  | succ left ih =>
      by_cases announced : next = 0
      · simp only [walkExtensions, announced, if_true, true_iff]
        exact boundedChain_stop payload (left + 1) off inside
      · rw [walkExtensions_succ payload left announced, boundedChain_succ payload left announced]
        constructor
        · rintro ⟨nonzero, fits, within, accepted⟩
          exact ⟨nonzero, fits, (ih _ _ within).mp accepted⟩
        · rintro ⟨nonzero, fits, chain⟩
          exact ⟨nonzero, fits, chain.within, (ih _ _ chain.within).mpr chain⟩

theorem walkExtensions_ne_other (payload : Bytes) (left : Nat) (next : UInt8) (off : Nat) :
    walkExtensions payload left next off ≠ .other := by
  induction left generalizing next off with
  | zero =>
      rw [walkExtensions]
      split_ifs <;> simp
  | succ left ih =>
      rw [walkExtensions]
      dsimp only
      split_ifs
      all_goals first | exact ih _ _ | simp

structure Mandatory (payload : Bytes) : Prop where
  present : 8 ≤ payload.length
  version : byteAt payload 0 >>> 5 = 1
  protocolType : (byteAt payload 0 >>> 4) &&& 1 = 1

def Flag (payload : Bytes) (bit : UInt8) : Prop := byteAt payload 0 &&& bit ≠ 0

def extensionBit : UInt8 := 0x04

def sequenceBit : UInt8 := 0x02

def nPduBit : UInt8 := 0x01

/-- The header of a user-plane packet. The type of the next extension header
means something only with the extension flag. -/
structure IsTpdu (payload : Bytes) : Prop where
  mandatory : Mandatory payload
  messageType : byteAt payload 1 = 0xFF
  optional : Flag payload extensionBit ∨ Flag payload sequenceBit ∨ Flag payload nPduBit →
    12 ≤ payload.length
  chain : Flag payload extensionBit → BoundedChain payload 4 (byteAt payload 11) 12

def pathManagement : List UInt8 := [1, 2, 26, 31, 254]

structure IsPathManagement (payload : Bytes) : Prop where
  mandatory : Mandatory payload
  messageType : byteAt payload 1 ∈ pathManagement

structure AgreesWithGrammar (payload : Bytes) (teidOut : UInt32) : Prop where
  tpdu : (parseGtpuInto payload teidOut).1 = .tpdu ↔ IsTpdu payload
  other : (parseGtpuInto payload teidOut).1 = .other ↔ IsPathManagement payload
  malformed : (parseGtpuInto payload teidOut).1 = .malformed ↔
    ¬ IsTpdu payload ∧ ¬ IsPathManagement payload
  written : Mandatory payload ∧ byteAt payload 1 = 0xFF →
    (parseGtpuInto payload teidOut).2 = UInt32.ofNat (beNat (slice payload 4 4))
  untouched : ¬ (Mandatory payload ∧ byteAt payload 1 = 0xFF) →
    (parseGtpuInto payload teidOut).2 = teidOut

/-- Where the optional octets are there without the extension flag, the fourth
of them still starts a chain. -/
def IdleTypeIsChain (payload : Bytes) : Prop :=
  Mandatory payload → byteAt payload 1 = 0xFF → 12 ≤ payload.length →
    ¬ Flag payload extensionBit → Flag payload sequenceBit ∨ Flag payload nPduBit →
    BoundedChain payload 4 (byteAt payload 11) 12

theorem version_mask (flags : UInt8) :
    flags &&& gtpuVersionPtMask = gtpuVersion1PtGtp ↔ flags >>> 5 = 1 ∧
      (flags >>> 4) &&& 1 = 1 := by
  obtain ⟨⟨value⟩⟩ := flags
  revert value
  decide +kernel

theorem mandatory_iff (payload : Bytes) :
    Mandatory payload ↔
      8 ≤ payload.length ∧ byteAt payload 0 &&& gtpuVersionPtMask = gtpuVersion1PtGtp := by
  rw [version_mask]
  exact ⟨fun header => ⟨header.present, header.version, header.protocolType⟩,
    fun header => ⟨header.1, header.2.1, header.2.2⟩⟩

theorem flags_mask (flags : UInt8) :
    flags &&& gtpuExtFlagsMask ≠ 0 ↔
      flags &&& extensionBit ≠ 0 ∨ flags &&& sequenceBit ≠ 0 ∨ flags &&& nPduBit ≠ 0 := by
  obtain ⟨⟨value⟩⟩ := flags
  revert value
  decide +kernel

theorem parseGtpuInto_of_not_mandatory {payload : Bytes} (bad : ¬ Mandatory payload)
    (teidOut : UInt32) : parseGtpuInto payload teidOut = (.malformed, teidOut) := by
  rw [mandatory_iff] at bad
  rw [parseGtpuInto]
  by_cases short : 8 > payload.length
  · rw [if_pos short]
  · have version : byteAt payload 0 &&& gtpuVersionPtMask ≠ gtpuVersion1PtGtp :=
      fun same => bad ⟨Nat.not_lt.mp short, same⟩
    rw [if_neg short, if_pos version]

theorem parseGtpuInto_of_mandatory {payload : Bytes} (header : Mandatory payload)
    (teidOut : UInt32) :
    parseGtpuInto payload teidOut =
      if byteAt payload 1 = 0xFF then
        (if byteAt payload 0 &&& gtpuExtFlagsMask = 0 then .tpdu
          else if 12 > payload.length then .malformed
          else walkExtensions payload gtpuMaxExtHeaders (byteAt payload 11) 12,
          UInt32.ofNat (beNat (slice payload 4 4)))
      else if byteAt payload 1 ∈ pathManagement then (.other, teidOut)
      else (.malformed, teidOut) := by
  obtain ⟨present, version⟩ := (mandatory_iff payload).mp header
  have listed : byteAt payload 1 ∈ pathManagement ↔
      byteAt payload 1 = gtpuMsgEchoRequest ∨ byteAt payload 1 = gtpuMsgEchoResponse ∨
        byteAt payload 1 = gtpuMsgErrorIndication ∨
        byteAt payload 1 = gtpuMsgSupportedExtHdrNotification ∨
        byteAt payload 1 = gtpuMsgEndMarker := by
    simp only [pathManagement, List.mem_cons, List.not_mem_nil, or_false]
    rfl
  have tpdu : (0xFF : UInt8) = gtpuMsgTpdu := rfl
  rw [parseGtpuInto, if_neg (Nat.not_lt.mpr present), if_neg (not_not.mpr version), tpdu]
  simp only [listed]
  split_ifs <;> rfl

/-- With any of the three flags the parser asks for a chain. -/
theorem parseGtpuInto_eq_tpdu {payload : Bytes} (header : Mandatory payload)
    (userPlane : byteAt payload 1 = 0xFF) (teidOut : UInt32) :
    (parseGtpuInto payload teidOut).1 = .tpdu ↔
      (Flag payload extensionBit ∨ Flag payload sequenceBit ∨ Flag payload nPduBit →
        12 ≤ payload.length ∧ BoundedChain payload 4 (byteAt payload 11) 12) := by
  have walk := walkExtensions_eq_tpdu payload gtpuMaxExtHeaders (byteAt payload 11) 12 (by decide)
  have flagged := flags_mask (byteAt payload 0)
  rw [parseGtpuInto_of_mandatory header, if_pos userPlane]
  dsimp only
  split_ifs with plain short
  · simp only [true_iff]
    exact fun flag => absurd plain (flagged.mpr flag)
  · simp only [false_iff]
    exact fun asked => absurd (asked (flagged.mp plain)).1 (Nat.not_le.mpr short)
  · rw [walk]
    exact ⟨fun chain _ => ⟨Nat.not_lt.mp short, chain⟩, fun asked => (asked (flagged.mp plain)).2⟩

theorem parseGtpuInto_ne_other {payload : Bytes} (header : Mandatory payload)
    (userPlane : byteAt payload 1 = 0xFF) (teidOut : UInt32) :
    (parseGtpuInto payload teidOut).1 ≠ .other := by
  rw [parseGtpuInto_of_mandatory header, if_pos userPlane]
  dsimp only
  split_ifs
  · simp
  · simp
  · exact walkExtensions_ne_other payload _ _ _

theorem GtpuParse.eq_malformed_iff (result : GtpuParse) :
    result = .malformed ↔ ¬ result = .tpdu ∧ ¬ result = .other := by
  cases result <;> decide

theorem isTpdu_iff {payload : Bytes} (header : Mandatory payload)
    (userPlane : byteAt payload 1 = 0xFF) :
    IsTpdu payload ↔
      (Flag payload extensionBit ∨ Flag payload sequenceBit ∨ Flag payload nPduBit →
        12 ≤ payload.length) ∧
      (Flag payload extensionBit → BoundedChain payload 4 (byteAt payload 11) 12) :=
  ⟨fun tpdu => ⟨tpdu.optional, tpdu.chain⟩, fun parts => ⟨header, userPlane, parts.1, parts.2⟩⟩

theorem tpdu_agrees_iff {payload : Bytes} (header : Mandatory payload)
    (userPlane : byteAt payload 1 = 0xFF) (teidOut : UInt32) :
    ((parseGtpuInto payload teidOut).1 = .tpdu ↔ IsTpdu payload) ↔ IdleTypeIsChain payload := by
  rw [parseGtpuInto_eq_tpdu header userPlane, isTpdu_iff header userPlane]
  by_cases announced : Flag payload extensionBit
  · have idle : IdleTypeIsChain payload := fun _ _ _ silent => absurd announced silent
    simp only [announced, true_or, true_imp_iff, idle]
  · have idle : IdleTypeIsChain payload ↔ (12 ≤ payload.length →
        Flag payload sequenceBit ∨ Flag payload nPduBit →
          BoundedChain payload 4 (byteAt payload 11) 12) :=
      ⟨fun idle long => idle header userPlane long announced,
        fun chain _ _ long _ => chain long⟩
    rw [idle]
    by_cases flagged : Flag payload sequenceBit ∨ Flag payload nPduBit
    · simp only [announced, flagged, false_or, true_imp_iff, false_imp_iff, and_true,
        and_iff_left_iff_imp]
    · simp only [announced, flagged, false_or, false_imp_iff, and_true, imp_true_iff]

theorem agreesWithGrammar_of_tpdu {payload : Bytes} (header : Mandatory payload)
    (userPlane : byteAt payload 1 = 0xFF) {teidOut : UInt32}
    (tpdu : (parseGtpuInto payload teidOut).1 = .tpdu ↔ IsTpdu payload) :
    AgreesWithGrammar payload teidOut := by
  have other := parseGtpuInto_ne_other header userPlane teidOut
  have unmanaged : ¬ IsPathManagement payload := by
    intro managed
    have listed := managed.messageType
    rw [userPlane] at listed
    exact absurd listed (by decide)
  refine ⟨tpdu, ?_, ?_, ?_, ?_⟩
  · exact ⟨fun bad => absurd bad other, fun managed => absurd managed unmanaged⟩
  · rw [GtpuParse.eq_malformed_iff, tpdu]
    exact and_congr_right fun _ => ⟨fun _ => unmanaged, fun _ => other⟩
  · intro _
    rw [parseGtpuInto_of_mandatory header, if_pos userPlane]
  · exact fun bad => absurd ⟨header, userPlane⟩ bad

theorem agreesWithGrammar_of_control {payload : Bytes} (header : Mandatory payload)
    (control : byteAt payload 1 ≠ 0xFF) (teidOut : UInt32) : AgreesWithGrammar payload teidOut := by
  have noTpdu : ¬ IsTpdu payload := fun tpdu => control tpdu.messageType
  have managed : IsPathManagement payload ↔ byteAt payload 1 ∈ pathManagement :=
    ⟨fun managed => managed.messageType, fun listed => ⟨header, listed⟩⟩
  have result := parseGtpuInto_of_mandatory header teidOut
  rw [if_neg control] at result
  by_cases listed : byteAt payload 1 ∈ pathManagement
  · rw [if_pos listed] at result
    constructor
    all_goals rw [result]
    · simp only [reduceCtorEq, noTpdu]
    · simp only [managed, listed]
    · simp only [reduceCtorEq, managed, listed, not_true_eq_false, and_false]
    · exact fun tpdu => absurd tpdu.2 control
    · exact fun _ => rfl
  · rw [if_neg listed] at result
    constructor
    all_goals rw [result]
    · simp only [reduceCtorEq, noTpdu]
    · simp only [reduceCtorEq, managed, listed]
    · simp only [noTpdu, managed, listed, not_false_eq_true, and_self]
    · exact fun tpdu => absurd tpdu.2 control
    · exact fun _ => rfl

theorem agreesWithGrammar_of_not_mandatory {payload : Bytes} (bad : ¬ Mandatory payload)
    (teidOut : UInt32) : AgreesWithGrammar payload teidOut := by
  have noTpdu : ¬ IsTpdu payload := fun tpdu => bad tpdu.mandatory
  have unmanaged : ¬ IsPathManagement payload := fun managed => bad managed.mandatory
  constructor
  all_goals rw [parseGtpuInto_of_not_mandatory bad]
  · simp only [reduceCtorEq, noTpdu]
  · simp only [reduceCtorEq, unmanaged]
  · simp only [noTpdu, unmanaged, not_false_eq_true, and_self]
  · exact fun tpdu => absurd tpdu.1 bad
  · exact fun _ => rfl

/-- The parser agrees with the grammar except where it follows a chain that the
flags do not announce. -/
theorem agreesWithGrammar_iff (payload : Bytes) (teidOut : UInt32) :
    AgreesWithGrammar payload teidOut ↔ IdleTypeIsChain payload := by
  by_cases header : Mandatory payload
  · by_cases userPlane : byteAt payload 1 = 0xFF
    · rw [← tpdu_agrees_iff header userPlane teidOut]
      exact ⟨fun agrees => agrees.tpdu, agreesWithGrammar_of_tpdu header userPlane⟩
    · have idle : IdleTypeIsChain payload := fun _ same => absurd same userPlane
      exact ⟨fun _ => idle, fun _ => agreesWithGrammar_of_control header userPlane teidOut⟩
  · have idle : IdleTypeIsChain payload := fun present => absurd present header
    exact ⟨fun _ => idle, fun _ => agreesWithGrammar_of_not_mandatory header teidOut⟩

def sequencedTpdu : Bytes := [0x32, 0xFF, 0, 4, 0, 0, 0, 7, 0, 1, 0, 0x85]

/-- It is rejected, and is within the grammar. -/
theorem sequenced_tpdu_is_rejected :
    IsTpdu sequencedTpdu ∧ parseGtpuInto sequencedTpdu 0 = (.malformed, 7) ∧
      ¬ AgreesWithGrammar sequencedTpdu 0 := by
  have tpdu : IsTpdu sequencedTpdu :=
    ⟨⟨by decide, by decide, by decide⟩, by decide, fun _ => by decide,
      fun flag => absurd (by decide : byteAt sequencedTpdu 0 &&& extensionBit = 0) flag⟩
  have rejected : parseGtpuInto sequencedTpdu 0 = (.malformed, 7) := by decide
  refine ⟨tpdu, rejected, fun agrees => ?_⟩
  have accepted := agrees.tpdu.mpr tpdu
  rw [rejected] at accepted
  cases accepted

end Sentinel5G.Bpf
