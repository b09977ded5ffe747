import Sentinel5G.Capture.Checked

/-! `fpr_app_mix._tunnel_owners`: which application a tunnel belongs to, from the inner
IP header of its packets. Its header walk checks less than `parse_gtpu`, and runs
beyond the end of some truncated frames. -/

namespace Sentinel5G.Capture

open Base Bpf

abbrev Owners := List ((String × Nat) × String)

def dotted (address : Bytes) : String := String.ofList (formatIPv4 address)

def skipExtensions (frame : Bytes) (next : UInt8) (inner : Nat) : Except Overrun Nat :=
  if next ≠ 0 ∧ inner < frame.length then do
    let words ← byteIn frame inner
    if words.toNat * 4 = 0 then return inner
    else
      let following ← byteIn frame (inner + words.toNat * 4 - 1)
      skipExtensions frame following (inner + words.toNat * 4)
  else .ok inner
termination_by frame.length - inner
decreasing_by omega

def innerOffset (frame : Bytes) (gtp : Nat) : Except Overrun Nat := do
  let flags ← byteIn frame gtp
  if flags &&& 0x07 ≠ 0 then
    let next ← byteIn frame (gtp + 11)
    skipExtensions frame next (gtp + 12)
  else return gtp + 8

/-- `roles.get(isrc) or roles.get(idst)`, where an empty text is no role. -/
def ownerOf (roles : String → Option String) (isrc idst : String) : Option String :=
  ((roles isrc).filter (fun role => role ≠ "")).or ((roles idst).filter (fun role => role ≠ ""))

def tpduOffset (linkType : Nat) (frame : Bytes) : Except Overrun (Option (Nat × Nat)) := do
  match ← Checked.ipOffset linkType frame with
  | none => return none
  | some ip =>
      if frame.length < ip + 20 then return none
      else
        let protocol ← byteIn frame (ip + 9)
        if protocol ≠ 17 then return none
        else
          let versionIhl ← byteIn frame ip
          let gtp := ip + (versionIhl &&& 0x0F).toNat * 4 + 8
          if frame.length < gtp + 8 then return none
          else
            let msgType ← byteIn frame (gtp + 1)
            return if msgType ≠ 0xFF then none else some (ip, gtp)

def noteInner (roles : String → Option String) (owners : Owners) (tunnel : String × Nat)
    (frame : Bytes) (inner : Nat) : Except Overrun Owners :=
  if frame.length < inner + 20 then .ok owners
  else do
    let version ← byteIn frame inner
    if version >>> 4 ≠ 4 then return owners
    else
      match ownerOf roles (dotted (slice frame (inner + 12) 4))
        (dotted (slice frame (inner + 16) 4)) with
      | none => return owners
      | some owner => return owners ++ [(tunnel, owner)]

def noteOwner (linkType : Nat) (roles : String → Option String) (owners : Owners) (frame : Bytes) :
    Except Overrun Owners := do
  match ← tpduOffset linkType frame with
  | none => return owners
  | some (ip, gtp) =>
      let teid ← fieldIn frame (gtp + 4) 4
      let tunnel := (dotted (slice frame (ip + 12) 4), beNat teid)
      if tunnel ∈ owners.map Prod.fst then return owners
      else
        let inner ← innerOffset frame gtp
        noteInner roles owners tunnel frame inner

/-- The record loop from `off` on. The frame of the last record may be cut short. -/
def ownersFrom (order : ByteOrder) (linkType : Nat) (roles : String → Option String) (raw : Bytes)
    (off : Nat) (owners : Owners) : Except Overrun Owners :=
  if off + 16 ≤ raw.length then do
    let field ← fieldIn raw (off + 8) 4
    let owners ← noteOwner linkType roles owners (slice raw (off + 16) (order.nat field))
    ownersFrom order linkType roles raw (off + 16 + order.nat field) owners
  else .ok owners
termination_by raw.length - off
decreasing_by omega

def tunnelOwners (raw : Bytes) (roles : String → Option String) : Except Overrun Owners := do
  let magic ← fieldIn raw 0 4
  let order :=
    if leNat magic = pcapMagicLe ∨ leNat magic = pcapMagicLeNano then ByteOrder.little else .big
  let linkType ← fieldIn raw 20 4
  ownersFrom order (order.nat linkType) roles raw 24 []

def extensionLength (frame : Bytes) (off : Nat) : Nat := (byteAt frame off).toNat * 4

inductive Announced (frame : Bytes) (gtp : Nat) : UInt8 → Nat → Prop
  | first : Announced frame gtp (byteAt frame (gtp + 11)) (gtp + 12)
  | next {type : UInt8} {off : Nat} (announced : Announced frame gtp type off) (present : type ≠ 0)
      (sized : extensionLength frame off ≠ 0)
      (ends : off + extensionLength frame off ≤ frame.length) :
      Announced frame gtp (byteAt frame (off + extensionLength frame off - 1))
        (off + extensionLength frame off)

/-- The frame holds the optional bytes of the header at `gtp`, and every extension
header that begins in it also ends in it. -/
structure EndsInside (frame : Bytes) (gtp : Nat) : Prop where
  options : gtp + 12 ≤ frame.length
  extensions : ∀ type off, Announced frame gtp type off → type ≠ 0 → off < frame.length →
    off + extensionLength frame off ≤ frame.length

section Walk

variable {frame : Bytes} {gtp : Nat}

theorem skipExtensions_at_end {next : UInt8} {inner : Nat}
    (ends : ¬ (next ≠ 0 ∧ inner < frame.length)) : skipExtensions frame next inner = .ok inner := by
  rw [skipExtensions, if_neg ends]

theorem skipExtensions_at_header {next : UInt8} {inner : Nat} (present : next ≠ 0)
    (inside : inner < frame.length) :
    skipExtensions frame next inner =
      if extensionLength frame inner = 0 then .ok inner
      else byteIn frame (inner + extensionLength frame inner - 1) >>= fun following =>
        skipExtensions frame following (inner + extensionLength frame inner) := by
  rw [skipExtensions, if_pos ⟨present, inside⟩, Checked.byteIn_of_lt inside]
  rfl

theorem EndsInside.walks (fits : EndsInside frame gtp) {type : UInt8} {off : Nat}
    (announced : Announced frame gtp type off) : Succeeds (skipExtensions frame type off) := by
  induction remaining : frame.length - off using Nat.strong_induction_on generalizing type off with
  | h remaining ih =>
      by_cases going : type ≠ 0 ∧ off < frame.length
      · have ends := fits.extensions type off announced going.1 going.2
        rw [skipExtensions_at_header going.1 going.2]
        split
        · exact succeeds_ok off
        · rename_i sized
          rw [succeeds_byteIn_bind]
          exact ⟨by omega, ih _ (by omega) (announced.next going.1 sized ends) rfl⟩
      · rw [skipExtensions_at_end going]
        exact succeeds_ok off

/-- A walk that does not fail at the first header does not at any later one. -/
theorem walks_of_announced
    (walks : Succeeds (skipExtensions frame (byteAt frame (gtp + 11)) (gtp + 12))) {type : UInt8}
    {off : Nat} (announced : Announced frame gtp type off) :
    Succeeds (skipExtensions frame type off) := by
  induction announced with
  | first => exact walks
  | next announced present sized ends ih =>
      rw [skipExtensions_at_header present (by omega), if_neg sized, succeeds_byteIn_bind] at ih
      exact ih.2

theorem endsInside_iff (frame : Bytes) (gtp : Nat) :
    EndsInside frame gtp ↔ gtp + 12 ≤ frame.length ∧
      Succeeds (skipExtensions frame (byteAt frame (gtp + 11)) (gtp + 12)) := by
  constructor
  · intro fits
    exact ⟨fits.options, fits.walks .first⟩
  · intro walks
    refine ⟨walks.1, fun type off announced present inside => ?_⟩
    have onward := walks_of_announced walks.2 announced
    rw [skipExtensions_at_header present inside] at onward
    split at onward
    · omega
    · rw [succeeds_byteIn_bind] at onward
      omega

theorem succeeds_innerOffset_iff (header : gtp + 8 ≤ frame.length) :
    Succeeds (innerOffset frame gtp) ↔ (byteAt frame gtp &&& 0x07 ≠ 0 → EndsInside frame gtp) := by
  rw [innerOffset, succeeds_byteIn_bind, endsInside_iff]
  change _ ∧ Succeeds (if byteAt frame gtp &&& 0x07 ≠ 0 then _ else _) ↔ _
  split
  · rename_i flagged
    rw [succeeds_byteIn_bind]
    rw [imp_iff_right flagged]
    constructor
    · intro walks
      exact ⟨by omega, walks.2.2⟩
    · intro walks
      exact ⟨by omega, by omega, walks.2⟩
  · rename_i plain
    exact iff_of_true ⟨by omega, succeeds_ok _⟩ (fun flagged => absurd flagged plain)

end Walk

def tpduAt (linkType : Nat) (frame : Bytes) : Option (Nat × Nat) :=
  match ipOffset linkType frame with
  | none => none
  | some ip =>
      let gtp := ip + (byteAt frame ip &&& 0x0F).toNat * 4 + 8
      if frame.length < ip + 20 then none
      else if byteAt frame (ip + 9) ≠ 17 then none
      else if frame.length < gtp + 8 then none
      else if byteAt frame (gtp + 1) ≠ 0xFF then none
      else some (ip, gtp)

theorem tpduOffset_eq (linkType : Nat) (frame : Bytes) :
    tpduOffset linkType frame = .ok (tpduAt linkType frame) := by
  rw [tpduOffset, tpduAt]
  apply bind_eq_ok (Checked.ipOffset_eq linkType frame)
  cases ipOffset linkType frame with
  | none => rfl
  | some ip =>
      refine ite_eq_ok (fun _ => rfl) (fun long => ?_)
      apply bind_eq_ok (Checked.byteIn_of_lt (by omega))
      refine ite_eq_ok (fun _ => rfl) (fun _ => ?_)
      apply bind_eq_ok (Checked.byteIn_of_lt (by omega))
      refine ite_eq_ok (fun _ => rfl) (fun header => ?_)
      exact bind_eq_ok (Checked.byteIn_of_lt (by omega)) rfl

theorem tpduAt_header {linkType : Nat} {frame : Bytes} {ip gtp : Nat}
    (found : tpduAt linkType frame = some (ip, gtp)) : gtp + 8 ≤ frame.length := by
  rw [tpduAt] at found
  split at found
  · cases found
  · dsimp only at found
    split at found
    · cases found
    · split at found
      · cases found
      · split at found
        · cases found
        · rename_i header
          split at found
          · cases found
          · cases found
            omega

/-- A frame whose header can be walked: one with no T-PDU, or without optional
bytes, or with a header that ends inside. -/
def Walkable (linkType : Nat) (frame : Bytes) : Prop :=
  ∀ ip gtp, tpduAt linkType frame = some (ip, gtp) → byteAt frame gtp &&& 0x07 ≠ 0 →
    EndsInside frame gtp

theorem succeeds_noteInner (roles : String → Option String) (owners : Owners)
    (tunnel : String × Nat) (frame : Bytes) (inner : Nat) :
    Succeeds (noteInner roles owners tunnel frame inner) := by
  rw [noteInner]
  split
  · exact succeeds_ok owners
  · rw [succeeds_byteIn_bind]
    refine ⟨by omega, ?_⟩
    split
    · exact succeeds_ok owners
    · split
      · exact succeeds_ok owners
      · exact succeeds_ok _

theorem noteOwner_eq (linkType : Nat) (roles : String → Option String) (owners : Owners)
    (frame : Bytes) :
    noteOwner linkType roles owners frame =
      match tpduAt linkType frame with
      | none => .ok owners
      | some (ip, gtp) =>
          let tunnel := (dotted (slice frame (ip + 12) 4), beNat (slice frame (gtp + 4) 4))
          if tunnel ∈ owners.map Prod.fst then .ok owners
          else innerOffset frame gtp >>= noteInner roles owners tunnel frame := by
  rw [noteOwner, tpduOffset_eq]
  cases found : tpduAt linkType frame with
  | none => rfl
  | some place =>
      have header := tpduAt_header found
      change (fieldIn frame (place.2 + 4) 4 >>= _) = _
      rw [fieldIn_of_le (by omega)]
      rfl

section Owners

variable {linkType : Nat} {frame : Bytes}

theorem Walkable.succeeds (walkable : Walkable linkType frame) (roles : String → Option String)
    (owners : Owners) : Succeeds (noteOwner linkType roles owners frame) := by
  rw [noteOwner_eq]
  split
  · exact succeeds_ok owners
  · rename_i ip gtp found
    dsimp only
    split
    · exact succeeds_ok owners
    · obtain ⟨inner, begins⟩ :=
        (succeeds_innerOffset_iff (tpduAt_header found)).mpr (walkable ip gtp found)
      rw [begins]
      exact succeeds_noteInner roles owners _ frame inner

theorem walkable_of_succeeds {roles : String → Option String}
    (succeeds : Succeeds (noteOwner linkType roles [] frame)) : Walkable linkType frame := by
  intro ip gtp found
  rw [noteOwner_eq, found] at succeeds
  dsimp only at succeeds
  rw [if_neg (by simp), succeeds_bind_iff] at succeeds
  obtain ⟨inner, begins, -⟩ := succeeds
  exact (succeeds_innerOffset_iff (tpduAt_header found)).mp ⟨inner, begins⟩

theorem noteInner_roleless (owners : Owners) (tunnel : String × Nat) (inner : Nat) :
    noteInner (fun _ => none) owners tunnel frame inner = .ok owners := by
  rw [noteInner]
  split
  · rfl
  · rename_i long
    apply bind_eq_ok (Checked.byteIn_of_lt (by omega))
    split <;> rfl

theorem noteOwner_roleless {owners after : Owners}
    (noted : noteOwner linkType (fun _ => none) owners frame = .ok after) : after = owners := by
  rw [noteOwner_eq] at noted
  split at noted
  · cases noted
    rfl
  · dsimp only at noted
    split at noted
    · cases noted
      rfl
    · obtain ⟨inner, -, told⟩ := bind_eq_ok_iff.mp noted
      rw [noteInner_roleless] at told
      cases told
      rfl

end Owners

def framesFrom (order : ByteOrder) (raw : Bytes) (off : Nat) : List Bytes :=
  if off + 16 ≤ raw.length then
    slice raw (off + 16) (order.nat (slice raw (off + 8) 4)) ::
      framesFrom order raw (off + 16 + order.nat (slice raw (off + 8) 4))
  else []
termination_by raw.length - off
decreasing_by omega

theorem ownersFrom_eq (order : ByteOrder) (linkType : Nat) (roles : String → Option String)
    (raw : Bytes) (off : Nat) (owners : Owners) :
    ownersFrom order linkType roles raw off owners =
      (framesFrom order raw off).foldlM (noteOwner linkType roles) owners := by
  induction remaining : raw.length - off using Nat.strong_induction_on generalizing off owners with
  | h remaining ih =>
      rw [ownersFrom, framesFrom]
      by_cases more : off + 16 ≤ raw.length
      · rw [if_pos more, if_pos more, fieldIn_of_le (by omega), List.foldlM_cons]
        exact bind_congr (fun next => ih _ (by omega) _ next rfl)
      · rw [if_neg more, if_neg more]
        rfl

def ownerOrder (raw : Bytes) : ByteOrder :=
  if leNat (slice raw 0 4) = pcapMagicLe ∨ leNat (slice raw 0 4) = pcapMagicLeNano then .little
  else .big

theorem tunnelOwners_eq {raw : Bytes} (long : 24 ≤ raw.length) (roles : String → Option String) :
    tunnelOwners raw roles =
      (framesFrom (ownerOrder raw) raw 24).foldlM
        (noteOwner ((ownerOrder raw).nat (slice raw 20 4)) roles) [] := by
  rw [tunnelOwners, fieldIn_of_le (by omega), fieldIn_of_le (by omega), ← ownersFrom_eq]
  rfl

structure InRange (raw : Bytes) : Prop where
  packets : ∀ path, Succeeds (Checked.readUdpPackets path raw)
  owners : ∀ roles, Succeeds (tunnelOwners raw roles)

/-- The readers stay in range exactly if the header of every frame can be walked. -/
theorem capture_in_range_iff {raw : Bytes} (long : 24 ≤ raw.length) :
    InRange raw ↔ ∀ frame ∈ framesFrom (ownerOrder raw) raw 24,
      Walkable ((ownerOrder raw).nat (slice raw 20 4)) frame := by
  constructor
  · intro inRange frame member
    have succeeds := inRange.owners (fun _ => none)
    rw [tunnelOwners_eq long] at succeeds
    exact walkable_of_succeeds (succeeds.each (fun _ _ _ noted => noteOwner_roleless noted) frame
      member)
  · intro walkable
    refine ⟨fun path => ?_, fun roles => ?_⟩
    · rw [Checked.readUdpPackets_eq]
      exact succeeds_ok _
    · rw [tunnelOwners_eq long]
      exact succeeds_foldlM
        (fun frame member owners => (walkable frame member).succeeds roles owners) []

def flaggedHeader : Bytes :=
  [0x45, 0, 0, 44, 0, 0, 0, 0, 64, 17, 0, 0, 10, 0, 0, 1, 10, 0, 0, 2] ++
    [0x08, 0x68, 0x08, 0x68, 0, 24, 0, 0] ++ [0x34, 0xFF, 0, 8, 0, 0, 0, 7]

def rawCaptureHead : Bytes :=
  leBytes 4 pcapMagicLe ++ [2, 0, 4, 0] ++ List.replicate 8 0 ++ leBytes 4 65535 ++
    leBytes 4 linktypeRaw

def captureOf (frame : Bytes) : Bytes :=
  rawCaptureHead ++ (leBytes 4 1 ++ leBytes 4 0) ++
    (leBytes 4 frame.length ++ (leBytes 4 44 ++ frame))

theorem framesFrom_captureOf {frame : Bytes} (short : frame.length < 2 ^ 32) :
    framesFrom .little (captureOf frame) 24 = [frame] := by
  have length : (captureOf frame).length = 40 + frame.length := by
    simp [captureOf, rawCaptureHead]
    omega
  have size : ByteOrder.little.nat (slice (captureOf frame) 32 4) = frame.length := by
    rw [captureOf, slice_append _ _ _ 32 4 (by decide) (leBytes_length 4 _), ByteOrder.nat,
      leNat_leBytes]
    exact Nat.mod_eq_of_lt short
  have body : slice (captureOf frame) 40 frame.length = frame := by
    rw [captureOf, slice_after _ _ 40 _ (by decide), slice_after _ _ _ _ (by simp [rawCaptureHead]),
      slice_after _ _ _ _ (by simp [rawCaptureHead])]
    simp [slice, rawCaptureHead]
  rw [framesFrom, if_pos (by omega), size, body, framesFrom, if_neg (by omega)]

def extendedFrame : Bytes := flaggedHeader ++ [0, 0, 0, 0x85] ++ [1, 0, 9, 0]

theorem extended_capture_in_range : InRange (captureOf extendedFrame) := by
  have order : ownerOrder (captureOf extendedFrame) = .little := by decide +kernel
  have linkType : ByteOrder.little.nat (slice (captureOf extendedFrame) 20 4) = linktypeRaw := by
    decide +kernel
  refine (capture_in_range_iff (by decide)).mpr ?_
  rw [order, linkType, framesFrom_captureOf (by decide)]
  intro frame member ip gtp found flagged
  rw [List.mem_singleton] at member
  subst member
  have place : tpduAt linktypeRaw extendedFrame = some (0, 28) := by decide +kernel
  cases place.symm.trans found
  rw [endsInside_iff, skipExtensions_at_header (by decide) (by decide), if_neg (by decide),
    succeeds_byteIn_bind, skipExtensions_at_end (by decide)]
  exact ⟨by decide, by decide, succeeds_ok _⟩

/-- The capture was cut behind the mandatory header. -/
theorem truncated_capture_overruns :
    tunnelOwners (captureOf flaggedHeader) (fun _ => none) = .error .index ∧
      ¬ InRange (captureOf flaggedHeader) := by
  have order : ownerOrder (captureOf flaggedHeader) = .little := by decide +kernel
  have overruns : tunnelOwners (captureOf flaggedHeader) (fun _ => none) = .error .index := by
    rw [tunnelOwners_eq (by decide), order, framesFrom_captureOf (by decide), List.foldlM_cons]
    rfl
  refine ⟨overruns, fun inRange => ?_⟩
  have succeeds := inRange.owners (fun _ => none)
  rw [overruns] at succeeds
  exact not_succeeds_error _ succeeds

end Sentinel5G.Capture
