import Sentinel5G.Controller.Enforcement
import Sentinel5G.Ebpf.DropSets
import Mathlib.Data.List.TakeWhile

namespace Sentinel5G.Controller

open Base Api Ebpf

def HexNumber (digits : List Char) (value : UInt32) : Prop :=
  digits ≠ [] ∧ (∀ c ∈ digits, IsHexDigit c) ∧ digitsValue 16 digits = value.toNat

/-- An address, a slash, and digits behind at most one `0x`. -/
def TunnelText (entry : String) (ip : IP) (teid : UInt32) : Prop :=
  ∃ left right digits, entry.toList = left ++ '/' :: right ∧ '/' ∉ left ∧
    parseIP (String.ofList left) = some ip ∧
    (right = digits ∨ right = '0' :: 'x' :: digits) ∧ HexNumber digits teid

theorem hexNumber_iff (digits : List Char) (teid : UInt32) :
    HexNumber digits teid ↔ parseUint 16 32 digits = some teid.toNat := by
  rw [parseUint_hex_iff, HexNumber]
  simp only [teid.toNat_lt, and_true]

theorem trimHexPrefix_of_hex {digits : List Char} (hex : ∀ c ∈ digits, IsHexDigit c) :
    trimHexPrefix digits = digits := by
  rw [trimHexPrefix.eq_def]
  split
  · rename_i rest
    have x := (isHexDigit_iff 'x').mp (hex 'x' (by simp))
    have none : digitValue 'x' = none := by decide
    simp [none] at x
  · rfl

theorem trimHexPrefix_cases (right : List Char) :
    right = trimHexPrefix right ∨ right = '0' :: 'x' :: trimHexPrefix right := by
  rw [trimHexPrefix.eq_def]
  split
  · exact .inr rfl
  · exact .inl rfl

theorem hexNumber_trim_iff (right : List Char) (teid : UInt32) :
    parseUint 16 32 (trimHexPrefix right) = some teid.toNat ↔
      ∃ digits, (right = digits ∨ right = '0' :: 'x' :: digits) ∧ HexNumber digits teid := by
  rw [← hexNumber_iff]
  constructor
  · intro number
    exact ⟨trimHexPrefix right, trimHexPrefix_cases right, number⟩
  · rintro ⟨digits, rfl | rfl, number⟩
    · rw [trimHexPrefix_of_hex number.2.1]
      exact number
    · exact number

/-- A tunnel is read from the texts of that form, and from no others. -/
theorem parseTunnel_eq_ok_iff (entry : String) (ip : IP) (teid : UInt32) :
    parseTunnel entry = .ok (ip, teid) ↔ TunnelText entry ip teid := by
  constructor
  · intro accepted
    by_cases slash : '/' ∈ entry.toList
    · obtain ⟨left, right, cut, plain⟩ := List.eq_append_cons_of_mem slash
      simp only [parseTunnel, cut, takeWhile_slash _ _ plain, dropWhile_slash _ _ plain] at accepted
      split at accepted
      · cases accepted
      · rename_i address
        split at accepted
        · cases accepted
        · rename_i number
          obtain ⟨rfl, rfl⟩ := Prod.mk.inj (Except.ok.inj accepted)
          have fits := ((parseUint_hex_iff 32 _ _).mp number).2.2.2
          rw [← UInt32.toNat_ofNat_of_lt' fits] at number
          obtain ⟨digits, form, hex⟩ := (hexNumber_trim_iff right _).mp number
          exact ⟨left, right, digits, cut, plain, address, form, hex⟩
    · have none : entry.toList.dropWhile (· ≠ '/') = [] := by
        rw [List.dropWhile_eq_nil_iff]
        intro c member
        exact decide_eq_true (fun same => slash (same ▸ member))
      simp only [parseTunnel, none] at accepted
      cases accepted
  · rintro ⟨left, right, digits, cut, plain, address, form, hex⟩
    have number := (hexNumber_trim_iff right teid).mpr ⟨digits, form, hex⟩
    simp only [parseTunnel, cut, takeWhile_slash _ _ plain, dropWhile_slash _ _ plain, address,
      number, UInt32.ofNat_toNat]

theorem mem_blockedTunnels_after {before after : Loader} {address : Address} {teid : UInt32}
    (blocked : before.blockTunnel address.val teid = .ok after) {tunnel : BlockedTunnel}
    (listed : tunnel ∈ after.blockedTunnels) :
    tunnel ∈ before.blockedTunnels ∨
      tunnel.ip.to16 = some address.val ∧ tunnel.teid = teid := by
  obtain ⟨other, long, -, adds⟩ := Loader.blockTunnel_adds blocked
  cases Subtype.ext (address_of_parse address.2 long)
  rcases List.mem_append.mp listed with inV4 | inV6
  · obtain ⟨key, stored, rfl⟩ := List.mem_map.mp inV4
    have present : (⟨.tunnelBlocklist, key⟩ : Slot) ∈ after := BpfHash.mem_keys.mp stored
    rcases (adds.1 _).mp present with created | old
    · exact .inr (Loader.tunnelOfKey_slot created)
    · exact .inl (List.mem_append_left _ (List.mem_map_of_mem (BpfHash.mem_keys.mpr old)))
  · obtain ⟨key, stored, rfl⟩ := List.mem_map.mp inV6
    have present : (⟨.tunnelBlocklistV6, key⟩ : Slot) ∈ after := BpfHash.mem_keys.mp stored
    rcases (adds.1 _).mp present with created | old
    · exact .inr (Loader.tunnelOfKeyV6_slot created)
    · exact .inl (List.mem_append_right _ (List.mem_map_of_mem (BpfHash.mem_keys.mpr old)))

theorem actualTunnel_eq {tunnel : BlockedTunnel} {address : Address}
    (long : tunnel.ip.to16 = some address.val) :
    actualTunnel tunnel = some (formatTunnel address.text tunnel.teid, tunnel) := by
  rw [actualTunnel, string_eq_text _ _ long]

/-- The text of a tunnel as a code for tunnels. -/
structure TunnelCodec : Prop where
  /-- What is printed is read back. -/
  roundTrip : ∀ (ip : IP) (teid : UInt32), ip.length = 4 ∨ ip.length = 16 →
    ∃ parsed, parseTunnel (formatTunnel ip.string teid) = .ok (parsed, teid) ∧
      IP.equal parsed ip = true
  /-- Different tunnels are printed differently. -/
  distinct : ∀ (first second : IP) (teid other : UInt32), first.length = 4 ∨ first.length = 16 →
    second.length = 4 ∨ second.length = 16 →
    formatTunnel first.string teid = formatTunnel second.string other →
    IP.equal first second = true ∧ teid = other
  /-- Nothing else is read. -/
  accepts : ∀ entry ip teid, parseTunnel entry = .ok (ip, teid) ↔ TunnelText entry ip teid
  /-- A claimed tunnel and the entry that blocking it creates have one key. -/
  keys : ∀ entry ip teid, parseTunnel entry = .ok (ip, teid) → teid ≠ 0 →
    ∃ key, desiredTunnel entry = some (key, ⟨ip, teid⟩) ∧ parseTunnel key = .ok (ip, teid) ∧
      ∀ before after : Loader, before.blockTunnel ip teid = .ok after →
        (∃ tunnel ∈ after.blockedTunnels, actualTunnel tunnel = some (key, tunnel)) ∧
        ∀ tunnel ∈ after.blockedTunnels, tunnel ∉ before.blockedTunnels →
          actualTunnel tunnel = some (key, tunnel)

theorem tunnel_codec : TunnelCodec where
  roundTrip := by
    intro ip teid valid
    obtain ⟨address, long⟩ := Loader.to16_of_valid valid
    refine ⟨address.val, parseTunnel_formatTunnel _ _ teid (parseIP_string ip _ long), ?_⟩
    exact (equal_iff (to16_eq_self _ address.2) long).mpr rfl
  distinct := by
    intro first second teid other validFirst validSecond same
    obtain ⟨address, long⟩ := Loader.to16_of_valid validFirst
    obtain ⟨another, otherLong⟩ := Loader.to16_of_valid validSecond
    rw [string_eq_text _ _ long, string_eq_text _ _ otherLong] at same
    obtain ⟨rfl, rfl⟩ := formatTunnel_inj same
    exact ⟨(equal_iff long otherLong).mpr rfl, rfl⟩
  accepts := parseTunnel_eq_ok_iff
  keys := by
    intro entry ip teid parsed nonzero
    obtain ⟨address, rfl⟩ : ∃ address : Address, address.val = ip :=
      ⟨⟨ip, parseTunnel_length entry ip teid parsed⟩, rfl⟩
    refine ⟨formatTunnel address.text teid, desiredTunnel_eq parsed nonzero,
      parseTunnel_formatTunnel _ _ teid (parseIP_text address), fun before after blocked => ?_⟩
    obtain ⟨other, long, -, adds⟩ := Loader.blockTunnel_adds blocked
    have same : address = other := Subtype.ext (address_of_parse address.2 long)
    subst same
    constructor
    · obtain ⟨tunnel, listed, shown, rfl⟩ := Loader.blockedTunnels_of_holds address teid
        ((adds.holds _).mpr (.inl rfl))
      exact ⟨tunnel, listed, actualTunnel_eq shown⟩
    · intro tunnel listed created
      obtain ⟨shown, rfl⟩ := (mem_blockedTunnels_after blocked listed).resolve_left created
      exact actualTunnel_eq shown

end Sentinel5G.Controller
