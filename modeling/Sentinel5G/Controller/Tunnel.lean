import Sentinel5G.Api.Policy
import Sentinel5G.Ebpf.Drop

namespace Sentinel5G.Controller

open Base Api Ebpf

def formatTunnel (sourceIP : String) (teid : UInt32) : String :=
  sourceIP ++ "/" ++ hexLiteral teid.toNat

def trimHexPrefix : List Char → List Char
  | '0' :: 'x' :: rest => rest
  | text => text

def parseUintErr (text : List Char) : Err :=
  errorf ("strconv.ParseUint: parsing " ++ quoted (String.ofList text) ++ ": " ++
    if text ≠ [] ∧ (parseDigits 16 0 text).isSome then "value out of range" else "invalid syntax")

def parseTunnel (entry : String) : Except Err (IP × UInt32) :=
  let malformed := "malformed tunnel entry " ++ quoted entry
  let sourceIP := String.ofList (entry.toList.takeWhile (· ≠ '/'))
  match entry.toList.dropWhile (· ≠ '/') with
  | [] => .error (errorf (malformed ++ ": want \"<ip>/<teid>\""))
  | _ :: rawTEID =>
      match parseIP sourceIP with
      | none => .error (errorf (malformed ++ ": " ++ quoted sourceIP ++ " is not an IP"))
      | some ip =>
          match parseUint 16 32 (trimHexPrefix rawTEID) with
          | none => .error ((parseUintErr (trimHexPrefix rawTEID)).wrap malformed)
          | some teid => .ok (ip, UInt32.ofNat teid)

theorem takeWhile_slash (front back : List Char) (plain : '/' ∉ front) :
    (front ++ '/' :: back).takeWhile (· ≠ '/') = front := by
  rw [List.takeWhile_append_of_pos]
  · simp
  · intro c member
    simp only [ne_eq, decide_eq_true_eq]
    exact fun same => plain (same ▸ member)

theorem dropWhile_slash (front back : List Char) (plain : '/' ∉ front) :
    (front ++ '/' :: back).dropWhile (· ≠ '/') = '/' :: back := by
  rw [List.dropWhile_append_of_pos]
  · simp
  · intro c member
    simp only [ne_eq, decide_eq_true_eq]
    exact fun same => plain (same ▸ member)

theorem parseTunnel_formatTunnel (sourceIP : String) (ip : IP) (teid : UInt32)
    (address : parseIP sourceIP = some ip) :
    parseTunnel (formatTunnel sourceIP teid) = .ok (ip, teid) := by
  have plain := slash_not_mem_parseIP sourceIP ip address
  have text : (formatTunnel sourceIP teid).toList =
      sourceIP.toList ++ '/' :: '0' :: 'x' :: Nat.toDigits 16 teid.toNat := by
    simp [formatTunnel, hexLiteral]
  have digits : parseUint 16 32 (Nat.toDigits 16 teid.toNat) = some teid.toNat :=
    parseUint_toDigits 16 32 teid.toNat (by decide) (by decide) teid.toNat_lt
  simp only [parseTunnel, text, takeWhile_slash _ _ plain, dropWhile_slash _ _ plain,
    String.ofList_toList, address, trimHexPrefix, digits, UInt32.ofNat_toNat]

theorem parseTunnel_length (entry : String) (ip : IP) (teid : UInt32)
    (accepted : parseTunnel entry = .ok (ip, teid)) : ip.length = 16 := by
  simp only [parseTunnel] at accepted
  split at accepted
  · cases accepted
  · split at accepted
    · cases accepted
    · rename_i found
      split at accepted
      · cases accepted
      · cases accepted
        exact parseIP_length _ _ found

/-- A status claims every drop one of its entries parses to, however the entry
is spelled. -/
inductive Claims (status : PolicyStatus) : Drop → Prop
  | source (raw : String) (address : Address) (listed : raw ∈ status.blockedSourceIPs)
      (parsed : parseIP raw = some address.val) : Claims status (.source address)
  | tunnel (entry : String) (address : Address) (teid : UInt32)
      (listed : entry ∈ status.blockedTunnels)
      (parsed : parseTunnel entry = .ok (address.val, teid)) : Claims status (.tunnel address teid)

theorem Claims.mono {status wider : PolicyStatus} {drop : Drop} (claims : Claims status drop)
    (sources : ∀ raw ∈ status.blockedSourceIPs, raw ∈ wider.blockedSourceIPs)
    (tunnels : ∀ entry ∈ status.blockedTunnels, entry ∈ wider.blockedTunnels) :
    Claims wider drop := by
  cases claims with
  | source raw address listed parsed => exact .source raw address (sources raw listed) parsed
  | tunnel entry address teid listed parsed =>
      exact .tunnel entry address teid (tunnels entry listed) parsed

theorem claims_source_iff {status : PolicyStatus} {address : Address} :
    Claims status (.source address) ↔
      ∃ raw ∈ status.blockedSourceIPs, parseIP raw = some address.val := by
  constructor
  · rintro ⟨raw, _, listed, parsed⟩
    exact ⟨raw, listed, parsed⟩
  · rintro ⟨raw, listed, parsed⟩
    exact .source raw address listed parsed

theorem claims_tunnel_iff {status : PolicyStatus} {address : Address} {teid : UInt32} :
    Claims status (.tunnel address teid) ↔
      ∃ entry ∈ status.blockedTunnels, parseTunnel entry = .ok (address.val, teid) := by
  constructor
  · intro claims
    cases claims with
    | tunnel entry _ _ listed parsed => exact ⟨entry, listed, parsed⟩
  · rintro ⟨entry, listed, parsed⟩
    exact .tunnel entry address teid listed parsed

instance (status : PolicyStatus) (drop : Drop) : Decidable (Claims status drop) :=
  match drop with
  | .source _ => decidable_of_iff _ claims_source_iff.symm
  | .tunnel _ _ => decidable_of_iff _ claims_tunnel_iff.symm

theorem address_of_parse {ip : IP} {address : Address} (length : ip.length = 16)
    (long : ip.to16 = some address.val) : ip = address.val := by
  rw [to16_eq_self ip length, Option.some.injEq] at long
  exact long

end Sentinel5G.Controller
