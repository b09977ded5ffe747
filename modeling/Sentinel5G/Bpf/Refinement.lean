import Sentinel5G.Bpf.Dissect
import Sentinel5G.Ebpf.DropSets

namespace Sentinel5G.Bpf

open Base Ebpf

namespace Sighting

variable (seen : Sighting)

theorem nameOfKey_source :
    nameOfKey seen.path.blocklist seen.saddr = (IP.string seen.saddr, 0) := by
  rw [path]
  cases seen.family <;> rfl

theorem nameOfKey_tunnel (teid : UInt32) :
    nameOfKey seen.path.tunnelBlocklist (seen.tunnelKey teid) = (IP.string seen.saddr, teid) := by
  have width := seen.saddrWidth
  rw [tunnelKey, path]
  cases family : seen.family with
  | ipv4 =>
      rw [family] at width
      have key : Bpf.tunnelKey seen.saddr teid = tunnelRateKey seen.saddr teid := by
        rw [Bpf.tunnelKey, tunnelRateKey, leBytes_of_length 4 seen.saddr width]
      simp only [Family.path, ipv4Path, nameOfKey, key,
        Loader.tunnelOfKey_tunnelRateKey seen.saddr teid width]
  | ipv6 =>
      rw [family] at width
      have key : tunnelKeyV6 seen.saddr teid = tunnelRateKeyV6 seen.saddr teid := rfl
      simp only [Family.path, ipv6Path, nameOfKey, key,
        Loader.tunnelOfKeyV6_tunnelRateKeyV6 seen.saddr teid width]

theorem verdict_congr {before after : Loader} (env : Env) (rates : Rates)
    (source : blocked after seen.path.blocklist seen.saddr =
      blocked before seen.path.blocklist seen.saddr)
    (tunnel : ∀ teid, seen.tunnel = some teid →
      blocked after seen.path.tunnelBlocklist (seen.tunnelKey teid) =
        blocked before seen.path.tunnelBlocklist (seen.tunnelKey teid)) :
    seen.verdict env after rates = seen.verdict env before rates := by
  have same : ∀ maps, seen.admitted env after maps = seen.admitted env before maps := by
    intro maps
    rw [admitted, admitted]
    cases segment : seen.segment with
    | gtpu payloadSize parse teid =>
        by_cases zero : teid = 0
        · simp only [zero, if_true]
        · have inTunnel : seen.tunnel = some teid := by
            simp only [Sighting.tunnel, segment, if_neg zero]
          simp only [tunnel teid inTunnel]
    | unread => rfl
    | truncated => rfl
    | sip payloadSize => rfl
    | offPort destPort payloadSize => rfl
  have outcomes : seen.outcome env after (rates.of seen.family) =
      seen.outcome env before (rates.of seen.family) := by
    rw [outcome, outcome, sourceBlocked, sourceBlocked, source, same]
  rw [verdict, verdict, outcomes]

end Sighting

def Concerns (call : BlocklistCall) (seen : Sighting) : Prop :=
  match call with
  | .block ip | .unblock ip => IP.string seen.saddr = ip.string
  | .blockTunnel ip teid | .unblockTunnel ip teid =>
      IP.string seen.saddr = ip.string ∧ seen.tunnel = some teid

theorem blocked_congr {before after : Loader} {map : EnforcementMap} {key : Bytes}
    (same : (after.maps map).lookup key = (before.maps map).lookup key) :
    blocked after map key = blocked before map key := by
  rw [blocked, blocked, same]

def Sighting.Hit (seen : Sighting) (drop : Drop) : Prop :=
  drop.slot = ⟨seen.path.blocklist, seen.saddr⟩ ∨
    ∃ teid, seen.tunnel = some teid ∧
      drop.slot = ⟨seen.path.tunnelBlocklist, seen.tunnelKey teid⟩

theorem Sighting.Hit.name {seen : Sighting} {drop : Drop} (hit : seen.Hit drop) :
    drop.name = (IP.string seen.saddr, 0) ∨
      ∃ teid, seen.tunnel = some teid ∧ drop.name = (IP.string seen.saddr, teid) := by
  rcases hit with slot | ⟨teid, inTunnel, slot⟩
  · left
    rw [← drop.nameOfKey_slot, slot, seen.nameOfKey_source]
  · right
    exact ⟨teid, inTunnel, by rw [← drop.nameOfKey_slot, slot, seen.nameOfKey_tunnel]⟩

theorem Sighting.Hit.source {seen : Sighting} {address : Address} {ip : IP}
    (hit : seen.Hit (.source address)) (long : ip.to16 = some address.val) :
    IP.string seen.saddr = ip.string := by
  rw [string_eq_text ip address long]
  rcases hit.name with named | ⟨teid, -, named⟩
  · exact (Prod.mk.inj named).1.symm
  · exact (Prod.mk.inj named).1.symm

theorem Sighting.Hit.tunnel {seen : Sighting} {address : Address} {ip : IP} {teid : UInt32}
    (hit : seen.Hit (.tunnel address teid)) (long : ip.to16 = some address.val)
    (nonzero : teid ≠ 0) : IP.string seen.saddr = ip.string ∧ seen.tunnel = some teid := by
  rw [string_eq_text ip address long]
  rcases hit.name with named | ⟨parsed, inTunnel, named⟩
  · exact absurd (Prod.mk.inj named).2 nonzero
  · obtain ⟨text, rfl⟩ := Prod.mk.inj named
    exact ⟨text.symm, inTunnel⟩

theorem concerns_of_hit {call : BlocklistCall} {seen : Sighting} {drop : Drop}
    (about : call.Places drop ∨ call.Lifts drop) (hit : seen.Hit drop) : Concerns call seen := by
  cases call with
  | block ip =>
      obtain ⟨address, long, rfl⟩ := about.resolve_right id
      exact hit.source long
  | unblock ip =>
      obtain ⟨address, long, rfl⟩ := about.resolve_left id
      exact hit.source long
  | blockTunnel ip teid =>
      obtain ⟨address, long, nonzero, rfl⟩ := about.resolve_right id
      exact hit.tunnel long nonzero
  | unblockTunnel ip teid =>
      obtain ⟨address, long, nonzero, rfl⟩ := about.resolve_left id
      exact hit.tunnel long nonzero

/-- A call leaves the verdict on every frame alone that it is not about. -/
theorem verdict_frame (loader : Loader) (call : BlocklistCall) (env : Env) (frame : Bytes)
    (rates : Rates) (unconcerned : ∀ seen, sight frame = some seen → ¬ Concerns call seen) :
    xdpPacketFilter env (loader.after call) frame rates = xdpPacketFilter env loader frame
      rates := by
  rw [Loader.after]
  cases result : call.apply loader with
  | error err => rfl
  | ok next =>
      obtain ⟨drop, about, framed⟩ := call.apply_frame result
      rw [xdpPacketFilter_eq, xdpPacketFilter_eq]
      cases seenIs : sight frame with
      | none => rfl
      | some seen =>
          have missed : ¬ seen.Hit drop :=
            fun hit => unconcerned seen seenIs (concerns_of_hit about hit)
          apply seen.verdict_congr
          · exact blocked_congr (framed ⟨_, _⟩ (fun same => missed (.inl same.symm)))
          · intro teid inTunnel
            exact blocked_congr
              (framed ⟨_, _⟩ (fun same => missed (.inr ⟨teid, inTunnel, same.symm⟩)))

/-- The loader behaves as the two sets do. -/
structure Refines (capacity : EnforcementMap → Nat) (loader : Loader) (sets : DropSets) : Prop where
  lists : loader.Lists sets
  accepts : ∀ call : BlocklistCall,
    (∃ next, call.apply loader = .ok next) ↔ (sets.apply capacity call).isSome
  refused : ∀ call : BlocklistCall, sets.apply capacity call = none → loader.after call = loader
  absentSource : ∀ ip : IP, ip.length = 4 ∨ ip.length = 16 → ip.string ∉ sets.sources →
    loader.unblock ip = .ok loader
  absentTunnel : ∀ (ip : IP) (teid : UInt32), ip.length = 4 ∨ ip.length = 16 → teid ≠ 0 →
    (ip.string, teid) ∉ sets.tunnels → loader.unblockTunnel ip teid = .ok loader
  verdict : ∀ (call : BlocklistCall) (env : Env) (frame : Bytes) (rates : Rates),
    (∀ seen, sight frame = some seen → ¬ Concerns call seen) →
    xdpPacketFilter env (loader.after call) frame rates = xdpPacketFilter env loader frame rates

theorem loader_refines_dropSets (capacity : EnforcementMap → Nat) (calls : List BlocklistCall) :
    Refines capacity (calls.foldl Loader.after (.empty capacity))
      (calls.foldl (DropSets.after capacity) .empty) := by
  obtain ⟨shown, sized⟩ := Loader.run_shows capacity calls
  have agrees := Loader.apply_agrees shown sized
  refine ⟨shown.lists, fun call => (agrees call).ok_iff, ?_, fun _ => Loader.unblock_absent shown,
    fun _ _ => Loader.unblockTunnel_absent shown, verdict_frame _⟩
  intro call none
  have accepted := (agrees call).ok_iff
  rw [none] at accepted
  rw [Loader.after]
  split
  · rename_i next result
    cases accepted.mp ⟨next, result⟩
  · rfl

end Sentinel5G.Bpf
