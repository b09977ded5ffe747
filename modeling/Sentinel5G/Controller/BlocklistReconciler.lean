import Sentinel5G.Controller.World
import Sentinel5G.Ebpf.Updater
import Std.Data.ExtTreeSet.Lemmas

/-! The blocklist reconciler: one pass compares what the policies' status claims
with what the kernel holds, and corrects the kernel. -/

namespace Sentinel5G.Controller

open Base Api Ebpf Program

structure DriftReport where
  missingIPs : Nat
  missingTunnels : Nat
  extraIPs : Nat
  extraTunnels : Nat
  pendingExtraIPs : Nat
  pendingExtraTunnels : Nat
  desiredIPs : Nat
  desiredTunnels : Nat
  kernelIPs : Nat
  kernelTunnels : Nat
  deriving DecidableEq, Repr

def DriftReport.zero : DriftReport := ⟨0, 0, 0, 0, 0, 0, 0, 0, 0, 0⟩

def DriftReport.corrections (report : DriftReport) : Nat :=
  report.missingIPs + report.missingTunnels + report.extraIPs + report.extraTunnels

def DriftReport.drifted (report : DriftReport) : Bool := report.corrections > 0

abbrev Keyed (V : Type) := Std.ExtTreeMap String V compare

abbrev Unclaimed := Std.ExtTreeSet String compare

def keep {α V : Type} (entry : α → Option (String × V)) (found : Keyed V) (item : α) : Keyed V :=
  match entry item with
  | none => found
  | some (key, value) => found.insert key value

def keyedBy {α V : Type} (entry : α → Option (String × V)) (items : List α) : Keyed V :=
  items.foldl (keep entry) ∅

def desiredIP (raw : String) : Option (String × IP) :=
  match parseIP raw with
  | none => none
  | some ip => some (ip.string, ip)

/-- A tunnel 0 is skipped too: the kernel side refuses it every time. -/
def desiredTunnel (entry : String) : Option (String × BlockedTunnel) :=
  match parseTunnel entry with
  | .error _ => none
  | .ok (ip, teid) => if teid = 0 then none else some (formatTunnel ip.string teid, ⟨ip, teid⟩)

def desiredEnforcement (policies : List TelecomSecurityPolicy) : Keyed IP × Keyed BlockedTunnel :=
  let live := policies.filter (fun policy => policy.deletionTimestamp.isNone)
  (keyedBy desiredIP (live.flatMap (fun policy => policy.status.blockedSourceIPs)),
    keyedBy desiredTunnel (live.flatMap (fun policy => policy.status.blockedTunnels)))

def actualIP (ip : IP) : Option (String × IP) := some (ip.string, ip)

def actualTunnel (tunnel : BlockedTunnel) : Option (String × BlockedTunnel) :=
  some (formatTunnel tunnel.ip.string tunnel.teid, tunnel)

def invoke : BlocklistCall → Action (Except Err Unit)
  | .block ip => perform (Op.block ip)
  | .unblock ip => perform (Op.unblock ip)
  | .blockTunnel ip teid => perform (Op.blockTunnel ip teid)
  | .unblockTunnel ip teid => perform (Op.unblockTunnel ip teid)

structure Family (V : Type) where
  space : String
  place : V → BlocklistCall
  lift : V → BlocklistCall
  reapplyContext : String
  removeContext : String

def ipFamily : Family IP where
  space := "ip:"
  place := .block
  lift := .unblock
  reapplyContext := "re-apply block for "
  removeContext := "remove unclaimed block for "

def tunnelFamily : Family BlockedTunnel where
  space := "tunnel:"
  place := fun tunnel => .blockTunnel tunnel.ip tunnel.teid
  lift := fun tunnel => .unblockTunnel tunnel.ip tunnel.teid
  reapplyContext := "re-apply tunnel block for "
  removeContext := "remove unclaimed tunnel block for "

def failures (context key : String) (outcome : Except Err Unit) (errs : List Err) : List Err :=
  match outcome with
  | .error err => err.wrap (context ++ key) :: errs
  | .ok () => errs

structure Additions where
  missing : Nat
  errs : List Err

def reapply {V : Type} (family : Family V) (actual : Keyed V) :
    List (String × V) → Action Additions
  | [] => return ⟨0, []⟩
  | (key, value) :: rest => do
      if key ∈ actual then reapply family actual rest
      else
        let outcome ← invoke (family.place value)
        let others ← reapply family actual rest
        return ⟨others.missing + 1, failures family.reapplyContext key outcome others.errs⟩

structure Removals where
  stillUnclaimed : List String
  pending : Nat
  extra : Nat
  errs : List Err

/-- An entry no policy claims is removed when the previous pass had found it
unclaimed too, and remembered otherwise. -/
def prune {V : Type} (family : Family V) (desired : Keyed V) (unclaimed : Unclaimed) :
    List (String × V) → Action Removals
  | [] => return ⟨[], 0, 0, []⟩
  | (key, value) :: rest => do
      if key ∈ desired then prune family desired unclaimed rest
      else if family.space ++ key ∈ unclaimed then
        let outcome ← invoke (family.lift value)
        let others ← prune family desired unclaimed rest
        return ⟨(family.space ++ key) :: others.stillUnclaimed, others.pending, others.extra + 1,
          failures family.removeContext key outcome others.errs⟩
      else
        let others ← prune family desired unclaimed rest
        return ⟨(family.space ++ key) :: others.stillUnclaimed, others.pending + 1, others.extra,
          others.errs⟩

def joinErrs (errs : List Err) : Err where
  kind := (errs.head?.map Err.kind).getD .other
  text := "\n".intercalate (errs.map Err.text)

structure SyncOutcome where
  report : DriftReport
  err : Option Err
  unclaimed : Unclaimed

def syncErr (report : DriftReport) (errs : List Err) : Option Err :=
  if errs.length > 0 then
    some ((joinErrs errs).wrap ("blocklist reconciliation applied " ++
      toString ((report.corrections : Int) - errs.length) ++ " of " ++
        toString report.corrections ++
      " corrections"))
  else none

def correct (desired : Keyed IP × Keyed BlockedTunnel) (kernelIPs : List IP)
    (kernelTunnels : List BlockedTunnel) (unclaimed : Unclaimed) : Action SyncOutcome := do
  let actualIPs := keyedBy actualIP kernelIPs
  let actualTunnels := keyedBy actualTunnel kernelTunnels
  let addedIPs ← reapply ipFamily actualIPs desired.1.toList
  let removedIPs ← prune ipFamily desired.1 unclaimed actualIPs.toList
  let addedTunnels ← reapply tunnelFamily actualTunnels desired.2.toList
  let removedTunnels ← prune tunnelFamily desired.2 unclaimed actualTunnels.toList
  let report : DriftReport :=
    { missingIPs := addedIPs.missing
      missingTunnels := addedTunnels.missing
      extraIPs := removedIPs.extra
      extraTunnels := removedTunnels.extra
      pendingExtraIPs := removedIPs.pending
      pendingExtraTunnels := removedTunnels.pending
      desiredIPs := desired.1.size
      desiredTunnels := desired.2.size
      kernelIPs := kernelIPs.length
      kernelTunnels := kernelTunnels.length }
  return {
    report := report
    err := syncErr report
      (addedIPs.errs ++ removedIPs.errs ++ addedTunnels.errs ++ removedTunnels.errs)
    unclaimed := .ofList (removedIPs.stillUnclaimed ++ removedTunnels.stillUnclaimed) compare }

def DriftReport.listed (desired : Keyed IP × Keyed BlockedTunnel) : DriftReport :=
  { zero with desiredIPs := desired.1.size, desiredTunnels := desired.2.size }

def readTunnels (unclaimed : Unclaimed) (desired : Keyed IP × Keyed BlockedTunnel)
    (kernelIPs : List IP) : Action SyncOutcome := do
  match ← perform Op.blockedTunnels with
  | .error err =>
      return ⟨.listed desired, some (err.wrap "read kernel tunnel blocklist"), unclaimed⟩
  | .ok kernelTunnels => correct desired kernelIPs kernelTunnels unclaimed

def readKernel (unclaimed : Unclaimed) (desired : Keyed IP × Keyed BlockedTunnel) :
    Action SyncOutcome := do
  match ← perform Op.blockedIPs with
  | .error err => return ⟨.listed desired, some (err.wrap "read kernel blocklist"), unclaimed⟩
  | .ok kernelIPs => readTunnels unclaimed desired kernelIPs

/-- One pass. A failed read of any kind changes nothing, the memory of the
previous pass included. -/
def sync (unclaimed : Unclaimed) : Action SyncOutcome := do
  match ← perform Op.listPolicies with
  | .error err =>
      return ⟨.zero, some (err.wrap "list TelecomSecurityPolicies"), unclaimed⟩
  | .ok policies => readKernel unclaimed (desiredEnforcement policies)

end Sentinel5G.Controller
