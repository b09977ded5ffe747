import Sentinel5G.Controller.Reconciler
import Sentinel5G.Controller.WatcherSpec

namespace Sentinel5G.Controller

open Base Api Ebpf Program

def Kept (good : NamespacedName → PolicyStatus → Prop) (world : World) : Prop :=
  ∀ key policy, some policy ∈ world.server.history key → good key policy.status

variable {good : NamespacedName → PolicyStatus → Prop}

def GoodWrite (good : NamespacedName → PolicyStatus → Prop) (world : World)
    (sent : TelecomSecurityPolicy) : Prop :=
  ∀ current, world.server.persisted sent.key = some current →
    sent.resourceVersion = current.resourceVersion → good sent.key sent.status.stored

theorem Kept.of_server {world after : World} (kept : Kept good world)
    (same : after.server = world.server) : Kept good after := by
  intro key policy member
  rw [same] at member
  exact kept key policy member

theorem exec_updateStatus_kept (choice : Choice) (sent : TelecomSecurityPolicy) (world : World)
    (kept : Kept good world) (write : GoodWrite good world sent) :
    Kept good (exec choice (.updateStatus sent) world).2 := by
  rcases write_state choice world ((world.server.updateStatus sent).1,
    { world with server := (world.server.updateStatus sent).2 }) with unchanged | applied
  · exact kept.of_server (congrArg World.server unchanged)
  · intro key policy member
    rw [exec, applied] at member
    rcases Server.mem_history_replace member with older | ⟨current, rfl, stored, same, rfl⟩
    · exact kept key policy older
    · exact write current stored same

theorem exec_update_kept (choice : Choice) (sent : TelecomSecurityPolicy) (world : World)
    (kept : Kept good world) : Kept good (exec choice (.update sent) world).2 := by
  rcases write_state choice world ((world.server.update sent).1,
    { world with server := (world.server.update sent).2 }) with unchanged | applied
  · exact kept.of_server (congrArg World.server unchanged)
  · intro key policy member
    rw [exec, applied] at member
    rcases Server.mem_history_replace member with older | ⟨current, rfl, stored, -, rfl⟩
    · exact kept key policy older
    · exact kept _ current (Server.mem_history_of_persisted stored)

theorem exec_frame_kept (choice : Choice) (op : Op) (world : World) (frame : ¬ op.WritesServer)
    (kept : Kept good world) : Kept good (exec choice op world).2 :=
  kept.of_server (exec_server choice op world frame)

theorem Kept.of_asksOnly {α : Type} {program : Action α} {world : World} (kept : Kept good world)
    (asks : program.AsksOnly (fun op => ¬ op.WritesServer)) :
    program.Ends exec anyChoice (fun _ final => Kept good final) world :=
  Ends.of_asksOnly asks (fun choice op current _ frame held =>
    exec_frame_kept choice op current frame held) kept

theorem updateStatus_answer {choice : Choice} {sent updated : TelecomSecurityPolicy} {world : World}
    (accepted : (exec choice (.updateStatus sent) world).1 = .ok updated) :
    updated.key = sent.key ∧ updated.status = sent.status.stored ∧
    ∃ current, world.server.persisted sent.key = some current ∧
      sent.resourceVersion = current.resourceVersion := by
  have effect := write_ok choice world _ accepted
  rw [exec, effect] at accepted
  obtain ⟨current, stored, same, status, -, -⟩ := Server.replace_ok accepted
  have sameKey := Server.replace_ok_key (Server.withStatus sent) (fun _ => rfl) accepted
  exact ⟨sameKey, status, current, stored, same⟩

theorem update_answer {choice : Choice} {sent updated : TelecomSecurityPolicy} {world : World}
    (accepted : (exec choice (.update sent) world).1 = .ok updated) :
    updated.key = sent.key ∧
    ∃ current, world.server.persisted sent.key = some current ∧
      sent.resourceVersion = current.resourceVersion ∧ updated.status = current.status := by
  have effect := write_ok choice world _ accepted
  rw [exec, effect] at accepted
  obtain ⟨current, stored, same, status, -, -⟩ := Server.replace_ok accepted
  have sameKey := Server.replace_ok_key (Server.withObject sent) (fun _ => rfl) accepted
  exact ⟨sameKey, current, stored, same, status⟩

theorem updateStatus_kept {world : World} (policy : TelecomSecurityPolicy) (kept : Kept good world)
    (write : GoodWrite good world policy) :
    (updateStatus policy).Ends exec anyChoice (fun _ final => Kept good final) world := by
  intro choice _
  have after := exec_updateStatus_kept choice policy world kept write
  cases (exec choice (.updateStatus policy) world).1 with
  | error err => exact after
  | ok updated => exact fun _ _ => after.of_server rfl

theorem writeStatus_kept {world : World} (prev next : TelecomSecurityPolicy)
    (kept : Kept good world) (write : GoodWrite good world next) :
    (writeStatus prev next).Ends exec anyChoice (fun _ final => Kept good final) world :=
  ends_writeStatus (fun _ => updateStatus_kept next kept write)
    (fun _ _ _ _ => updateStatus_kept next kept write) (fun _ _ _ _ => kept)

/-- A score keeps every version good when the one status it may write is good. -/
theorem applyPolicy_kept {world : World} (watcher : ThreatScoreWatcher)
    (policy : TelecomSecurityPolicy) (event : ThreatScoreEvent) (kept : Kept good world)
    (write : GoodWrite good world (watcher.scored policy event world)) :
    (watcher.applyPolicy policy event).Ends exec anyChoice (fun _ final => Kept good final)
      world := by
  refine (watcher.applyPolicy_reads policy event world).ends (Ends.bind ?_)
  refine (writeStatus_kept policy _ kept write).mono (fun outcome middle held => ?_)
  exact held.of_asksOnly ((watcher.afterWrite_asks policy event world.engaged outcome).mono
    ThreatScoreWatcher.executes_frame)

end Sentinel5G.Controller
