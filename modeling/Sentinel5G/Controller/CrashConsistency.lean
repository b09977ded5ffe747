import Sentinel5G.Controller.Delivery
import Sentinel5G.Controller.SyncSpec

/-! A mitigation cut short at any point: the status written ahead of the actions
covers what they placed, and a later pass of the reconciler restores it. -/

namespace Sentinel5G.Controller

open Base Api Ebpf Program

def Covered (key : NamespacedName) (before current : World) : Prop :=
  ∀ drop, current.loader.Holds drop → ¬ before.loader.Holds drop →
    ∃ stored, current.server.persisted key = some stored ∧ Claims stored.status drop

def Undeleted (key : NamespacedName) (world : World) : Prop :=
  ∀ stored, world.server.persisted key = some stored → stored.deletionTimestamp.isNone

def FailedWrite : Exchange Op.Answer → Prop
  | ⟨.updateStatus _, .error _⟩ => True
  | _ => False

theorem exec_undeleted {key : NamespacedName} (choice : Choice) (op : Op) (world : World)
    (status : ∀ policy, op ≠ .update policy) (undeleted : Undeleted key world) :
    Undeleted key (exec choice op world).2 := by
  by_cases writes : op.WritesServer
  · cases op with
    | updateStatus sent =>
        rcases write_state choice world ((world.server.updateStatus sent).1,
          { world with server := (world.server.updateStatus sent).2 }) with unchanged | applied
        · rw [exec, unchanged]
          exact undeleted
        · rw [exec, applied]
          intro stored found
          rcases world.server.persisted_updateStatus_cases sent key with
            same | ⟨current, -, before, -, replaced⟩
          · exact undeleted stored (same.symm.trans found)
          · cases replaced.symm.trans found
            exact undeleted current before
    | update sent => exact absurd rfl (status sent)
    | _ => exact writes.elim
  · intro stored found
    rw [exec_server choice op world writes] at found
    exact undeleted stored found

def OnStatus (op : Op) : Prop :=
  ¬ op.WritesKernel ∧ ¬ op.WritesMesh ∧ ∀ policy, op ≠ .update policy

theorem updateStatus_onStatus (policy : TelecomSecurityPolicy) :
    (updateStatus policy).AsksOnly OnStatus := by
  refine ⟨⟨id, id, by simp⟩, fun answer => ?_⟩
  cases answer with
  | error err => trivial
  | ok updated => exact ⟨⟨id, id, by simp⟩, fun _ => trivial⟩

theorem writeStatus_onStatus (prev next : TelecomSecurityPolicy) :
    (writeStatus prev next).AsksOnly OnStatus := by
  rw [writeStatus]
  split
  · exact updateStatus_onStatus next
  · refine ⟨⟨id, id, by simp⟩, fun allowed => ?_⟩
    cases allowed with
    | true => exact updateStatus_onStatus next
    | false => trivial

theorem writeStatus_refused (prev next : TelecomSecurityPolicy) (script : Nat → Choice)
    (world : World) {exchange : Exchange Op.Answer}
    (written : exchange ∈ (writeStatus prev next).exchanges exec script world)
    (failed : FailedWrite exchange) :
    ∃ err, ((writeStatus prev next).run exec script world).1 = .error err := by
  cases outcome : ((writeStatus prev next).run exec script world).1 with
  | error err => exact ⟨err, rfl⟩
  | ok done =>
      have passed := ((writeStatus_reports prev next).run exec script world).mp ⟨done, outcome⟩
        exchange written
      obtain ⟨op, answer⟩ := exchange
      cases op with
      | updateStatus sent =>
          cases answer with
          | error err => exact absurd trivial passed
          | ok updated => exact failed.elim
      | _ => exact failed.elim

namespace ThreatScoreWatcher

variable (watcher : ThreatScoreWatcher) (policy : TelecomSecurityPolicy) (event : ThreatScoreEvent)
  (world : World)

theorem executes_status {policy : TelecomSecurityPolicy} {event : ThreatScoreEvent} {op : Op}
    (executes : Executes (intent policy event) event op) :
    (∀ sent, op ≠ .update sent) ∧ ∀ sent, op ≠ .updateStatus sent := by
  cases op <;> first | exact executes.elim | simp

/-- Once the write is settled, written or withheld, the stored status claims what
the call is about to place: a write is withheld only when it would change nothing. -/
theorem write_covers (stored : world.server.persisted policy.key = some policy)
    (armed : watcher.Armed policy event world.engaged) :
    (writeStatus policy (watcher.scored policy event world)).Ends exec anyChoice
      (fun outcome middle => middle.loader = world.loader ∧ (outcome = .ok () →
        ∀ drop, Wants policy event drop → ∃ current,
          middle.server.persisted policy.key = some current ∧ Claims current.status drop))
            world := by
  refine (writeStatus_ends policy _ world).mono (fun outcome middle written => ?_)
  obtain ⟨frame, skip, wrote⟩ := written
  refine ⟨frame.loader, fun success drop wants => ?_⟩
  by_cases skips : Skips policy (watcher.scored policy event world) world
  · rw [(skip skips).2]
    refine ⟨policy, stored, ?_⟩
    have unchanged := skips.1
    rw [scored, scoredStatus, if_pos armed] at unchanged
    exact unchanged_claims wants unchanged
  · obtain ⟨current, kept, status⟩ := wrote success skips
    refine ⟨current, kept, ?_⟩
    rw [status, claims_stored, scored, scoredStatus, if_pos armed]
    exact mitigatingStatus_claims wants

theorem afterWrite_keeps {middle : World} (engaged : Bool) (outcome : Except Err Unit)
    (same : middle.loader = world.loader)
    (covers : outcome = .ok () → watcher.Armed policy event engaged → ∀ drop,
      Wants policy event drop → ∃ current, middle.server.persisted policy.key = some current ∧
        Claims current.status drop) :
    (watcher.afterWrite policy event engaged outcome).Keeps exec anyChoice
      (Covered policy.key world) middle := by
  have unmoved : Covered policy.key world middle := by
    intro drop held absent
    rw [same] at held
    exact absurd held absent
  cases outcome with
  | error err => exact unmoved
  | ok done =>
      rw [afterWrite]
      split
      · rename_i armed
        -- the actions only add what is wanted, and leave the status alone
        have kept : (watcher.execute policy (intent policy event) event).Keeps exec anyChoice
            (fun current => current.server = middle.server ∧
              GrowsBy (Wants policy event) world.loader current.loader) middle :=
          Keeps.of_asksOnly (watcher.execute_asks policy _ event)
            (fun choice op current _ executes held =>
              ⟨(exec_server choice op current (executes_frame op executes)).trans held.1,
                held.2.trans (exec_executes_grows executes choice current)⟩) ⟨rfl, .of_eq same⟩
        refine kept.mono (fun current after drop held absent => ?_)
        obtain ⟨server, grows⟩ := after
        rw [server]
        exact covers rfl armed drop ((grows.added drop held).resolve_left absent)
      · exact unmoved

theorem writeStatus_keeps (next : TelecomSecurityPolicy) :
    (writeStatus policy next).Keeps exec anyChoice
      (fun current => current.loader = world.loader ∧ current.mesh = world.mesh) world :=
  Keeps.of_asksOnly (writeStatus_onStatus policy next)
    (fun choice op current _ onStatus held =>
      ⟨(exec_loader choice op current onStatus.1).trans held.1,
        (exec_mesh choice op current onStatus.2.1).trans held.2⟩) ⟨rfl, rfl⟩

/-- At every point of the call, what it has placed is claimed. -/
theorem applyPolicy_covered (stored : world.server.persisted policy.key = some policy) :
    (watcher.applyPolicy policy event).Keeps exec anyChoice (Covered policy.key world) world := by
  have unmoved : ∀ current : World, current.loader = world.loader →
      Covered policy.key world current := by
    intro current same drop held absent
    rw [same] at held
    exact absurd held absent
  refine (watcher.applyPolicy_reads policy event world).keeps ?_ (unmoved world rfl)
  refine Keeps.bind ((writeStatus_keeps policy world _).mono
    (fun current held => unmoved current held.1)) ?_
  by_cases armed : watcher.Armed policy event world.engaged
  · exact (watcher.write_covers policy event world stored armed).mono
      (fun outcome middle written => watcher.afterWrite_keeps policy event world _ outcome written.1
        (fun success _ => written.2 success))
  · exact (writeStatus_ends policy _ world).mono (fun outcome middle written =>
      watcher.afterWrite_keeps policy event world _ outcome written.1.loader
        (fun _ impossible => absurd impossible armed))

theorem applyPolicy_undeleted (undeleted : Undeleted policy.key world) :
    (watcher.applyPolicy policy event).Keeps exec anyChoice (Undeleted policy.key) world := by
  refine (watcher.applyPolicy_reads policy event world).keeps ?_ undeleted
  have asks : (watcher.staged policy event world).AsksOnly (fun op => ∀ sent, op ≠ .update sent) :=
    ((writeStatus_onStatus policy _).mono (fun _ onStatus => onStatus.2.2)).bind (fun outcome =>
      (watcher.afterWrite_asks policy event world.engaged outcome).mono
        (fun _ executes => (executes_status executes).1))
  exact Keeps.of_asksOnly asks (fun choice op current _ status held =>
    exec_undeleted choice op current status held) undeleted

theorem not_failedWrite_of_silent {exchange : Exchange Op.Answer}
    (silent : ∀ choice, exec choice exchange.op world = (exchange.answer, world)) :
    ¬ FailedWrite exchange := by
  intro failed
  obtain ⟨op, answer⟩ := exchange
  cases op with
  | updateStatus sent =>
      have one := silent { Choice.quiet with fault := .refused "one" }
      have other := silent { Choice.quiet with fault := .refused "other" }
      have texts := Except.error.inj ((congrArg Prod.fst one).trans (congrArg Prod.fst other).symm)
      exact absurd (congrArg Err.text texts) (by decide)
  | _ => exact failed

/-- After a failed status write neither the kernel nor the mesh has been touched. -/
theorem failed_write_unmoved (script : Nat → Choice)
    (failed : ∃ exchange ∈ (watcher.applyPolicy policy event).exchanges exec script world,
      FailedWrite exchange) (limit : Nat) :
    ((watcher.applyPolicy policy event).runFor exec limit script world).2.loader = world.loader ∧
    ((watcher.applyPolicy policy event).runFor exec limit script world).2.mesh = world.mesh := by
  obtain ⟨front, silent, split⟩ := (watcher.applyPolicy_reads policy event world).split
  obtain ⟨asked, prefixes⟩ := split script
  obtain ⟨exchange, member, failed⟩ := failed
  rw [prefixes limit]
  generalize (fun n => script (n + front.length)) = later at asked ⊢
  rw [asked, staged, exchanges_bind, List.mem_append, List.mem_append] at member
  have keeps := writeStatus_keeps policy world (watcher.scored policy event world)
  have refused : ∃ err, ((writeStatus policy (watcher.scored policy event world)).run exec later
      world).1 = .error err := by
    have written : exchange ∈ (writeStatus policy (watcher.scored policy event world)).exchanges
        exec later world := by
      rcases member with read | write | act
      · exact absurd failed (not_failedWrite_of_silent world (silent exchange read))
      · exact write
      · have executes := (watcher.afterWrite_asks policy event world.engaged _).exchanges exec _ _
          exchange act
        obtain ⟨op, answer⟩ := exchange
        cases op with
        | updateStatus sent => exact executes.elim
        | _ => exact failed.elim
    exact writeStatus_refused policy _ later world written failed
  obtain ⟨err, ended⟩ := refused
  rcases runFor_bind exec (limit - front.length) later
    (writeStatus policy (watcher.scored policy event world))
    (watcher.afterWrite policy event world.engaged) world with first | ⟨rest, second⟩
  · rw [staged, first]
    exact keeps.runFor _ (permits_any _ later world)
  · have done : ∀ (limit : Nat) (script : Nat → Choice) (state : World),
        ((watcher.afterWrite policy event world.engaged (.error err)).runFor exec limit script
          state).2 = state := by
      intro limit script state
      cases limit <;> rfl
    have frame := (writeStatus_ends policy (watcher.scored policy event world) world).run
      (permits_any _ later world)
    rw [staged, second, ended, done]
    exact ⟨frame.1.loader, frame.1.mesh⟩

end ThreatScoreWatcher

theorem exec_reachable (choice : Choice) (op : Op) (world : World)
    (reached : world.loader.Reachable) : (exec choice op world).2.loader.Reachable := by
  by_cases writes : op.WritesKernel
  · have called : ∃ call, op = .ofCall call := by
      cases op with
      | block ip => exact ⟨.block ip, rfl⟩
      | unblock ip => exact ⟨.unblock ip, rfl⟩
      | blockTunnel ip teid => exact ⟨.blockTunnel ip teid, rfl⟩
      | unblockTunnel ip teid => exact ⟨.unblockTunnel ip teid, rfl⟩
      | _ => exact writes.elim
    obtain ⟨call, rfl⟩ := called
    rw [exec_ofCall]
    rcases syscall_cases choice world (call.apply world.loader) with
      ⟨err, failed⟩ | ⟨after, done, same⟩
    · rw [failed]
      exact reached
    · rw [same]
      exact .call reached call done
  · rw [exec_loader choice op world writes]
    exact reached

/-- Whatever it remembers and whatever fails on the way, a pass that reports no
error has every desired drop in place. -/
theorem readKernel_restores {policies : List TelecomSecurityPolicy} {unclaimed : Unclaimed}
    {world : World} (canonical : world.loader.Canonical) :
    (readKernel unclaimed (desiredEnforcement policies)).Ends exec anyChoice
      (fun outcome final => outcome.err = none → ∀ drop, Desired policies drop →
        final.loader.Holds drop) world := by
  intro first _
  cases sources : first.read (.ok world.loader.blockedIPs) with
  | error err =>
      simp only [exec, sources]
      exact fun impossible => by cases impossible
  | ok kernelIPs =>
      simp only [exec, sources, read_ok sources]
      intro second _
      cases tunnels : second.read (.ok world.loader.blockedTunnels) with
      | error err =>
          simp only [exec, tunnels]
          exact fun impossible => by cases impossible
      | ok kernelTunnels =>
          simp only [exec, tunnels, read_ok tunnels]
          have passes : (correct (desiredEnforcement policies) world.loader.blockedIPs
              world.loader.blockedTunnels unclaimed).Ends exec anyChoice
                (fun outcome final => Pass (fun _ _ => True) policies unclaimed world.loader outcome
                  final.loader) world :=
            correct_ends canonical (fun _ _ _ _ _ => id) (fun _ _ _ _ _ => trivial)
          refine passes.mono (fun outcome final pass clean drop desired => ?_)
          exact (pass.landed drop desired).resolve_right (fun failed => failed.1 clean)

theorem sync_restores {unclaimed : Unclaimed} {world : World} {script : Nat → Choice}
    {copy : TelecomSecurityPolicy} (canonical : world.loader.Canonical)
    (listed : copy ∈ world.server.listCached (script 0).lag)
    (live : copy.deletionTimestamp.isNone)
    (clean : ((sync unclaimed).run exec script world).1.err = none) {drop : Drop}
    (claims : Claims copy.status drop) (identified : ∀ address, drop ≠ .tunnel address 0) :
    ((sync unclaimed).run exec script world).2.loader.Holds drop := by
  cases listing : (script 0).read (.ok (world.server.listCached (script 0).lag)) with
  | error err =>
      simp only [sync, perform_bind, Program.run, exec, listing] at clean
      cases clean
  | ok policies =>
      have same : (sync unclaimed).run exec script world =
          (readKernel unclaimed (desiredEnforcement policies)).run exec (fun n => script (n + 1))
            world := by
        simp only [sync, perform_bind, Program.run, exec, listing]
      rw [same] at clean ⊢
      refine (readKernel_restores canonical).run (permits_any _ _ world) clean drop
        ⟨⟨copy, ?_, live, claims⟩, identified⟩
      rw [read_ok listing]
      exact listed

/-- Wherever a mitigation on an up-to-date copy stops: what it placed is claimed
by the stored status; a failed status write has left kernel and mesh alone; and a
later pass that sees that status and reports no error has every claimed drop in
place, whatever it remembers. -/
theorem mitigation_survives_crash (watcher : ThreatScoreWatcher) (policy : TelecomSecurityPolicy)
    (event : ThreatScoreEvent) (world : World)
    (stored : world.server.persisted policy.key = some policy)
    (live : policy.deletionTimestamp.isNone) (script : Nat → Choice) (limit : Nat) :
    Covered policy.key world
      ((watcher.applyPolicy policy event).runFor exec limit script world).2 ∧
    ((∃ exchange ∈ (watcher.applyPolicy policy event).exchanges exec script world,
        FailedWrite exchange) →
      ((watcher.applyPolicy policy event).runFor exec limit script world).2.loader = world.loader ∧
      ((watcher.applyPolicy policy event).runFor exec limit script world).2.mesh = world.mesh) ∧
    ∀ current, ((watcher.applyPolicy policy event).runFor exec limit script
      world).2.server.persisted
        policy.key = some current →
      ∀ (later : World) (unclaimed : Unclaimed) (answers : Nat → Choice)
        (copy : TelecomSecurityPolicy), later.loader.Reachable →
        copy ∈ later.server.listCached (answers 0).lag → copy.status = current.status →
        copy.deletionTimestamp = current.deletionTimestamp →
        ((sync unclaimed).run exec answers later).1.err = none →
        ∀ drop, Claims current.status drop → (∀ address, drop ≠ .tunnel address 0) →
          ((sync unclaimed).run exec answers later).2.loader.Holds drop := by
  refine ⟨?_, fun failed => watcher.failed_write_unmoved policy event world script failed limit, ?_⟩
  · exact (watcher.applyPolicy_covered policy event world stored).runFor limit
      (permits_any _ script world)
  · intro current found later unclaimed answers copy reached listed status deletion clean drop
      claims identified
    have undeleted : Undeleted policy.key world := by
      intro other same
      cases stored.symm.trans same
      exact live
    have kept := (watcher.applyPolicy_undeleted policy event world undeleted).runFor limit
      (permits_any _ script world) current found
    rw [← deletion] at kept
    rw [← status] at claims
    exact sync_restores reached.canonical listed kept clean claims identified

def interrupted (policy : TelecomSecurityPolicy) : World :=
  ((plainOperator.watcher.applyPolicy policy (tunnelScore "10.0.0.1" 1)).runFor exec 5 quietly
    guarded).2

theorem interrupted_mitigation_is_completed : ∃ policy current,
    guarded.server.persisted upfGuard = some policy ∧
    (interrupted policy).server.persisted upfGuard = some current ∧
    Covered upfGuard guarded (interrupted policy) ∧
    ¬ (interrupted policy).loader.Holds (.source attacker) ∧
    ((sync ∅).run exec quietly (interrupted policy)).2.loader.Holds (.source attacker) := by
  have facts : (guarded.server.persisted upfGuard).any (fun policy =>
      policy.key = upfGuard && policy.deletionTimestamp.isNone &&
      !decide ((interrupted policy).loader.Holds (.source attacker)) &&
      decide (((sync ∅).run exec quietly (interrupted policy)).1.err = none) &&
      ((interrupted policy).server.persisted upfGuard).any (fun current =>
        current.key = upfGuard && "10.0.0.1" ∈ current.status.blockedSourceIPs &&
        current ∈ (interrupted policy).server.listCached (fun _ => 0))) = true := by
    decide +kernel
  simp only [Option.any_eq_true, Bool.and_eq_true, decide_eq_true_eq, Bool.not_eq_true',
    decide_eq_false_iff_not] at facts
  obtain ⟨policy, stored, ⟨⟨⟨key, live⟩, absent⟩, clean⟩, current, found, ⟨-, listed⟩, seen⟩ :=
    facts
  have survives := mitigation_survives_crash plainOperator.watcher policy (tunnelScore "10.0.0.1" 1)
    guarded (key ▸ stored) live quietly 5
  have reached : (interrupted policy).loader.Reachable :=
    Keeps.runFor (Keeps.of_asksOnly (asksOnly_any _)
      (fun choice op current _ _ => exec_reachable choice op current) (.empty _)) 5
        (permits_any _ quietly guarded)
  rw [key] at survives
  exact ⟨policy, current, stored, found, survives.1, absent,
    survives.2.2 current found _ ∅ quietly current reached seen rfl rfl clean _
      (.source "10.0.0.1" attacker listed (by decide +kernel)) (by simp)⟩

end Sentinel5G.Controller
