import Sentinel5G.Controller.DwellRace
import Sentinel5G.Controller.SharedClaims

/-! Whether an undo comes to its end when nothing around it fails: an entry that
does not parse is passed over, one that parses to tunnel 0 is refused by the
loader every time. -/

namespace Sentinel5G.Controller

open Base Api Ebpf Program Mesh

/-- No entry reads as tunnel 0. -/
def Identified (status : PolicyStatus) : Prop :=
  ∀ entry ∈ status.blockedTunnels, ∀ ip, parseTunnel entry ≠ .ok (ip, 0)

theorem exec_unblock_faultless {choice : Choice} (quiet : choice.fault = .none) {ip : IP}
    (length : ip.length = 16) (world : World) :
    (exec choice (.unblock ip) world).1 = .ok () := by
  have lifts : (BlocklistCall.unblock ip).Lifts (.source ⟨ip, length⟩) :=
    ⟨⟨ip, length⟩, to16_eq_self ip length, rfl⟩
  obtain ⟨after, removed, -⟩ := BlocklistCall.apply_lifts lifts world.loader
  rw [BlocklistCall.apply] at removed
  simp [exec, Choice.syscall, Choice.read, quiet, removed]

theorem exec_unblockTunnel_faultless {choice : Choice} (quiet : choice.fault = .none) {ip : IP}
    {teid : UInt32} (length : ip.length = 16) (nonzero : teid ≠ 0) (world : World) :
    (exec choice (.unblockTunnel ip teid) world).1 = .ok () := by
  have lifts : (BlocklistCall.unblockTunnel ip teid).Lifts (.tunnel ⟨ip, length⟩ teid) :=
    ⟨⟨ip, length⟩, to16_eq_self ip length, nonzero, rfl⟩
  obtain ⟨after, removed, -⟩ := BlocklistCall.apply_lifts lifts world.loader
  rw [BlocklistCall.apply] at removed
  simp [exec, Choice.syscall, Choice.read, quiet, removed]

theorem undoes_sound {status : PolicyStatus} (identified : Identified status) (choice : Choice)
    (op : Op) (world : World) (quiet : faultless world choice) (undoes : Undoes status op) :
    ¬ Hampers op (exec choice op world).1 := by
  cases op with
  | unblock ip =>
      obtain ⟨raw, -, parsed⟩ := undoes
      rw [exec_unblock_faultless quiet (parseIP_length raw ip parsed)]
      exact id
  | unblockTunnel ip teid =>
      obtain ⟨entry, listed, parsed⟩ := undoes
      have nonzero : teid ≠ 0 := fun zero => identified entry listed ip (zero ▸ parsed)
      rw [exec_unblockTunnel_faultless quiet (parseTunnel_length entry ip teid parsed) nonzero]
      exact id
  | _ => exact undoes.elim

/-- An entry that reads as tunnel 0 fails the loop wherever it stands. -/
theorem unblockTunnels_fails (context : String) (policy : TelecomSecurityPolicy)
    {entries : List String} {entry : String} {ip : IP} (listed : entry ∈ entries)
    (parsed : parseTunnel entry = .ok (ip, 0)) (world : World) :
    (unblockTunnels context policy entries).Ends exec anyChoice
      (fun outcome _ => ∃ err, outcome = .error err) world := by
  induction entries generalizing world with
  | nil => cases listed
  | cons head rest ih =>
      rw [unblockTunnels]
      cases read : parseTunnel head with
      | error err =>
          refine ih ((List.mem_cons.mp listed).resolve_left (fun same => ?_)) world
          rw [← same, parsed] at read
          cases read
      | ok pair =>
          obtain ⟨address, teid⟩ := pair
          intro choice _
          rcases exec_unblockTunnel choice address teid world with
            ⟨err, failed⟩ | ⟨after, -, -, nonzero, -, done⟩
          · rw [failed]
            exact ⟨_, rfl⟩
          · rw [done]
            refine ih ((List.mem_cons.mp listed).resolve_left (fun same => ?_)) _
            rw [← same, parsed] at read
            cases read
            exact nonzero rfl

section Halves

variable (reconciler : Reconciler) (context : String) (policy : TelecomSecurityPolicy)
  (world : World)

def Passes (world : World) (outcome : Except Err Unit) (final : World) : Prop :=
  outcome = .ok () ∧ final.server = world.server

theorem passes_of_aborts {allowed : Op → Prop} {program : Action (Except Err Unit)}
    (aborts : program.Aborts Hampers) (asks : program.AsksOnly allowed)
    (sound : ∀ choice op state, faultless state choice → allowed op →
      ¬ Hampers op (exec choice op state).1)
    (framed : ∀ op, allowed op → ¬ op.WritesServer) :
    program.Ends exec faultless (Passes world) world := by
  refine (Ends.and (aborts.succeeds exec asks sound world)
    (Ends.of_asksOnly asks (fun choice op current _ asked (same : current.server = world.server) =>
      (exec_server choice op current (framed op asked)).trans same) rfl)).mono
        (fun outcome final ended => ⟨?_, ended.2⟩)
  obtain ⟨⟨done, same⟩, -⟩ := ended
  exact same

theorem undoBlocks_passes (identified : Identified policy.status) :
    (reconciler.undoBlocks context policy).Ends exec faultless (Passes world) world :=
  passes_of_aborts world (reconciler.undoBlocks_aborts context policy)
    (reconciler.undoBlocks_asks context policy) (undoes_sound identified) undoes_frame

theorem undoQuarantine_passes :
    (reconciler.undoQuarantine context policy).Ends exec faultless (Passes world) world :=
  passes_of_aborts world (reconciler.undoQuarantine_aborts context policy)
    (reconciler.undoQuarantine_deletes context policy) deletes_sound
    (fun op deletes => onMesh_frame op (deletes_onMesh op deletes))

theorem undoBlocks_fails (wired : reconciler.blocklist = true)
    (zero : ¬ Identified policy.status) :
    (reconciler.undoBlocks context policy).Ends exec anyChoice
      (fun outcome _ => ∃ err, outcome = .error err) world := by
  simp only [Identified, not_forall, not_not] at zero
  obtain ⟨entry, listed, ip, parsed⟩ := zero
  rw [Reconciler.undoBlocks, if_pos wired]
  refine Ends.bind ((unblockSources_ends context policy _ world).mono (fun outcome middle _ => ?_))
  cases outcome with
  | error err => exact ⟨err, rfl⟩
  | ok done => exact unblockTunnels_fails context policy listed parsed middle

end Halves

theorem exec_updateStatus_faultless {choice : Choice} (quiet : choice.fault = .none)
    {sent current : TelecomSecurityPolicy} {world : World}
    (stored : world.server.persisted sent.key = some current)
    (sameVersion : sent.resourceVersion = current.resourceVersion) :
    ∃ updated, (exec choice (.updateStatus sent) world).1 = .ok updated := by
  obtain ⟨updated, accepted⟩ :=
    Server.replace_accepts (Server.withStatus sent) stored sameVersion
  refine ⟨updated, ?_⟩
  simp only [exec, Choice.write, quiet]
  exact accepted

theorem exec_update_faultless {choice : Choice} (quiet : choice.fault = .none)
    {sent current : TelecomSecurityPolicy} {world : World}
    (stored : world.server.persisted sent.key = some current)
    (sameVersion : sent.resourceVersion = current.resourceVersion) :
    ∃ updated, (exec choice (.update sent) world).1 = .ok updated := by
  obtain ⟨updated, accepted⟩ :=
    Server.replace_accepts (Server.withObject sent) stored sameVersion
  refine ⟨updated, ?_⟩
  simp only [exec, Choice.write, quiet]
  exact accepted

theorem exec_update_finalizers {choice : Choice} {sent updated stored : TelecomSecurityPolicy}
    {world : World} (accepted : (exec choice (.update sent) world).1 = .ok updated)
    (kept : (exec choice (.update sent) world).2.server.persisted sent.key = some stored) :
    stored.finalizers = sent.finalizers := by
  have effect := write_ok choice world _ accepted
  rw [exec, effect] at accepted kept
  obtain ⟨first, -, -, finalizers⟩ := Server.replace_ok_finalizers accepted
  obtain ⟨second, -, -, -, -, same | ⟨-, -, gone⟩⟩ := Server.replace_ok accepted
  · rw [← Option.some.inj (same.symm.trans kept)]
    exact finalizers
  · cases gone.symm.trans kept

namespace Undo

def Leaves (undo : Undo) (key : NamespacedName) (final : World) : Prop :=
  match undo with
  | .deEscalate => ∃ stored, final.server.persisted key = some stored ∧
      stored.status.blockedSourceIPs = [] ∧ stored.status.blockedTunnels = [] ∧
      stored.status.phase = .monitoring
  | .finalize => ∀ stored, final.server.persisted key = some stored →
      telecomSecurityPolicyFinalizer ∉ stored.finalizers

/-- The undo has come to its end: it reports success, no drop the status names is
in force, and the API server holds what it should. -/
structure Completed (undo : Undo) (policy : TelecomSecurityPolicy)
    (outcome : Except Err Result) (final : World) : Prop where
  success : ∃ result, outcome = .ok result
  unblocked : ∀ drop, Claims policy.status drop → ¬ final.loader.Holds drop
  leaves : undo.Leaves policy.key final

variable {reconciler : Reconciler} {policy : TelecomSecurityPolicy} {world : World}

theorem tryDeEscalate_completes (acts : Acts .deEscalate reconciler policy world)
    (current : world.server.persisted policy.key = some policy)
    (identified : Identified policy.status) :
    (reconciler.tryDeEscalate policy).Ends exec faultless
      (fun outcome final => (∃ result, outcome = .ok result) ∧
        Leaves .deEscalate policy.key final) world := by
  obtain ⟨last, stamped, due⟩ := acts
  rw [Reconciler.tryDeEscalate, stamped]
  intro choice _
  dsimp only [exec, Program.bind, perform]
  rw [if_neg (Int.not_lt.mpr (Int.sub_nonpos_of_le due))]
  refine Ends.bind ((undoBlocks_passes reconciler _ policy world identified).mono
    (fun outcome middle passed => ?_))
  rw [passed.1]
  have freed : (if policy.spec.actions.isolatePod then
      reconciler.undoQuarantine "de-escalate: " policy
      else pure (.ok ()) : Action (Except Err Unit)).Ends exec faultless (Passes middle)
        middle := by
    split
    · exact undoQuarantine_passes reconciler _ policy middle
    · exact ⟨rfl, rfl⟩
  refine Ends.bind (freed.mono (fun outcome later released => ?_))
  rw [released.1]
  have stored : later.server.persisted policy.key = some policy := by
    rw [released.2, passed.2, current]
  intro choice quiet
  have accepts : ∃ updated, (exec choice (.updateStatus { policy with
      status := { policy.status with
        blockedSourceIPs := []
        blockedTunnels := []
        phase := .monitoring } }) later).1 = .ok updated :=
    exec_updateStatus_faultless quiet stored rfl
  obtain ⟨updated, accepted⟩ := accepts
  obtain ⟨kept, status⟩ := exec_updateStatus_ok accepted
  dsimp only [Program.bind]
  rw [accepted]
  intro choice _
  refine ⟨⟨_, rfl⟩, updated, kept, ?_⟩
  rw [status]
  exact ⟨rfl, rfl, rfl⟩

theorem finalize_completes (acts : Acts .finalize reconciler policy world)
    (current : world.server.persisted policy.key = some policy)
    (identified : Identified policy.status) :
    (reconciler.finalize policy).Ends exec faultless
      (fun outcome final => (∃ result, outcome = .ok result) ∧
        Leaves .finalize policy.key final) world := by
  rw [Reconciler.finalize, if_pos (show _ ∈ policy.finalizers from acts)]
  refine Ends.bind ((undoQuarantine_passes reconciler _ policy world).mono
    (fun outcome middle released => ?_))
  rw [released.1]
  refine Ends.bind ((undoBlocks_passes reconciler _ policy middle identified).mono
    (fun outcome later passed => ?_))
  rw [passed.1]
  have stored : later.server.persisted policy.key = some policy := by
    rw [passed.2, released.2, current]
  intro choice quiet
  have accepts : ∃ updated, (exec choice (.update { policy with
      finalizers := policy.finalizers.filter (· ≠ telecomSecurityPolicyFinalizer) }) later).1 =
        .ok updated := exec_update_faultless quiet stored rfl
  obtain ⟨updated, accepted⟩ := accepts
  dsimp only [Program.bind]
  rw [accepted]
  intro indexing _
  refine ⟨⟨_, rfl⟩, fun left found => ?_⟩
  rw [exec_update_finalizers accepted found]
  simp

theorem program_completes (undo : Undo) (acts : undo.Acts reconciler policy world)
    (current : world.server.persisted policy.key = some policy)
    (identified : Identified policy.status) :
    (undo.program reconciler policy).Ends exec faultless
      (fun outcome final => (∃ result, outcome = .ok result) ∧ undo.Leaves policy.key final)
      world := by
  cases undo with
  | deEscalate => exact tryDeEscalate_completes acts current identified
  | finalize => exact finalize_completes acts current identified

theorem program_fails (undo : Undo) (wired : reconciler.blocklist = true)
    (acts : undo.Acts reconciler policy world) (zero : ¬ Identified policy.status) :
    (undo.program reconciler policy).Ends exec anyChoice
      (fun outcome _ => ∃ err, outcome = .error err) world := by
  cases undo with
  | deEscalate =>
      obtain ⟨last, stamped, due⟩ := acts
      rw [program, Reconciler.tryDeEscalate, stamped]
      intro choice _
      dsimp only [exec, Program.bind, perform]
      rw [if_neg (Int.not_lt.mpr (Int.sub_nonpos_of_le due))]
      refine Ends.bind ((undoBlocks_fails reconciler _ policy world wired zero).mono
        (fun outcome middle failed => ?_))
      obtain ⟨err, rfl⟩ := failed
      exact ⟨err, rfl⟩
  | finalize =>
      rw [program, Reconciler.finalize, if_pos (show _ ∈ policy.finalizers from acts)]
      refine Ends.bind ((undoQuarantine_ends reconciler _ policy world).mono
        (fun outcome middle _ => ?_))
      cases outcome with
      | error err => exact ⟨err, rfl⟩
      | ok done =>
          refine Ends.bind ((undoBlocks_fails reconciler _ policy middle wired zero).mono
            (fun outcome later failed => ?_))
          obtain ⟨err, rfl⟩ := failed
          exact ⟨err, rfl⟩

/-- Where nothing fails of itself, an undo that acts on the stored version comes
to its end exactly when the status does not name tunnel 0. -/
theorem undo_completes_iff (undo : Undo) (script : Nat → Choice)
    (wired : reconciler.blocklist = true) (acts : undo.Acts reconciler policy world)
    (current : world.server.persisted policy.key = some policy)
    (quiet : ∀ n, (script n).fault = .none) :
    undo.Completed policy ((undo.program reconciler policy).run exec script world).1
        ((undo.program reconciler policy).run exec script world).2 ↔
      Identified policy.status := by
  constructor
  · intro completed
    by_contra zero
    obtain ⟨result, success⟩ := completed.success
    obtain ⟨err, failed⟩ := (program_fails undo wired acts zero).run (permits_any _ script _)
    cases success.symm.trans failed
  · intro identified
    obtain ⟨⟨result, success⟩, leaves⟩ := (program_completes undo acts current identified).run
      (permits_faultless _ script world quiet)
    have ended := ((undo.program_ends reconciler policy world).run (permits_any _ script _)
      result success).1 acts
    exact ⟨⟨result, success⟩, fun drop claimed held =>
      ((ended.kernel drop).mp held).2 ⟨wired, claimed⟩, leaves⟩

def relisted (entries : List String) : World :=
  let world := runMoves plainOperator.next guarded
    [.reconcile upfGuard quietly, .score upfGuard 0 (tunnelScore "10.0.0.1" 1) quietly,
      .advance (5 * minute).toNat]
  { world with server := (world.server.persisted upfGuard).elim world.server (fun policy =>
      (world.server.updateStatus { policy with
        status := { policy.status with blockedTunnels := entries } }).2) }

theorem undo_completes_iff_parsed :
    ∃ policy, (relisted ["10.0.0.1/0x7", "tunnel"]).server.persisted upfGuard = some policy ∧
      Completed .finalize policy
        ((Undo.finalize.program plainOperator.reconciler policy).run exec quietly
          (relisted ["10.0.0.1/0x7", "tunnel"])).1
        ((Undo.finalize.program plainOperator.reconciler policy).run exec quietly
          (relisted ["10.0.0.1/0x7", "tunnel"])).2 := by
  have listed : ((relisted ["10.0.0.1/0x7", "tunnel"]).server.persisted upfGuard).any
      (fun policy => decide (policy.key = upfGuard ∧
        policy.status.blockedTunnels = ["10.0.0.1/0x7", "tunnel"] ∧
        telecomSecurityPolicyFinalizer ∈ policy.finalizers)) = true := by decide +kernel
  obtain ⟨policy, stored, held⟩ := Option.any_eq_true _ _ |>.mp listed
  obtain ⟨named, entries, guards⟩ := of_decide_eq_true held
  refine ⟨policy, stored, (undo_completes_iff .finalize quietly rfl guards
    (named ▸ stored) (fun _ => rfl)).mpr ?_⟩
  have first : parseTunnel "10.0.0.1/0x7" = .ok (attacker.val, 7) := by decide +kernel
  have second : (parseTunnel "tunnel").isOk = false := by decide +kernel
  intro entry member ip zero
  rw [entries] at member
  simp only [List.mem_cons, List.not_mem_nil, or_false] at member
  rcases member with rfl | rfl
  · cases first.symm.trans zero
  · rw [zero] at second
    cases second

/-- One entry that reads as tunnel 0 keeps both undo paths from ever finishing,
with the drop behind it still in force. -/
theorem tunnel_zero_wedges_undo :
    ∃ policy, (relisted ["10.0.0.1/0x0", "10.0.0.1/0x7"]).server.persisted upfGuard = some policy ∧
      (policy.status.blockedTunnels = ["10.0.0.1/0x0", "10.0.0.1/0x7"] ∧
        ∀ undo ∈ [Undo.deEscalate, Undo.finalize],
          ((undo.program plainOperator.reconciler policy).run exec quietly
            (relisted ["10.0.0.1/0x0", "10.0.0.1/0x7"])).1.isOk = false ∧
          ((undo.program plainOperator.reconciler policy).run exec quietly
            (relisted ["10.0.0.1/0x0", "10.0.0.1/0x7"])).2.loader.Holds (.tunnel attacker 7) ∧
          ((undo.program plainOperator.reconciler policy).run exec quietly
            (relisted ["10.0.0.1/0x0", "10.0.0.1/0x7"])).2.server.persisted upfGuard =
              some policy) := by
  have wedged : ((relisted ["10.0.0.1/0x0", "10.0.0.1/0x7"]).server.persisted upfGuard).any
      (fun policy => decide (policy.status.blockedTunnels = ["10.0.0.1/0x0", "10.0.0.1/0x7"] ∧
        ∀ undo ∈ [Undo.deEscalate, Undo.finalize],
          ((undo.program plainOperator.reconciler policy).run exec quietly
            (relisted ["10.0.0.1/0x0", "10.0.0.1/0x7"])).1.isOk = false ∧
          ((undo.program plainOperator.reconciler policy).run exec quietly
            (relisted ["10.0.0.1/0x0", "10.0.0.1/0x7"])).2.loader.Holds (.tunnel attacker 7) ∧
          ((undo.program plainOperator.reconciler policy).run exec quietly
            (relisted ["10.0.0.1/0x0", "10.0.0.1/0x7"])).2.server.persisted upfGuard =
              some policy)) = true := by decide +kernel
  obtain ⟨policy, stored, held⟩ := Option.any_eq_true _ _ |>.mp wedged
  exact ⟨policy, stored, of_decide_eq_true held⟩

end Undo

end Sentinel5G.Controller
