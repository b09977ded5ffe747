import Sentinel5G.Controller.Lifecycle
import Sentinel5G.Mesh.Quarantine

/-! What undoing one policy does to the drops and quarantines of the others:
the kernel maps hold the union of all claims, with no count of the claimants. -/

namespace Sentinel5G.Controller

open Base Api Ebpf Program

theorem unblockSources_ends (context : String) (policy : TelecomSecurityPolicy)
    (raws : List String) (world : World) :
    (unblockSources context policy raws).Ends exec anyChoice
      (fun outcome final => final.mesh = world.mesh ∧ (outcome = .ok () →
        ∀ drop, final.loader.Holds drop ↔ world.loader.Holds drop ∧
          ¬ ∃ raw ∈ raws, ∃ address, parseIP raw = some address.val ∧ drop = .source address))
      world := by
  induction raws generalizing world with
  | nil => exact ⟨rfl, fun _ drop => by simp⟩
  | cons raw rest ih =>
      rw [unblockSources]
      cases parsed : parseIP raw with
      | none =>
          refine (ih world).mono (fun outcome final held => ⟨held.1, fun success drop => ?_⟩)
          rw [held.2 success drop]
          simp [parsed]
      | some ip =>
          intro choice _
          rcases exec_unblock choice ip world with ⟨err, failed⟩ | ⟨after, address, long, removes,
            done⟩
          · rw [failed]
            exact ⟨rfl, fun impossible => by cases impossible⟩
          · rw [done]
            have same := address_of_parse (parseIP_length raw ip parsed) long
            subst same
            refine (ih _).mono (fun outcome final held => ⟨held.1, fun success drop => ?_⟩)
            rw [held.2 success drop, removes.holds]
            simp only [List.mem_cons, exists_eq_or_imp, parsed, Option.some.injEq, not_or]
            have named : (∃ other : Address, address.val = other.val ∧ drop = .source other) ↔
                drop = .source address := by
              constructor
              · rintro ⟨other, same, rfl⟩
                rw [Subtype.ext same]
              · intro same
                exact ⟨address, rfl, same⟩
            rw [named]
            tauto

theorem unblockTunnels_ends (context : String) (policy : TelecomSecurityPolicy)
    (entries : List String) (world : World) :
    (unblockTunnels context policy entries).Ends exec anyChoice
      (fun outcome final => final.mesh = world.mesh ∧ (outcome = .ok () →
        ∀ drop, final.loader.Holds drop ↔ world.loader.Holds drop ∧
          ¬ ∃ entry ∈ entries, ∃ address teid, parseTunnel entry = .ok (address.val, teid) ∧
            drop = .tunnel address teid))
      world := by
  induction entries generalizing world with
  | nil => exact ⟨rfl, fun _ drop => by simp⟩
  | cons entry rest ih =>
      rw [unblockTunnels]
      cases parsed : parseTunnel entry with
      | error err =>
          refine (ih world).mono (fun outcome final held => ⟨held.1, fun success drop => ?_⟩)
          rw [held.2 success drop]
          simp [parsed]
      | ok pair =>
          obtain ⟨ip, teid⟩ := pair
          intro choice _
          rcases exec_unblockTunnel choice ip teid world with
            ⟨err, failed⟩ | ⟨after, address, long, -, removes, done⟩
          · rw [failed]
            exact ⟨rfl, fun impossible => by cases impossible⟩
          · rw [done]
            have same := address_of_parse (parseTunnel_length entry ip teid parsed) long
            subst same
            refine (ih _).mono (fun outcome final held => ⟨held.1, fun success drop => ?_⟩)
            rw [held.2 success drop, removes.holds]
            simp only [List.mem_cons, exists_eq_or_imp, parsed, Except.ok.injEq, Prod.mk.injEq,
              not_or]
            have named : (∃ (other : Address) (id : UInt32),
                (address.val = other.val ∧ teid = id) ∧ drop = .tunnel other id) ↔
                drop = .tunnel address teid := by
              constructor
              · rintro ⟨other, id, ⟨same, rfl⟩, rfl⟩
                rw [Subtype.ext same]
              · intro same
                exact ⟨address, teid, ⟨rfl, rfl⟩, same⟩
            rw [named]
            tauto

/-- The kernel half of an undo removes exactly what the status claims. -/
theorem undoBlocks_ends (reconciler : Reconciler) (context : String)
    (policy : TelecomSecurityPolicy) (world : World) :
    (reconciler.undoBlocks context policy).Ends exec anyChoice
      (fun outcome final => final.mesh = world.mesh ∧ (outcome = .ok () →
        ∀ drop, final.loader.Holds drop ↔ world.loader.Holds drop ∧
          ¬ (reconciler.blocklist = true ∧ Claims policy.status drop)))
      world := by
  rw [Reconciler.undoBlocks]
  split
  · rename_i wired
    refine Ends.bind ((unblockSources_ends context policy _ world).mono
      (fun outcome middle held => ?_))
    cases outcome with
    | error err => exact ⟨held.1, fun impossible => by cases impossible⟩
    | ok done =>
        refine (unblockTunnels_ends context policy _ middle).mono
          (fun outcome final later => ⟨later.1.trans held.1, fun success drop => ?_⟩)
        rw [later.2 success drop, held.2 rfl drop]
        cases drop with
        | source address =>
            rw [claims_source_iff]
            simp [wired]
        | tunnel address teid =>
            rw [claims_tunnel_iff]
            simp [wired]
  · rename_i unwired
    exact ⟨rfl, fun _ drop => by simp [unwired]⟩

theorem onMesh_loader (op : Op) (mesh : Mesh.OnMesh op) : ¬ op.WritesKernel := by
  cases op <;> first | exact id | exact mesh.elim

/-- The mesh half of an undo leaves nothing of the policy's own quarantine. -/
theorem undoQuarantine_ends (reconciler : Reconciler) (context : String)
    (policy : TelecomSecurityPolicy) (world : World) :
    (reconciler.undoQuarantine context policy).Ends exec anyChoice
      (fun outcome final => final.loader = world.loader ∧ (outcome = .ok () →
        ∀ adapter selector, reconciler.mesh = some adapter →
          firstMatchLabels policy.spec.targetWorkloads = some selector →
          ¬ adapter.Quarantined final.mesh policy.key.ns selector))
      world := by
  refine Ends.and (Ends.of_asksOnly (reconciler.undoQuarantine_asks context policy)
    (fun choice op current _ mesh held =>
      (exec_loader choice op current (onMesh_loader op mesh)).trans held) rfl) ?_
  rw [Reconciler.undoQuarantine]
  split
  · rename_i adapter selector wired selects
    refine Ends.bind ((adapter.release_ends policy.key.ns selector world).mono
      (fun outcome final released => ?_))
    cases outcome with
    | error err => exact fun impossible => by cases impossible
    | ok done =>
        intro _ other labels same named
        rw [wired, Option.some.injEq] at same
        rw [selects, Option.some.injEq] at named
        subst same named
        exact released rfl
  · rename_i unwired
    exact fun _ adapter selector wired selects => (unwired adapter selector wired selects).elim

/-- The two ways a policy's mitigation is undone. -/
inductive Undo
  | deEscalate
  | finalize

namespace Undo

def program (undo : Undo) (reconciler : Reconciler) (policy : TelecomSecurityPolicy) :
    Action (Except Err Result) :=
  match undo with
  | .deEscalate => reconciler.tryDeEscalate policy
  | .finalize => reconciler.finalize policy

def Acts (undo : Undo) (reconciler : Reconciler) (policy : TelecomSecurityPolicy)
    (world : World) : Prop :=
  match undo with
  | .deEscalate => ∃ last, policy.status.lastMitigationTime = some last ∧
      reconciler.deEscalationDwell ≤ world.clock - last
  | .finalize => telecomSecurityPolicyFinalizer ∈ policy.finalizers

def Releases (undo : Undo) (policy : TelecomSecurityPolicy) : Prop :=
  match undo with
  | .deEscalate => policy.spec.actions.isolatePod = true
  | .finalize => True

/-- What an undo that acted has done: every drop of the status is gone, nothing
else is, and the quarantine it releases is gone. -/
structure Done (undo : Undo) (reconciler : Reconciler) (policy : TelecomSecurityPolicy)
    (before after : World) : Prop where
  kernel : ∀ drop, after.loader.Holds drop ↔ before.loader.Holds drop ∧
    ¬ (reconciler.blocklist = true ∧ Claims policy.status drop)
  released : undo.Releases policy → ∀ adapter selector, reconciler.mesh = some adapter →
    firstMatchLabels policy.spec.targetWorkloads = some selector →
    ¬ adapter.Quarantined after.mesh policy.key.ns selector
  untouched : ¬ undo.Releases policy → after.mesh = before.mesh

variable {reconciler : Reconciler} {policy : TelecomSecurityPolicy}

theorem Done.of_frame {undo : Undo} {before after final : World}
    (ended : undo.Done reconciler policy before after) (loader : final.loader = after.loader)
    (mesh : final.mesh = after.mesh) : undo.Done reconciler policy before final where
  kernel := fun drop => loader ▸ ended.kernel drop
  released := mesh ▸ ended.released
  untouched := fun kept => mesh.trans (ended.untouched kept)

theorem not_acts_of_unstamped {world : World}
    (unstamped : policy.status.lastMitigationTime = none) :
    ¬ Acts .deEscalate reconciler policy world := by
  rintro ⟨last, stamped, -⟩
  rw [unstamped] at stamped
  cases stamped

theorem acts_deEscalate_iff {world : World} {last : Time}
    (stamped : policy.status.lastMitigationTime = some last) :
    Acts .deEscalate reconciler policy world ↔
      ¬ reconciler.deEscalationDwell - (world.clock - last) > 0 := by
  constructor
  · rintro ⟨other, same, due⟩
    rw [stamped, Option.some.injEq] at same
    subst same
    exact Int.not_lt.mpr (Int.sub_nonpos_of_le due)
  · exact fun late => ⟨last, stamped, Int.le_of_sub_nonpos (Int.not_lt.mp late)⟩

theorem releasing_ends (context : String) {world unblocked : World}
    (mesh : unblocked.mesh = world.mesh)
    (kernel : ∀ drop, unblocked.loader.Holds drop ↔ world.loader.Holds drop ∧
      ¬ (reconciler.blocklist = true ∧ Claims policy.status drop)) :
    (if policy.spec.actions.isolatePod then reconciler.undoQuarantine context policy
      else pure (.ok ()) : Action (Except Err Unit)).Ends exec anyChoice
      (fun outcome final => outcome = .ok () → Done .deEscalate reconciler policy world final)
      unblocked := by
  split
  · rename_i isolates
    refine (undoQuarantine_ends reconciler context policy unblocked).mono
      (fun outcome final held success => ⟨?_, fun _ => held.2 success, ?_⟩)
    · rw [held.1]
      exact kernel
    · exact fun kept => absurd isolates kept
  · rename_i keeps
    exact fun _ => ⟨kernel, fun releases => absurd releases keeps, fun _ => mesh⟩

theorem tryDeEscalate_ends (reconciler : Reconciler) (policy : TelecomSecurityPolicy)
    (world : World) :
    (reconciler.tryDeEscalate policy).Ends exec anyChoice
      (fun outcome final => ∀ result, outcome = .ok result →
        (Acts .deEscalate reconciler policy world →
          Done .deEscalate reconciler policy world final) ∧
        (¬ Acts .deEscalate reconciler policy world →
          final.loader = world.loader ∧ final.mesh = world.mesh)) world := by
  rw [Reconciler.tryDeEscalate]
  cases stamped : policy.status.lastMitigationTime with
  | none =>
      exact fun result _ => ⟨fun acts => absurd acts (not_acts_of_unstamped stamped),
        fun _ => ⟨rfl, rfl⟩⟩
  | some last =>
      intro choice _
      dsimp only [exec, Program.bind, perform]
      split
      · rename_i early
        exact fun result _ => ⟨fun acts => absurd early ((acts_deEscalate_iff stamped).mp acts),
          fun _ => ⟨rfl, rfl⟩⟩
      · rename_i late
        have acts : Acts .deEscalate reconciler policy world :=
          (acts_deEscalate_iff stamped).mpr late
        refine Ends.bind ((undoBlocks_ends reconciler _ policy world).mono
          (fun outcome unblocked kernel => ?_))
        cases outcome with
        | error err => exact fun _ impossible => by cases impossible
        | ok done =>
            refine Ends.bind ((releasing_ends _ kernel.1 (kernel.2 rfl)).mono
              (fun outcome released ended => ?_))
            cases outcome with
            | error err => exact fun _ impossible => by cases impossible
            | ok done =>
                intro choice _
                have loader := exec_loader choice (.updateStatus { policy with
                  status := { policy.status with
                    blockedSourceIPs := []
                    blockedTunnels := []
                    phase := .monitoring } }) released id
                have mesh := exec_mesh choice (.updateStatus { policy with
                  status := { policy.status with
                    blockedSourceIPs := []
                    blockedTunnels := []
                    phase := .monitoring } }) released id
                dsimp only [Program.bind]
                split
                · exact fun _ impossible => by cases impossible
                · intro choice _ result _
                  exact ⟨fun _ => (ended rfl).of_frame loader mesh, fun idle => absurd acts idle⟩

theorem finalize_ends (reconciler : Reconciler) (policy : TelecomSecurityPolicy) (world : World) :
    (reconciler.finalize policy).Ends exec anyChoice
      (fun outcome final => ∀ result, outcome = .ok result →
        (Acts .finalize reconciler policy world → Done .finalize reconciler policy world final) ∧
        (¬ Acts .finalize reconciler policy world →
          final.loader = world.loader ∧ final.mesh = world.mesh)) world := by
  rw [Reconciler.finalize]
  split
  · rename_i held
    refine Ends.bind ((undoQuarantine_ends reconciler _ policy world).mono
      (fun outcome released quarantine => ?_))
    cases outcome with
    | error err => exact fun _ impossible => by cases impossible
    | ok done =>
        refine Ends.bind ((undoBlocks_ends reconciler _ policy released).mono
          (fun outcome unblocked kernel => ?_))
        cases outcome with
        | error err => exact fun _ impossible => by cases impossible
        | ok done =>
            have ended : Done .finalize reconciler policy world unblocked := by
              refine ⟨?_, fun _ => ?_, fun kept => absurd trivial kept⟩
              · rw [← quarantine.1]
                exact kernel.2 rfl
              · rw [kernel.1]
                exact quarantine.2 rfl
            intro choice _
            have loader := exec_loader choice (.update { policy with
              finalizers := policy.finalizers.filter (· ≠ telecomSecurityPolicyFinalizer) })
              unblocked id
            have mesh := exec_mesh choice (.update { policy with
              finalizers := policy.finalizers.filter (· ≠ telecomSecurityPolicyFinalizer) })
              unblocked id
            dsimp only [Program.bind]
            split
            · exact fun _ impossible => by cases impossible
            · intro choice _ result _
              exact ⟨fun _ => ended.of_frame loader mesh, fun idle => absurd held idle⟩
  · rename_i absent
    exact fun _ _ => ⟨fun acts => absurd acts absent, fun _ => ⟨rfl, rfl⟩⟩

theorem program_ends (undo : Undo) (reconciler : Reconciler) (policy : TelecomSecurityPolicy)
    (world : World) :
    (undo.program reconciler policy).Ends exec anyChoice
      (fun outcome final => ∀ result, outcome = .ok result →
        (undo.Acts reconciler policy world → undo.Done reconciler policy world final) ∧
        (¬ undo.Acts reconciler policy world →
          final.loader = world.loader ∧ final.mesh = world.mesh)) world := by
  cases undo with
  | deEscalate => exact tryDeEscalate_ends reconciler policy world
  | finalize => exact finalize_ends reconciler policy world

end Undo

def Bystander (world : World) (key : NamespacedName) (other : TelecomSecurityPolicy) : Prop :=
  other.key ≠ key ∧ world.server.persisted other.key = some other

def SharesQuarantine (policy other : TelecomSecurityPolicy) (selector : Labels) : Prop :=
  other.status.phase = .mitigating ∧ other.spec.actions.isolatePod = true ∧
  other.key.ns = policy.key.ns ∧
  firstMatchLabels other.spec.targetWorkloads = some selector ∧
  firstMatchLabels policy.spec.targetWorkloads = some selector

/-- The other policies keep, from `before` to `after`, the drops and the
quarantine they had. -/
structure OthersKeep (reconciler : Reconciler) (policy : TelecomSecurityPolicy)
    (before after : World) : Prop where
  drops : ∀ other, Bystander before policy.key other → other.deletionTimestamp = none →
    ∀ drop, Claims other.status drop → before.loader.Holds drop → after.loader.Holds drop
  quarantine : ∀ other selector adapter, Bystander before policy.key other →
    SharesQuarantine policy other selector → reconciler.mesh = some adapter →
    adapter.Quarantined before.mesh policy.key.ns selector →
    adapter.Quarantined after.mesh policy.key.ns selector

/-- Nothing that undoing `policy` takes away is another policy's too. -/
structure Sole (undo : Undo) (reconciler : Reconciler) (policy : TelecomSecurityPolicy)
    (world : World) : Prop where
  drops : reconciler.blocklist = true → ∀ other, Bystander world policy.key other →
    other.deletionTimestamp = none → ∀ drop, Claims policy.status drop →
    Claims other.status drop → ¬ world.loader.Holds drop
  quarantine : undo.Releases policy → ∀ other selector adapter,
    Bystander world policy.key other → SharesQuarantine policy other selector →
    reconciler.mesh = some adapter → ¬ adapter.Quarantined world.mesh policy.key.ns selector

/-- A successful undo leaves the other policies what they had exactly when it
had nothing to do, or shared nothing with them. -/
theorem undo_spares_others_iff (undo : Undo) (reconciler : Reconciler)
    (policy : TelecomSecurityPolicy) (world : World) (script : Nat → Choice) (result : Result)
    (success : ((undo.program reconciler policy).run exec script world).1 = .ok result) :
    OthersKeep reconciler policy world ((undo.program reconciler policy).run exec script world).2 ↔
      (undo.Acts reconciler policy world → Sole undo reconciler policy world) := by
  obtain ⟨acted, idled⟩ := (undo.program_ends reconciler policy world).run
    (permits_any _ script _) result success
  generalize ((undo.program reconciler policy).run exec script world).2 = final at acted idled
  constructor
  · intro keep acts
    have ended := acted acts
    refine ⟨fun wired other bystander alive drop mine theirs held => ?_,
      fun releases other selector adapter bystander shares wired quarantined => ?_⟩
    · have still := keep.drops other bystander alive drop theirs held
      exact ((ended.kernel drop).mp still).2 ⟨wired, mine⟩
    · have still := keep.quarantine other selector adapter bystander shares wired quarantined
      exact ended.released releases adapter selector wired shares.2.2.2.2 still
  · intro sole
    by_cases acts : undo.Acts reconciler policy world
    · have ended := acted acts
      have separate := sole acts
      refine ⟨fun other bystander alive drop theirs held => ?_,
        fun other selector adapter bystander shares wired quarantined => ?_⟩
      · refine (ended.kernel drop).mpr ⟨held, fun taken => ?_⟩
        exact separate.drops taken.1 other bystander alive drop taken.2 theirs held
      · by_cases releases : undo.Releases policy
        · exact absurd quarantined
            (separate.quarantine releases other selector adapter bystander shares wired)
        · rw [ended.untouched releases]
          exact quarantined
    · obtain ⟨loader, mesh⟩ := idled acts
      refine ⟨fun other _ _ drop _ held => ?_, fun other selector adapter _ _ _ quarantined => ?_⟩
      · rw [loader]
        exact held
      · rw [mesh]
        exact quarantined

def amfGuard : NamespacedName := ⟨"core", "amf-guard"⟩

def mitigatedTwice : World :=
  runMoves plainOperator.next guarded
    [.create amfGuard upfGuardSpec,
      .score upfGuard 0 (tunnelScore "10.0.0.1" 1) quietly, .advance (5 * minute).toNat,
      .score amfGuard 0 (tunnelScore "10.0.0.1" 1) quietly]

theorem undo_spares_others_iff_shared :
    ∃ policy, mitigatedTwice.server.persisted upfGuard = some policy ∧
      ((Undo.deEscalate.program plainOperator.reconciler policy).run exec quietly
        mitigatedTwice).1 = .ok .none ∧
      (OthersKeep plainOperator.reconciler policy mitigatedTwice
          ((Undo.deEscalate.program plainOperator.reconciler policy).run exec quietly
            mitigatedTwice).2 ↔
        (Undo.deEscalate.Acts plainOperator.reconciler policy mitigatedTwice →
          Sole .deEscalate plainOperator.reconciler policy mitigatedTwice)) := by
  have ended : (mitigatedTwice.server.persisted upfGuard).any (fun policy =>
      decide (((Undo.deEscalate.program plainOperator.reconciler policy).run exec quietly
        mitigatedTwice).1 = .ok .none)) = true := by decide +kernel
  obtain ⟨policy, stored, success⟩ := Option.any_eq_true _ _ |>.mp ended
  have success := of_decide_eq_true success
  exact ⟨policy, stored, success, undo_spares_others_iff .deEscalate plainOperator.reconciler
    policy mitigatedTwice quietly .none success⟩

/-- De-escalating one policy takes away a drop another one has just placed. -/
theorem deEscalation_takes_shared_drop :
    ∃ policy other, mitigatedTwice.server.persisted upfGuard = some policy ∧
      mitigatedTwice.server.persisted amfGuard = some other ∧
      (other.deletionTimestamp = none ∧ other.status.phase = .mitigating ∧
        Claims other.status (.source attacker) ∧ mitigatedTwice.loader.Holds (.source attacker) ∧
        ((Undo.deEscalate.program plainOperator.reconciler policy).run exec quietly
          mitigatedTwice).1 = .ok .none ∧
        ¬ ((Undo.deEscalate.program plainOperator.reconciler policy).run exec quietly
          mitigatedTwice).2.loader.Holds (.source attacker)) := by
  have taken : (mitigatedTwice.server.persisted upfGuard).any (fun policy =>
      (mitigatedTwice.server.persisted amfGuard).any (fun other =>
        decide (other.deletionTimestamp = none ∧ other.status.phase = .mitigating ∧
          Claims other.status (.source attacker) ∧
          mitigatedTwice.loader.Holds (.source attacker) ∧
          ((Undo.deEscalate.program plainOperator.reconciler policy).run exec quietly
            mitigatedTwice).1 = .ok .none ∧
          ¬ ((Undo.deEscalate.program plainOperator.reconciler policy).run exec quietly
            mitigatedTwice).2.loader.Holds (.source attacker)))) = true := by decide +kernel
  obtain ⟨policy, stored, held⟩ := Option.any_eq_true _ _ |>.mp taken
  obtain ⟨other, alsoStored, held⟩ := Option.any_eq_true _ _ |>.mp held
  exact ⟨policy, other, stored, alsoStored, of_decide_eq_true held⟩

end Sentinel5G.Controller
