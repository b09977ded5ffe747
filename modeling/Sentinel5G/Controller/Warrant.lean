import Sentinel5G.Base.Pool
import Sentinel5G.Controller.DwellRace
import Sentinel5G.Controller.Grace
import Sentinel5G.Controller.Grounds

/-! Where drops come from. Whatever makes a drop warranted, the programs of the
operator only pass on what is: from a score to a status, from a status to the
kernel, from one version of a policy to the next. -/

namespace Sentinel5G.Controller

open Base Api Ebpf Program

/-- What a score accuses: its source, and the tunnel it names, if any. -/
def Accuses (score : ThreatScoreEvent) : Drop → Prop
  | .source address => parseIP score.sourceIP = some address.val
  | .tunnel address teid =>
      parseIP score.sourceIP = some address.val ∧ teid = score.teid ∧ teid ≠ 0

section Warrant

variable (warranted : Drop → Prop)

def ClaimsOnly (status : PolicyStatus) : Prop := ∀ drop, Claims status drop → warranted drop

def BlocksOnly : Op → Prop
  | .block ip => ∀ drop, (BlocklistCall.block ip).Places drop → warranted drop
  | .blockTunnel ip teid => ∀ drop, (BlocklistCall.blockTunnel ip teid).Places drop → warranted drop
  | _ => True

def PassesOn (op : Op) : Prop :=
  SendsGood (fun _ => ClaimsOnly warranted) op ∧ BlocksOnly warranted op

def Vetted : (op : Op) → op.Answer → Prop
  | .getPolicy _, .ok policy => ClaimsOnly warranted policy.status
  | .updateStatus _, .ok policy => ClaimsOnly warranted policy.status
  | .update _, .ok policy => ClaimsOnly warranted policy.status
  | .listPolicies, .ok policies => ∀ policy ∈ policies, ClaimsOnly warranted policy.status
  | .matchingPolicies _ _, policies => ∀ policy ∈ policies, ClaimsOnly warranted policy.status
  | _, _ => True

/-- The versions of the policies, the index and the kernel hold only what is
warranted. -/
structure Warranted (world : World) : Prop where
  versions : Kept (fun _ => ClaimsOnly warranted) world
  indexed : ∀ key policy, world.index.lookup key = some policy → ClaimsOnly warranted policy.status
  enforced : ∀ drop, world.loader.Holds drop → warranted drop

abbrev Scrupulous {α : Type} (program : Action α) : Prop :=
  program.Vouches (Vetted warranted) (PassesOn warranted) (fun _ => True)

end Warrant

section Exec

variable {warranted : Drop → Prop} {op : Op} {world : World}

theorem vetted_answersGood (op : Op) (answer : op.Answer) (vetted : Vetted warranted op answer) :
    AnswersGood (fun _ => ClaimsOnly warranted) op answer := by
  cases op with
  | getPolicy key => cases answer <;> exact vetted
  | updateStatus sent => cases answer <;> exact vetted
  | update sent => cases answer <;> exact vetted
  | _ => exact trivial

theorem exec_vetted (choice : Choice) (passes : PassesOn warranted op)
    (holds : Warranted warranted world) :
    Vetted warranted op (exec choice op world).1 := by
  have good := (exec_good choice op world passes.1 holds.versions).1
  cases op with
  | listPolicies =>
      cases answer : (exec choice .listPolicies world).1 with
      | error err => exact trivial
      | ok policies =>
          intro policy member
          rw [read_ok answer] at member
          obtain ⟨key, -, found⟩ := List.mem_filterMap.mp member
          exact holds.versions key policy (Server.mem_history_of_cached found)
  | matchingPolicies ns podLabels =>
      intro policy member
      have matching := (choice.order.perm _).mem_iff.mp member
      exact holds.indexed _ policy (PolicyIndex.mem_matchingPolicies.mp matching).2.1
  | getPolicy key =>
      cases answer : (exec choice (.getPolicy key) world).1 with
      | error err => exact trivial
      | ok policy => rwa [answer] at good
  | updateStatus sent =>
      cases answer : (exec choice (.updateStatus sent) world).1 with
      | error err => exact trivial
      | ok policy => rwa [answer] at good
  | update sent =>
      cases answer : (exec choice (.update sent) world).1 with
      | error err => exact trivial
      | ok policy => rwa [answer] at good
  | _ => exact trivial

theorem exec_indexed (choice : Choice) (passes : PassesOn warranted op)
    (holds : Warranted warranted world) (key : NamespacedName) (policy : TelecomSecurityPolicy)
    (found : (exec choice op world).2.index.lookup key = some policy) :
    ClaimsOnly warranted policy.status := by
  cases op with
  | indexPut sent =>
      rcases PolicyIndex.lookup_put_cases found with rfl | old
      · exact passes.1
      · exact holds.indexed key policy old
  | indexRemove gone => exact holds.indexed key policy (PolicyIndex.lookup_of_remove found)
  | _ =>
      rw [exec_index choice _ world id] at found
      exact holds.indexed key policy found

theorem BlocksOnly.places {call : BlocklistCall} (blocks : BlocksOnly warranted (.ofCall call))
    {drop : Drop} (places : call.Places drop) : warranted drop := by
  cases call with
  | block ip => exact blocks drop places
  | blockTunnel ip teid => exact blocks drop places
  | unblock ip => exact places.elim
  | unblockTunnel ip teid => exact places.elim

theorem exec_enforced (choice : Choice) (passes : PassesOn warranted op)
    (holds : Warranted warranted world) (drop : Drop)
    (held : (exec choice op world).2.loader.Holds drop) : warranted drop := by
  have kernel : ∀ call, op = .ofCall call → warranted drop := by
    rintro call rfl
    rw [exec_ofCall] at held
    exact ((Reconciliation.syscall_moves choice call world).added drop held).elim
      (holds.enforced drop) (passes.2.places ·)
  cases op with
  | block ip => exact kernel (.block ip) rfl
  | blockTunnel ip teid => exact kernel (.blockTunnel ip teid) rfl
  | unblock ip => exact kernel (.unblock ip) rfl
  | unblockTunnel ip teid => exact kernel (.unblockTunnel ip teid) rfl
  | _ =>
      rw [exec_loader choice _ world id] at held
      exact holds.enforced drop held

/-- While only what is warranted is passed on, nothing else is held or answered. -/
theorem exec_warranted (choice : Choice) (op : Op) (world : World)
    (passes : PassesOn warranted op) (holds : Warranted warranted world) :
    Vetted warranted op (exec choice op world).1 ∧ Warranted warranted (exec choice op world).2 :=
  ⟨exec_vetted choice passes holds,
    (exec_good choice op world passes.1 holds.versions).2,
    exec_indexed choice passes holds, exec_enforced choice passes holds⟩

end Exec

section Watcher

variable {warranted : Drop → Prop} (watcher : ThreatScoreWatcher) {policy : TelecomSecurityPolicy}
  {event : ThreatScoreEvent} (accused : ∀ drop, Accuses event drop → warranted drop)
  (copy : ClaimsOnly warranted policy.status)

theorem updateStatus_scrupulous {next : TelecomSecurityPolicy}
    (claims : ClaimsOnly warranted next.status) : Scrupulous warranted (updateStatus next) := by
  refine ⟨⟨fun drop claimed => claims drop (claims_stored.mp claimed), trivial⟩,
    fun answer vetted => ?_⟩
  cases answer with
  | error err => exact trivial
  | ok updated => exact ⟨⟨vetted, trivial⟩, fun _ _ => trivial⟩

theorem writeStatus_scrupulous (prev : TelecomSecurityPolicy) {next : TelecomSecurityPolicy}
    (claims : ClaimsOnly warranted next.status) : Scrupulous warranted (writeStatus prev next) := by
  rw [writeStatus]
  split
  · exact updateStatus_scrupulous claims
  · refine ⟨⟨trivial, trivial⟩, fun allowed _ => ?_⟩
    cases allowed with
    | true => exact updateStatus_scrupulous claims
    | false => exact trivial

theorem claims_mitigatingStatus {now : Time} {drop : Drop}
    (claims : Claims (mitigatingStatus policy.status (intent policy event) event now) drop) :
    Claims policy.status drop ∨ Accuses event drop := by
  cases claims with
  | source raw address listed parsed =>
      simp only [mitigatingStatus] at listed
      split at listed
      · rcases mem_appendUnique.mp listed with old | rfl
        · exact .inl (.source raw address old parsed)
        · exact .inr parsed
      · exact .inl (.source raw address listed parsed)
  | tunnel entry address teid listed parsed =>
      simp only [mitigatingStatus] at listed
      split at listed
      · rename_i wanted
        rcases mem_appendUnique.mp listed with old | rfl
        · exact .inl (.tunnel entry address teid old parsed)
        · simp only [intent, Bool.and_eq_true, decide_eq_true_iff] at wanted
          obtain ⟨ip, known⟩ := Option.isSome_iff_exists.mp wanted.1.2
          rw [parseTunnel_formatTunnel _ _ _ known, Except.ok.injEq, Prod.mk.injEq] at parsed
          obtain ⟨rfl, rfl⟩ := parsed
          exact .inr ⟨known, rfl, wanted.2⟩
      · exact .inl (.tunnel entry address teid listed parsed)

include accused

theorem execute_scrupulous :
    Scrupulous warranted (watcher.execute policy (intent policy event) event) := by
  refine ((watcher.execute_asks policy (intent policy event) event).mono ?_).vouches
  intro op executes
  cases op with
  | block ip =>
      refine ⟨trivial, ?_⟩
      rintro drop ⟨address, long, rfl⟩
      have parsed : parseIP event.sourceIP = some ip := executes.2
      have same := address_of_parse (parseIP_length _ _ parsed) long
      exact accused _ (parsed.trans (congrArg some same))
  | blockTunnel ip teid =>
      refine ⟨trivial, ?_⟩
      rintro drop ⟨address, long, identified, rfl⟩
      obtain ⟨-, parsed, rfl⟩ := executes
      change parseIP event.sourceIP = some ip at parsed
      have same := address_of_parse (parseIP_length _ _ parsed) long
      exact accused _ ⟨parsed.trans (congrArg some same), rfl, identified⟩
  | _ => first | exact ⟨trivial, trivial⟩ | exact executes.elim

include copy

theorem mitigate_scrupulous : Scrupulous warranted (watcher.mitigate policy event) := by
  refine ⟨⟨trivial, trivial⟩, fun now _ => ?_⟩
  have claims : ClaimsOnly warranted
      (mitigatingStatus policy.status (intent policy event) event now) := fun drop claimed =>
    (claims_mitigatingStatus claimed).elim (copy drop) (accused drop)
  change Vouches _ _ (writeStatus policy { policy with
    status := mitigatingStatus policy.status (intent policy event) event now } >>= _) _
  refine Vouches.bind ((writeStatus_scrupulous policy claims).mono fun outcome _ => ?_)
  cases outcome with
  | error err => exact trivial
  | ok done => exact execute_scrupulous watcher accused

theorem applyPolicy_scrupulous : Scrupulous warranted (watcher.applyPolicy policy event) := by
  have observed : ∀ phase, Scrupulous warranted (writeStatus policy { policy with
      status := { policy.status with
        observedThreatScore := formatScore event.score
        phase := phase } }) :=
    fun phase => writeStatus_scrupulous policy fun drop claimed =>
      copy drop (claimed.mono (fun _ => id) (fun _ => id))
  rw [ThreatScoreWatcher.applyPolicy]
  split
  · exact observed _
  · split
    · exact observed _
    · refine ⟨⟨trivial, trivial⟩, fun engaged _ => ?_⟩
      cases engaged with
      | true => exact observed _
      | false => exact mitigate_scrupulous watcher accused copy

omit copy

theorem applyAll_scrupulous (policies : List TelecomSecurityPolicy)
    (copies : ∀ policy ∈ policies, ClaimsOnly warranted policy.status) :
    Scrupulous warranted (watcher.applyAll event policies) := by
  induction policies with
  | nil => exact trivial
  | cons policy rest ih =>
      rw [List.forall_mem_cons] at copies
      refine Vouches.bind ((applyPolicy_scrupulous watcher accused copies.1).mono
        fun outcome _ => ?_)
      exact Vouches.bind ((ih copies.2).mono fun others _ => trivial)

/-- Handling a score passes on what the score accuses, and what the policies claim. -/
theorem handle_scrupulous : Scrupulous warranted (watcher.handle event) := by
  have matching : Scrupulous warranted (watcher.applyMatching event) := by
    refine ⟨⟨trivial, trivial⟩, fun answer _ => ?_⟩
    cases answer with
    | error err =>
        dsimp only [Program.bind]
        split <;> exact trivial
    | ok pod =>
        refine ⟨⟨trivial, trivial⟩, fun policies vetted => ?_⟩
        change Vouches _ _ (watcher.applyAll event policies >>= _) _
        exact Vouches.bind ((applyAll_scrupulous watcher accused policies vetted).mono
          fun outcomes _ => trivial)
  have attempts : Scrupulous warranted (watcher.attempts event) := by
    rw [ThreatScoreWatcher.attempts]
    split
    · exact ⟨⟨trivial, trivial⟩, fun _ _ => matching⟩
    · exact matching
  refine Vouches.bind (attempts.mono fun outcome _ => ?_)
  cases outcome <;> exact trivial

end Watcher

section Reconciler

variable {warranted : Drop → Prop}

theorem claimsOnly_respects : RespectsReconciler (fun _ => ClaimsOnly warranted) where
  stored key status holds drop claims := holds drop (claims_stored.mp claims)
  conditions key status conditions holds drop claims :=
    holds drop (claims.mono (fun _ => id) (fun _ => id))
  monitoring key status holds _ drop claims :=
    holds drop (claims.mono (fun _ => id) (fun _ => id))
  cleared key status holds drop claims :=
    holds drop (claims.mono (fun _ member => by cases member) (fun _ member => by cases member))

theorem undoes_idle {status : PolicyStatus} (op : Op) (undoes : Undoes status op) :
    BlocksOnly warranted op := by
  cases op <;> first | exact trivial | exact undoes.elim

theorem onMesh_idle (op : Op) (mesh : Mesh.OnMesh op) : BlocksOnly warranted op := by
  cases op <;> first | exact trivial | exact mesh.elim

theorem idle_of_kernel (op : Op) (frame : ¬ op.WritesKernel) : BlocksOnly warranted op := by
  cases op <;> first | exact trivial | exact absurd trivial frame

variable (reconciler : Reconciler) (policy : TelecomSecurityPolicy)

theorem finalize_idle : (reconciler.finalize policy).AsksOnly (BlocksOnly warranted) := by
  refine (finalize_asks policy).mono ?_
  rintro op ((undoes | mesh) | ⟨sent, rfl⟩ | ⟨key, rfl⟩)
  · exact undoes_idle op undoes
  · exact onMesh_idle op mesh
  · trivial
  · trivial

theorem tryDeEscalate_idle :
    (reconciler.tryDeEscalate policy).AsksOnly (BlocksOnly warranted) := by
  rw [Reconciler.tryDeEscalate]
  split
  · exact trivial
  · refine ⟨trivial, fun now => ?_⟩
    dsimp only [Program.bind, perform]
    split
    · exact trivial
    · refine ((reconciler.undoBlocks_asks _ policy).mono undoes_idle).bind fun unblocked => ?_
      cases unblocked with
      | error err => exact trivial
      | ok done =>
          have released : Program.AsksOnly (BlocksOnly warranted)
              (if policy.spec.actions.isolatePod then
                reconciler.undoQuarantine "de-escalate: " policy else pure (.ok ())) := by
            split
            · exact (reconciler.undoQuarantine_asks _ policy).mono onMesh_idle
            · exact trivial
          refine released.bind fun freed => ?_
          cases freed with
          | error err => exact trivial
          | ok done =>
              refine ⟨trivial, fun answer => ?_⟩
              cases answer with
              | error err => exact trivial
              | ok updated => exact ⟨trivial, fun _ => trivial⟩

theorem reconcile_idle (request : NamespacedName) :
    (reconciler.reconcile request).AsksOnly (BlocksOnly warranted) := by
  refine ⟨trivial, fun answer => ?_⟩
  cases answer with
  | error err =>
      dsimp only [Program.bind]
      split
      · exact ⟨trivial, fun _ => trivial⟩
      · exact trivial
  | ok policy =>
      dsimp only [Program.bind]
      split
      · exact finalize_idle reconciler policy
      · have guards : (ensureFinalizer policy).AsksOnly (BlocksOnly warranted) := by
          rw [ensureFinalizer]
          split
          · exact trivial
          · refine ⟨trivial, fun answer => ?_⟩
            cases answer <;> exact trivial
        refine AsksOnly.bind guards fun guarded => ?_
        cases guarded with
        | error err => exact trivial
        | ok guarded =>
            refine ⟨trivial, fun _ => ?_⟩
            have monitors : (startMonitoring guarded).AsksOnly (BlocksOnly warranted) := by
              rw [startMonitoring]
              split
              · refine ⟨trivial, fun answer => ?_⟩
                cases answer with
                | error err => exact trivial
                | ok updated => exact ⟨trivial, fun _ => trivial⟩
              · exact trivial
            change AsksOnly _ (startMonitoring guarded >>= _)
            refine AsksOnly.bind monitors fun monitored => ?_
            cases monitored with
            | error err => exact trivial
            | ok monitored =>
                refine AsksOnly.bind ((reconciler.reportScoringPipeline_kernel monitored).mono
                  idle_of_kernel) fun reported => ?_
                cases reported with
                | error err => exact trivial
                | ok pair =>
                    dsimp only [Program.bind]
                    split
                    · refine AsksOnly.bind (tryDeEscalate_idle reconciler pair.1) fun result => ?_
                      cases result <;> exact trivial
                    · exact trivial

theorem reconcile_scrupulous (request : NamespacedName) :
    Scrupulous warranted (reconciler.reconcile request) := by
  refine (reconcile_tends claimsOnly_respects reconciler request).weaken vetted_answersGood ?_
  exact (reconcile_idle reconciler request).mono fun op idle sends => ⟨sends, idle⟩

end Reconciler

section Sync

variable {warranted : Drop → Prop} {V : Type} {family : Family V} {keyOf : Drop → Option String}

theorem passesOn_place {call : BlocklistCall}
    (places : ∀ drop, call.Places drop → warranted drop) : PassesOn warranted (.ofCall call) := by
  cases call with
  | block ip => exact ⟨trivial, places⟩
  | blockTunnel ip teid => exact ⟨trivial, places⟩
  | unblock ip => exact ⟨trivial, trivial⟩
  | unblockTunnel ip teid => exact ⟨trivial, trivial⟩

theorem places_unique {call : BlocklistCall} {first second : Drop} (one : call.Places first)
    (other : call.Places second) : first = second := by
  cases call with
  | block ip =>
      obtain ⟨address, long, rfl⟩ := one
      obtain ⟨same, longer, rfl⟩ := other
      rw [BlocklistCall.address_unique long longer]
  | blockTunnel ip teid =>
      obtain ⟨address, long, -, rfl⟩ := one
      obtain ⟨same, longer, -, rfl⟩ := other
      rw [BlocklistCall.address_unique long longer]
  | unblock ip => exact one.elim
  | unblockTunnel ip teid => exact one.elim

variable {members : Drop → Prop} (holds : ∀ drop, members drop → warranted drop)

include holds in
theorem reapply_passesOn {desired : Keyed V} (lists : Lists family keyOf desired members)
    (actual : Keyed V) : (reapply family actual desired.toList).AsksOnly (PassesOn warranted) := by
  refine reapply_asks _ _ fun pair member _ => passesOn_place fun drop places => ?_
  obtain ⟨listed, -, placed, member⟩ := lists.names member
  rw [places_unique places placed]
  exact holds listed member

theorem prune_passesOn (lifts : ∀ value drop, ¬ (family.lift value).Places drop)
    (desired : Keyed V) (unclaimed : Unclaimed) (items : List (String × V)) :
    (prune family desired unclaimed items).AsksOnly (PassesOn warranted) :=
  prune_asks _ _ _ fun pair _ _ _ => passesOn_place fun drop places =>
    absurd places (lifts pair.2 drop)

theorem correct_passesOn {policies : List TelecomSecurityPolicy}
    (copies : ∀ policy ∈ policies, ClaimsOnly warranted policy.status) (kernelIPs : List IP)
    (kernelTunnels : List BlockedTunnel) (unclaimed : Unclaimed) :
    (correct (desiredEnforcement policies) kernelIPs kernelTunnels unclaimed).AsksOnly
      (PassesOn warranted) := by
  have holds : ∀ drop, Desired policies drop → warranted drop := by
    intro drop desired
    obtain ⟨policy, member, -, claims⟩ := desired.1
    exact copies policy member drop claims
  refine AsksOnly.bind (reapply_passesOn holds (desiredIPs_lists policies) _) fun _ => ?_
  refine AsksOnly.bind (prune_passesOn (fun _ _ => id) _ unclaimed _) fun _ => ?_
  refine AsksOnly.bind (reapply_passesOn holds (desiredTunnels_lists policies) _) fun _ => ?_
  exact AsksOnly.bind (prune_passesOn (fun _ _ => id) _ unclaimed _) fun _ => trivial

theorem sync_scrupulous (unclaimed : Unclaimed) : Scrupulous warranted (sync unclaimed) := by
  refine ⟨⟨trivial, trivial⟩, fun answer vetted => ?_⟩
  cases answer with
  | error err => exact trivial
  | ok policies =>
      refine ⟨⟨trivial, trivial⟩, fun ips _ => ?_⟩
      cases ips with
      | error err => exact trivial
      | ok kernelIPs =>
          refine ⟨⟨trivial, trivial⟩, fun tunnels _ => ?_⟩
          cases tunnels with
          | error err => exact trivial
          | ok kernelTunnels =>
              exact (correct_passesOn vetted kernelIPs kernelTunnels unclaimed).vouches

theorem warmIndex_scrupulous : Scrupulous warranted ThreatScoreWatcher.warmIndex := by
  refine ⟨⟨trivial, trivial⟩, fun answer vetted => ?_⟩
  cases answer with
  | error err => exact trivial
  | ok policies =>
      have puts : Scrupulous warranted (forIn policies PUnit.unit fun policy _ =>
          if policy.deletionTimestamp.isNone = true then do
            perform (Op.indexPut policy)
            pure (ForInStep.yield PUnit.unit)
          else pure (ForInStep.yield PUnit.unit)) := by
        change ∀ policy ∈ policies, ClaimsOnly warranted policy.status at vetted
        induction policies with
        | nil => exact trivial
        | cons policy rest ih =>
            rw [List.forall_mem_cons] at vetted
            rw [List.forIn_cons]
            split
            · exact ⟨⟨vetted.1, trivial⟩, fun _ _ => ih vetted.2⟩
            · exact ih vetted.2
      change Vouches _ _ ((forIn policies PUnit.unit _ : Action PUnit) >>= fun _ =>
        Program.done (Except.ok ())) _
      exact Vouches.bind (puts.mono fun _ _ => trivial)

end Sync

end Sentinel5G.Controller
