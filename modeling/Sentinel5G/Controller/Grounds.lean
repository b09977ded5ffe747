import Sentinel5G.Base.Interference
import Sentinel5G.Controller.Lifecycle
import Sentinel5G.Controller.Mitigation

namespace Sentinel5G.Controller

open Base Api Ebpf Program

structure Evolves (before after : World) : Prop where
  versions : ∀ key policy, some policy ∈ before.server.history key →
    some policy ∈ after.server.history key
  clock : before.clock ≤ after.clock

namespace Evolves

variable {before middle after : World}

theorem refl (world : World) : Evolves world world := ⟨fun _ _ => id, le_rfl⟩

theorem trans (earlier : Evolves before middle) (later : Evolves middle after) :
    Evolves before after :=
  ⟨fun key policy known => later.versions key policy (earlier.versions key policy known),
    earlier.clock.trans later.clock⟩

theorem of_server (same : after.server = before.server) (clock : before.clock ≤ after.clock) :
    Evolves before after := by
  refine ⟨fun key policy known => ?_, clock⟩
  rw [same]
  exact known

theorem of_replace {sent : TelecomSecurityPolicy} (choice : Choice) (world : World)
    (next : TelecomSecurityPolicy → TelecomSecurityPolicy) :
    Evolves world (choice.write world ((world.server.replace sent next).1,
      { world with server := (world.server.replace sent next).2 })).2 := by
  rcases write_state choice world ((world.server.replace sent next).1,
    { world with server := (world.server.replace sent next).2 }) with unchanged | applied
  · rw [unchanged]
    exact refl world
  · rw [applied]
    exact ⟨fun key policy known => Server.history_replace_mono known, le_rfl⟩

end Evolves

theorem exec_evolves (choice : Choice) (op : Op) (world : World) :
    Evolves world (exec choice op world).2 := by
  by_cases writes : op.WritesServer
  · cases op with
    | updateStatus sent => exact Evolves.of_replace choice world (Server.withStatus sent)
    | update sent => exact Evolves.of_replace choice world (Server.withObject sent)
    | _ => exact writes.elim
  · exact .of_server (exec_server choice op world writes) (exec_clock choice op world).ge

section Acts

variable (world : World) (key : NamespacedName)

theorem evolves_create (spec : PolicySpec) :
    Evolves world { world with server := world.server.create key spec } := by
  refine ⟨fun other policy known => ?_, le_rfl⟩
  dsimp only [Server.create]
  split
  · exact known
  · exact Server.history_record_mono _ known

theorem evolves_editSpec (spec : PolicySpec) :
    Evolves world { world with server := world.server.editSpec key spec } := by
  refine ⟨fun other policy known => ?_, le_rfl⟩
  dsimp only [Server.editSpec]
  split
  · exact known
  · split
    · exact known
    · exact Server.history_record_mono _ known

theorem evolves_requestDelete :
    Evolves world { world with server := world.server.requestDelete key world.clock } := by
  refine ⟨fun other policy known => ?_, le_rfl⟩
  dsimp only [Server.requestDelete]
  split
  · exact known
  · split
    · exact known
    · split
      · exact Server.history_record_mono _ known
      · exact Server.history_record_mono _ known

end Acts

/-- What one `Reconcile` works on: the version of the policy it was last answered,
and whether the one it read first was being deleted. -/
structure Basis where
  version : TelecomSecurityPolicy
  finalizing : Bool

def Basis.observe : (op : Op) → op.Answer → Option Basis → Option Basis
  | .getPolicy _, .ok policy, _ => some ⟨policy, policy.deletionTimestamp.isSome⟩
  | .updateStatus _, .ok policy, basis =>
      basis.map (fun ground => { ground with version := policy })
  | .update _, .ok policy, basis => basis.map (fun ground => { ground with version := policy })
  | _, _, basis => basis

def track (choice : Choice) (op : Op) (state : World × Option Basis) :
    op.Answer × World × Option Basis :=
  ((exec choice op state.1).1, (exec choice op state.1).2,
    Basis.observe op (exec choice op state.1).1 state.2)

def Elsewhere (before after : World × Option Basis) : Prop :=
  Evolves before.1 after.1 ∧ after.2 = before.2

theorem elsewhere_refl (state : World × Option Basis) : Elsewhere state state :=
  ⟨.refl _, rfl⟩

theorem elsewhere_trans (first second third : World × Option Basis)
    (earlier : Elsewhere first second) (later : Elsewhere second third) : Elsewhere first third :=
  ⟨earlier.1.trans later.1, later.2.trans earlier.2⟩

def Guarded (world : World) (policy : TelecomSecurityPolicy) : Prop :=
  some policy ∈ world.server.history policy.key ∧
    telecomSecurityPolicyFinalizer ∈ policy.finalizers

theorem Guarded.evolves {before after : World} {policy : TelecomSecurityPolicy}
    (guarded : Guarded before policy) (evolves : Evolves before after) : Guarded after policy :=
  ⟨evolves.versions _ _ guarded.1, guarded.2⟩

def SameDrops (first second : PolicyStatus) : Prop :=
  first.blockedSourceIPs = second.blockedSourceIPs ∧ first.blockedTunnels = second.blockedTunnels

/-- The version worked on was mitigated last a dwell ago, or is on its way out. -/
def Dwelt (reconciler : Reconciler) (state : World × Option Basis) : Prop :=
  ∃ ground, state.2 = some ground ∧ (ground.finalizing = true ∨
    ∃ last, ground.version.status.lastMitigationTime = some last ∧
      reconciler.deEscalationDwell ≤ state.1.clock - last)

/-- What each call of a `Reconcile` rests on when it is made. -/
def Grounded (reconciler : Reconciler) : Op → World × Option Basis → Prop
  | .updateStatus sent, state => ∃ ground, state.2 = some ground ∧
      some ground.version ∈ state.1.server.history sent.key ∧
      sent.resourceVersion = ground.version.resourceVersion ∧
      (SameDrops sent.status ground.version.status ∨ ¬ Recorded sent.status)
  | .indexPut policy, state => Guarded state.1 policy
  | .unblock _, state => Dwelt reconciler state
  | .unblockTunnel _ _, state => Dwelt reconciler state
  | _, _ => True

structure WorksOn (copy : TelecomSecurityPolicy) (world : World) (ground : Basis) : Prop where
  live : ground.finalizing = false
  key : ground.version.key = copy.key
  guarded : Guarded world ground.version
  version : copy.resourceVersion = ground.version.resourceVersion
  drops : SameDrops copy.status ground.version.status
  time : copy.status.lastMitigationTime = ground.version.status.lastMitigationTime

def Works (copy : TelecomSecurityPolicy) (state : World × Option Basis) : Prop :=
  ∃ ground, state.2 = some ground ∧ WorksOn copy state.1 ground

namespace Works

variable {copy : TelecomSecurityPolicy} {state later : World × Option Basis}

theorem evolves (works : Works copy state) (evolves : Evolves state.1 later.1)
    (same : later.2 = state.2) : Works copy later := by
  obtain ⟨ground, basis, on⟩ := works
  exact ⟨ground, same.trans basis, on.live, on.key, on.guarded.evolves evolves, on.version,
    on.drops, on.time⟩

theorem elsewhere (works : Works copy state) (moved : Elsewhere state later) : Works copy later :=
  works.evolves moved.1 moved.2

theorem answered {ground : Basis} (basis : state.2 = some ground) (same : ground.version = copy)
    (live : ground.finalizing = false) (guarded : Guarded state.1 copy) : Works copy state := by
  subst same
  exact ⟨ground, basis, live, rfl, guarded, rfl, ⟨rfl, rfl⟩, rfl⟩

theorem withConditions (works : Works copy state) (conditions : List Condition) :
    Works { copy with status := { copy.status with conditions := conditions } } state := by
  obtain ⟨ground, basis, on⟩ := works
  exact ⟨ground, basis, on.live, on.key, on.guarded, on.version, on.drops, on.time⟩

end Works

theorem exec_updateStatus_guarded {choice : Choice} {sent updated version : TelecomSecurityPolicy}
    {world : World} (guarded : Guarded world version) (key : version.key = sent.key)
    (sameVersion : sent.resourceVersion = version.resourceVersion)
    (accepted : (exec choice (.updateStatus sent) world).1 = .ok updated) :
    Guarded (exec choice (.updateStatus sent) world).2 updated := by
  have stored := (exec_updateStatus_ok accepted).1
  have sameKey := (updateStatus_answer accepted).1
  have effect := write_ok choice world _ accepted
  rw [exec, effect] at accepted
  obtain ⟨current, found, matching, finalizers⟩ := Server.replace_ok_finalizers accepted
  refine ⟨?_, ?_⟩
  · rw [sameKey]
    exact Server.mem_history_of_persisted stored
  · have same : version = current := by
      refine Server.persisted_unique ?_ found (sameVersion.symm.trans matching)
      rw [← key]
      exact guarded.1
    have kept : updated.finalizers = current.finalizers := finalizers
    rw [kept, ← same]
    exact guarded.2

theorem exec_update_guarded {choice : Choice} {sent updated : TelecomSecurityPolicy} {world : World}
    (present : telecomSecurityPolicyFinalizer ∈ sent.finalizers)
    (accepted : (exec choice (.update sent) world).1 = .ok updated) :
    Guarded (exec choice (.update sent) world).2 updated := by
  have sameKey := (update_answer accepted).1
  have effect := write_ok choice world _ accepted
  rw [exec, effect] at accepted ⊢
  obtain ⟨basis, -, -, finalizers⟩ := Server.replace_ok_finalizers accepted
  have kept : updated.finalizers = sent.finalizers := finalizers
  refine ⟨?_, kept ▸ present⟩
  obtain ⟨current, -, -, -, -, stored | ⟨-, gone, -⟩⟩ := Server.replace_ok accepted
  · rw [sameKey]
    exact Server.mem_history_of_persisted stored
  · have empty : sent.finalizers = [] := gone
    rw [empty] at present
    cases present

section Reconcile

variable {reconciler : Reconciler} {α : Type} {state : World × Option Basis}
  {post : α → World × Option Basis → Prop}

theorem endures_updateStatus {next : Except Err TelecomSecurityPolicy → Action α}
    {copy sent : TelecomSecurityPolicy} (works : Works copy state) (sameKey : sent.key = copy.key)
    (sameVersion : sent.resourceVersion = copy.resourceVersion)
    (drops : SameDrops sent.status copy.status ∨ ¬ Recorded sent.status)
    (failed : ∀ err after, Works copy after →
      (next (.error err)).Endures track Elsewhere (Grounded reconciler) post after)
    (stored : ∀ updated after, Works updated after → Guarded after.1 updated →
      (next (.ok updated)).Endures track Elsewhere (Grounded reconciler) post after) :
    (Program.ask (.updateStatus sent) next).Endures track Elsewhere (Grounded reconciler) post
      state := by
  intro later moved
  have current := works.elsewhere moved
  obtain ⟨ground, basis, on⟩ := current
  have key : ground.version.key = sent.key := on.key.trans sameKey.symm
  refine ⟨⟨ground, basis, ?_, sameVersion.trans on.version, drops.imp_left (fun same => ?_)⟩,
    fun choice => ?_⟩
  · rw [← key]
    exact on.guarded.1
  · exact ⟨same.1.trans on.drops.1, same.2.trans on.drops.2⟩
  · cases answer : (exec choice (.updateStatus sent) later.1).1 with
    | error err =>
        have unmoved : (track choice (.updateStatus sent) later).2.2 = later.2 := by
          simp only [track, answer, Basis.observe]
        have rest := failed err (track choice (.updateStatus sent) later).2
          ((works.elsewhere moved).evolves (exec_evolves choice _ _) unmoved)
        simp only [track, answer] at rest ⊢
        exact rest
    | ok updated =>
        have guarded : Guarded (track choice (.updateStatus sent) later).2.1 updated :=
          exec_updateStatus_guarded on.guarded key (sameVersion.trans on.version) answer
        have answered : (track choice (.updateStatus sent) later).2.2 =
            some { ground with version := updated } := by
          simp only [track, answer, Basis.observe, basis, Option.map_some]
        have rest := stored updated (track choice (.updateStatus sent) later).2
          (.answered answered rfl on.live guarded) guarded
        simp only [track, answer] at rest ⊢
        exact rest

theorem endures_indexPut {next : Unit → Action α} {policy : TelecomSecurityPolicy}
    (guarded : Guarded state.1 policy)
    (rest : ∀ after, Elsewhere state after →
      (next ()).Endures track Elsewhere (Grounded reconciler) post after) :
    (Program.ask (.indexPut policy) next).Endures track Elsewhere (Grounded reconciler) post
      state := by
  intro later moved
  refine ⟨guarded.evolves moved.1, fun choice => ?_⟩
  exact rest _ ⟨moved.1.trans (exec_evolves choice (.indexPut policy) later.1), moved.2⟩

theorem ensureFinalizer_endures {policy : TelecomSecurityPolicy}
    (basis : state.2 = some ⟨policy, false⟩)
    (known : some policy ∈ state.1.server.history policy.key) :
    (ensureFinalizer policy).Endures track Elsewhere (Grounded reconciler)
      (fun outcome after => ∀ guarded, outcome = .ok guarded →
        Works guarded after ∧ Guarded after.1 guarded) state := by
  rw [ensureFinalizer]
  split
  · rename_i present
    intro later moved guarded same
    cases same
    have held : Guarded later.1 policy := ⟨moved.1.versions _ _ known, present⟩
    exact ⟨.answered (moved.2.trans basis) rfl rfl held, held⟩
  · intro later moved
    refine ⟨trivial, fun choice => ?_⟩
    dsimp only [track, Program.bind, perform]
    cases answer : (exec choice (.update { policy with
        finalizers := policy.finalizers ++ [telecomSecurityPolicyFinalizer] }) later.1).1 with
    | error err => exact fun _ _ _ impossible => by cases impossible
    | ok updated =>
        intro final more guarded same
        cases same
        have held := (exec_update_guarded (by simp) answer).evolves more.1
        have answered : final.2 = some ⟨updated, false⟩ := by
          rw [more.2]
          simp only [Basis.observe, moved.2.trans basis, Option.map_some]
        exact ⟨.answered answered rfl rfl held, held⟩

theorem startMonitoring_endures {policy : TelecomSecurityPolicy} (works : Works policy state) :
    (startMonitoring policy).Endures track Elsewhere (Grounded reconciler)
      (fun outcome after => ∀ monitored, outcome = .ok monitored → Works monitored after)
      state := by
  rw [startMonitoring]
  split
  · refine endures_updateStatus works rfl rfl (.inl ⟨rfl, rfl⟩) (fun err after _ => ?_)
      (fun updated after works guarded => endures_indexPut guarded (fun put moved => ?_))
    · exact fun _ _ _ impossible => by cases impossible
    · intro last more monitored same
      cases same
      exact (works.elsewhere moved).elsewhere more
  · intro later moved monitored same
    cases same
    exact works.elsewhere moved

theorem report_endures {policy : TelecomSecurityPolicy} (works : Works policy state)
    (condition : Condition) (retryAfter : Duration) :
    (Reconciler.reportScoringPipeline.report policy condition retryAfter).Endures track Elsewhere
      (Grounded reconciler)
      (fun outcome after => ∀ reported retry, outcome = .ok (reported, retry) →
        Works reported after) state := by
  intro later moved
  refine ⟨trivial, fun choice => ?_⟩
  have read : Works policy (track choice .now later).2 :=
    (works.elsewhere moved).evolves (exec_evolves choice .now later.1) rfl
  have changed := read.withConditions (setStatusCondition policy.status.conditions condition
    later.1.clock)
  refine endures_updateStatus changed rfl rfl (.inl ⟨rfl, rfl⟩) (fun err after works => ?_)
    (fun updated after works guarded => endures_indexPut guarded (fun put moved => ?_))
  · dsimp only [Program.bind]
    split
    · intro last more reported retry same
      cases same
      exact works.elsewhere more
    · exact fun _ _ _ _ impossible => by cases impossible
  · intro last more reported retry same
    cases same
    exact (works.elsewhere moved).elsewhere more

theorem reportScoringPipeline_endures {policy : TelecomSecurityPolicy}
    (works : Works policy state) :
    (reconciler.reportScoringPipeline policy).Endures track Elsewhere (Grounded reconciler)
      (fun outcome after => ∀ reported retry, outcome = .ok (reported, retry) →
        Works reported after) state := by
  have unchanged : ∀ (retry : Duration) (after : World × Option Basis), Works policy after →
      Endures track Elsewhere (Grounded reconciler)
        (.done (.ok (policy, retry)) : Action (Except Err (TelecomSecurityPolicy × Duration)))
        (fun outcome after => ∀ reported retry, outcome = .ok (reported, retry) →
          Works reported after) after := by
    intro retry after works later moved reported retry same
    cases same
    exact works.elsewhere moved
  rw [Reconciler.reportScoringPipeline]
  split
  · intro later moved
    refine ⟨trivial, fun choice => ?_⟩
    have read : Works policy (track choice .scoringStatus later).2 :=
      (works.elsewhere moved).evolves (exec_evolves choice .scoringStatus later.1) rfl
    dsimp only [Program.bind, perform, track]
    split
    · split
      · exact unchanged _ _ read
      · exact report_endures read _ _
    · exact report_endures read _ _
  · exact unchanged 0 state works

def Releases (status : PolicyStatus) (op : Op) : Prop := Undoes status op ∨ Mesh.OnMesh op

theorem observe_releases {status : PolicyStatus} {op : Op} (releases : Releases status op)
    (answer : op.Answer) (basis : Option Basis) : Basis.observe op answer basis = basis := by
  cases op <;> first | rfl | exact (releases.elim id id).elim

theorem grounded_releases {status : PolicyStatus} {op : Op} (releases : Releases status op)
    (dwelt : Dwelt reconciler state) : Grounded reconciler op state := by
  cases op <;> first | exact dwelt | trivial | exact (releases.elim id id).elim

def Quiet (reconciler : Reconciler) (copy : TelecomSecurityPolicy) (last : Time)
    (state : World × Option Basis) : Prop :=
  Works copy state ∧ reconciler.deEscalationDwell ≤ state.1.clock - last

theorem Quiet.evolves {copy : TelecomSecurityPolicy} {last : Time}
    {later : World × Option Basis} (quiet : Quiet reconciler copy last state)
    (evolves : Evolves state.1 later.1) (same : later.2 = state.2) :
    Quiet reconciler copy last later :=
  ⟨quiet.1.evolves evolves same, quiet.2.trans (sub_le_sub_right evolves.clock last)⟩

theorem Quiet.dwelt {copy : TelecomSecurityPolicy} {last : Time}
    (quiet : Quiet reconciler copy last state)
    (mitigated : copy.status.lastMitigationTime = some last) : Dwelt reconciler state := by
  obtain ⟨⟨ground, basis, on⟩, dwell⟩ := quiet
  exact ⟨ground, basis, .inr ⟨last, on.time.symm.trans mitigated, dwell⟩⟩

theorem endures_releases {copy : TelecomSecurityPolicy} {last : Time} {program : Action α}
    (asks : program.AsksOnly (Releases copy.status))
    (mitigated : copy.status.lastMitigationTime = some last)
    (quiet : Quiet reconciler copy last state) :
    program.Endures track Elsewhere (Grounded reconciler)
      (fun _ after => Quiet reconciler copy last after) state :=
  Endures.of_asksOnly asks (fun _ _ moved held => held.evolves moved.1 moved.2)
    (fun choice op current releases held =>
      held.evolves (exec_evolves choice op current.1) (observe_releases releases _ _))
    (fun _ _ releases held => grounded_releases releases (held.dwelt mitigated)) quiet

theorem tryDeEscalate_endures {copy : TelecomSecurityPolicy} (works : Works copy state) :
    (reconciler.tryDeEscalate copy).Endures track Elsewhere (Grounded reconciler)
      (fun _ _ => True) state := by
  rw [Reconciler.tryDeEscalate]
  split
  · exact fun _ _ => trivial
  · rename_i last mitigated
    intro later moved
    refine ⟨trivial, fun choice => ?_⟩
    have read : Works copy (track choice .now later).2 :=
      (works.elsewhere moved).evolves (exec_evolves choice .now later.1) rfl
    dsimp only [Program.bind, perform]
    split
    · exact fun _ _ => trivial
    · rename_i elapsed
      have quiet : Quiet reconciler copy last (track choice .now later).2 :=
        ⟨read, sub_nonpos.mp (not_lt.mp elapsed)⟩
      refine Endures.bind elsewhere_refl ((endures_releases
        ((reconciler.undoBlocks_asks _ copy).mono (fun _ => .inl)) mitigated quiet).mono
          (fun unblocked middle quiet => ?_))
      cases unblocked with
      | error err => exact fun _ _ => trivial
      | ok done =>
          have released : Program.AsksOnly (Releases copy.status)
              (if copy.spec.actions.isolatePod then
                reconciler.undoQuarantine "de-escalate: " copy else pure (.ok ())) := by
            split
            · exact (reconciler.undoQuarantine_asks _ copy).mono (fun _ => .inr)
            · exact trivial
          refine Endures.bind elsewhere_refl ((endures_releases released mitigated quiet).mono
            (fun freed after quiet => ?_))
          cases freed with
          | error err => exact fun _ _ => trivial
          | ok done =>
              refine endures_updateStatus quiet.1 rfl rfl (.inr ?_) (fun err after _ => ?_)
                (fun updated after _ guarded => endures_indexPut guarded (fun put moved => ?_))
              · rintro (listed | listed) <;> exact listed rfl
              · exact fun _ _ => trivial
              · exact fun _ _ => trivial

def Finalizes (status : PolicyStatus) (op : Op) : Prop :=
  Releases status op ∨ (∃ sent, op = .update sent) ∨ ∃ key, op = .indexRemove key

theorem finalize_asks (policy : TelecomSecurityPolicy) :
    (reconciler.finalize policy).AsksOnly (Finalizes policy.status) := by
  rw [Reconciler.finalize]
  split
  · refine ((reconciler.undoQuarantine_asks "" policy).mono (fun _ mesh => .inl (.inr mesh))).bind
      (fun freed => ?_)
    cases freed with
    | error err => trivial
    | ok done =>
        refine ((reconciler.undoBlocks_asks "" policy).mono
          (fun _ undoes => .inl (.inl undoes))).bind (fun unblocked => ?_)
        cases unblocked with
        | error err => trivial
        | ok done =>
            refine ⟨.inr (.inl ⟨_, rfl⟩), fun answer => ?_⟩
            cases answer with
            | error err => trivial
            | ok updated => exact ⟨.inr (.inr ⟨_, rfl⟩), fun _ => trivial⟩
  · trivial

def Finalizing (state : World × Option Basis) : Prop :=
  ∃ ground, state.2 = some ground ∧ ground.finalizing = true

theorem finalize_endures {policy : TelecomSecurityPolicy}
    (basis : state.2 = some ⟨policy, true⟩) :
    (reconciler.finalize policy).Endures track Elsewhere (Grounded reconciler)
      (fun _ _ => True) state := by
  have started : Finalizing state := ⟨_, basis, rfl⟩
  refine (Endures.of_asksOnly (finalize_asks policy) ?_ ?_ ?_ started).mono
    (fun _ _ _ => trivial)
  · rintro before after moved ⟨ground, held, finalizing⟩
    exact ⟨ground, moved.2.trans held, finalizing⟩
  · rintro choice op current (releases | ⟨sent, rfl⟩ | ⟨key, rfl⟩) ⟨ground, held, finalizing⟩
    · exact ⟨ground, (observe_releases releases _ _).trans held, finalizing⟩
    · dsimp only [track]
      cases (exec choice (.update sent) current.1).1 with
      | error err => exact ⟨ground, held, finalizing⟩
      | ok updated =>
          refine ⟨{ ground with version := updated }, ?_, finalizing⟩
          rw [held]
          rfl
    · exact ⟨ground, held, finalizing⟩
  · rintro op current (releases | ⟨sent, rfl⟩ | ⟨key, rfl⟩) ⟨ground, held, finalizing⟩
    · exact grounded_releases releases ⟨ground, held, .inl finalizing⟩
    · trivial
    · trivial

/-- Whatever the others do in between, every call of a `Reconcile` is grounded. -/
theorem reconcile_endures (reconciler : Reconciler) (request : NamespacedName) (world : World) :
    (reconciler.reconcile request).Endures track Elsewhere (Grounded reconciler)
      (fun _ _ => True) (world, none) := by
  intro later moved
  refine ⟨trivial, fun choice => ?_⟩
  dsimp only [track, Program.bind, perform]
  cases answer : (exec choice (.getPolicy request) later.1).1 with
  | error err =>
      dsimp only
      split
      · exact fun _ _ => ⟨trivial, fun _ _ _ => trivial⟩
      · exact fun _ _ => trivial
  | ok policy =>
      have known : some policy ∈ later.1.server.history policy.key := exec_getPolicy_ok answer
      dsimp only [Basis.observe]
      cases deleting : policy.deletionTimestamp.isSome with
      | true => exact finalize_endures rfl
      | false =>
          have ensured : (ensureFinalizer policy).Endures track Elsewhere (Grounded reconciler)
              (fun outcome after => ∀ guarded, outcome = .ok guarded →
                Works guarded after ∧ Guarded after.1 guarded)
              (later.1, some ⟨policy, false⟩) := ensureFinalizer_endures rfl known
          refine Endures.bind elsewhere_refl (ensured.mono (fun outcome after handed => ?_))
          cases outcome with
          | error err => exact fun _ _ => trivial
          | ok guarded =>
              obtain ⟨works, held⟩ := handed guarded rfl
              refine endures_indexPut held (fun after moved => ?_)
              change Endures track Elsewhere (Grounded reconciler)
                (startMonitoring guarded >>= _) _ _
              refine Endures.bind elsewhere_refl ((startMonitoring_endures
                (works.elsewhere moved)).mono (fun outcome after handed => ?_))
              cases outcome with
              | error err => exact fun _ _ => trivial
              | ok monitored =>
                  refine Endures.bind elsewhere_refl ((reportScoringPipeline_endures
                    (handed monitored rfl)).mono (fun outcome after handed => ?_))
                  cases outcome with
                  | error err => exact fun _ _ => trivial
                  | ok pair =>
                      dsimp only [Program.bind]
                      split
                      · refine Endures.bind elsewhere_refl ((tryDeEscalate_endures
                          (handed pair.1 pair.2 rfl)).mono (fun result final _ => ?_))
                        cases result <;> exact fun _ _ => trivial
                      · exact fun _ _ => trivial

end Reconcile

end Sentinel5G.Controller
