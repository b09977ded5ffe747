import Sentinel5G.Controller.PlacementRace
import Sentinel5G.Mesh.Quarantine

namespace Sentinel5G.Controller

open Base Api Ebpf Program Mesh

theorem unblockSources_aborts (context : String) (policy : TelecomSecurityPolicy)
    (raws : List String) : (unblockSources context policy raws).Aborts Hampers := by
  induction raws with
  | nil => exact ⟨(), rfl⟩
  | cons raw rest ih =>
      rw [unblockSources]
      split
      · exact ih
      · intro answer
        cases answer with
        | error err => exact ⟨fun _ => ⟨_, rfl⟩, fun passed => absurd trivial passed⟩
        | ok done => exact ⟨fun failed => failed.elim, fun _ => ih⟩

theorem unblockTunnels_aborts (context : String) (policy : TelecomSecurityPolicy)
    (entries : List String) : (unblockTunnels context policy entries).Aborts Hampers := by
  induction entries with
  | nil => exact ⟨(), rfl⟩
  | cons entry rest ih =>
      rw [unblockTunnels]
      split
      · exact ih
      · intro answer
        cases answer with
        | error err => exact ⟨fun _ => ⟨_, rfl⟩, fun passed => absurd trivial passed⟩
        | ok done => exact ⟨fun failed => failed.elim, fun _ => ih⟩

namespace Reconciler

variable (reconciler : Reconciler)

theorem undoBlocks_aborts (context : String) (policy : TelecomSecurityPolicy) :
    (reconciler.undoBlocks context policy).Aborts Hampers := by
  rw [undoBlocks]
  split
  · exact (unblockSources_aborts context policy _).bind (fun _ => ⟨_, rfl⟩)
      (fun _ => unblockTunnels_aborts context policy _)
  · exact ⟨(), rfl⟩

theorem undoQuarantine_aborts (context : String) (policy : TelecomSecurityPolicy) :
    (reconciler.undoQuarantine context policy).Aborts Hampers := by
  rw [undoQuarantine]
  split
  · exact (Mesh.Adapter.release_aborts _ _ _).bind (fun _ => ⟨_, rfl⟩) (fun _ => ⟨(), rfl⟩)
  · exact ⟨(), rfl⟩

theorem tryDeEscalate_aborts (policy : TelecomSecurityPolicy) :
    (reconciler.tryDeEscalate policy).AbortsFrom Hampers Op.WritesKernel := by
  rw [tryDeEscalate]
  split
  · trivial
  · refine .inr ⟨id, fun now => ?_⟩
    dsimp only [Program.bind]
    split
    · trivial
    · refine Aborts.abortsFrom ((reconciler.undoBlocks_aborts _ policy).bind (fun _ => ⟨_, rfl⟩)
        (fun _ => ?_))
      have freed : Aborts Hampers (if policy.spec.actions.isolatePod then
          reconciler.undoQuarantine "de-escalate: " policy else pure (.ok ())) := by
        split
        · exact reconciler.undoQuarantine_aborts _ policy
        · exact ⟨(), rfl⟩
      refine freed.bind (fun _ => ⟨_, rfl⟩) (fun _ answer => ?_)
      cases answer with
      | error err => exact ⟨fun _ => ⟨_, rfl⟩, fun passed => absurd trivial passed⟩
      | ok updated =>
          exact ⟨fun failed => failed.elim, fun _ _ => ⟨fun failed => failed.elim,
            fun _ => ⟨_, rfl⟩⟩⟩

theorem finalize_aborts (policy : TelecomSecurityPolicy) :
    (reconciler.finalize policy).Aborts Hampers := by
  rw [finalize]
  split
  · refine (reconciler.undoQuarantine_aborts _ policy).bind (fun _ => ⟨_, rfl⟩) (fun _ => ?_)
    refine (reconciler.undoBlocks_aborts _ policy).bind (fun _ => ⟨_, rfl⟩) (fun _ answer => ?_)
    cases answer with
    | error err => exact ⟨fun _ => ⟨_, rfl⟩, fun passed => absurd trivial passed⟩
    | ok updated =>
        exact ⟨fun failed => failed.elim, fun _ _ => ⟨fun failed => failed.elim,
          fun _ => ⟨_, rfl⟩⟩⟩
  · exact ⟨_, rfl⟩

theorem reportScoringPipeline_kernel (policy : TelecomSecurityPolicy) :
    (reconciler.reportScoringPipeline policy).AsksOnly (fun op => ¬ op.WritesKernel) := by
  have report : ∀ (condition : Condition) (retry : Duration),
      (reportScoringPipeline.report policy condition retry).AsksOnly
        (fun op => ¬ op.WritesKernel) := by
    intro condition retry
    refine ⟨id, fun now => ⟨id, fun answer => ?_⟩⟩
    cases answer with
    | error err =>
        dsimp only [Program.bind]
        split <;> trivial
    | ok updated => exact ⟨id, fun _ => trivial⟩
  rw [reportScoringPipeline]
  split
  · refine ⟨id, fun status => ?_⟩
    dsimp only [Program.bind]
    split
    · split
      · trivial
      · exact report _ _
    · exact report _ _
  · trivial

theorem reconcile_aborts (request : NamespacedName) :
    (reconciler.reconcile request).AbortsFrom Hampers Op.WritesKernel := by
  refine .inr ⟨id, fun answer => ?_⟩
  cases answer with
  | error err =>
      dsimp only [Program.bind]
      split
      · exact .inr ⟨id, fun _ => trivial⟩
      · trivial
  | ok policy =>
      dsimp only [Program.bind]
      split
      · exact (reconciler.finalize_aborts policy).abortsFrom
      · have ensured : (ensureFinalizer policy).AsksOnly (fun op => ¬ op.WritesKernel) := by
          rw [ensureFinalizer]
          split
          · trivial
          · refine ⟨id, fun answer => ?_⟩
            cases answer <;> trivial
        refine AbortsFrom.bind ensured (fun outcome => ?_)
        cases outcome with
        | error err => trivial
        | ok guarded =>
            have monitored : (startMonitoring guarded).AsksOnly (fun op => ¬ op.WritesKernel) := by
              rw [startMonitoring]
              split
              · refine ⟨id, fun answer => ?_⟩
                cases answer with
                | error err => trivial
                | ok updated => exact ⟨id, fun _ => trivial⟩
              · trivial
            refine .inr ⟨id, fun _ => ?_⟩
            change AbortsFrom Hampers Op.WritesKernel (startMonitoring guarded >>= _)
            refine AbortsFrom.bind monitored (fun outcome => ?_)
            cases outcome with
            | error err => trivial
            | ok monitored =>
                refine AbortsFrom.bind (reconciler.reportScoringPipeline_kernel monitored)
                  (fun outcome => ?_)
                cases outcome with
                | error err => trivial
                | ok pair =>
                    dsimp only
                    split
                    · exact (reconciler.tryDeEscalate_aborts pair.1).followed (fun _ => ⟨_, rfl⟩)
                        (fun _ => ⟨_, rfl⟩)
                    · trivial

end Reconciler

def Lifting : Op → Prop
  | .unblock _ => True
  | .unblockTunnel _ _ => True
  | _ => False

theorem exec_holds {op : Op} (harmless : ¬ Lifting op) (choice : Choice) (world : World)
    (drop : Drop) (held : world.loader.Holds drop) :
    (exec choice op world).2.loader.Holds drop := by
  by_cases writes : op.WritesKernel
  · cases op with
    | block ip =>
        rcases exec_block choice ip world with ⟨err, failed⟩ | ⟨after, address, -, adds, done⟩
        · rwa [failed]
        · rw [done]
          exact (adds.holds drop).mpr (.inr held)
    | blockTunnel ip teid =>
        rcases exec_blockTunnel choice ip teid world with
          ⟨err, failed⟩ | ⟨after, address, -, -, adds, done⟩
        · rwa [failed]
        · rw [done]
          exact (adds.holds drop).mpr (.inr held)
    | unblock ip => exact absurd trivial harmless
    | unblockTunnel ip teid => exact absurd trivial harmless
    | _ => exact writes.elim
  · rwa [exec_loader choice op world writes]

theorem hampered_loader {op : Op} {choice : Choice} {world : World}
    (failed : Hampers op (exec choice op world).1) :
    (exec choice op world).2.loader = world.loader := by
  cases op with
  | unblock ip =>
      rcases exec_unblock choice ip world with ⟨err, refused⟩ | ⟨after, address, -, -, done⟩
      · rw [refused]
      · rw [done] at failed
        exact failed.elim
  | unblockTunnel ip teid =>
      rcases exec_unblockTunnel choice ip teid world with
        ⟨err, refused⟩ | ⟨after, address, -, -, -, done⟩
      · rw [refused]
      · rw [done] at failed
        exact failed.elim
  | block ip => exact failed.elim
  | blockTunnel ip teid => exact failed.elim
  | _ => exact exec_loader choice _ world id

theorem hampered_basis {op : Op} {answer : op.Answer} (failed : Hampers op answer)
    (basis : Option Basis) : Basis.observe op answer basis = basis := by
  cases op with
  | getPolicy key => exact failed.elim
  | updateStatus sent =>
      cases answer with
      | error err => rfl
      | ok updated => exact failed.elim
  | update sent =>
      cases answer with
      | error err => rfl
      | ok updated => exact failed.elim
  | _ => rfl

theorem ThreatScoreWatcher.applyPolicy_lifts (watcher : ThreatScoreWatcher)
    (policy : TelecomSecurityPolicy) (event : ThreatScoreEvent) :
    (watcher.applyPolicy policy event).AsksOnly (fun op => ¬ Lifting op) := by
  refine watcher.applyPolicy_asksOnly id id id (fun _ => id) (fun _ => id) ?_
  refine (watcher.execute_asks policy _ event).mono (fun op executes => ?_)
  cases op <;> first | exact id | exact executes.elim

namespace Interleaving

def Intact (kernels : List Loader) (loader : Loader) : Prop :=
  ∀ earlier ∈ kernels, ∀ drop, earlier.Holds drop → loader.Holds drop

def Unmitigated (key : NamespacedName) (world : World) (seen : TelecomSecurityPolicy) : Prop :=
  ∃ current last, world.server.persisted key = some current ∧
    current.status.lastMitigationTime = some last ∧
    ∀ known, seen.status.lastMitigationTime = some known → last ≤ known

/-- A `Reconcile` of a live policy takes an entry out of the kernel only while the
version it works on carries the last mitigation, and none of its calls fails once
it has done so. -/
def Timely (key : NamespacedName) (state : Interleaving) : Move → Prop
  | .reconcileStep choice => ∀ op rest basis kernels,
      state.reconciling = some ⟨.ask op rest, basis, kernels⟩ →
      basis.any Basis.finalizing = false →
      (∀ ground call drop, basis = some ground → op = .ofCall call → call.Lifts drop →
        state.world.loader.Holds drop → Unmitigated key state.world ground.version) ∧
      (¬ Intact kernels state.world.loader → ¬ Hampers op (exec choice op state.world).1)
  | _ => True

def Removes (choice : Choice) (state : Interleaving) (drop : Drop) : Prop :=
  ∃ op rest ground kernels, state.reconciling = some ⟨.ask op rest, some ground, kernels⟩ ∧
    ground.finalizing = false ∧ state.world.loader.Holds drop ∧
    ¬ (exec choice op state.world).2.loader.Holds drop

def Quieted (operator : Operator) (key : NamespacedName) (world : World) : Prop :=
  ∃ current last, world.server.persisted key = some current ∧
    current.status.lastMitigationTime = some last ∧
    operator.reconciler.deEscalationDwell ≤ world.clock - last

/-- When a `Reconcile` of a live policy has failed, every entry the stored status
claims that was in the kernel since it began still is. -/
def KeepsClaimed (key : NamespacedName) (state : Interleaving) : Prop :=
  ∀ err ground kernels, state.reconciling = some ⟨.done (.error err), some ground, kernels⟩ →
    ground.finalizing = false → ∀ current, state.world.server.persisted key = some current →
      ∀ drop, Claims current.status drop → (∃ earlier ∈ kernels, earlier.Holds drop) →
        state.world.loader.Holds drop

/-- How far a `Reconcile` is: it has taken nothing out yet, or will succeed unless
a call fails, or it has ended on a deleted policy. -/
def Steady (run : Reconciling) (loader : Loader) : Prop :=
  (run.rest.AbortsFrom Hampers Op.WritesKernel ∧ Intact run.kernels loader) ∨
  run.rest.Aborts Hampers ∨
  (run.basis.any Basis.finalizing = true ∧ ∃ value, run.rest = .done value)

structure Careful (operator : Operator) (state : Interleaving) : Prop where
  founded : Founded operator state
  spares : ∀ call, state.scoring = some call → call.rest.AsksOnly (fun op => ¬ Lifting op)
  steady : ∀ run, state.reconciling = some run → Steady run state.world.loader

theorem Intact.grow {kernels : List Loader} {before after : Loader} (intact : Intact kernels before)
    (kept : ∀ drop, before.Holds drop → after.Holds drop) : Intact (after :: kernels) after := by
  intro earlier member drop held
  rcases List.mem_cons.mp member with rfl | older
  · exact held
  · exact kept drop (intact earlier older drop held)

theorem Steady.grow {run : Reconciling} {before after : Loader} (steady : Steady run before)
    (kept : ∀ drop, before.Holds drop → after.Holds drop) :
    Steady { run with kernels := after :: run.kernels } after :=
  steady.imp_left (fun early => ⟨early.1, early.2.grow kept⟩)

theorem Steady.call {op : Op} {rest : op.Answer → Action (Except Err Result)}
    {basis : Option Basis} {kernels : List Loader} {world : World} {choice : Choice}
    (steady : Steady ⟨.ask op rest, basis, kernels⟩ world.loader)
    (unhampered : basis.any Basis.finalizing = false → ¬ Intact kernels world.loader →
      ¬ Hampers op (exec choice op world).1) :
    Steady ⟨rest (exec choice op world).1, Basis.observe op (exec choice op world).1 basis,
      (exec choice op world).2.loader :: kernels⟩ (exec choice op world).2.loader := by
  rcases steady with ⟨aborts, intact⟩ | aborts | ⟨-, value, impossible⟩
  · rcases aborts with ⟨-, aborts⟩ | ⟨early, continued⟩
    · by_cases failed : Hampers op (exec choice op world).1
      · obtain ⟨err, stopped⟩ := (aborts _).1 failed
        refine .inl ⟨?_, intact.grow (fun drop held => ?_)⟩
        · rw [stopped]
          trivial
        · rwa [hampered_loader failed]
      · exact .inr (.inl ((aborts _).2 failed))
    · refine .inl ⟨continued _, intact.grow (fun drop held => ?_)⟩
      rwa [exec_loader choice op world early]
  · by_cases failed : Hampers op (exec choice op world).1
    · obtain ⟨err, stopped⟩ := (aborts _).1 failed
      by_cases intact : Intact kernels world.loader
      · refine .inl ⟨?_, intact.grow (fun drop held => ?_)⟩
        · rw [stopped]
          trivial
        · rwa [hampered_loader failed]
      · -- Only a deleted policy's run may fail here, and it has ended.
        refine .inr (.inr ⟨?_, _, stopped⟩)
        dsimp only
        rw [hampered_basis failed]
        by_contra live
        exact unhampered (by simpa using live) intact failed
    · exact .inr (.inl ((aborts _).2 failed))
  · cases impossible

variable {operator : Operator} {key : NamespacedName} {state after : Interleaving} {move : Move}

theorem Careful.step (careful : Careful operator state) (timely : Timely key state move)
    (step : Step operator key state move after) : Careful operator after := by
  refine ⟨careful.founded.step step, ?_, ?_⟩
  · intro call flying
    cases step with
    | idle move => exact careful.spares call flying
    | take policy event free indexed =>
        cases flying
        exact operator.watcher.applyPolicy_lifts policy event
    | scored policy event op rest settled choice flight =>
        cases flying
        exact (careful.spares _ flight).2 _
    | leave move => cases flying
    | begin free => exact careful.spares call flying
    | reconciled op rest basis kernels choice flight => exact careful.spares call flying
    | finish move => exact careful.spares call flying
    | act move world acts => exact careful.spares call flying
  · intro run flying
    cases step with
    | idle move => exact careful.steady run flying
    | take policy event free indexed => exact careful.steady run flying
    | scored policy event op rest settled choice flight =>
        obtain ⟨before, flown, rfl⟩ := Option.map_eq_some_iff.mp flying
        exact (careful.steady before flown).grow
          (exec_holds (careful.spares _ flight).1 choice state.world)
    | leave move => exact careful.steady run flying
    | begin free =>
        cases flying
        refine .inl ⟨operator.reconciler.reconcile_aborts key, fun earlier member drop held => ?_⟩
        rwa [List.mem_singleton.mp member] at held
    | reconciled op rest basis kernels choice flight =>
        cases flying
        exact (careful.steady _ flight).call
          (fun live => (timely op rest basis kernels flight live).2)
    | finish move => cases flying
    | act move world acts =>
        have steady := careful.steady run flying
        rw [← acts.loader] at steady
        exact steady

theorem Fresh.careful (operator : Operator) (fresh : state.Fresh) : Careful operator state := by
  obtain ⟨idle, resting, -⟩ := fresh
  refine ⟨fun run flying => ?_, fun call flying => ?_, fun run flying => ?_⟩
  · rw [resting] at flying
    cases flying
  · rw [idle] at flying
    cases flying
  · rw [resting] at flying
    cases flying

theorem Careful.keepsClaimed (careful : Careful operator state) : KeepsClaimed key state := by
  rintro err ground kernels failed live current - drop - ⟨earlier, member, held⟩
  rcases careful.steady _ failed with ⟨-, intact⟩ | ⟨result, impossible⟩ | ⟨deleting, -⟩
  · exact intact earlier member drop held
  · cases impossible
  · rw [Option.any_some, live] at deleting
    cases deleting

theorem lifts_of_lost {op : Op} {choice : Choice} {world : World} {drop : Drop}
    (held : world.loader.Holds drop) (gone : ¬ (exec choice op world).2.loader.Holds drop) :
    Lifting op ∧ ∃ call, op = .ofCall call ∧ call.Lifts drop := by
  have lifting : Lifting op := by
    by_contra harmless
    exact gone (exec_holds harmless choice world drop held)
  refine ⟨lifting, ?_⟩
  cases op with
  | unblock ip =>
      rcases exec_unblock choice ip world with ⟨err, refused⟩ | ⟨after, address, long, removes,
        done⟩
      · rw [refused] at gone
        exact absurd held gone
      · rw [done] at gone
        have same : drop = .source address := by
          by_contra different
          exact gone ((removes.holds drop).mpr ⟨different, held⟩)
        exact ⟨.unblock ip, rfl, address, long, same⟩
  | unblockTunnel ip teid =>
      rcases exec_unblockTunnel choice ip teid world with
        ⟨err, refused⟩ | ⟨after, address, long, identified, removes, done⟩
      · rw [refused] at gone
        exact absurd held gone
      · rw [done] at gone
        have same : drop = .tunnel address teid := by
          by_contra different
          exact gone ((removes.holds drop).mpr ⟨different, held⟩)
        exact ⟨.unblockTunnel ip teid, rfl, address, long, identified, same⟩
  | _ => exact lifting.elim

theorem grounded_of_lifting {reconciler : Reconciler} {op : Op} {ground : World × Option Basis}
    (lifting : Lifting op) (grounded : Grounded reconciler op ground) :
    Dwelt reconciler ground := by
  cases op <;> first | exact grounded | exact lifting.elim

theorem Careful.quieted (careful : Careful operator state) {choice : Choice} {drop : Drop}
    (timely : Timely key state (.reconcileStep choice)) (removes : Removes choice state drop) :
    Quieted operator key state.world := by
  obtain ⟨op, rest, ground, kernels, flight, live, held, gone⟩ := removes
  obtain ⟨lifting, call, same, lifts⟩ := lifts_of_lost held gone
  obtain ⟨worked, basis, dwelt⟩ := grounded_of_lifting lifting (careful.founded.ready flight)
  cases basis
  rcases dwelt with deleting | ⟨known, mitigated, elapsed⟩
  · rw [live] at deleting
    cases deleting
  · obtain ⟨current, last, stored, time, bound⟩ :=
      (timely op rest _ kernels flight (by simpa using live)).1 ground call drop rfl same lifts held
    exact ⟨current, last, stored, time, elapsed.trans (sub_le_sub_left (bound known mitigated) _)⟩

/-- In every timely interleaving, a de-escalation takes an entry out of the kernel
only a dwell after the recorded mitigation, and a failed one has lost nothing. -/
theorem de_escalation_respects_mitigations (operator : Operator) (key : NamespacedName)
    (start : Interleaving) (moves : List Move) (fresh : start.Fresh)
    (timely : AllMoves (next operator key) (Timely key) start moves) :
    KeepsClaimed key (runMoves (next operator key) start moves) ∧
    ∀ choice drop, Timely key (runMoves (next operator key) start moves) (.reconcileStep choice) →
      Removes choice (runMoves (next operator key) start moves) drop →
      Quieted operator key (runMoves (next operator key) start moves).world := by
  have careful := runMoves_invariant moves
    (fun state move allowed careful => careful.step allowed (next_step operator key state move))
    (fresh.careful operator) timely
  exact ⟨careful.keepsClaimed, fun choice drop allowed removes => careful.quieted allowed removes⟩

def smooth : (op : Op) → op.Answer → Bool
  | .getPolicy _, _ => true
  | .indexPut _, _ => true
  | .now, _ => true
  | .update _, .ok _ => true
  | .updateStatus _, .ok _ => true
  | _, _ => false

theorem smooth_spec {op : Op} {answer : op.Answer} (fine : smooth op answer = true) :
    (∀ call drop, op = .ofCall call → ¬ call.Lifts drop) ∧ ¬ Hampers op answer := by
  constructor
  · rintro call drop rfl lifts
    cases call <;> cases fine
  · intro failed
    cases op <;> first | exact failed | cases fine |
      (cases answer <;> first | exact failed | cases fine)

def smoothly (state : Interleaving) : Move → Bool
  | .reconcileStep choice => state.reconciling.all (fun run =>
      match run.rest with
      | .ask op _ => smooth op (exec choice op state.world).1
      | .done _ => true)
  | _ => true

theorem timely_of_smoothly {key : NamespacedName} (state : Interleaving) (move : Move)
    (fine : smoothly state move = true) : Timely key state move := by
  cases move with
  | reconcileStep choice =>
      intro op rest basis kernels flight live
      rw [smoothly, flight] at fine
      obtain ⟨unlifting, passed⟩ := smooth_spec fine
      exact ⟨fun ground call drop _ same lifts _ => absurd lifts (unlifting call drop same),
        fun _ => passed⟩
  | _ => trivial

def mitigatedAndQuiet : List Move :=
  aboutToBlock ++ scoreSteps 2 ++ [.scoreEnd, .advance 300000000000]

def undisturbed : List Move :=
  mitigatedAndQuiet ++ .reconcile :: List.replicate 3 (.reconcileStep .quiet)

def overtaken : List Move :=
  mitigatedAndQuiet ++ [.reconcile, .reconcileStep .quiet, .score (tunnelScore "10.0.0.1" 1)] ++
    scoreSteps 7 ++ List.replicate 2 (.reconcileStep .quiet)

def Reconciling.failed (run : Reconciling) : Bool :=
  match run.rest with
  | .done (.error _) => true
  | _ => false

theorem Reconciling.failed_rest {run : Reconciling} (failed : Reconciling.failed run = true) :
    ∃ err, run.rest = .done (.error err) := by
  unfold Reconciling.failed at failed
  split at failed
  · rename_i err ended
    exact ⟨err, ended⟩
  · cases failed

def liftsNext (run : Reconciling) : Option (IP × Basis) :=
  match run with
  | ⟨.ask (.unblock ip) _, some ground, _⟩ => some (ip, ground)
  | _ => none

theorem liftsNext_some {run : Reconciling} {ip : IP} {ground : Basis}
    (lifts : liftsNext run = some (ip, ground)) :
    ∃ rest kernels, run = ⟨.ask (.unblock ip) rest, some ground, kernels⟩ := by
  unfold liftsNext at lifts
  split at lifts
  · cases lifts
    exact ⟨_, _, rfl⟩
  · cases lifts

def LiftsAttacker (state : Interleaving) : Prop :=
  ∃ rest ground kernels,
    state.reconciling = some ⟨.ask (.unblock attacker.val) rest, some ground, kernels⟩ ∧
    ground.finalizing = false ∧ ground.version.status.lastMitigationTime = some 0

theorem liftsAttacker_of_next {state : Interleaving}
    (comes : state.reconciling.any (fun run => (liftsNext run).any (fun next =>
      decide (next.1 = attacker.val) && !next.2.finalizing &&
        decide (next.2.version.status.lastMitigationTime = some 0))) = true) :
    LiftsAttacker state := by
  simp only [Option.any_eq_true, Bool.and_eq_true, decide_eq_true_eq, Bool.not_eq_true'] at comes
  obtain ⟨run, flight, ⟨ip, ground⟩, lifts, ⟨rfl, live⟩, time⟩ := comes
  obtain ⟨rest, kernels, rfl⟩ := liftsNext_some lifts
  exact ⟨rest, ground, kernels, flight, live, time⟩

theorem LiftsAttacker.removes {state : Interleaving} (comes : LiftsAttacker state)
    (held : state.world.loader.Holds (.source attacker))
    (gone : ¬ (exec .quiet (.unblock attacker.val) state.world).2.loader.Holds (.source attacker)) :
    Removes .quiet state (.source attacker) := by
  obtain ⟨rest, ground, kernels, flight, live, -⟩ := comes
  exact ⟨_, rest, ground, kernels, flight, live, held, gone⟩

theorem quiet_drop_is_lifted :
    Removes .quiet (runMoves (next plainOperator upfGuard) starting undisturbed)
      (.source attacker) ∧
    Quieted plainOperator upfGuard
      (runMoves (next plainOperator upfGuard) starting undisturbed).world := by
  have comes : LiftsAttacker (runMoves (next plainOperator upfGuard) starting undisturbed) :=
    liftsAttacker_of_next (by decide +kernel)
  have removes := comes.removes (by decide +kernel) (by decide +kernel)
  have fine : AllMoves (next plainOperator upfGuard) (fun state move => smoothly state move = true)
      starting undisturbed := by decide +kernel
  have stored : ((runMoves (next plainOperator upfGuard) starting
      undisturbed).world.server.persisted
      upfGuard).any (fun current => decide (current.status.lastMitigationTime = some 0)) =
        true := by
    decide +kernel
  have lifted : (exec .quiet (.unblock attacker.val)
      (runMoves (next plainOperator upfGuard) starting undisturbed).world).1.isOk = true := by
    decide +kernel
  obtain ⟨current, found, time⟩ := Option.any_eq_true _ _ |>.mp stored
  refine ⟨removes, (de_escalation_respects_mitigations plainOperator upfGuard starting undisturbed
    ⟨rfl, rfl, rfl⟩ (fine.mono timely_of_smoothly)).2 .quiet _ ?_ removes⟩
  intro op rest basis kernels flight live
  obtain ⟨_, ground, _, same, -, mitigated⟩ := comes
  cases flight.symm.trans same
  refine ⟨?_, fun _ failed => ?_⟩
  · rintro ground call drop ⟨⟩ - - -
    refine ⟨current, 0, found, of_decide_eq_true time, fun known seen => ?_⟩
    cases mitigated.symm.trans seen
    exact le_rfl
  · cases answer : (exec .quiet (.unblock attacker.val)
        (runMoves (next plainOperator upfGuard) starting undisturbed).world).1 with
    | error err =>
        rw [answer] at lifted
        cases lifted
    | ok done =>
        rw [answer] at failed
        exact failed

/-- A `Reconcile` that read the policy before the second mitigation lifts the source
it has just recorded, is refused the status update, and leaves it unblocked. -/
theorem overtaken_drop_is_lifted :
    starting.Fresh ∧
    Removes .quiet (runMoves (next plainOperator upfGuard) starting overtaken) (.source attacker) ∧
    ¬ Quieted plainOperator upfGuard
      (runMoves (next plainOperator upfGuard) starting overtaken).world ∧
    ¬ KeepsClaimed upfGuard (runMoves (next plainOperator upfGuard) starting
      (overtaken ++ List.replicate 3 (.reconcileStep .quiet))) := by
  have comes : LiftsAttacker (runMoves (next plainOperator upfGuard) starting overtaken) :=
    liftsAttacker_of_next (by decide +kernel)
  refine ⟨⟨rfl, rfl, rfl⟩, comes.removes (by decide +kernel) (by decide +kernel), ?_, ?_⟩
  · rintro ⟨current, last, stored, time, elapsed⟩
    have recent : ((runMoves (next plainOperator upfGuard) starting
        overtaken).world.server.persisted
        upfGuard).all (fun current => current.status.lastMitigationTime.all (fun last =>
          decide (¬ plainOperator.reconciler.deEscalationDwell ≤
            (runMoves (next plainOperator upfGuard) starting overtaken).world.clock - last))) =
              true := by decide +kernel
    rw [stored, Option.all_some, time, Option.all_some, decide_eq_true_eq] at recent
    exact recent elapsed
  · intro kept
    have facts : ((runMoves (next plainOperator upfGuard) starting
        (overtaken ++ List.replicate 3 (.reconcileStep .quiet))).reconciling.any (fun run =>
          Reconciling.failed run && run.basis.any (fun ground => !ground.finalizing) &&
          run.kernels.any (fun earlier => decide (earlier.Holds (.source attacker)))) &&
        ((runMoves (next plainOperator upfGuard) starting (overtaken ++
          List.replicate 3 (.reconcileStep .quiet))).world.server.persisted upfGuard).any
            (fun current => decide ("10.0.0.1" ∈ current.status.blockedSourceIPs)) &&
        !decide ((runMoves (next plainOperator upfGuard) starting (overtaken ++
          List.replicate 3 (.reconcileStep .quiet))).world.loader.Holds (.source attacker))) =
            true := by decide +kernel
    simp only [Bool.and_eq_true, Option.any_eq_true, List.any_eq_true, decide_eq_true_eq,
      Bool.not_eq_true', decide_eq_false_iff_not] at facts
    obtain ⟨⟨⟨⟨rest, basis, kernels⟩, flight, ⟨failed, ground, rfl, live⟩, earlier, member, held⟩,
      current, stored, listed⟩, gone⟩ := facts
    obtain ⟨err, ended⟩ := Reconciling.failed_rest failed
    cases ended
    exact gone (kept _ ground kernels flight live current stored _
      (.source "10.0.0.1" attacker listed (by decide +kernel)) ⟨earlier, member, held⟩)

end Interleaving

end Sentinel5G.Controller
