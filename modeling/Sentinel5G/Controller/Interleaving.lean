import Sentinel5G.Controller.Grounds

/-! The watcher and the reconciler at work on one policy at the same time, one call
at a time, while its users edit and delete it. -/

namespace Sentinel5G.Controller

open Base Api Ebpf Program

structure Scoring where
  policy : TelecomSecurityPolicy
  event : ThreatScoreEvent
  rest : Action (Except Err Unit)
  /-- Its status write has been accepted, or withheld. -/
  settled : Bool

structure Reconciling where
  rest : Action (Except Err Result)
  basis : Option Basis
  /-- The kernel at every moment since it began. -/
  kernels : List Loader

structure Interleaving where
  world : World
  scoring : Option Scoring
  reconciling : Option Reconciling

def settles : (op : Op) → op.Answer → Bool
  | .updateStatus _, .ok _ => true
  | .allow _, allowed => !allowed
  | _, _ => false

namespace Interleaving

inductive Move
  /-- The watcher takes the policy from the index. -/
  | score (event : ThreatScoreEvent)
  | scoreStep (choice : Choice)
  | scoreEnd
  | reconcile
  | reconcileStep (choice : Choice)
  | reconcileEnd
  | create (spec : PolicySpec)
  | editSpec (spec : PolicySpec)
  | requestDelete
  | setKillSwitch (engaged : Bool)
  | setLimiter (allows : NamespacedName → Bool)
  | advance (elapsed : Nat)

def record (world : World) (scoring : Option Scoring) (reconciling : Option Reconciling) :
    Interleaving where
  world := world
  scoring := scoring
  reconciling := reconciling.map (fun run => { run with kernels := world.loader :: run.kernels })

def next (operator : Operator) (key : NamespacedName) (state : Interleaving) : Move → Interleaving
  | .score event =>
      match state.scoring, state.world.index.lookup key with
      | none, some policy =>
          { state with
            scoring := some ⟨policy, event, operator.watcher.applyPolicy policy event, false⟩ }
      | _, _ => state
  | .scoreStep choice =>
      match state.scoring with
      | some ⟨policy, event, .ask op rest, settled⟩ =>
          let reply := exec choice op state.world
          record reply.2 (some ⟨policy, event, rest reply.1, settled || settles op reply.1⟩)
            state.reconciling
      | _ => state
  | .scoreEnd =>
      match state.scoring with
      | some ⟨_, _, .done _, _⟩ => { state with scoring := none }
      | _ => state
  | .reconcile =>
      match state.reconciling with
      | none =>
          { state with
            reconciling := some ⟨operator.reconciler.reconcile key, none, [state.world.loader]⟩ }
      | some _ => state
  | .reconcileStep choice =>
      match state.reconciling with
      | some ⟨.ask op rest, basis, kernels⟩ =>
          let reply := track choice op (state.world, basis)
          record reply.2.1 state.scoring (some ⟨rest reply.1, reply.2.2, kernels⟩)
      | _ => state
  | .reconcileEnd =>
      match state.reconciling with
      | some ⟨.done _, _, _⟩ => { state with reconciling := none }
      | _ => state
  | .create spec =>
      { state with world := { state.world with server := state.world.server.create key spec } }
  | .editSpec spec =>
      { state with world := { state.world with server := state.world.server.editSpec key spec } }
  | .requestDelete =>
      { state with world := { state.world with
        server := state.world.server.requestDelete key state.world.clock } }
  | .setKillSwitch engaged => { state with world := { state.world with engaged := engaged } }
  | .setLimiter allows => { state with world := { state.world with allows := allows } }
  | .advance elapsed =>
      { state with world := { state.world with clock := state.world.clock + elapsed } }

def Fresh (state : Interleaving) : Prop :=
  state.scoring = none ∧ state.reconciling = none ∧ state.world.index = .new

/-- What an act of the users or the surroundings leaves alone. An object that
finalizers hold stays, with its status. -/
structure Acts (key : NamespacedName) (before after : World) : Prop where
  evolves : Evolves before after
  loader : after.loader = before.loader
  index : after.index = before.index
  stays : ∀ current, before.server.persisted key = some current → current.finalizers ≠ [] →
    ∃ kept, after.server.persisted key = some kept ∧ kept.status = current.status ∧
      kept.finalizers = current.finalizers

inductive Step (operator : Operator) (key : NamespacedName) (state : Interleaving) :
    Move → Interleaving → Prop
  | idle (move : Move) : Step operator key state move state
  | take (policy : TelecomSecurityPolicy) (event : ThreatScoreEvent) (free : state.scoring = none)
      (indexed : state.world.index.lookup key = some policy) :
      Step operator key state (.score event) { state with
        scoring := some ⟨policy, event, operator.watcher.applyPolicy policy event, false⟩ }
  | scored (policy : TelecomSecurityPolicy) (event : ThreatScoreEvent) (op : Op)
      (rest : op.Answer → Action (Except Err Unit)) (settled : Bool) (choice : Choice)
      (flight : state.scoring = some ⟨policy, event, .ask op rest, settled⟩) :
      Step operator key state (.scoreStep choice) (record (exec choice op state.world).2
        (some ⟨policy, event, rest (exec choice op state.world).1,
          settled || settles op (exec choice op state.world).1⟩) state.reconciling)
  | leave (move : Move) : Step operator key state move { state with scoring := none }
  | begin (free : state.reconciling = none) :
      Step operator key state .reconcile { state with
        reconciling := some ⟨operator.reconciler.reconcile key, none, [state.world.loader]⟩ }
  | reconciled (op : Op) (rest : op.Answer → Action (Except Err Result)) (basis : Option Basis)
      (kernels : List Loader) (choice : Choice)
      (flight : state.reconciling = some ⟨.ask op rest, basis, kernels⟩) :
      Step operator key state (.reconcileStep choice) (record (exec choice op state.world).2
        state.scoring (some ⟨rest (exec choice op state.world).1,
          Basis.observe op (exec choice op state.world).1 basis, kernels⟩))
  | finish (move : Move) : Step operator key state move { state with reconciling := none }
  | act (move : Move) (world : World) (acts : Acts key state.world world) :
      Step operator key state move { state with world := world }

section Acts

variable (world : World) (key : NamespacedName)

theorem acts_create (spec : PolicySpec) :
    Acts key world { world with server := world.server.create key spec } := by
  refine ⟨evolves_create world key spec, rfl, rfl, fun current stored _ => ?_⟩
  refine ⟨current, ?_, rfl, rfl⟩
  dsimp only [Server.create]
  rw [stored]
  exact stored

theorem acts_editSpec (spec : PolicySpec) :
    Acts key world { world with server := world.server.editSpec key spec } := by
  refine ⟨evolves_editSpec world key spec, rfl, rfl, fun current stored _ => ?_⟩
  dsimp only [Server.editSpec]
  split
  · rename_i missing
    cases missing.symm.trans stored
  · rename_i found same
    cases same.symm.trans stored
    split
    · exact ⟨current, stored, rfl, rfl⟩
    · exact ⟨_, Server.persisted_record_self _ _, rfl, rfl⟩

theorem acts_requestDelete :
    Acts key world { world with server := world.server.requestDelete key world.clock } := by
  refine ⟨evolves_requestDelete world key, rfl, rfl, fun current stored held => ?_⟩
  dsimp only [Server.requestDelete]
  rw [stored]
  dsimp only
  split
  · exact ⟨current, stored, rfl, rfl⟩
  · exact ⟨_, Server.persisted_record_self _ _, rfl, rfl⟩

theorem acts_of_server {after : World} (server : after.server = world.server)
    (clock : world.clock ≤ after.clock) (loader : after.loader = world.loader)
    (index : after.index = world.index) : Acts key world after := by
  refine ⟨.of_server server clock, loader, index, fun current stored _ => ⟨current, ?_, rfl, rfl⟩⟩
  rw [server]
  exact stored

end Acts

theorem next_step (operator : Operator) (key : NamespacedName) (state : Interleaving)
    (move : Move) : Step operator key state move (state.next operator key move) := by
  cases move with
  | score event =>
      rw [next]
      split
      · rename_i policy free indexed
        exact .take policy event free indexed
      · exact .idle _
  | scoreStep choice =>
      rw [next]
      split
      · rename_i policy event op rest settled flight
        exact .scored policy event op rest settled choice flight
      · exact .idle _
  | scoreEnd =>
      rw [next]
      split
      · exact .leave _
      · exact .idle _
  | reconcile =>
      rw [next]
      split
      · rename_i free
        exact .begin free
      · exact .idle _
  | reconcileStep choice =>
      rw [next]
      split
      · rename_i op rest basis kernels flight
        exact .reconciled op rest basis kernels choice flight
      · exact .idle _
  | reconcileEnd =>
      rw [next]
      split
      · exact .finish _
      · exact .idle _
  | create spec => exact .act _ _ (acts_create _ key spec)
  | editSpec spec => exact .act _ _ (acts_editSpec _ key spec)
  | requestDelete => exact .act _ _ (acts_requestDelete _ key)
  | setKillSwitch engaged => exact .act _ _ (acts_of_server _ key rfl le_rfl rfl rfl)
  | setLimiter allows => exact .act _ _ (acts_of_server _ key rfl le_rfl rfl rfl)
  | advance elapsed =>
      exact .act _ _
        (acts_of_server _ key rfl (le_add_of_nonneg_right (Int.natCast_nonneg _)) rfl rfl)

variable {operator : Operator} {key : NamespacedName} {state after : Interleaving} {move : Move}

theorem Step.evolves (step : Step operator key state move after) :
    Evolves state.world after.world := by
  cases step with
  | scored policy event op rest settled choice flight => exact exec_evolves choice op state.world
  | reconciled op rest basis kernels choice flight => exact exec_evolves choice op state.world
  | act move world acts => exact acts.evolves
  | _ => exact .refl _

/-- The rest of the `Reconcile` in flight is grounded, whatever the others do. -/
def Founded (operator : Operator) (state : Interleaving) : Prop :=
  ∀ run, state.reconciling = some run →
    run.rest.Endures track Elsewhere (Grounded operator.reconciler) (fun _ _ => True)
      (state.world, run.basis)

theorem Founded.step (founded : Founded operator state)
    (step : Step operator key state move after) :
    Founded operator after := by
  have evolves := step.evolves
  intro run flying
  cases step with
  | idle move => exact founded run flying
  | take policy event free indexed => exact founded run flying
  | scored policy event op rest settled choice flight =>
      obtain ⟨before, flown, rfl⟩ := Option.map_eq_some_iff.mp flying
      exact (founded before flown).later elsewhere_trans ⟨evolves, rfl⟩
  | leave move => exact founded run flying
  | begin free =>
      cases flying
      exact reconcile_endures operator.reconciler key state.world
  | reconciled op rest basis kernels choice flight =>
      cases flying
      exact ((founded _ flight) _ (elsewhere_refl _)).2 choice
  | finish move => cases flying
  | act move world acts => exact (founded run flying).later elsewhere_trans ⟨evolves, rfl⟩

/-- The next call of the `Reconcile` in flight is grounded. -/
theorem Founded.ready (founded : Founded operator state) {op : Op}
    {rest : op.Answer → Action (Except Err Result)} {basis : Option Basis} {kernels : List Loader}
    (flight : state.reconciling = some ⟨.ask op rest, basis, kernels⟩) :
    Grounded operator.reconciler op (state.world, basis) :=
  ((founded _ flight) _ (elsewhere_refl _)).1

end Interleaving

end Sentinel5G.Controller
