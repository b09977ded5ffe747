import Sentinel5G.Base.Run
import Sentinel5G.Controller.Delivery
import Sentinel5G.Controller.Warrant

/-! The operator on every node of a cluster. The replicas share the API server and
the stream of scores; each has its own policy index, its own kernel, and any number
of calls in flight, of which one at a time is answered. -/

namespace Sentinel5G.System

open Base Api Ebpf Program Controller

structure Shared where
  server : Server
  pods : Std.ExtTreeMap NamespacedName Pod NamespacedName.cmp
  mesh : Mesh.Store
  clock : Time

/-- A replica of the operator, and the enforcement maps of its node. -/
structure Replica where
  index : PolicyIndex
  loader : Loader
  engaged : Bool
  allows : NamespacedName → Bool
  scoring : ScoringPipelineTracker
  /-- What is left of each `handle`, `Reconcile` and `warmIndex` in flight. -/
  calls : List (Action Unit)
  /-- What is left of the pass of the blocklist reconciler, if one is under way. -/
  pass : Option (Action SyncOutcome)
  /-- What the pass before it found unclaimed. -/
  unclaimed : Unclaimed

namespace Replica

def started (loader : Loader) (grace : Duration) : Replica where
  index := .new
  loader := loader
  engaged := false
  allows := fun _ => true
  scoring := ⟨0, 0, grace⟩
  calls := []
  pass := none
  unclaimed := ∅

/-- What a call of the replica acts on. -/
def world (replica : Replica) (shared : Shared) : World where
  server := shared.server
  pods := shared.pods
  index := replica.index
  loader := replica.loader
  mesh := shared.mesh
  clock := shared.clock
  engaged := replica.engaged
  allows := replica.allows
  scoring := replica.scoring

def after (replica : Replica) (world : World) : Replica :=
  { replica with
    index := world.index
    loader := world.loader
    engaged := world.engaged
    allows := world.allows
    scoring := world.scoring }

end Replica

def Shared.after (world : World) : Shared := ⟨world.server, world.pods, world.mesh, world.clock⟩

structure ControlPlane (N : Type) where
  shared : Shared
  replicas : N → Replica
  /-- The scores on the stream, each of which may be delivered any number of times. -/
  scores : List ThreatScoreEvent

namespace ControlPlane

/-- A call is started, or takes its next step, or the surroundings act. -/
inductive Move (N : Type)
  | create (key : NamespacedName) (spec : PolicySpec)
  | editSpec (key : NamespacedName) (spec : PolicySpec)
  | requestDelete (key : NamespacedName)
  | setPods (pods : Std.ExtTreeMap NamespacedName Pod NamespacedName.cmp)
  | setClock (now : Time)
  | setKillSwitch (node : N) (engaged : Bool)
  | setLimiter (node : N) (allows : NamespacedName → Bool)
  | publish (score : ThreatScoreEvent)
  | deliver (node : N) (place : Nat)
  | reconcile (node : N) (request : NamespacedName)
  | warm (node : N)
  | answer (node : N) (place : Nat) (choice : Choice)
  | startPass (node : N)
  | answerPass (node : N) (choice : Choice)
  | restart (node : N) (pinned : Bool)

variable {N : Type} [DecidableEq N]

def change (plane : ControlPlane N) (node : N) (update : Replica → Replica) : ControlPlane N :=
  { plane with replicas := Function.update plane.replicas node (update (plane.replicas node)) }

def launch (plane : ControlPlane N) (node : N) (call : Action Unit) : ControlPlane N :=
  plane.change node (fun replica => { replica with calls := replica.calls ++ [call] })

def commit (plane : ControlPlane N) (node : N) (world : World) (update : Replica → Replica) :
    ControlPlane N :=
  { plane.change node (fun replica => update (replica.after world)) with shared := .after world }

def passed (pass : Action SyncOutcome) (replica : Replica) : Replica :=
  match pass with
  | .done outcome => { replica with pass := none, unclaimed := outcome.unclaimed }
  | rest => { replica with pass := some rest }

def next (operator : Operator) (plane : ControlPlane N) : Move N → ControlPlane N
  | .create key spec =>
      { plane with shared := { plane.shared with server := plane.shared.server.create key spec } }
  | .editSpec key spec =>
      { plane with shared := { plane.shared with server := plane.shared.server.editSpec key spec } }
  | .requestDelete key =>
      { plane with shared := { plane.shared with
        server := plane.shared.server.requestDelete key plane.shared.clock } }
  | .setPods pods => { plane with shared := { plane.shared with pods := pods } }
  | .setClock now => { plane with shared := { plane.shared with clock := now } }
  | .setKillSwitch node engaged =>
      plane.change node (fun replica => { replica with engaged := engaged })
  | .setLimiter node allows => plane.change node (fun replica => { replica with allows := allows })
  | .publish score => { plane with scores := plane.scores ++ [score] }
  | .deliver node place =>
      match plane.scores[place]? with
      | none => plane
      | some score => plane.launch node (operator.watcher.handle score).forget
  | .reconcile node request => plane.launch node (operator.reconciler.reconcile request).forget
  | .warm node => plane.launch node ThreatScoreWatcher.warmIndex.forget
  | .answer node place choice =>
      let replica := plane.replicas node
      let answered := advanceAt exec choice (replica.world plane.shared) place replica.calls
      plane.commit node answered.2 (fun replica => { replica with calls := answered.1 })
  | .startPass node =>
      plane.change node (fun replica =>
        match replica.pass with
        | some _ => replica
        | none => { replica with pass := some (sync replica.unclaimed) })
  | .answerPass node choice =>
      let replica := plane.replicas node
      match replica.pass with
      | none => plane
      | some pass =>
          let answered := pass.advance exec choice (replica.world plane.shared)
          plane.commit node answered.2 (passed answered.1)
  | .restart node pinned =>
      plane.change node (fun replica =>
        .started (if pinned then replica.loader
          else .empty (fun map => (replica.loader.maps map).maxEntries)) replica.scoring.grace)

/-- What a replica holds locally is warranted, and what it is at work on passes on
nothing else. -/
structure Blameless (warranted : Drop → Prop) (replica : Replica) : Prop where
  indexed : ∀ key policy, replica.index.lookup key = some policy →
    ClaimsOnly warranted policy.status
  enforced : ∀ drop, replica.loader.Holds drop → warranted drop
  calls : ∀ call ∈ replica.calls, Scrupulous warranted call
  passes : ∀ pass ∈ replica.pass, Scrupulous warranted pass

/-- So it is in the whole cluster. -/
structure Sound (warranted : Drop → Prop) (plane : ControlPlane N) : Prop where
  versions : ∀ key policy, some policy ∈ plane.shared.server.history key →
    ClaimsOnly warranted policy.status
  replicas : ∀ node, Blameless warranted (plane.replicas node)
  scores : ∀ score ∈ plane.scores, ∀ drop, Accuses score drop → warranted drop

section Users

variable {good : NamespacedName → PolicyStatus → Prop} {world : World} (kept : Kept good world)
  (key : NamespacedName)

include kept

theorem kept_create (spec : PolicySpec) (initial : good key .initial) :
    Kept good { world with server := world.server.create key spec } := by
  rw [Server.create]
  split
  · exact kept.of_server rfl
  · exact kept.store key _ _ initial

theorem kept_editSpec (spec : PolicySpec) :
    Kept good { world with server := world.server.editSpec key spec } := by
  rw [Server.editSpec]
  split
  · exact kept.of_server rfl
  · rename_i current stored
    split
    · exact kept.of_server rfl
    · exact kept.store key _ _ (kept key current (Server.mem_history_of_persisted stored))

theorem kept_requestDelete (now : Time) :
    Kept good { world with server := world.server.requestDelete key now } := by
  rw [Server.requestDelete]
  split
  · exact kept.of_server rfl
  · rename_i current stored
    split
    · exact kept.of_server rfl
    · split
      · exact kept.discard key
      · exact kept.store key _ _ (kept key current (Server.mem_history_of_persisted stored))

end Users

section Step

variable {warranted : Drop → Prop}

theorem Blameless.after {replica : Replica} {world : World}
    (blameless : Blameless warranted replica) (holds : Warranted warranted world) :
    Blameless warranted (replica.after world) :=
  ⟨holds.indexed, holds.enforced, blameless.calls, blameless.passes⟩

theorem passed_blameless {pass : Action SyncOutcome} (scrupulous : Scrupulous warranted pass)
    (replica : Replica) (blameless : Blameless warranted replica) :
    Blameless warranted (passed pass replica) := by
  cases pass with
  | done outcome =>
      exact ⟨blameless.indexed, blameless.enforced, blameless.calls, fun _ none => by cases none⟩
  | ask op rest =>
      refine ⟨blameless.indexed, blameless.enforced, blameless.calls, fun other same => ?_⟩
      cases same
      exact scrupulous

theorem lookup_new (key : NamespacedName) : PolicyIndex.new.lookup key = none := by
  simp [PolicyIndex.new, PolicyIndex.lookup, PolicyIndex.names]

theorem claimsOnly_initial : ClaimsOnly warranted .initial := by
  intro drop claims
  cases claims with
  | source raw address listed parsed => cases listed
  | tunnel entry address teid listed parsed => cases listed

theorem started_blameless {loader : Loader} (grace : Duration)
    (enforced : ∀ drop, loader.Holds drop → warranted drop) :
    Blameless warranted (.started loader grace) where
  indexed key policy found := by
    rw [Replica.started, lookup_new] at found
    cases found
  enforced := enforced
  calls call member := by cases member
  passes pass member := by cases member

variable {plane : ControlPlane N} (sound : Sound warranted plane)

include sound

omit [DecidableEq N] in
theorem Sound.world (node : N) :
    Warranted warranted ((plane.replicas node).world plane.shared) :=
  ⟨sound.versions, (sound.replicas node).indexed, (sound.replicas node).enforced⟩

omit [DecidableEq N] in
theorem Sound.kept : Kept (fun _ => ClaimsOnly warranted)
    { World.initial (fun _ => 0) with server := plane.shared.server } :=
  sound.versions

theorem Sound.change (node : N) {update : Replica → Replica}
    (kept : Blameless warranted (plane.replicas node) →
      Blameless warranted (update (plane.replicas node))) :
    Sound warranted (plane.change node update) := by
  refine ⟨sound.versions, fun other => ?_, sound.scores⟩
  change Blameless warranted (Function.update plane.replicas node _ other)
  by_cases same : other = node
  · subst same
    rw [Function.update_self]
    exact kept (sound.replicas other)
  · rw [Function.update_of_ne same]
    exact sound.replicas other

theorem Sound.launch (node : N) {call : Action Unit} (scrupulous : Scrupulous warranted call) :
    Sound warranted (plane.launch node call) := by
  apply sound.change
  intro blameless
  refine ⟨blameless.indexed, blameless.enforced, fun other member => ?_, blameless.passes⟩
  rcases List.mem_append.mp member with old | new
  · exact blameless.calls other old
  · rwa [List.mem_singleton.mp new]

theorem Sound.commit (node : N) {world : World} {update : Replica → Replica}
    (holds : Warranted warranted world)
    (kept : ∀ replica, Blameless warranted replica → Blameless warranted (update replica)) :
    Sound warranted (plane.commit node world update) := by
  have changed : Sound warranted
      (plane.change node (fun replica => update (replica.after world))) :=
    sound.change node fun blameless => kept _ (blameless.after holds)
  exact ⟨holds.versions, changed.replicas, changed.scores⟩

/-- Every move keeps the cluster sound, as long as every score that is published
accuses only what is warranted. -/
theorem next_sound (operator : Operator) (move : Move N)
    (published : ∀ score, move = .publish score → ∀ drop, Accuses score drop → warranted drop) :
    Sound warranted (plane.next operator move) := by
  cases move with
  | create key spec =>
      exact ⟨kept_create sound.kept key spec claimsOnly_initial, sound.replicas, sound.scores⟩
  | editSpec key spec => exact ⟨kept_editSpec sound.kept key spec, sound.replicas, sound.scores⟩
  | requestDelete key =>
      exact ⟨kept_requestDelete sound.kept key _, sound.replicas, sound.scores⟩
  | setPods pods => exact ⟨sound.versions, sound.replicas, sound.scores⟩
  | setClock now => exact ⟨sound.versions, sound.replicas, sound.scores⟩
  | setKillSwitch node engaged =>
      rw [next]
      exact sound.change node fun blameless =>
        ⟨blameless.indexed, blameless.enforced, blameless.calls, blameless.passes⟩
  | setLimiter node allows =>
      rw [next]
      exact sound.change node fun blameless =>
        ⟨blameless.indexed, blameless.enforced, blameless.calls, blameless.passes⟩
  | publish score =>
      refine ⟨sound.versions, sound.replicas, fun other member => ?_⟩
      rcases List.mem_append.mp member with old | new
      · exact sound.scores other old
      · rw [List.mem_singleton.mp new]
        exact published score rfl
  | deliver node place =>
      rw [next]
      split
      · exact sound
      · rename_i score found
        have accused := sound.scores score (List.mem_of_getElem? found)
        exact sound.launch node (handle_scrupulous operator.watcher accused).forget
  | reconcile node request =>
      exact sound.launch node (reconcile_scrupulous operator.reconciler request).forget
  | warm node => exact sound.launch node warmIndex_scrupulous.forget
  | answer node place choice =>
      have blameless := sound.replicas node
      obtain ⟨calls, holds⟩ := advanceAt_vouches exec_warranted blameless.calls choice place
        (sound.world node)
      rw [next]
      exact sound.commit node holds fun replica kept =>
        ⟨kept.indexed, kept.enforced, calls, kept.passes⟩
  | startPass node =>
      rw [next]
      apply sound.change
      intro blameless
      split
      · exact blameless
      · refine ⟨blameless.indexed, blameless.enforced, blameless.calls, fun pass same => ?_⟩
        cases same
        exact sync_scrupulous _
  | answerPass node choice =>
      rw [next]
      dsimp only
      split
      · exact sound
      · rename_i pass under
        obtain ⟨rest, holds⟩ := ((sound.replicas node).passes pass under).advance exec_warranted
          choice (sound.world node)
        exact sound.commit node holds (passed_blameless rest)
  | restart node pinned =>
      rw [next]
      apply sound.change
      intro blameless
      apply started_blameless
      intro drop held
      cases pinned with
      | true => exact blameless.enforced drop held
      | false => exact absurd held Std.ExtTreeMap.not_mem_empty

end Step

/-- A cluster with nothing under way, in which the versions of the policies claim
and the kernels enforce only what is among `standing`. -/
structure AtRest (standing : Drop → Prop) (plane : ControlPlane N) : Prop where
  versions : ∀ key policy, some policy ∈ plane.shared.server.history key →
    ClaimsOnly standing policy.status
  enforced : ∀ node drop, (plane.replicas node).loader.Holds drop → standing drop
  started : ∀ node, ∃ loader grace, plane.replicas node = .started loader grace
  scores : plane.scores = []

omit [DecidableEq N] in
theorem AtRest.sound {standing warranted : Drop → Prop} {plane : ControlPlane N}
    (rest : AtRest standing plane) (wider : ∀ drop, standing drop → warranted drop) :
    Sound warranted plane where
  versions key policy member drop claims := wider drop (rest.versions key policy member drop claims)
  replicas node := by
    have enforced := rest.enforced node
    obtain ⟨loader, grace, fresh⟩ := rest.started node
    rw [fresh] at enforced ⊢
    exact started_blameless grace fun drop held => wider drop (enforced drop held)
  scores score member := by
    rw [rest.scores] at member
    cases member

theorem run_sound {warranted : Drop → Prop} (operator : Operator) {plane : ControlPlane N}
    (sound : Sound warranted plane) (moves : List (Move N))
    (published : ∀ score, .publish score ∈ moves → ∀ drop, Accuses score drop → warranted drop) :
    Sound warranted (runMoves (next operator) plane moves) := by
  induction moves generalizing plane with
  | nil => exact sound
  | cons move rest ih =>
      refine ih (next_sound sound operator move fun score same => ?_) fun score member =>
        published score (List.mem_cons_of_mem _ member)
      exact published score (same ▸ List.mem_cons_self)

/-- The drop was standing at the start, or some score that was published accuses it. -/
def Traced (standing : Drop → Prop) (moves : List (Move N)) (drop : Drop) : Prop :=
  standing drop ∨ ∃ score, .publish score ∈ moves ∧ Accuses score drop

/-- However the calls of all replicas are interleaved, fail and are repeated, and
whatever the users do: what any kernel of the cluster drops, and what any version of
any policy claims, traces to a score. -/
theorem every_drop_is_traced (operator : Operator) {standing : Drop → Prop}
    {start : ControlPlane N} (rest : AtRest standing start) (moves : List (Move N)) :
    (∀ node drop, ((runMoves (next operator) start moves).replicas node).loader.Holds drop →
      Traced standing moves drop) ∧
    ∀ key policy drop,
      some policy ∈ (runMoves (next operator) start moves).shared.server.history key →
      Claims policy.status drop → Traced standing moves drop := by
  have sound : Sound (Traced standing moves) (runMoves (next operator) start moves) :=
    run_sound operator (rest.sound fun _ => .inl) moves fun score member drop accuses =>
      .inr ⟨score, member, accuses⟩
  exact ⟨fun node => (sound.replicas node).enforced, fun key policy drop member =>
    sound.versions key policy member drop⟩

def twoNodes : ControlPlane Bool where
  shared := ⟨.empty, (∅ : Std.ExtTreeMap NamespacedName Pod NamespacedName.cmp).insert upfPod.key
    upfPod, .empty, 0⟩
  replicas := fun _ => .started (.empty fun _ => 16) 0
  scores := []

def mitigatedByOne : List (Move Bool) :=
  [.create upfGuard upfGuardSpec, .reconcile true upfGuard] ++
    List.replicate 8 (.answer true 0 .quiet) ++
    [.publish (tunnelScore "10.0.0.1" 1), .deliver true 0] ++
    List.replicate 12 (.answer true 1 .quiet) ++
    .startPass false :: List.replicate 6 (.answerPass false .quiet)

theorem every_drop_is_traced_on_both_nodes :
    (∀ node, ((runMoves (next plainOperator) twoNodes mitigatedByOne).replicas node).loader.Holds
        (.tunnel attacker 7)) ∧ Traced (fun _ => False) mitigatedByOne (.tunnel attacker 7) := by
  have held : ∀ node, ((runMoves (next plainOperator) twoNodes mitigatedByOne).replicas
      node).loader.Holds (.tunnel attacker 7) := by decide +kernel
  have rest : AtRest (fun _ => False) twoNodes := by
    refine ⟨fun key policy member => ?_, fun node drop => ?_, fun node => ⟨_, _, rfl⟩, rfl⟩
    · cases member
    · exact Std.ExtTreeMap.not_mem_empty
  exact ⟨held, (every_drop_is_traced plainOperator rest mitigatedByOne).1 false _ (held false)⟩

end ControlPlane

end Sentinel5G.System
