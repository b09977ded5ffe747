import Sentinel5G.Controller.Redelivery

namespace Sentinel5G.Controller

open Base Api Ebpf Program

def Op.external : Op → Bool
  | .block _ => true
  | .blockTunnel _ _ => true
  | .listPods _ _ => true
  | .meshGet _ => true
  | .meshCreate _ => true
  | .meshUpdate _ => true
  | .meshDelete _ => true
  | .meshList _ _ _ _ => true
  | _ => false

/-- The kernel and the mesh answer their `n`th call by the `n`th choice of a
pattern, whatever is asked of others in between; nothing else fails. -/
def patterned (_ : Unit) (op : Op) (state : World × (Nat → Choice)) :
    op.Answer × World × (Nat → Choice) :=
  if op.external then
    ((exec (state.2 0) op state.1).1, (exec (state.2 0) op state.1).2, fun n => state.2 (n + 1))
  else ((exec .quiet op state.1).1, (exec .quiet op state.1).2, state.2)

/-- The kernel, the mesh, the Pods and the clock of one world with the API server,
the index and the limiter of another. -/
def World.graft (world other : World) : World :=
  { world with
    server := other.server
    index := other.index
    allows := other.allows
    scoring := other.scoring }

section Graft

variable (choice : Choice) (world other : World)

theorem syscall_graft (result : Except Err Loader) :
    choice.syscall (world.graft other) result =
      ((choice.syscall world result).1, (choice.syscall world result).2.graft other) := by
  rw [Choice.syscall, Choice.syscall]
  split
  · rfl
  · rfl

theorem write_graft {α : Type} (result : Except Err α) (mesh : Mesh.Store) :
    choice.write (world.graft other) (result, { world.graft other with mesh := mesh }) =
      ((choice.write world (result, { world with mesh := mesh })).1,
        (choice.write world (result, { world with mesh := mesh })).2.graft other) := by
  rw [Choice.write, Choice.write]
  split
  · rfl
  · rfl
  · rfl

theorem exec_graft {op : Op} (external : op.external = true) :
    exec choice op (world.graft other) =
      ((exec choice op world).1, (exec choice op world).2.graft other) := by
  cases op with
  | block ip => exact syscall_graft choice world other _
  | blockTunnel ip teid => exact syscall_graft choice world other _
  | meshCreate object => exact write_graft choice world other _ _
  | meshUpdate object => exact write_graft choice world other _ _
  | meshDelete key => exact write_graft choice world other _ _
  | listPods ns selector => rfl
  | meshGet key => rfl
  | meshList kind ns labelKey labelValue => rfl
  | _ => cases external

theorem run_graft {α : Type} {program : Action α}
    (asks : program.AsksOnly (fun op => op.external = true)) (script : Nat → Unit)
    (pattern : Nat → Choice) :
    program.run patterned script (world.graft other, pattern) =
      ((program.run patterned script (world, pattern)).1,
        (program.run patterned script (world, pattern)).2.1.graft other,
        (program.run patterned script (world, pattern)).2.2) := by
  induction program generalizing world script pattern with
  | done value => rfl
  | ask op next ih =>
      have step : patterned (script 0) op (world.graft other, pattern) =
          ((exec (pattern 0) op world).1, (exec (pattern 0) op world).2.graft other,
            fun n => pattern (n + 1)) := by
        rw [patterned, if_pos asks.1, exec_graft _ _ _ asks.1]
      have plain : patterned (script 0) op (world, pattern) =
          ((exec (pattern 0) op world).1, (exec (pattern 0) op world).2,
            fun n => pattern (n + 1)) := by
        rw [patterned, if_pos asks.1]
      rw [Program.run, Program.run, step, plain]
      exact ih _ _ (asks.2 _) _ _

end Graft

theorem executes_external {wanted : Intent} {event : ThreatScoreEvent} (op : Op)
    (executes : ThreatScoreWatcher.Executes wanted event op) : op.external = true := by
  cases op <;> first | rfl | exact executes.elim

theorem writeStatus_patterned (watcher : ThreatScoreWatcher) (event : ThreatScoreEvent)
    {policy : TelecomSecurityPolicy} {world : World} (synced : Synced policy.key policy world)
    (pattern : Nat → Choice) :
    (writeStatus policy (watcher.scored policy event world)).Ends patterned (fun _ _ => True)
      (fun outcome final => outcome = .ok () ∧ final.2 = pattern ∧
        final.1 = world.graft final.1 ∧ ∃ copy, Synced policy.key copy final.1 ∧
          gist copy = gist (watcher.scored policy event world)) (world, pattern) := by
  have written : (updateStatus (watcher.scored policy event world)).Ends patterned
      (fun _ _ => True) (fun outcome final => outcome = .ok () ∧ final.2 = pattern ∧
        final.1 = world.graft final.1 ∧ ∃ copy, Synced policy.key copy final.1 ∧
          gist copy = gist (watcher.scored policy event world)) (world, pattern) := by
    intro _ _
    rcases exec_updateStatus_synced (watcher.scoredStatus policy event world.engaged world.clock)
      synced.stored (fun _ : String => Fault.noConfusion : ∀ text, Choice.quiet.fault ≠ .lost text)
      with ⟨faulty, -⟩ | ⟨updated, server, accepted, stored, same⟩
    · exact absurd rfl faulty
    · have step : patterned () (.updateStatus (watcher.scored policy event world))
          (world, pattern) = (.ok updated, { world with server := server }, pattern) := by
        change ((exec .quiet (.updateStatus (watcher.scored policy event world)) world).1,
          (exec .quiet (.updateStatus (watcher.scored policy event world)) world).2, pattern) = _
        rw [ThreatScoreWatcher.scored, accepted]
      rw [step]
      intro _ _
      have named : updated.key = policy.key := Server.persisted_key stored
      refine ⟨rfl, rfl, rfl, updated, ⟨?_, stored⟩, same⟩
      rw [← named]
      exact PolicyIndex.lookup_put_self _ _
  refine ends_writeStatus (fun _ => written) (fun _ _ _ _ => written)
    (fun unchanged _ _ _ => ⟨rfl, rfl, rfl, policy, synced, ?_⟩)
  exact (watcher.gist_of_unchanged policy event unchanged).symm

/-- A score with what happens around it: the time since the one before, the kill
switch, what the limiter answers, and how the kernel and the mesh answer. -/
structure IncomingScore where
  event : ThreatScoreEvent
  elapsed : Nat
  engaged : Bool
  allows : NamespacedName → Bool
  pattern : Nat → Choice

def IncomingScore.around (score : IncomingScore) (limited : Bool) (world : World) : World :=
  { world with
    clock := world.clock + score.elapsed
    engaged := score.engaged
    allows := if limited then score.allows else fun _ => true }

def ThreatScoreWatcher.react (watcher : ThreatScoreWatcher) (limited : Bool)
    (key : NamespacedName) (world : World) (score : IncomingScore) : World :=
  match (score.around limited world).index.lookup key with
  | none => score.around limited world
  | some policy =>
      ((watcher.applyPolicy policy score.event).run patterned (fun _ => ())
        (score.around limited world, score.pattern)).2.1

structure Alike (key : NamespacedName) (limited unlimited : World) : Prop where
  beyond : unlimited = limited.graft unlimited
  policies : ∃ first second, Synced key first limited ∧ Synced key second unlimited ∧
    gist first = gist second

theorem afterWrite_congr {first second : TelecomSecurityPolicy} (spec : first.spec = second.spec)
    (key : first.key = second.key) (watcher : ThreatScoreWatcher) (event : ThreatScoreEvent)
    (engaged : Bool) (outcome : Except Err Unit) :
    watcher.afterWrite first event engaged outcome =
      watcher.afterWrite second event engaged outcome := by
  cases outcome with
  | error err => rfl
  | ok done =>
      simp only [ThreatScoreWatcher.afterWrite, armed_congr spec, intent_congr spec,
        execute_congr key]

theorem applyPolicy_patterned (watcher : ThreatScoreWatcher) (event : ThreatScoreEvent)
    {policy : TelecomSecurityPolicy} {world : World} (synced : Synced policy.key policy world)
    (pattern : Nat → Choice) :
    ∃ copy later, Synced policy.key copy later ∧
      gist copy = gist (watcher.scored policy event world) ∧
      ((watcher.applyPolicy policy event).run patterned (fun _ => ()) (world, pattern)).2.1 =
        ((watcher.afterWrite policy event world.engaged (.ok ())).run patterned (fun _ => ())
          (world, pattern)).2.1.graft later := by
  have written := (writeStatus_patterned watcher event synced pattern).run
    (permits_of_forall _ _ (fun _ _ => trivial) : Permits patterned (fun _ _ => True)
      (fun _ => ()) _ (world, pattern))
  obtain ⟨asked, reads⟩ := Reads.run (watcher.applyPolicy_reads_by policy event world
    (fun _ => rfl) (fun _ => rfl) : Reads patterned (world, pattern) _ _) (fun _ => ())
  obtain ⟨success, same, beyond, copy, current, decided⟩ := written
  refine ⟨copy, _, current, decided, ?_⟩
  rw [reads, ThreatScoreWatcher.staged, run_bind, success]
  generalize ((writeStatus policy (watcher.scored policy event world)).run patterned (fun _ => ())
    (world, pattern)).2 = final at same beyond ⊢
  obtain ⟨later, rest⟩ := final
  dsimp only at same beyond ⊢
  subst same
  rw [beyond, run_graft _ _ ((watcher.afterWrite_asks policy event world.engaged (.ok ())).mono
    executes_external)]
  rfl

namespace Alike

variable {watcher : ThreatScoreWatcher} {key : NamespacedName} {limited unlimited : World}

theorem refl {policy : TelecomSecurityPolicy} {world : World} (synced : Synced key policy world) :
    Alike key world world :=
  ⟨rfl, policy, policy, synced, synced, rfl⟩

theorem around (alike : Alike key limited unlimited) (score : IncomingScore) :
    Alike key (score.around true limited) (score.around false unlimited) := by
  obtain ⟨beyond, first, second, syncedFirst, syncedSecond, same⟩ := alike
  refine ⟨?_, first, second, ⟨syncedFirst.indexed, syncedFirst.stored⟩,
    ⟨syncedSecond.indexed, syncedSecond.stored⟩, same⟩
  have clock : unlimited.clock = limited.clock := (congrArg World.clock beyond :)
  rw [IncomingScore.around, IncomingScore.around, clock]
  exact congrArg (fun world : World => { world with
    clock := limited.clock + score.elapsed
    engaged := score.engaged
    allows := fun _ => true }) beyond

theorem apply (alike : Alike key limited unlimited) {first second : TelecomSecurityPolicy}
    (indexedFirst : limited.index.lookup key = some first)
    (indexedSecond : unlimited.index.lookup key = some second) (event : ThreatScoreEvent)
    (pattern : Nat → Choice) :
    Alike key
      ((watcher.applyPolicy first event).run patterned (fun _ => ()) (limited, pattern)).2.1
      ((watcher.applyPolicy second event).run patterned
        (fun _ => ()) (unlimited, pattern)).2.1 := by
  obtain ⟨beyond, left, right, syncedLeft, syncedRight, same⟩ := alike
  cases indexedFirst.symm.trans syncedLeft.indexed
  cases indexedSecond.symm.trans syncedRight.indexed
  have keyFirst : first.key = key := PolicyIndex.lookup_key indexedFirst
  have keySecond : second.key = key := PolicyIndex.lookup_key indexedSecond
  have spec : second.spec = first.spec := congrArg (·.spec) same.symm
  have engaged : unlimited.engaged = limited.engaged := (congrArg World.engaged beyond :)
  obtain ⟨copy, later, synced, decided, ended⟩ :=
    applyPolicy_patterned watcher event (keyFirst ▸ syncedLeft) pattern
  obtain ⟨other, after, alsoSynced, alsoDecided, alsoEnded⟩ :=
    applyPolicy_patterned watcher event (keySecond ▸ syncedRight) pattern
  have actions := watcher.afterWrite_asks first event limited.engaged (.ok ())
  have unlimitedRun := run_graft limited unlimited (actions.mono executes_external) (fun _ => ())
    pattern
  rw [← beyond] at unlimitedRun
  rw [engaged, afterWrite_congr spec (keySecond.trans keyFirst.symm), unlimitedRun] at alsoEnded
  rw [ended, alsoEnded]
  refine ⟨rfl, copy, other, ?_, ?_, ?_⟩
  · exact keyFirst ▸ ⟨synced.indexed, synced.stored⟩
  · exact keySecond ▸ ⟨alsoSynced.indexed, alsoSynced.stored⟩
  · exact decided.trans ((watcher.gist_scored event same engaged).trans alsoDecided.symm)

theorem react (alike : Alike key limited unlimited) (score : IncomingScore) :
    Alike key (watcher.react true key limited score) (watcher.react false key unlimited score) := by
  have around := alike.around score
  obtain ⟨first, second, syncedFirst, syncedSecond, -⟩ := around.policies
  simp only [ThreatScoreWatcher.react, syncedFirst.indexed, syncedSecond.indexed]
  exact around.apply syncedFirst.indexed syncedSecond.indexed score.event score.pattern

theorem run (alike : Alike key limited unlimited) (scores : List IncomingScore) :
    Alike key (runMoves (watcher.react true key) limited scores)
      (runMoves (watcher.react false key) unlimited scores) := by
  induction scores generalizing limited unlimited with
  | nil => exact alike
  | cons score rest ih => exact ih (alike.react score)

end Alike

/-- The limiter is transparent to decisions: after every score the stored policy is,
but for its version, its observed score and the time of its last mitigation, the
one of the run without a limiter, and the kernel and the mesh are the same. -/
theorem limiter_transparent (watcher : ThreatScoreWatcher) (policy : TelecomSecurityPolicy)
    (start : World) (synced : Synced policy.key policy start) (scores : List IncomingScore) :
    ∃ limited unlimited,
      (runMoves (watcher.react true policy.key) start scores).server.persisted policy.key =
        some limited ∧
      (runMoves (watcher.react false policy.key) start scores).server.persisted policy.key =
        some unlimited ∧
      gist limited = gist unlimited ∧
      (limited.status.phase, limited.status.blockedSourceIPs, limited.status.blockedTunnels) =
        (unlimited.status.phase, unlimited.status.blockedSourceIPs,
          unlimited.status.blockedTunnels) ∧
      (runMoves (watcher.react true policy.key) start scores).loader =
        (runMoves (watcher.react false policy.key) start scores).loader ∧
      (runMoves (watcher.react true policy.key) start scores).mesh =
        (runMoves (watcher.react false policy.key) start scores).mesh := by
  have started : Alike policy.key start start := .refl synced
  obtain ⟨beyond, limited, unlimited, syncedFirst, syncedSecond, same⟩ :=
    (started.run scores : Alike policy.key (runMoves (watcher.react true policy.key) start scores)
      _)
  refine ⟨limited, unlimited, syncedFirst.stored, syncedSecond.stored, same, ?_, ?_, ?_⟩
  · have listed := congrArg (fun policy : TelecomSecurityPolicy => (policy.status.phase,
      policy.status.blockedSourceIPs, policy.status.blockedTunnels)) same
    exact listed
  · exact (congrArg World.loader beyond).symm
  · exact (congrArg World.mesh beyond).symm

def stormyScores : List IncomingScore :=
  [⟨tunnelScore "10.0.0.1" 1, 0, false, fun _ => false, refusedAt 1⟩,
    ⟨tunnelScore "10.0.0.1" 1, 7, false, fun _ => false, quietly⟩,
    ⟨tunnelScore "10.0.0.1" 1, 7, true, fun _ => false, quietly⟩]

theorem limiter_transparent_storm :
    ∃ policy, Synced policy.key policy reconciled ∧ ∃ limited unlimited,
      (runMoves (plainOperator.watcher.react true policy.key) reconciled
        stormyScores).server.persisted policy.key = some limited ∧
      (runMoves (plainOperator.watcher.react false policy.key) reconciled
        stormyScores).server.persisted policy.key = some unlimited ∧
      limited.status.phase = unlimited.status.phase ∧
      limited.status.blockedTunnels = unlimited.status.blockedTunnels ∧
      limited.status.blockedTunnels = ["10.0.0.1/0x7"] := by
  obtain ⟨policy, named, synced⟩ := reconciled_synced
  rw [← named] at synced
  obtain ⟨limited, unlimited, first, second, -, same, -⟩ :=
    limiter_transparent plainOperator.watcher policy reconciled synced stormyScores
  have listed : ((runMoves (plainOperator.watcher.react true upfGuard) reconciled
      stormyScores).server.persisted upfGuard).all (fun policy =>
        decide (policy.status.blockedTunnels = ["10.0.0.1/0x7"])) = true := by decide +kernel
  rw [← named, first, Option.all_some] at listed
  simp only [Prod.mk.injEq] at same
  exact ⟨policy, synced, limited, unlimited, first, second, same.1, same.2.2,
    of_decide_eq_true listed⟩

end Sentinel5G.Controller
