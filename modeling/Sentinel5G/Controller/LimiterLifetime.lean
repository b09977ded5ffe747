import Sentinel5G.Base.Trace
import Sentinel5G.Controller.Lifecycle
import Sentinel5G.Controller.ReactorLimiter

namespace Sentinel5G.Controller

open Base Api Program

structure Churn where
  world : World
  limiter : Option ReactorLimiter
  scoring : NamespacedName → Option (Action (Except Err Unit))
  reconciling : NamespacedName → Option (Action (Except Err Result))

namespace Churn

inductive Move
  /-- The watcher takes the policy from the index. -/
  | score (key : NamespacedName) (event : ThreatScoreEvent)
  | scoreStep (key : NamespacedName) (choice : Choice)
  | scoreEnd (key : NamespacedName)
  | reconcile (key : NamespacedName)
  | reconcileStep (key : NamespacedName) (choice : Choice)
  | reconcileEnd (key : NamespacedName)
  | create (key : NamespacedName) (spec : PolicySpec)
  | editSpec (key : NamespacedName) (spec : PolicySpec)
  | requestDelete (key : NamespacedName)
  | setKillSwitch (engaged : Bool)
  | advance (elapsed : Nat)

def withWorld (state : Churn) (world : World) : Churn := { state with world := world }

def next (operator : Operator) (state : Churn) : Move → Churn
  | .score key event =>
      match state.scoring key, state.world.index.lookup key with
      | none, some policy =>
          { state with
            scoring := Function.update state.scoring key
              (some (operator.watcher.applyPolicy policy event)) }
      | _, _ => state
  | .scoreStep key choice =>
      match state.scoring key with
      | some (.ask op rest) =>
          let reply := limited choice.fault choice op (state.world, state.limiter)
          { state with
            world := reply.2.1
            limiter := reply.2.2
            scoring := Function.update state.scoring key (some (rest reply.1)) }
      | _ => state
  | .scoreEnd key =>
      match state.scoring key with
      | some (.done _) => { state with scoring := Function.update state.scoring key none }
      | _ => state
  | .reconcile key =>
      match state.reconciling key with
      | none =>
          { state with
            reconciling := Function.update state.reconciling key
              (some (operator.reconciler.reconcile key)) }
      | some _ => state
  | .reconcileStep key choice =>
      match state.reconciling key with
      | some (.ask op rest) =>
          let reply := exec choice op state.world
          { state with
            world := reply.2
            reconciling := Function.update state.reconciling key (some (rest reply.1)) }
      | _ => state
  | .reconcileEnd key =>
      match state.reconciling key with
      | some (.done _) => { state with reconciling := Function.update state.reconciling key none }
      | _ => state
  | .create key spec =>
      state.withWorld { state.world with server := state.world.server.create key spec }
  | .editSpec key spec =>
      state.withWorld { state.world with server := state.world.server.editSpec key spec }
  | .requestDelete key =>
      state.withWorld { state.world with
        server := state.world.server.requestDelete key state.world.clock }
  | .setKillSwitch engaged => state.withWorld { state.world with engaged := engaged }
  | .advance elapsed =>
      state.withWorld { state.world with clock := state.world.clock + elapsed }

def start (world : World) (limiter : Option ReactorLimiter) : Churn where
  world := { world with index := .new }
  limiter := limiter
  scoring := fun _ => none
  reconciling := fun _ => none

def refreshes (state : Churn) : Move → Option NamespacedName
  | .scoreStep key _ =>
      match state.scoring key with
      | some (.ask (.allow _) _) => some key
      | _ => none
  | _ => none

def refreshed (operator : Operator) (initial : Churn) (moves : List Move) : List NamespacedName :=
  (turns (next operator) initial moves).filterMap (fun turn => turn.1.refreshes turn.2)

structure Gone (state : Churn) (key : NamespacedName) : Prop where
  stored : state.world.server.persisted key = none
  scoring : state.scoring key = none
  reconciling : state.reconciling key = none

/-- The limiter's memory is that of the policies there are. -/
structure FollowsLifetime (state : Churn) (limiter : ReactorLimiter) : Prop where
  forgotten : ∀ key, state.Gone key → limiter.limiters[key]? = none
  /-- With nothing in flight there are no more buckets than policies. -/
  bounded : (∀ key, state.scoring key = none ∧ state.reconciling key = none) →
    ∀ policies : List NamespacedName, (∀ key, state.world.server.persisted key ≠ none →
      key ∈ policies) →
      limiter.limiters.size ≤ policies.length
  /-- A policy that is created again starts with a full bucket. -/
  fresh : ∀ key, state.Gone key → ∀ now, limiter.bucket key now = .full limiter.burst now

theorem FollowsLifetime.of_forgotten {state : Churn} {limiter : ReactorLimiter}
    (forgotten : ∀ key, state.Gone key → limiter.limiters[key]? = none) :
    state.FollowsLifetime limiter where
  forgotten := forgotten
  bounded := by
    intro quiet policies listed
    rw [← Std.ExtTreeMap.length_keys]
    have distinct : limiter.limiters.keys.Nodup := Std.ExtTreeMap.nodup_keys
    apply List.Nodup.length_le_of_subset distinct
    intro key member
    apply listed
    intro missing
    have absent := forgotten key ⟨missing, (quiet key).1, (quiet key).2⟩
    rw [Std.ExtTreeMap.mem_keys, Std.ExtTreeMap.mem_iff_isSome_getElem?, absent] at member
    cases member
  fresh := by
    intro key gone now
    rw [ReactorLimiter.bucket, forgotten key gone, Option.getD_none]

def AsksOwn (state : Churn) : Prop :=
  ∀ key program, state.scoring key = some program →
    program.AsksOnly (fun op => ∀ about, op = .allow about → about = key)

theorem applyPolicy_asksOwn (watcher : ThreatScoreWatcher) {policy : TelecomSecurityPolicy}
    (event : ThreatScoreEvent) :
    (watcher.applyPolicy policy event).AsksOnly
      (fun op => ∀ about, op = .allow about → about = policy.key) := by
  apply watcher.applyPolicy_asksOnly
  · simp
  · simp
  · intro about same
    cases same
    rfl
  · simp
  · simp
  · apply (watcher.execute_asks policy _ event).mono
    intro op executes about same
    rw [same] at executes
    exact executes.elim

section Step

variable {operator : Operator} {state : Churn}

theorem AsksOwn.update {after : Churn} (own : state.AsksOwn) {about : NamespacedName}
    {flight : Option (Action (Except Err Unit))}
    (scoring : after.scoring = Function.update state.scoring about flight)
    (asks : ∀ program, flight = some program →
      program.AsksOnly (fun op => ∀ named, op = .allow named → named = about)) :
    after.AsksOwn := by
  intro key program flying
  rw [scoring] at flying
  by_cases same : key = about
  · rw [same, Function.update_self] at flying
    rw [same]
    exact asks program flying
  · rw [Function.update_of_ne same] at flying
    exact own key program flying

theorem AsksOwn.step (own : state.AsksOwn) (move : Move) : (state.next operator move).AsksOwn := by
  cases move with
  | score about event =>
      rw [next]
      split
      · rename_i policy free indexed
        apply own.update rfl
        intro program begun
        cases begun
        rw [← PolicyIndex.lookup_key indexed]
        exact applyPolicy_asksOwn operator.watcher event
      · exact own
  | scoreStep about choice =>
      rw [next]
      split
      · rename_i op rest flight
        apply own.update rfl
        intro program continued
        cases continued
        exact (own about _ flight).2 _
      · exact own
  | scoreEnd about =>
      rw [next]
      split
      · exact own.update rfl (by simp)
      · exact own
  | reconcile about =>
      rw [next]
      split <;> exact own
  | reconcileStep about choice =>
      rw [next]
      split <;> exact own
  | reconcileEnd about =>
      rw [next]
      split <;> exact own
  | _ => exact own

theorem next_limiter (own : state.AsksOwn) (move : Move) :
    (state.next operator move).limiter =
      match state.refreshes move with
      | none => state.limiter
      | some key => (ReactorLimiter.allow state.limiter key state.world.clock).2 := by
  cases move with
  | score about event =>
      rw [next]
      split <;> rfl
  | scoreStep about choice =>
      cases flight : state.scoring about with
      | none => simp only [next, refreshes, flight]
      | some program =>
          cases program with
          | done outcome => simp only [next, refreshes, flight]
          | ask op rest =>
              simp only [next, refreshes, flight]
              cases op with
              | allow named =>
                  cases (own about _ flight).1 named rfl
                  rfl
              | _ => rfl
  | scoreEnd about =>
      rw [next]
      split <;> rfl
  | reconcile about =>
      rw [next]
      split <;> rfl
  | reconcileStep about choice =>
      rw [next]
      split <;> rfl
  | reconcileEnd about =>
      rw [next]
      split <;> rfl
  | _ => rfl

def Remembers (state : Churn) (keys : List NamespacedName) : Prop :=
  ∀ limiter, state.limiter = some limiter → ∀ key, key ∈ limiter.limiters ↔ key ∈ keys

theorem Remembers.step {keys : List NamespacedName} (remembers : state.Remembers keys)
    (own : state.AsksOwn) (move : Move) :
    (state.next operator move).Remembers (keys ++ (state.refreshes move).toList) := by
  intro limiter present key
  rw [next_limiter own] at present
  cases asked : state.refreshes move with
  | none =>
      rw [asked] at present
      rw [Option.toList_none, List.append_nil]
      exact remembers limiter present key
  | some about =>
      cases configured : state.limiter with
      | none =>
          rw [asked, configured] at present
          cases present
      | some before =>
          rw [asked, configured] at present
          cases present
          rw [Option.toList_some, List.mem_append, List.mem_singleton,
            ← remembers before configured key, Std.ExtTreeMap.mem_insert,
            Std.LawfulEqCmp.compare_eq_iff_eq]
          tauto

end Step

/-- After a run the limiter remembers the policies that were refreshed in it. -/
theorem remembers_run (operator : Operator) (world : World) (r : ℚ) (b : Int) (moves : List Move) :
    let initial := start world (newReactorLimiter r b)
    (runMoves (next operator) initial moves).AsksOwn ∧
      (runMoves (next operator) initial moves).Remembers (refreshed operator initial moves) := by
  intro initial
  induction moves using List.reverseRecOn with
  | nil =>
      refine ⟨fun key program flying => (by cases flying), fun limiter present key => ?_⟩
      change newReactorLimiter r b = some limiter at present
      rw [newReactorLimiter] at present
      split at present
      · cases present
      · cases present
        simp [refreshed, turns]
  | append_singleton moves last ih =>
      rw [runMoves_concat, refreshed, turns_concat, filterMap_concat]
      exact ⟨ih.1.step last, ih.2.step ih.1 last⟩

theorem limiter_isSome_run (operator : Operator) (initial : Churn) (moves : List Move)
    (own : ∀ past, (runMoves (next operator) initial past).AsksOwn) :
    (runMoves (next operator) initial moves).limiter.isSome = initial.limiter.isSome := by
  induction moves using List.reverseRecOn with
  | nil => rfl
  | append_singleton moves last ih =>
      rw [runMoves_concat, next_limiter (own moves), ← ih]
      cases (runMoves (next operator) initial moves).refreshes last with
      | none => rfl
      | some key =>
          cases (runMoves (next operator) initial moves).limiter with
          | none => rfl
          | some limiter => rfl

/-- In every run the limiter's memory follows the policies exactly if none that is
gone was ever refreshed. -/
theorem limiter_follows_lifetime_iff (operator : Operator) (world : World) (r : ℚ) (b : Int)
    (moves : List Move) :
    let initial := start world (newReactorLimiter r b)
    let state := runMoves (next operator) initial moves
    (∀ limiter, state.limiter = some limiter → state.FollowsLifetime limiter) ↔
      newReactorLimiter r b = none ∨
        ∀ key, state.Gone key → key ∉ refreshed operator initial moves := by
  intro initial state
  have own := fun past => (remembers_run operator world r b past).1
  have remembers := (remembers_run operator world r b moves).2
  have configured : state.limiter.isSome = (newReactorLimiter r b).isSome :=
    limiter_isSome_run operator initial moves own
  constructor
  · intro follows
    cases present : state.limiter with
    | none =>
        rw [present] at configured
        exact .inl (Option.isNone_iff_eq_none.mp (by simpa using configured.symm))
    | some limiter =>
        refine .inr (fun key gone member => ?_)
        have absent := (follows limiter present).forgotten key gone
        have held := (remembers limiter present key).mpr member
        rw [Std.ExtTreeMap.mem_iff_isSome_getElem?, absent] at held
        cases held
  · intro spared limiter present
    apply FollowsLifetime.of_forgotten
    intro key gone
    rcases spared with nil | unasked
    · rw [present, nil] at configured
      cases configured
    · apply Std.ExtTreeMap.getElem?_eq_none
      intro held
      exact unasked key gone ((remembers limiter present key).mp held)

def reconcileAlone (count : Nat) : List Move :=
  .reconcile upfGuard ::
    (List.replicate count (.reconcileStep upfGuard .quiet) ++ [.reconcileEnd upfGuard])

def refreshedAndDeleted : List Move :=
  .create upfGuard upfGuardSpec :: reconcileAlone 5 ++
    .score upfGuard (tunnelScore "10.0.0.1" 0) ::
      (List.replicate 6 (.scoreStep upfGuard .quiet) ++ [.scoreEnd upfGuard]) ++
    .requestDelete upfGuard :: reconcileAlone 12

def unused : Churn := start (.initial (fun _ => 16)) (newReactorLimiter 1 1)

def afterDeletion : Churn := runMoves (next plainOperator) unused refreshedAndDeleted

theorem afterDeletion_gone : afterDeletion.Gone upfGuard where
  stored := by decide +kernel
  scoring := Option.isNone_iff_eq_none.mp (by decide +kernel)
  reconciling := Option.isNone_iff_eq_none.mp (by decide +kernel)

/-- The policy is gone, and its bucket is there, with its one token taken. -/
theorem deleted_policy_keeps_bucket :
    afterDeletion.Gone upfGuard ∧ ∃ limiter, afterDeletion.limiter = some limiter ∧
      (limiter.bucket upfGuard 0).tokens = 0 ∧ ¬ afterDeletion.FollowsLifetime limiter := by
  have kept : afterDeletion.limiter.any (fun limiter =>
      limiter.limiters[upfGuard]?.isSome && decide ((limiter.bucket upfGuard 0).tokens = 0)) =
        true := by
    decide +kernel
  obtain ⟨limiter, present, held⟩ := Option.any_eq_true _ _ |>.mp kept
  rw [Bool.and_eq_true, decide_eq_true_iff] at held
  refine ⟨afterDeletion_gone, limiter, present, held.2, fun follows => ?_⟩
  have absent := follows.forgotten upfGuard afterDeletion_gone
  rw [absent] at held
  cases held.1

end Churn

end Sentinel5G.Controller
