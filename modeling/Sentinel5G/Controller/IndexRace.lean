import Sentinel5G.Controller.IndexCalls
import Sentinel5G.Controller.PlacementRace

/-! Whether the index entry of a policy only moves forward, and stays away once
finalize has removed it, when the reconciler and the watcher both put copies that
they took at different times. -/

namespace Sentinel5G.Controller

open Base Api Ebpf Program

def upcoming {α : Type} : Action α → Option TelecomSecurityPolicy
  | .ask (.indexPut policy) _ => some policy
  | _ => none

theorem upcoming_some {α : Type} {program : Action α} {sent : TelecomSecurityPolicy}
    (comes : upcoming program = some sent) : ∃ rest, program = .ask (.indexPut sent) rest := by
  rw [upcoming.eq_def] at comes
  split at comes
  · cases comes
    exact ⟨_, rfl⟩
  · cases comes

namespace Interleaving

def watcherPut (state : Interleaving) : Option TelecomSecurityPolicy :=
  state.scoring.bind (fun call => upcoming call.rest)

def reconcilerPut (state : Interleaving) : Option TelecomSecurityPolicy :=
  state.reconciling.bind (fun run => upcoming run.rest)

def reconcilerRead (state : Interleaving) (choice : Choice) : Option TelecomSecurityPolicy :=
  match state.reconciling with
  | some ⟨.ask (.getPolicy request) _, _, _⟩ =>
      state.world.server.cached request (choice.lag request)
  | _ => none

def finalizes (state : Interleaving) : Bool :=
  match state.reconciling with
  | some ⟨.ask (.indexRemove _) _, some ground, _⟩ => ground.finalizing
  | _ => false

end Interleaving

structure IndexTrail where
  state : Interleaving
  /-- The newest version the entry has had. -/
  newest : Nat
  /-- Finalize has removed the entry since the watcher's call began. -/
  scoringOutlived : Bool
  /-- Finalize has removed the entry since the `Reconcile` began. -/
  reconcilingOutlived : Bool

def newestWith (newest : Nat) : Option TelecomSecurityPolicy → Nat
  | some entry => max newest entry.resourceVersion
  | none => newest

namespace IndexTrail

open Interleaving

def finalized (trail : IndexTrail) : Interleaving.Move → Bool
  | .reconcileStep _ => trail.state.finalizes
  | _ => false

def next (operator : Operator) (key : NamespacedName) (trail : IndexTrail)
    (move : Interleaving.Move) : IndexTrail :=
  let after := trail.state.next operator key move
  { state := after
    newest := newestWith trail.newest (after.world.index.lookup key)
    scoringOutlived :=
      trail.state.scoring.isSome && (trail.scoringOutlived || trail.finalized move)
    reconcilingOutlived :=
      trail.state.reconciling.isSome && (trail.reconcilingOutlived || trail.finalized move) }

def start (key : NamespacedName) (state : Interleaving) : IndexTrail :=
  ⟨state, newestWith 0 (state.world.index.lookup key), false, false⟩

/-- The entry is at the newest version it has had, and a call that was running
when finalize removed it does not put it back. -/
structure Forward (key : NamespacedName) (trail : IndexTrail) : Prop where
  entry : ∀ entry, trail.state.world.index.lookup key = some entry →
    trail.newest ≤ entry.resourceVersion
  scoring : trail.scoringOutlived = true → trail.state.watcherPut = none
  reconciling : trail.reconcilingOutlived = true → trail.state.reconcilerPut = none

/-- The cache is not behind the index for a version that is put as it is read; two
copies to be put go in by their versions; and finalize removes the entry only
after the watcher's copy is in. -/
def InOrder (trail : IndexTrail) : Interleaving.Move → Prop
  | .scoreStep _ => ∀ sent ∈ trail.state.watcherPut, ∀ other ∈ trail.state.reconcilerPut,
      sent.resourceVersion ≤ other.resourceVersion
  | .reconcileStep choice =>
      (∀ sent ∈ trail.state.reconcilerPut, ∀ other ∈ trail.state.watcherPut,
        sent.resourceVersion ≤ other.resourceVersion) ∧
      (trail.state.finalizes = true → trail.state.watcherPut = none) ∧
      ∀ policy ∈ trail.state.reconcilerRead choice, Notes.Indexable policy →
        trail.newest ≤ policy.resourceVersion
  | _ => True

instance (trail : IndexTrail) (move : Interleaving.Move) : Decidable (InOrder trail move) := by
  cases move <;> unfold InOrder <;> infer_instance

end IndexTrail

theorem exec_advances (choice : Choice) (op : Op) (world : World) :
    world.server.Advances (exec choice op world).2.server := by
  by_cases writes : op.WritesServer
  · have replaced : ∀ (sent : TelecomSecurityPolicy)
        (next : TelecomSecurityPolicy → TelecomSecurityPolicy),
        world.server.Advances (choice.write world ((world.server.replace sent next).1,
          { world with server := (world.server.replace sent next).2 })).2.server := by
      intro sent next
      rcases write_state choice world ((world.server.replace sent next).1,
        { world with server := (world.server.replace sent next).2 }) with unchanged | applied
      · exact .inl (congrArg World.server unchanged)
      · rw [applied]
        exact Server.replace_advances _ _ _
    cases op with
    | updateStatus sent => exact replaced sent _
    | update sent => exact replaced sent _
    | _ => exact writes.elim
  · exact .inl (exec_server choice op world writes)

/-- The entry is at version `newest`, which the policy has reached. -/
structure Footing (key : NamespacedName) (newest : Nat) (world : World) : Prop where
  stored : world.server.NewestStored
  reached : world.server.Reached key newest
  entry : ∀ entry, world.index.lookup key = some entry → entry.resourceVersion = newest

structure Due (key : NamespacedName) (newest : Nat) (server : Server)
    (sent : TelecomSecurityPolicy) : Prop where
  sameKey : sent.key = key
  later : newest ≤ sent.resourceVersion
  reached : server.Reached key sent.resourceVersion

section Calls

variable {key : NamespacedName} {newest : Nat} {world : World} {op : Op} {notes : Notes}

theorem Due.advances {before after : Server} {sent : TelecomSecurityPolicy} {higher : Nat}
    (due : Due key newest before sent) (advances : before.Advances after)
    (later : higher ≤ sent.resourceVersion) : Due key higher after sent :=
  ⟨due.sameKey, later, due.reached.advances advances⟩

theorem newestWith_of_entry {entry : Option TelecomSecurityPolicy}
    (same : ∀ policy, entry = some policy → policy.resourceVersion = newest) :
    newestWith newest entry = newest := by
  cases entry with
  | none => rfl
  | some policy =>
      rw [newestWith, same policy rfl]
      exact max_self newest

theorem Footing.newest_eq (footing : Footing key newest world) :
    newestWith newest (world.index.lookup key) = newest :=
  newestWith_of_entry footing.entry

theorem Footing.advances {after : World} (footing : Footing key newest world)
    (advances : world.server.Advances after.server)
    (kept : ∀ entry, after.index.lookup key = some entry → world.index.lookup key = some entry) :
    Footing key newest after :=
  ⟨footing.stored.advances advances, footing.reached.advances advances,
    fun entry found => footing.entry entry (kept entry found)⟩

theorem Footing.call (footing : Footing key newest world) (choice : Choice)
    (frame : ∀ sent, op ≠ .indexPut sent) : Footing key newest (exec choice op world).2 := by
  refine footing.advances (exec_advances choice op world) (fun entry found => ?_)
  by_cases writes : op.WritesIndex
  · cases op with
    | indexPut sent => exact absurd rfl (frame sent)
    | indexRemove removed => exact PolicyIndex.lookup_of_remove found
    | _ => exact writes.elim
  · rwa [exec_index choice op world writes] at found

theorem Footing.put {sent : TelecomSecurityPolicy} (footing : Footing key newest world)
    (due : Due key newest world.server sent) (choice : Choice) :
    Footing key sent.resourceVersion (exec choice (.indexPut sent) world).2 ∧
      newestWith newest ((exec choice (.indexPut sent) world).2.index.lookup key) =
        sent.resourceVersion := by
  have lookup : (exec choice (.indexPut sent) world).2.index.lookup key = some sent := by
    rw [← due.sameKey]
    exact PolicyIndex.lookup_put_self _ _
  rw [lookup]
  refine ⟨⟨footing.stored, due.reached, fun entry found => ?_⟩, max_eq_right due.later⟩
  rw [Option.some.inj (found.symm.trans lookup)]

theorem Footing.step (footing : Footing key newest world) (choice : Choice)
    (due : ∀ sent, op = .indexPut sent → Due key newest world.server sent) :
    ∃ higher, newestWith newest ((exec choice op world).2.index.lookup key) = higher ∧
      Footing key higher (exec choice op world).2 ∧ newest ≤ higher ∧
      ((higher = newest ∧ ∀ sent, op ≠ .indexPut sent) ∨
        ∃ sent, op = .indexPut sent ∧ higher = sent.resourceVersion) := by
  by_cases puts : ∃ sent, op = .indexPut sent
  · obtain ⟨sent, rfl⟩ := puts
    obtain ⟨after, same⟩ := footing.put (due sent rfl) choice
    exact ⟨_, same, after, (due sent rfl).later, .inr ⟨sent, rfl, rfl⟩⟩
  · have frame : ∀ sent, op ≠ .indexPut sent := fun sent same => puts ⟨sent, same⟩
    have after := footing.call choice frame
    exact ⟨newest, after.newest_eq, after, le_rfl, .inl ⟨rfl, frame⟩⟩

theorem due_of_replace {sent updated : TelecomSecurityPolicy} {choice : Choice}
    {next : TelecomSecurityPolicy → TelecomSecurityPolicy} (footing : Footing key newest world)
    (sameKey : sent.key = key) (answerKey : updated.key = sent.key)
    (keeps : ∀ current, (next current).resourceVersion = current.resourceVersion)
    (accepted : (choice.write world ((world.server.replace sent next).1,
      { world with server := (world.server.replace sent next).2 })).1 = .ok updated) :
    Due key newest (choice.write world ((world.server.replace sent next).1,
      { world with server := (world.server.replace sent next).2 })).2.server updated := by
  have effect := write_ok choice world _ accepted
  rw [effect] at accepted ⊢
  subst sameKey
  obtain ⟨later, reached⟩ := Server.replace_reached keeps accepted footing.reached
  exact ⟨answerKey, later, reached⟩

theorem put_offers_nothing {sent : TelecomSecurityPolicy} {answer : op.Answer}
    (offered : (notes.hear op answer).offered = some sent) (policy : TelecomSecurityPolicy) :
    op ≠ .indexPut policy := by
  rintro rfl
  cases offered

theorem Footing.offered (footing : Footing key newest world) (proper : Proper key op notes)
    (choice : Choice) {sent : TelecomSecurityPolicy}
    (fresh : ∀ request policy, op = .getPolicy request →
      world.server.cached request (choice.lag request) = some policy → Notes.Indexable policy →
      newest ≤ policy.resourceVersion)
    (offered : (notes.hear op (exec choice op world).1).offered = some sent) :
    Due key newest (exec choice op world).2.server sent := by
  cases op with
  | getPolicy request =>
      cases answer : (exec choice (.getPolicy request) world).1 with
      | error err =>
          rw [answer] at offered
          cases offered
      | ok policy =>
          rw [answer] at offered
          have cached := exec_getPolicy_cached answer
          have known := Server.mem_history_of_cached cached
          obtain ⟨indexable, same⟩ : Notes.Indexable policy ∧ policy = sent := by
            simpa [Notes.hear] using offered
          subst same
          have sameKey : request = key := proper.2
          subst sameKey
          exact ⟨world.server.keyed _ _ known, fresh request policy rfl cached indexable,
            footing.stored.reached known⟩
  | updateStatus policy =>
      cases answer : (exec choice (.updateStatus policy) world).1 with
      | error err =>
          rw [answer] at offered
          cases offered
      | ok updated =>
          rw [answer] at offered
          cases offered
          exact due_of_replace footing proper.2 (updateStatus_answer answer).1 (fun _ => rfl) answer
  | update policy =>
      cases answer : (exec choice (.update policy) world).1 with
      | error err =>
          rw [answer] at offered
          cases offered
      | ok updated =>
          rw [answer] at offered
          cases offered
          exact due_of_replace footing proper.2.1 (update_answer answer).1 (fun _ => rfl) answer
  | _ => cases offered

theorem hear_known (choice : Choice)
    (known : ∀ policy, notes.read = some policy → some policy ∈ world.server.history key)
    (proper : Proper key op notes) {policy : TelecomSecurityPolicy}
    (read : (notes.hear op (exec choice op world).1).read = some policy) :
    some policy ∈ (exec choice op world).2.server.history key := by
  refine (exec_advances choice op world).keeps ?_
  cases op with
  | getPolicy request =>
      have sameKey : request = key := proper.2
      subst sameKey
      cases answer : (exec choice (.getPolicy request) world).1 with
      | error err =>
          rw [answer] at read
          exact known policy read
      | ok found =>
          rw [answer] at read
          cases read
          exact Server.mem_history_of_cached (exec_getPolicy_cached answer)
  | update sent =>
      refine known policy ?_
      cases answer : (exec choice (.update sent) world).1 <;> rwa [answer] at read
  | updateStatus sent =>
      refine known policy ?_
      cases answer : (exec choice (.updateStatus sent) world).1 <;> rwa [answer] at read
  | _ => exact known policy read

theorem offered_outdated {policy : TelecomSecurityPolicy} (scores : Scores policy op)
    (outdated : world.server.Outdated policy.key policy.resourceVersion) (choice : Choice) :
    (notes.hear op (exec choice op world).1).offered = none := by
  cases op with
  | updateStatus sent =>
      cases answer : (exec choice (.updateStatus sent) world).1 with
      | error err => rfl
      | ok updated =>
          obtain ⟨-, -, current, stored, same⟩ := updateStatus_answer answer
          rw [scores.1] at stored
          have moved := outdated.2 current stored
          have matching := scores.2
          omega
  | getPolicy request => exact scores.elim
  | update sent => exact scores.elim
  | _ => rfl

theorem outdated_of_released (proper : Proper key op notes) (choice : Choice)
    (known : ∀ policy, notes.read = some policy → some policy ∈ world.server.history key)
    (released : (notes.hear op (exec choice op world).1).released = true) {version : Nat}
    (bounded : version ≤ world.server.revision) :
    (exec choice op world).2.server.Outdated key version := by
  obtain ⟨sent, updated, exchange, absent⟩ := hear_released released
  obtain ⟨rfl, answer⟩ := Exchange.mk.inj exchange
  have accepted := eq_of_heq answer
  obtain ⟨-, sameKey, policy, read, sameVersion, present⟩ := proper
  obtain ⟨-, current, stored, matching, -⟩ := update_answer accepted
  have effect := write_ok choice world _ accepted
  rw [exec, effect] at accepted ⊢
  rw [← sameKey]
  refine Server.replace_outdates accepted stored (fun unchanged => ?_) bounded
  have member := known policy read
  rw [← sameKey] at member
  have same := Server.persisted_unique member stored (sameVersion.symm.trans matching)
  have finalizers := congrArg TelecomSecurityPolicy.finalizers unchanged
  rw [← same] at finalizers
  have kept : sent.finalizers = policy.finalizers := finalizers
  exact absent (kept ▸ present absent)

end Calls

theorem InTurn.offers {key : NamespacedName} {α : Type} {program : Action α} {notes : Notes}
    {post : α → Notes → Prop} {sent : TelecomSecurityPolicy}
    (inTurn : InTurn key program post notes) (comes : upcoming program = some sent) :
    notes.removed = false ∧ notes.offered = some sent := by
  obtain ⟨rest, rfl⟩ := upcoming_some comes
  exact inTurn.proper

structure WatcherPaced (key : NamespacedName) (newest : Nat) (server : Server) (call : Scoring) :
    Prop where
  sameKey : call.policy.key = key
  taken : call.policy.resourceVersion ≤ newest
  asks : call.rest.AsksOnly (Scores call.policy)
  inTurn : ∃ notes, InTurn key call.rest (fun _ _ => True) notes
  due : ∀ sent, upcoming call.rest = some sent → Due key newest server sent

structure ReconcilerPaced (key : NamespacedName) (newest : Nat) (server : Server)
    (run : Reconciling) (notes : Notes) : Prop where
  inTurn : InTurn key run.rest (fun _ _ => True) notes
  known : ∀ policy, notes.read = some policy → some policy ∈ server.history key
  basis : run.basis.isSome = notes.read.isSome
  due : ∀ sent, upcoming run.rest = some sent → Due key newest server sent

section Pace

variable {key : NamespacedName} {newest higher : Nat} {before after : Server} {world : World}

theorem WatcherPaced.advances {call : Scoring} (paced : WatcherPaced key newest before call)
    (advances : before.Advances after) (le : newest ≤ higher)
    (order : ∀ sent, upcoming call.rest = some sent → higher ≤ sent.resourceVersion) :
    WatcherPaced key higher after call where
  sameKey := paced.sameKey
  taken := paced.taken.trans le
  asks := paced.asks
  inTurn := paced.inTurn
  due := fun sent comes => (paced.due sent comes).advances advances (order sent comes)

theorem ReconcilerPaced.advances {run : Reconciling} {notes : Notes}
    (paced : ReconcilerPaced key newest before run notes) (advances : before.Advances after)
    (order : ∀ sent, upcoming run.rest = some sent → higher ≤ sent.resourceVersion)
    (kernels : List Loader) :
    ReconcilerPaced key higher after { run with kernels := kernels } notes where
  inTurn := paced.inTurn
  known := fun policy read => advances.keeps (paced.known policy read)
  basis := paced.basis
  due := fun sent comes => (paced.due sent comes).advances advances (order sent comes)

theorem observe_isSome {op : Op} (answer : op.Answer) {basis : Option Basis} {notes : Notes}
    (same : basis.isSome = notes.read.isSome) :
    (Basis.observe op answer basis).isSome = (notes.hear op answer).read.isSome := by
  cases op with
  | getPolicy request => cases answer <;> first | exact same | rfl
  | update sent =>
      cases answer with
      | error err => exact same
      | ok updated => exact (Option.isSome_map ..).trans same
  | updateStatus sent =>
      cases answer with
      | error err => exact same
      | ok updated => exact (Option.isSome_map ..).trans same
  | _ => exact same

end Pace

namespace IndexTrail

open Interleaving

/-- The policy has moved on from every version that the index can still get. -/
def Severed (key : NamespacedName) (trail : IndexTrail) : Prop :=
  trail.state.world.server.Outdated key trail.newest ∧
    ∀ sent, trail.state.watcherPut = some sent →
      trail.state.world.server.Outdated key sent.resourceVersion

structure Paced (key : NamespacedName) (trail : IndexTrail) : Prop where
  footing : Footing key trail.newest trail.state.world
  watcher : ∀ call, trail.state.scoring = some call →
    WatcherPaced key trail.newest trail.state.world.server call
  reconciler : ∀ run, trail.state.reconciling = some run → ∃ notes,
    ReconcilerPaced key trail.newest trail.state.world.server run notes ∧
      (notes.released = true → Severed key trail) ∧
      (trail.reconcilingOutlived = true → notes.removed = true)
  outlived : trail.scoringOutlived = true → trail.state.watcherPut = none ∧
    ∀ call, trail.state.scoring = some call →
      trail.state.world.server.Outdated key call.policy.resourceVersion

variable {operator : Operator} {key : NamespacedName} {trail : IndexTrail}

theorem watcherPut_of_none {state : Interleaving} (idle : state.scoring = none) :
    state.watcherPut = none := by
  rw [watcherPut, idle]
  rfl

theorem watcherPut_of_some {state : Interleaving} {call : Scoring}
    (flight : state.scoring = some call) : state.watcherPut = upcoming call.rest := by
  rw [watcherPut, flight]
  rfl

theorem reconcilerPut_of_some {state : Interleaving} {run : Reconciling}
    (flight : state.reconciling = some run) : state.reconcilerPut = upcoming run.rest := by
  rw [reconcilerPut, flight]
  rfl

theorem Paced.watcherDue (paced : Paced key trail) {sent : TelecomSecurityPolicy}
    (comes : trail.state.watcherPut = some sent) :
    Due key trail.newest trail.state.world.server sent := by
  obtain ⟨call, flight, next⟩ := Option.bind_eq_some_iff.mp comes
  exact (paced.watcher call flight).due sent next

theorem Paced.carry (paced : Paced key trail) {after : Interleaving}
    {scoringFlag reconcilingFlag : Bool}
    (advances : trail.state.world.server.Advances after.world.server)
    (index : after.world.index = trail.state.world.index)
    (scoring : ∀ call, after.scoring = some call → trail.state.scoring = some call)
    (reconciling : ∀ run, after.reconciling = some run → trail.state.reconciling = some run)
    (keptScoring : scoringFlag = true → trail.scoringOutlived = true)
    (keptReconciling : reconcilingFlag = true → trail.reconcilingOutlived = true) :
    Paced key ⟨after, newestWith trail.newest (after.world.index.lookup key), scoringFlag,
      reconcilingFlag⟩ := by
  have puts : ∀ sent, after.watcherPut = some sent → trail.state.watcherPut = some sent := by
    intro sent comes
    cases flight : after.scoring with
    | none =>
        rw [watcherPut_of_none flight] at comes
        cases comes
    | some call =>
        rw [watcherPut_of_some flight] at comes
        rw [watcherPut_of_some (scoring call flight)]
        exact comes
  rw [index, paced.footing.newest_eq]
  refine ⟨paced.footing.advances advances (fun entry found => index ▸ found),
    fun call flight => ?_, fun run flight => ?_, fun flag => ?_⟩
  · have before := paced.watcher call (scoring call flight)
    exact before.advances advances le_rfl (fun sent comes => (before.due sent comes).later)
  · obtain ⟨notes, before, severed, removed⟩ := paced.reconciler run (reconciling run flight)
    refine ⟨notes, before.advances advances (fun sent comes => (before.due sent comes).later) _,
      fun released => ?_, fun flag => removed (keptReconciling flag)⟩
    obtain ⟨outdated, late⟩ := severed released
    exact ⟨outdated.advances advances,
      fun sent comes => (late sent (puts sent comes)).advances advances⟩
  · obtain ⟨none, outdated⟩ := paced.outlived (keptScoring flag)
    refine ⟨?_, fun call flight => (outdated call (scoring call flight)).advances advances⟩
    cases comes : after.watcherPut with
    | none => rfl
    | some sent => cases none.symm.trans (puts sent comes)

theorem Paced.take (paced : Paced key trail) {policy : TelecomSecurityPolicy}
    {event : ThreatScoreEvent} {reconcilingFlag : Bool}
    (indexed : trail.state.world.index.lookup key = some policy)
    (keptReconciling : reconcilingFlag = true → trail.reconcilingOutlived = true) :
    Paced key ⟨{ trail.state with
        scoring := some ⟨policy, event, operator.watcher.applyPolicy policy event, false⟩ },
      newestWith trail.newest (trail.state.world.index.lookup key), false, reconcilingFlag⟩ := by
  have sameKey : policy.key = key := PolicyIndex.key_of_names indexed
  have inTurn := applyPolicy_inTurn operator.watcher event sameKey
  have silent : upcoming (operator.watcher.applyPolicy policy event) = none := by
    cases comes : upcoming (operator.watcher.applyPolicy policy event) with
    | none => rfl
    | some sent => cases (inTurn.offers comes).2
  rw [paced.footing.newest_eq]
  refine ⟨paced.footing, fun call flight => ?_, fun run flight => ?_,
    fun impossible => by cases impossible⟩
  · cases flight
    refine ⟨sameKey, (paced.footing.entry policy indexed).le,
      applyPolicy_scores operator.watcher policy event, ⟨_, inTurn⟩, fun sent comes => ?_⟩
    cases silent.symm.trans comes
  · obtain ⟨notes, before, severed, removed⟩ := paced.reconciler run flight
    refine ⟨notes, before, fun released => ⟨(severed released).1, fun sent comes => ?_⟩,
      fun flag => removed (keptReconciling flag)⟩
    cases silent.symm.trans comes

theorem reconcile_paced (operator : Operator) (key : NamespacedName) (newest : Nat)
    (server : Server) (kernels : List Loader) :
    ReconcilerPaced key newest server ⟨operator.reconciler.reconcile key, none, kernels⟩
      .start := by
  have inTurn := reconcile_inTurn operator.reconciler key
  refine ⟨inTurn, fun policy read => ?_, rfl, fun sent comes => ?_⟩
  · cases read
  · cases (inTurn.offers comes).2

theorem Paced.begin (paced : Paced key trail) {scoringFlag : Bool} {run : Reconciling}
    (fresh : ReconcilerPaced key trail.newest trail.state.world.server run .start)
    (keptScoring : scoringFlag = true → trail.scoringOutlived = true) :
    Paced key ⟨{ trail.state with reconciling := some run },
      newestWith trail.newest (trail.state.world.index.lookup key), scoringFlag, false⟩ := by
  rw [paced.footing.newest_eq]
  refine ⟨paced.footing, paced.watcher, fun started flight => ?_,
    fun flag => paced.outlived (keptScoring flag)⟩
  cases flight
  exact ⟨.start, fresh, by simp [Notes.start], by simp⟩

/-- A call of the watcher. -/
theorem Paced.scored (paced : Paced key trail) {policy : TelecomSecurityPolicy}
    {event : ThreatScoreEvent} {op : Op} {rest : op.Answer → Action (Except Err Unit)}
    {settled later : Bool} {choice : Choice} {reconcilingFlag : Bool}
    (flight : trail.state.scoring = some ⟨policy, event, .ask op rest, settled⟩)
    (ordered : InOrder trail (.scoreStep choice))
    (keptReconciling : reconcilingFlag = true → trail.reconcilingOutlived = true) :
    Paced key ⟨record (exec choice op trail.state.world).2
        (some ⟨policy, event, rest (exec choice op trail.state.world).1, later⟩)
        trail.state.reconciling,
      newestWith trail.newest ((exec choice op trail.state.world).2.index.lookup key),
      trail.scoringOutlived, reconcilingFlag⟩ := by
  have watcher := paced.watcher _ flight
  obtain ⟨notes, inTurn⟩ := watcher.inTurn
  have advances := exec_advances choice op trail.state.world
  have own : ∀ sent, op = .indexPut sent → trail.state.watcherPut = some sent := by
    rintro sent rfl
    exact watcherPut_of_some flight
  have due : ∀ sent, op = .indexPut sent → Due key trail.newest trail.state.world.server sent := by
    rintro sent rfl
    exact watcher.due sent rfl
  obtain ⟨higher, newest, footing, le, moved⟩ := paced.footing.step choice due
  rw [newest]
  -- A call on a version that the policy has moved on from gets nothing to put.
  have silent : trail.state.world.server.Outdated key policy.resourceVersion →
      upcoming (rest (exec choice op trail.state.world).1) = none := by
    intro outdated
    cases comes : upcoming (rest (exec choice op trail.state.world).1) with
    | none => rfl
    | some sent =>
        rw [← watcher.sameKey] at outdated
        have offered := ((inTurn.next choice trail.state.world).offers comes).2
        cases (offered_outdated watcher.asks.1 outdated choice).symm.trans offered
  refine ⟨footing, fun call flying => ?_, fun run flying => ?_, fun flag => ?_⟩
  · cases flying
    refine ⟨watcher.sameKey, watcher.taken.trans le, watcher.asks.2 _, ⟨_, inTurn.next choice _⟩,
      fun sent comes => ?_⟩
    have offered := ((inTurn.next choice trail.state.world).offers comes).2
    rcases moved with ⟨rfl, -⟩ | ⟨put, puts, -⟩
    · refine paced.footing.offered inTurn.proper choice (fun request found same => ?_) offered
      subst same
      exact watcher.asks.1.elim
    · exact absurd puts (put_offers_nothing offered put)
  · obtain ⟨before, flown, rfl⟩ := Option.map_eq_some_iff.mp flying
    obtain ⟨remembered, running, severed, removed⟩ := paced.reconciler before flown
    refine ⟨remembered, running.advances advances (fun other comes => ?_) _, fun released => ?_,
      fun flag => removed (keptReconciling flag)⟩
    · rcases moved with ⟨rfl, -⟩ | ⟨put, puts, rfl⟩
      · exact (running.due other comes).later
      · exact ordered put (own put puts) other ((reconcilerPut_of_some flown).trans comes)
    · obtain ⟨outdated, late⟩ := severed released
      refine ⟨?_, fun sent comes => ?_⟩
      · rcases moved with ⟨rfl, -⟩ | ⟨put, puts, rfl⟩
        · exact outdated.advances advances
        · exact (late put (own put puts)).advances advances
      · cases (silent (outdated.mono watcher.taken)).symm.trans comes
  · obtain ⟨-, outdated⟩ := paced.outlived flag
    refine ⟨silent (outdated _ flight), fun call flying => ?_⟩
    cases flying
    exact (outdated _ flight).advances advances

/-- A call of the `Reconcile`. -/
theorem Paced.reconciled (paced : Paced key trail) {op : Op}
    {rest : op.Answer → Action (Except Err Result)} {basis : Option Basis} {kernels : List Loader}
    {choice : Choice} (flight : trail.state.reconciling = some ⟨.ask op rest, basis, kernels⟩)
    (ordered : InOrder trail (.reconcileStep choice)) :
    Paced key ⟨record (exec choice op trail.state.world).2 trail.state.scoring
        (some ⟨rest (exec choice op trail.state.world).1,
          Basis.observe op (exec choice op trail.state.world).1 basis, kernels⟩),
      newestWith trail.newest ((exec choice op trail.state.world).2.index.lookup key),
      trail.state.scoring.isSome && (trail.scoringOutlived || trail.state.finalizes),
      trail.reconcilingOutlived || trail.state.finalizes⟩ := by
  obtain ⟨notes, running, severed, removed⟩ := paced.reconciler _ flight
  have proper := running.inTurn.proper
  have advances := exec_advances choice op trail.state.world
  have due : ∀ sent, op = .indexPut sent → Due key trail.newest trail.state.world.server sent := by
    rintro sent rfl
    exact running.due sent rfl
  -- A finalizing removal comes after the finalizer is given up.
  have finalizing : trail.state.finalizes = true →
      (∃ request, op = .indexRemove request) ∧ Severed key trail := by
    intro finalizes
    rw [Interleaving.finalizes, flight] at finalizes
    split at finalizes
    · rename_i request _ ground _ same
      cases same
      refine ⟨⟨request, rfl⟩, severed (proper.2.resolve_left (fun unread => ?_))⟩
      have read := running.basis
      rw [unread] at read
      cases read
    · cases finalizes
  obtain ⟨higher, newest, footing, le, moved⟩ := paced.footing.step choice due
  rw [newest]
  refine ⟨footing, fun call flying => ?_, fun run flying => ?_, fun flag => ?_⟩
  · have watcher := paced.watcher call flying
    refine watcher.advances advances le (fun other comes => ?_)
    rcases moved with ⟨rfl, -⟩ | ⟨put, rfl, rfl⟩
    · exact (watcher.due other comes).later
    · exact ordered.1 put (reconcilerPut_of_some flight) other
        ((watcherPut_of_some flying).trans comes)
  · cases flying
    refine ⟨notes.hear op (exec choice op trail.state.world).1,
      ⟨running.inTurn.next choice _, fun policy read => ?_, observe_isSome _ running.basis,
        fun sent comes => ?_⟩, fun released => ?_, fun flag => ?_⟩
    · exact hear_known choice running.known proper read
    · have offered := ((running.inTurn.next choice trail.state.world).offers comes).2
      rcases moved with ⟨rfl, -⟩ | ⟨put, puts, -⟩
      · refine paced.footing.offered proper choice (fun request found same cached => ?_) offered
        subst same
        refine ordered.2.2 found ?_
        rw [reconcilerRead, flight]
        exact cached
      · exact absurd puts (put_offers_nothing offered put)
    · have outdates : ∀ version, version ≤ trail.state.world.server.revision →
          (exec choice op trail.state.world).2.server.Outdated key version :=
        fun version => outdated_of_released proper choice running.known released
      refine ⟨outdates higher ?_, fun sent comes => outdates _ (paced.watcherDue comes).reached.1⟩
      rcases moved with ⟨rfl, -⟩ | ⟨put, rfl, -⟩
      · exact paced.footing.reached.1
      · cases released
    · rcases (Bool.or_eq_true _ _).mp flag with outlived | finalizes
      · cases proper.1.symm.trans (removed outlived)
      · obtain ⟨⟨request, rfl⟩, -⟩ := finalizing finalizes
        rfl
  · rcases (Bool.or_eq_true _ _).mp ((Bool.and_eq_true _ _).mp flag).2 with outlived | finalizes
    · obtain ⟨none, outdated⟩ := paced.outlived outlived
      exact ⟨none, fun call flying => (outdated call flying).advances advances⟩
    · refine ⟨ordered.2.1 finalizes, fun call flying => ?_⟩
      exact ((finalizing finalizes).2.1.mono (paced.watcher call flying).taken).advances advances

theorem next_advances (state : Interleaving) (move : Interleaving.Move) :
    state.world.server.Advances (state.next operator key move).world.server := by
  cases move with
  | score event =>
      rw [Interleaving.next]
      split <;> exact .inl rfl
  | scoreStep choice =>
      rw [Interleaving.next]
      split
      · exact exec_advances choice _ state.world
      · exact .inl rfl
  | scoreEnd =>
      rw [Interleaving.next]
      split <;> exact .inl rfl
  | reconcile =>
      rw [Interleaving.next]
      split <;> exact .inl rfl
  | reconcileStep choice =>
      rw [Interleaving.next]
      split
      · exact exec_advances choice _ state.world
      · exact .inl rfl
  | reconcileEnd =>
      rw [Interleaving.next]
      split <;> exact .inl rfl
  | create spec => exact Server.create_advances _ _ _
  | editSpec spec => exact Server.editSpec_advances _ _ _
  | requestDelete => exact Server.requestDelete_advances _ _ _
  | setKillSwitch engaged => exact .inl rfl
  | setLimiter allows => exact .inl rfl
  | advance elapsed => exact .inl rfl

theorem reconcileStep_cases (operator : Operator) (key : NamespacedName) (state : Interleaving)
    (choice : Choice) :
    (∃ op rest basis kernels, state.reconciling = some ⟨.ask op rest, basis, kernels⟩) ∨
      (state.next operator key (.reconcileStep choice) = state ∧ state.finalizes = false) := by
  cases flight : state.reconciling with
  | none => exact .inr ⟨by simp only [Interleaving.next, flight], by simp only [finalizes, flight]⟩
  | some run =>
      obtain ⟨rest, basis, kernels⟩ := run
      cases rest with
      | done value =>
          exact .inr ⟨by simp only [Interleaving.next, flight], by simp only [finalizes, flight]⟩
      | ask op rest => exact .inl ⟨op, rest, basis, kernels, rfl⟩

theorem flag_of_and {running flag : Bool} (holds : (running && (flag || false)) = true) :
    flag = true := by
  simpa using ((Bool.and_eq_true _ _).mp holds).2

theorem Paced.step (paced : Paced key trail) {move : Interleaving.Move}
    (ordered : InOrder trail move) : Paced key (trail.next operator key move) := by
  by_cases reconciles : ∃ choice, move = .reconcileStep choice
  · obtain ⟨choice, rfl⟩ := reconciles
    rcases reconcileStep_cases operator key trail.state choice with
      ⟨op, rest, basis, kernels, flight⟩ | ⟨idle, unfinished⟩
    · have same : trail.state.next operator key (.reconcileStep choice) =
          record (exec choice op trail.state.world).2 trail.state.scoring
            (some ⟨rest (exec choice op trail.state.world).1,
              Basis.observe op (exec choice op trail.state.world).1 basis, kernels⟩) := by
        simp only [Interleaving.next, flight, track]
      have after := paced.reconciled flight ordered
      rw [next, same]
      simp only [finalized, flight, Option.isSome_some, Bool.true_and]
      exact after
    · rw [next, idle]
      simp only [finalized, unfinished]
      exact paced.carry (.inl rfl) rfl (fun _ => id) (fun _ => id) flag_of_and flag_of_and
  · have unfinished : trail.finalized move = false := by
      cases move with
      | reconcileStep choice => exact absurd ⟨choice, rfl⟩ reconciles
      | _ => rfl
    have advances : trail.state.world.server.Advances
        (trail.state.next operator key move).world.server := next_advances _ _
    have step := next_step operator key trail.state move
    simp only [next, unfinished]
    generalize trail.state.next operator key move = after at step advances ⊢
    cases step with
    | idle move =>
        exact paced.carry advances rfl (fun _ => id) (fun _ => id) flag_of_and flag_of_and
    | take policy event free indexed =>
        rw [free]
        exact paced.take indexed flag_of_and
    | scored policy event op rest settled choice flight =>
        rw [flight]
        simp only [Option.isSome_some, Bool.true_and, Bool.or_false]
        exact paced.scored flight ordered (fun flag => ((Bool.and_eq_true _ _).mp flag).2)
    | leave move =>
        refine paced.carry advances rfl (fun call flight => ?_)
          (fun _ => id) flag_of_and flag_of_and
        cases flight
    | begin free =>
        rw [free]
        exact paced.begin (reconcile_paced operator key _ _ _) flag_of_and
    | reconciled op rest basis kernels choice flight => exact absurd ⟨choice, rfl⟩ reconciles
    | finish move =>
        refine paced.carry advances rfl (fun _ => id) (fun run flight => ?_) flag_of_and flag_of_and
        cases flight
    | act move world acts =>
        exact paced.carry advances acts.index (fun _ => id) (fun _ => id) flag_of_and flag_of_and

theorem Paced.forward (paced : Paced key trail) : Forward key trail where
  entry := fun entry found => (paced.footing.entry entry found).ge
  scoring := fun flag => (paced.outlived flag).1
  reconciling := by
    intro flag
    cases comes : trail.state.reconcilerPut with
    | none => rfl
    | some sent =>
        obtain ⟨run, flight, next⟩ := Option.bind_eq_some_iff.mp comes
        obtain ⟨notes, running, -, removed⟩ := paced.reconciler run flight
        cases (removed flag).symm.trans (running.inTurn.offers next).1

structure Begins (key : NamespacedName) (state : Interleaving) : Prop where
  scoring : state.scoring = none
  reconciling : state.reconciling = none
  entry : ∀ entry, state.world.index.lookup key = some entry →
    some entry ∈ state.world.server.history key
  stored : state.world.server.NewestStored

theorem Begins.paced {state : Interleaving} (begins : Begins key state) :
    Paced key (start key state) := by
  refine ⟨⟨begins.stored, ?_, fun entry found => ?_⟩, fun call flight => ?_, fun run flight => ?_,
    fun impossible => by cases impossible⟩
  · dsimp only [start]
    cases found : state.world.index.lookup key with
    | none => exact ⟨Nat.zero_le _, fun _ _ => Nat.zero_le _⟩
    | some entry =>
        rw [newestWith, Nat.zero_max]
        exact begins.stored.reached (begins.entry entry found)
  · change state.world.index.lookup key = some entry at found
    rw [start, found, newestWith, Nat.zero_max]
  · cases begins.scoring.symm.trans flight
  · cases begins.reconciling.symm.trans flight

/-- In every run whose copies go in in order, the entry only moves forward, and no
call that was running when finalize removed it puts it back. -/
theorem index_entry_moves_forward (operator : Operator) (key : NamespacedName)
    (state : Interleaving) (moves : List Interleaving.Move) (begins : Begins key state)
    (ordered : AllMoves (next operator key) InOrder (start key state) moves) :
    Forward key (runMoves (next operator key) (start key state) moves) := by
  have paced := runMoves_invariant moves
    (fun trail move allowed (paced : Paced key trail) => paced.step allowed) begins.paced ordered
  exact paced.forward

theorem begins_starting : Begins upfGuard starting := by
  have empty : Server.empty.NewestStored := fun _ _ _ _ member => by
    simp [Server.history, Server.empty] at member
  refine ⟨rfl, rfl, fun entry found => ?_, empty.advances (Server.create_advances _ _ _)⟩
  have absent : starting.world.index.lookup upfGuard = none := by decide +kernel
  cases absent.symm.trans found

def plainTrail (moves : List Interleaving.Move) : IndexTrail :=
  runMoves (next plainOperator upfGuard) (start upfGuard starting) moves

theorem index_entry_moves_forward_while_blocking :
    (plainTrail finalizedUnderneath).scoringOutlived = true ∧
      Forward upfGuard (plainTrail finalizedUnderneath) :=
  ⟨by decide +kernel, index_entry_moves_forward plainOperator upfGuard starting finalizedUnderneath
    begins_starting (by decide +kernel)⟩

def overwritten : List Interleaving.Move :=
  reconcileAlone 5 ++
    [.reconcile, .reconcileStep { Choice.quiet with lag := fun _ => 1 }, .reconcileStep .quiet]

def reinserted : List Interleaving.Move :=
  reconcileAlone 5 ++ .score (tunnelScore "10.0.0.1" 1) :: scoreSteps 3 ++
    .requestDelete :: reconcileAlone 12

theorem index_entry_falls_back :
    Begins upfGuard starting ∧
    ¬ Forward upfGuard (plainTrail overwritten) ∧
    ¬ Forward upfGuard (plainTrail reinserted) ∧
    (plainTrail (reinserted ++ scoreSteps 1)).state.world.server.persisted upfGuard = none ∧
    (plainTrail (reinserted ++ scoreSteps 1)).state.world.index.lookup upfGuard ≠ none := by
  refine ⟨begins_starting, fun forward => ?_,
    fun forward => ?_, by decide +kernel, by decide +kernel⟩
  · have older : ((plainTrail overwritten).state.world.index.lookup upfGuard).any
        (fun entry => decide (entry.resourceVersion < (plainTrail overwritten).newest)) = true := by
      decide +kernel
    obtain ⟨entry, found, less⟩ := Option.any_eq_true _ _ |>.mp older
    exact absurd (forward.entry entry found) (not_le.mpr (of_decide_eq_true less))
  · have outlived : (plainTrail reinserted).scoringOutlived = true := by decide +kernel
    have pending : (plainTrail reinserted).state.watcherPut ≠ none := by decide +kernel
    exact pending (forward.scoring outlived)

end IndexTrail

end Sentinel5G.Controller
