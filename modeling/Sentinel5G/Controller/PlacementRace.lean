import Sentinel5G.Controller.CrashConsistency
import Sentinel5G.Controller.Interleaving

namespace Sentinel5G.Controller

open Base Api Ebpf Program

def MayAct (rest : Action (Except Err Unit)) : Prop :=
  ¬ rest.AsksOnly (fun op => ¬ op.WritesKernel)

theorem MayAct.of_next {op : Op} {next : op.Answer → Action (Except Err Unit)} {answer : op.Answer}
    (acts : MayAct (next answer)) : MayAct (.ask op next) :=
  fun idle => acts (idle.2 answer)

theorem MayAct.next {op : Op} {next : op.Answer → Action (Except Err Unit)}
    (frame : ¬ op.WritesKernel) (acts : MayAct (.ask op next)) :
    ∃ answer, MayAct (next answer) := by
  by_contra idle
  refine acts ⟨frame, fun answer => ?_⟩
  by_contra busy
  exact idle ⟨answer, busy⟩

section Prepare

variable (policy : TelecomSecurityPolicy) (event : ThreatScoreEvent)

def Late (put : TelecomSecurityPolicy → Prop) (op : Op) : Prop :=
  (∃ updated, op = .indexPut updated ∧ put updated) ∨
    ThreatScoreWatcher.Executes (intent policy event) event op

/-- What may follow once `status` is the settled one: a kernel call only comes
where it claims what is placed. -/
def Follows (put : TelecomSecurityPolicy → Prop) (status : PolicyStatus)
    (rest : Action (Except Err Unit)) : Prop :=
  rest.AsksOnly (Late policy event put) ∧
    (MayAct rest → ∀ drop, Wants policy event drop → Claims status drop)

def Prepares : Action (Except Err Unit) → Prop
  | .done _ => True
  | .ask (.updateStatus sent) next =>
      sent.key = policy.key ∧ sent.resourceVersion = policy.resourceVersion ∧
        (∀ err, (next (.error err)).AsksOnly (fun _ => False)) ∧
        ∀ updated, Follows policy event (· = updated) sent.status (next (.ok updated))
  | .ask (.allow _) next =>
      Prepares (next true) ∧ Follows policy event (fun _ => False) policy.status (next false)
  | .ask .engaged next => ∀ engaged, Prepares (next engaged)
  | .ask .now next => ∀ now, Prepares (next now)
  | .ask _ _ => False

variable {policy event}

theorem updateStatus_prepares {next : TelecomSecurityPolicy}
    {after : Except Err Unit → Action (Except Err Unit)} (key : next.key = policy.key)
    (version : next.resourceVersion = policy.resourceVersion)
    (stops : ∀ err, (after (.error err)).AsksOnly (fun _ => False))
    (acts : (after (.ok ())).AsksOnly (ThreatScoreWatcher.Executes (intent policy event) event))
    (covered : MayAct (after (.ok ())) → ∀ drop, Wants policy event drop →
      Claims next.status drop) :
    Prepares policy event (updateStatus next >>= after) := by
  refine ⟨key, version, fun err => stops _, fun updated => ⟨?_, fun busy => ?_⟩⟩
  · exact ⟨.inl ⟨updated, rfl, rfl⟩, fun _ => acts.mono (fun _ => .inr)⟩
  · obtain ⟨_, later⟩ := busy.next id
    exact covered later

theorem writeStatus_prepares {next : TelecomSecurityPolicy}
    {after : Except Err Unit → Action (Except Err Unit)} (key : next.key = policy.key)
    (version : next.resourceVersion = policy.resourceVersion)
    (stops : ∀ err, (after (.error err)).AsksOnly (fun _ => False))
    (acts : (after (.ok ())).AsksOnly (ThreatScoreWatcher.Executes (intent policy event) event))
    (covered : MayAct (after (.ok ())) → ∀ drop, Wants policy event drop →
      Claims next.status drop)
    (unchanged : MayAct (after (.ok ())) → statusDecisionChanged policy next = false →
      ∀ drop, Wants policy event drop → Claims policy.status drop) :
    Prepares policy event (writeStatus policy next >>= after) := by
  rw [writeStatus]
  split
  · exact updateStatus_prepares key version stops acts covered
  · rename_i same
    refine ⟨updateStatus_prepares key version stops acts covered,
      acts.mono (fun _ => .inr), fun busy => ?_⟩
    exact unchanged busy (by simpa using same)

theorem observe_prepares {next : TelecomSecurityPolicy} (key : next.key = policy.key)
    (version : next.resourceVersion = policy.resourceVersion) :
    Prepares policy event (writeStatus policy next) := by
  have idle : ¬ MayAct (.done (.ok ())) := fun busy => busy trivial
  rw [← bind_done (writeStatus policy next)]
  exact writeStatus_prepares key version (fun _ => trivial) trivial (fun busy => absurd busy idle)
    (fun busy => absurd busy idle)

theorem applyPolicy_prepares (watcher : ThreatScoreWatcher) (policy : TelecomSecurityPolicy)
    (event : ThreatScoreEvent) : Prepares policy event (watcher.applyPolicy policy event) := by
  rw [ThreatScoreWatcher.applyPolicy]
  split
  · exact observe_prepares rfl rfl
  · split
    · exact observe_prepares rfl rfl
    · intro engaged
      cases engaged with
      | true => exact observe_prepares rfl rfl
      | false =>
          intro now
          refine writeStatus_prepares rfl rfl
            (fun _ => trivial) (watcher.execute_asks policy _ event)
              (fun _ drop wants => mitigatingStatus_claims wants)
            (fun _ same drop wants => unchanged_claims wants same)

end Prepare

namespace Interleaving

def Committed (call : Scoring) : Prop := call.settled = true ∧ MayAct call.rest

def Applies (key : NamespacedName) (choice : Choice) (world : World)
    (sent current : TelecomSecurityPolicy) : Prop :=
  sent.key = key ∧ world.server.persisted key = some current ∧
    sent.resourceVersion = current.resourceVersion ∧ ∀ text, choice.fault ≠ .refused text

/-- The call takes the record away: it clears a status that records drops, or
gives up the last finalizer. -/
def Withdraws (key : NamespacedName) (choice : Choice) (world : World) : Op → Prop
  | .updateStatus sent => ∃ current, Applies key choice world sent current ∧
      Recorded current.status ∧ ¬ Recorded sent.status
  | .update sent => (∃ current, Applies key choice world sent current) ∧ sent.finalizers = []
  | _ => False

/-- While a call of the watcher is committed, the reconciler does not take the
record away; and a write ahead of a kernel call is withheld only on the stored
version. -/
def Orderly (key : NamespacedName) (state : Interleaving) : Move → Prop
  | .reconcileStep choice => ∀ call op rest basis kernels, state.scoring = some call →
      Committed call → state.reconciling = some ⟨.ask op rest, basis, kernels⟩ →
      ¬ Withdraws key choice state.world op
  | .scoreStep _ => ∀ policy event name rest settled,
      state.scoring = some ⟨policy, event, .ask (.allow name) rest, settled⟩ →
      state.world.allows name = false → MayAct (rest false) →
      state.world.server.persisted key = some policy
  | _ => True

/-- If the next call of the watcher places a drop, the policy is stored and its
status claims the drop. -/
def PlacesClaimed (key : NamespacedName) (state : Interleaving) : Prop :=
  ∀ call placing rest drop, state.scoring = some call →
    call.rest = .ask (.ofCall placing) rest → placing.Places drop →
    ∃ current, state.world.server.persisted key = some current ∧ Claims current.status drop

def Backed (key : NamespacedName) (call : Scoring) (world : World) : Prop :=
  ∃ current, world.server.persisted key = some current ∧ current.finalizers ≠ [] ∧
    ∀ drop, Wants call.policy call.event drop → Claims current.status drop

/-- How far the call of the watcher is, and what that implies. -/
structure Tracked (key : NamespacedName) (call : Scoring) (world : World) : Prop where
  sameKey : call.policy.key = key
  guarded : Guarded world call.policy
  early : call.settled = false → Prepares call.policy call.event call.rest
  late : call.settled = true →
    call.rest.AsksOnly (Late call.policy call.event (Guarded world)) ∧
      (MayAct call.rest → Backed key call world)

theorem Late.mono {policy : TelecomSecurityPolicy} {event : ThreatScoreEvent}
    {put wider : TelecomSecurityPolicy → Prop} (implies : ∀ updated, put updated → wider updated)
    {op : Op} (late : Late policy event put op) : Late policy event wider op := by
  refine late.imp_left ?_
  rintro ⟨updated, same, held⟩
  exact ⟨updated, same, implies updated held⟩

theorem Tracked.evolves {key : NamespacedName} {call : Scoring} {before after : World}
    (tracked : Tracked key call before) (evolves : Evolves before after)
    (backed : Committed call → Backed key call before → Backed key call after) :
    Tracked key call after where
  sameKey := tracked.sameKey
  guarded := tracked.guarded.evolves evolves
  early := tracked.early
  late := by
    intro settled
    obtain ⟨asks, held⟩ := tracked.late settled
    exact ⟨asks.mono (fun _ => Late.mono (fun _ guarded => guarded.evolves evolves)),
      fun acts => backed ⟨settled, acts⟩ (held acts)⟩

theorem Backed.congr {key : NamespacedName} {call : Scoring} {before after : World}
    (backed : Backed key call before)
    (same : after.server.persisted key = before.server.persisted key) : Backed key call after := by
  obtain ⟨current, stored, held, claims⟩ := backed
  exact ⟨current, same.trans stored, held, claims⟩

theorem Backed.acts {key : NamespacedName} {call : Scoring} {before after : World}
    (backed : Backed key call before) (acts : Acts key before after) : Backed key call after := by
  obtain ⟨current, stored, held, claims⟩ := backed
  obtain ⟨kept, found, status, finalizers⟩ := acts.stays current stored held
  refine ⟨kept, found, finalizers ▸ held, fun drop wants => ?_⟩
  rw [status]
  exact claims drop wants

theorem claims_of_sameDrops {first second : PolicyStatus} {drop : Drop}
    (same : SameDrops first second) (claims : Claims second drop) : Claims first drop :=
  claims.mono (fun _ listed => same.1 ▸ listed) (fun _ listed => same.2 ▸ listed)

theorem recorded_of_claims {status : PolicyStatus} {drop : Drop} (claims : Claims status drop) :
    Recorded status := by
  cases claims with
  | source raw address listed parsed => exact .inl (List.ne_nil_of_mem listed)
  | tunnel entry address teid listed parsed => exact .inr (List.ne_nil_of_mem listed)

theorem write_refused {α : Type} {choice : Choice} {text : String}
    (refused : choice.fault = .refused text) (world : World) (effect : Except Err α × World) :
    (choice.write world effect).2 = world := by
  rw [Choice.write, refused]

theorem write_replace_cases (choice : Choice) (world : World) (sent : TelecomSecurityPolicy)
    (next : TelecomSecurityPolicy → TelecomSecurityPolicy) (key : NamespacedName) :
    (choice.write world ((world.server.replace sent next).1,
        { world with server := (world.server.replace sent next).2 })).2.server.persisted key =
      world.server.persisted key ∨
    ∃ current, Applies key choice world sent current ∧
      ((choice.write world ((world.server.replace sent next).1,
          { world with server := (world.server.replace sent next).2 })).2.server.persisted key =
        some (world.server.written key (next current)) ∨
      (next current).finalizers = []) := by
  by_cases refused : ∃ text, choice.fault = .refused text
  · obtain ⟨text, refused⟩ := refused
    exact .inl (by rw [write_refused refused])
  · rcases write_state choice world ((world.server.replace sent next).1,
      { world with server := (world.server.replace sent next).2 }) with unchanged | applied
    · exact .inl (by rw [unchanged])
    · rw [applied]
      refine (Server.persisted_replace_cases world.server sent next key).imp_right ?_
      rintro ⟨current, sameKey, stored, sameVersion, effect⟩
      refine ⟨current, ⟨sameKey.symm, stored, sameVersion, fun text same => refused ⟨text, same⟩⟩,
        effect.imp_right (fun gone => gone.2.1)⟩

/-- A grounded call that does not withdraw the record leaves it. -/
theorem Backed.exec {reconciler : Reconciler} {key : NamespacedName} {call : Scoring}
    {choice : Choice} {op : Op} {world : World} {basis : Option Basis}
    (backed : Backed key call world) (grounded : Grounded reconciler op (world, basis))
    (leaves : ¬ Withdraws key choice world op) :
    Backed key call (Controller.exec choice op world).2 := by
  by_cases writes : op.WritesServer
  · have before := backed
    obtain ⟨kept, stored, held, claims⟩ := backed
    cases op with
    | updateStatus sent =>
        rcases write_replace_cases choice world sent (Server.withStatus sent) key with
          same | ⟨current, applies, effect⟩
        · exact before.congr same
        · cases stored.symm.trans applies.2.1
          rcases effect with written | gone
          · refine ⟨_, written, held, fun drop wants => claims_stored.mpr ?_⟩
            obtain ⟨ground, -, known, sameVersion, drops⟩ := grounded
            rw [applies.1] at known
            have copy := Server.persisted_unique known stored
              (sameVersion.symm.trans applies.2.2.1)
            rcases drops with same | cleared
            · exact claims_of_sameDrops same (copy ▸ claims drop wants)
            · exact absurd ⟨kept, applies, recorded_of_claims (claims drop wants), cleared⟩ leaves
          · exact absurd gone held
    | update sent =>
        rcases write_replace_cases choice world sent (Server.withObject sent) key with
          same | ⟨current, applies, effect⟩
        · exact before.congr same
        · cases stored.symm.trans applies.2.1
          rcases effect with written | gone
          · exact ⟨_, written, fun free => leaves ⟨⟨kept, applies⟩, free⟩, claims⟩
          · exact absurd ⟨⟨kept, applies⟩, gone⟩ leaves
    | _ => exact writes.elim
  · exact backed.congr (by rw [exec_server choice op world writes])

theorem prepares_of_idle {policy : TelecomSecurityPolicy} {event : ThreatScoreEvent}
    {rest : Action (Except Err Unit)} (idle : rest.AsksOnly (fun _ => False)) :
    Prepares policy event rest := by
  cases rest with
  | done value => trivial
  | ask op next => exact idle.1.elim

def Indexed (world : World) : Prop :=
  ∀ other copy, world.index.lookup other = some copy → Guarded world copy

theorem Indexed.evolves {before after : World} (indexed : Indexed before)
    (evolves : Evolves before after) (same : after.index = before.index) : Indexed after := by
  intro other copy found
  rw [same] at found
  exact (indexed other copy found).evolves evolves

theorem Indexed.exec {world : World} {op : Op} (indexed : Indexed world) (choice : Choice)
    (puts : ∀ policy, op = .indexPut policy → Guarded world policy) :
    Indexed (Controller.exec choice op world).2 := by
  have evolves := exec_evolves choice op world
  by_cases writes : op.WritesIndex
  · intro other copy found
    cases op with
    | indexPut policy =>
        rcases PolicyIndex.lookup_put_cases found with rfl | before
        · exact (puts copy rfl).evolves evolves
        · exact (indexed other copy before).evolves evolves
    | indexRemove key =>
        exact (indexed other copy (PolicyIndex.lookup_of_remove found)).evolves evolves
    | _ => exact writes.elim
  · exact indexed.evolves evolves (exec_index choice op world writes)

theorem late_server {policy : TelecomSecurityPolicy} {event : ThreatScoreEvent}
    {put : TelecomSecurityPolicy → Prop} {op : Op} (late : Late policy event put op) :
    ¬ op.WritesServer := by
  rcases late with ⟨updated, rfl, -⟩ | executes
  · exact id
  · exact ThreatScoreWatcher.executes_frame op executes

theorem prepares_puts {policy : TelecomSecurityPolicy} {event : ThreatScoreEvent} {op : Op}
    {next : op.Answer → Action (Except Err Unit)} (prepares : Prepares policy event (.ask op next))
    (put : TelecomSecurityPolicy) : op ≠ .indexPut put := by
  rintro rfl
  exact prepares

theorem late_puts {policy put : TelecomSecurityPolicy} {event : ThreatScoreEvent}
    {good : TelecomSecurityPolicy → Prop} (late : Late policy event good (.indexPut put)) :
    good put := by
  rcases late with ⟨updated, same, held⟩ | executes
  · cases same
    exact held
  · exact executes.elim

section Scored

variable {key : NamespacedName} {policy : TelecomSecurityPolicy} {event : ThreatScoreEvent}
  {world : World}

theorem tracked_updateStatus {sent : TelecomSecurityPolicy}
    {rest : Except Err TelecomSecurityPolicy → Action (Except Err Unit)}
    (tracked : Tracked key ⟨policy, event, .ask (.updateStatus sent) rest, false⟩ world)
    (choice : Choice) :
    Tracked key ⟨policy, event, rest (exec choice (.updateStatus sent) world).1,
      settles (.updateStatus sent) (exec choice (.updateStatus sent) world).1⟩
      (exec choice (.updateStatus sent) world).2 := by
  obtain ⟨sameKey, sameVersion, stops, follows⟩ := tracked.early rfl
  have guarded := tracked.guarded
  have evolves := exec_evolves choice (.updateStatus sent) world
  cases answer : (exec choice (.updateStatus sent) world).1 with
  | error err =>
      exact ⟨tracked.sameKey, guarded.evolves evolves, fun _ => prepares_of_idle (stops err),
        fun impossible => by cases impossible⟩
  | ok updated =>
      have stored := exec_updateStatus_ok answer
      have held := exec_updateStatus_guarded guarded sameKey.symm sameVersion answer
      refine ⟨tracked.sameKey, guarded.evolves evolves, by simp [settles],
        fun _ => ⟨(follows updated).1.mono (fun _ => Late.mono ?_), fun acts => ?_⟩⟩
      · rintro put rfl
        exact held
      · refine ⟨updated, ?_, List.ne_nil_of_mem held.2, fun drop wants => ?_⟩
        · rw [← tracked.sameKey, ← sameKey]
          exact stored.1
        · rw [stored.2]
          exact claims_stored.mpr ((follows updated).2 acts drop wants)

/-- The limiter lets the write through, or it withholds it on the stored version. -/
theorem tracked_allow {name : NamespacedName} {rest : Bool → Action (Except Err Unit)}
    (tracked : Tracked key ⟨policy, event, .ask (.allow name) rest, false⟩ world)
    (current : world.allows name = false → MayAct (rest false) →
      world.server.persisted key = some policy) :
    Tracked key ⟨policy, event, rest (world.allows name),
      settles (.allow name) (world.allows name)⟩ world := by
  obtain ⟨writes, withheld⟩ := tracked.early rfl
  cases allowed : world.allows name with
  | true =>
      exact ⟨tracked.sameKey, tracked.guarded, fun _ => writes,
        fun impossible => by cases impossible⟩
  | false =>
      refine ⟨tracked.sameKey, tracked.guarded, by simp [settles],
        fun _ => ⟨withheld.1.mono (fun _ => Late.mono (fun _ none => none.elim)), fun acts => ?_⟩⟩
      exact ⟨policy, current allowed acts, List.ne_nil_of_mem tracked.guarded.2,
        withheld.2 acts⟩

theorem tracked_late {op : Op} {rest : op.Answer → Action (Except Err Unit)}
    (tracked : Tracked key ⟨policy, event, .ask op rest, true⟩ world) (choice : Choice) :
    Tracked key ⟨policy, event, rest (exec choice op world).1, true⟩ (exec choice op world).2 := by
  obtain ⟨asks, backed⟩ := tracked.late rfl
  have evolves := exec_evolves choice op world
  refine ⟨tracked.sameKey, tracked.guarded.evolves evolves, by simp,
    fun _ => ⟨(asks.2 _).mono (fun _ => Late.mono (fun _ held => held.evolves evolves)),
      fun acts => ?_⟩⟩
  exact (backed (MayAct.of_next acts)).congr
    (by rw [exec_server choice op world (late_server asks.1)])

theorem tracked_scored {op : Op} {rest : op.Answer → Action (Except Err Unit)} {settled : Bool}
    (tracked : Tracked key ⟨policy, event, .ask op rest, settled⟩ world) (choice : Choice)
    (current : ∀ name (same : op = .allow name), world.allows name = false →
      MayAct (rest (same ▸ false)) → world.server.persisted key = some policy) :
    Tracked key ⟨policy, event, rest (exec choice op world).1,
      settled || settles op (exec choice op world).1⟩ (exec choice op world).2 := by
  cases settled with
  | true => exact tracked_late tracked choice
  | false =>
      have prepares := tracked.early rfl
      cases op with
      | updateStatus sent => exact tracked_updateStatus tracked choice
      | allow name => exact tracked_allow tracked (current name rfl)
      | engaged =>
          exact ⟨tracked.sameKey, tracked.guarded, fun _ => prepares _,
            fun impossible => by cases impossible⟩
      | now =>
          exact ⟨tracked.sameKey, tracked.guarded, fun _ => prepares _,
            fun impossible => by cases impossible⟩
      | _ => exact prepares.elim

end Scored

structure Sound (operator : Operator) (key : NamespacedName) (state : Interleaving) : Prop where
  founded : Founded operator state
  indexed : Indexed state.world
  tracked : ∀ call, state.scoring = some call → Tracked key call state.world

variable {operator : Operator} {key : NamespacedName} {state after : Interleaving} {move : Move}

theorem Sound.scored (sound : Sound operator key state) {policy : TelecomSecurityPolicy}
    {event : ThreatScoreEvent} {op : Op} {rest : op.Answer → Action (Except Err Unit)}
    {settled : Bool} {choice : Choice} (orderly : Orderly key state (.scoreStep choice))
    (flight : state.scoring = some ⟨policy, event, .ask op rest, settled⟩) :
    Indexed (exec choice op state.world).2 ∧
      Tracked key ⟨policy, event, rest (exec choice op state.world).1,
        settled || settles op (exec choice op state.world).1⟩ (exec choice op state.world).2 := by
  have tracked := sound.tracked _ flight
  constructor
  · refine sound.indexed.exec choice (fun put same => ?_)
    cases settled with
    | false => exact absurd same (prepares_puts (tracked.early rfl) put)
    | true =>
        subst same
        exact late_puts (tracked.late rfl).1.1
  · refine tracked_scored tracked choice (fun name same => ?_)
    subst same
    exact orderly policy event name rest settled flight

theorem Sound.reconciled (sound : Sound operator key state) {op : Op}
    {rest : op.Answer → Action (Except Err Result)} {basis : Option Basis} {kernels : List Loader}
    {choice : Choice} (orderly : Orderly key state (.reconcileStep choice))
    (flight : state.reconciling = some ⟨.ask op rest, basis, kernels⟩) :
    Indexed (exec choice op state.world).2 ∧
      ∀ call, state.scoring = some call → Tracked key call (exec choice op state.world).2 := by
  have grounded := sound.founded.ready flight
  constructor
  · refine sound.indexed.exec choice (fun put same => ?_)
    subst same
    exact grounded
  · intro call flying
    refine (sound.tracked call flying).evolves (exec_evolves choice op state.world)
      (fun committed backed => ?_)
    exact backed.exec grounded (orderly call op rest basis kernels flying committed flight)

theorem Sound.step (sound : Sound operator key state) (orderly : Orderly key state move)
    (step : Step operator key state move after) : Sound operator key after := by
  refine ⟨sound.founded.step step, ?_, ?_⟩
  · cases step with
    | scored policy event op rest settled choice flight => exact (sound.scored orderly flight).1
    | reconciled op rest basis kernels choice flight => exact (sound.reconciled orderly flight).1
    | act move world acts => exact sound.indexed.evolves acts.evolves acts.index
    | _ => exact sound.indexed
  · intro call flying
    cases step with
    | idle move => exact sound.tracked call flying
    | take policy event free indexed =>
        cases flying
        have guarded := sound.indexed key policy indexed
        exact ⟨PolicyIndex.key_of_names indexed, guarded,
          fun _ => applyPolicy_prepares operator.watcher policy event,
            fun impossible => by cases impossible⟩
    | scored policy event op rest settled choice flight =>
        cases flying
        exact (sound.scored orderly flight).2
    | leave move => cases flying
    | begin free => exact sound.tracked call flying
    | reconciled op rest basis kernels choice flight =>
        exact (sound.reconciled orderly flight).2 call flying
    | finish move => exact sound.tracked call flying
    | act move world acts =>
        exact (sound.tracked call flying).evolves acts.evolves (fun _ backed => backed.acts acts)

theorem Fresh.sound (operator : Operator) (key : NamespacedName) (fresh : state.Fresh) :
    Sound operator key state := by
  obtain ⟨idle, resting, empty⟩ := fresh
  refine ⟨fun run flying => ?_, fun other copy found => ?_, fun call flying => ?_⟩
  · rw [resting] at flying
    cases flying
  · rw [empty] at found
    simp [PolicyIndex.lookup, PolicyIndex.names, PolicyIndex.new] at found
  · rw [idle] at flying
    cases flying

theorem wants_of_executes {policy : TelecomSecurityPolicy} {event : ThreatScoreEvent}
    {placing : BlocklistCall} {drop : Drop} (places : placing.Places drop)
    (executes : ThreatScoreWatcher.Executes (intent policy event) event (.ofCall placing)) :
    Wants policy event drop := by
  cases placing with
  | block ip =>
      obtain ⟨address, long, rfl⟩ := places
      obtain ⟨blocks, parsed⟩ := executes
      change parseIP event.sourceIP = some ip at parsed
      exact ⟨blocks, address_of_parse (parseIP_length _ _ parsed) long ▸ parsed⟩
  | blockTunnel ip teid =>
      obtain ⟨address, long, -, rfl⟩ := places
      obtain ⟨blocks, parsed, rfl⟩ := executes
      change parseIP event.sourceIP = some ip at parsed
      exact ⟨blocks, address_of_parse (parseIP_length _ _ parsed) long ▸ parsed, rfl⟩
  | unblock ip => exact places.elim
  | unblockTunnel ip teid => exact places.elim

theorem ofCall_writesKernel (call : BlocklistCall) : (Op.ofCall call).WritesKernel := by
  cases call <;> trivial

theorem Sound.placesClaimed (sound : Sound operator key state) : PlacesClaimed key state := by
  intro call placing rest drop flying calls places
  have tracked := sound.tracked call flying
  obtain ⟨policy, event, program, settled⟩ := call
  cases calls
  cases settled with
  | false =>
      have prepares := tracked.early rfl
      cases placing <;> exact prepares.elim
  | true =>
      obtain ⟨asks, backed⟩ := tracked.late rfl
      have acts : MayAct (.ask (.ofCall placing) rest) := fun idle =>
        idle.1 (ofCall_writesKernel placing)
      obtain ⟨current, stored, -, claims⟩ := backed acts
      refine ⟨current, stored, claims drop ?_⟩
      rcases asks.1 with ⟨updated, same, -⟩ | executes
      · cases placing <;> cases same
      · exact wants_of_executes places executes

/-- In every orderly interleaving, a drop is recorded when it is placed. -/
theorem placed_drops_are_claimed (operator : Operator) (key : NamespacedName)
    (start : Interleaving) (moves : List Move) (fresh : start.Fresh)
    (orderly : AllMoves (next operator key) (Orderly key) start moves) :
    PlacesClaimed key (runMoves (next operator key) start moves) := by
  have sound := runMoves_invariant moves
    (fun state move allowed sound => sound.step allowed (next_step operator key state move))
    (fresh.sound operator key) orderly
  exact sound.placesClaimed

def Scoring.placing (call : Scoring) : Option BlocklistCall :=
  match call.rest with
  | .ask (.block ip) _ => some (.block ip)
  | .ask (.blockTunnel ip teid) _ => some (.blockTunnel ip teid)
  | _ => none

theorem Scoring.placing_some {call : Scoring} {placing : BlocklistCall}
    (comes : Scoring.placing call = some placing) :
    ∃ rest, call.rest = .ask (.ofCall placing) rest := by
  rw [Scoring.placing] at comes
  split at comes
  · cases comes
    exact ⟨_, ‹_›⟩
  · cases comes
    exact ⟨_, ‹_›⟩
  · cases comes

def starting : Interleaving := ⟨guarded, none, none⟩

def scoreSteps (count : Nat) : List Move := List.replicate count (.scoreStep .quiet)

def reconcileAlone (count : Nat) : List Move :=
  .reconcile :: (List.replicate count (.reconcileStep .quiet) ++ [.reconcileEnd])

def aboutToBlock : List Move :=
  reconcileAlone 5 ++ .score (tunnelScore "10.0.0.1" 1) :: scoreSteps 4

def calm (state : Interleaving) : Move → Bool
  | .reconcileStep _ => state.scoring.isNone
  | .scoreStep _ => state.scoring.all (fun call =>
      match call.rest with
      | .ask (.allow _) _ => false
      | _ => true)
  | _ => true

theorem orderly_of_calm {key : NamespacedName} (state : Interleaving) (move : Move)
    (quiet : calm state move = true) : Orderly key state move := by
  cases move with
  | reconcileStep choice =>
      intro call op rest basis kernels flying
      rw [calm, flying] at quiet
      cases quiet
  | scoreStep choice =>
      intro policy event name rest settled flying
      rw [calm, flying] at quiet
      cases quiet
  | _ => trivial

def tunnelSeven : BlocklistCall := .blockTunnel attacker.val 7

theorem tunnelSeven_places : tunnelSeven.Places (.tunnel attacker 7) :=
  ⟨attacker, by decide +kernel, by decide, rfl⟩

theorem recorded_tunnel_is_placed : ∃ current,
    (runMoves (next plainOperator upfGuard) starting aboutToBlock).world.server.persisted upfGuard =
      some current ∧ Claims current.status (.tunnel attacker 7) := by
  have comes : (runMoves (next plainOperator upfGuard) starting aboutToBlock).scoring.any
      (fun call => decide (Scoring.placing call = some tunnelSeven)) = true := by decide +kernel
  have quiet : AllMoves (next plainOperator upfGuard) (fun state move => calm state move = true)
      starting aboutToBlock := by decide +kernel
  obtain ⟨call, flying, placing⟩ := Option.any_eq_true _ _ |>.mp comes
  obtain ⟨rest, calls⟩ := Scoring.placing_some (of_decide_eq_true placing)
  exact placed_drops_are_claimed plainOperator upfGuard starting aboutToBlock ⟨rfl, rfl, rfl⟩
    (quiet.mono orderly_of_calm) call tunnelSeven rest _ flying calls tunnelSeven_places

def finalizedUnderneath : List Move := aboutToBlock ++ .requestDelete :: reconcileAlone 12

def clearedUnderneath : List Move :=
  aboutToBlock ++ scoreSteps 2 ++ [.scoreEnd, .setLimiter (fun _ => false),
    .advance 300000000000, .score (tunnelScore "10.0.0.1" 1)] ++ scoreSteps 2 ++
    reconcileAlone 12 ++ scoreSteps 1

theorem unrecorded_tunnel_is_placed :
    starting.Fresh ∧
    ¬ PlacesClaimed upfGuard (runMoves (next plainOperator upfGuard) starting finalizedUnderneath) ∧
    ¬ PlacesClaimed upfGuard
      (runMoves (next plainOperator upfGuard) starting clearedUnderneath) := by
  have unclaimed : ∀ moves,
      (runMoves (next plainOperator upfGuard) starting moves).scoring.any
        (fun call => decide (Scoring.placing call = some tunnelSeven)) = true →
      ((runMoves (next plainOperator upfGuard) starting moves).world.server.persisted upfGuard).all
        (fun current => decide (current.status.blockedTunnels = [])) = true →
      ¬ PlacesClaimed upfGuard (runMoves (next plainOperator upfGuard) starting moves) := by
    intro moves comes bare claimed
    obtain ⟨call, flying, placing⟩ := Option.any_eq_true _ _ |>.mp comes
    obtain ⟨rest, calls⟩ := Scoring.placing_some (of_decide_eq_true placing)
    obtain ⟨current, stored, claims⟩ := claimed call tunnelSeven rest _ flying calls
      tunnelSeven_places
    rw [stored, Option.all_some, decide_eq_true_eq] at bare
    cases claims with
    | tunnel entry address teid listed parsed =>
        rw [bare] at listed
        cases listed
  exact ⟨⟨rfl, rfl, rfl⟩, unclaimed _ (by decide +kernel) (by decide +kernel),
    unclaimed _ (by decide +kernel) (by decide +kernel)⟩

end Interleaving

end Sentinel5G.Controller
