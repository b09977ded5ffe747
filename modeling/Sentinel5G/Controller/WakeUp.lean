import Sentinel5G.Controller.UndoCompletion

/-! The de-escalation timer is never lost: a mitigating policy carries the time
the timer runs on, and a `Reconcile` of it undoes the mitigation or asks to be
called again by the time that is due. -/

namespace Sentinel5G.Controller

open Base Api Ebpf Program

/-- A mitigating policy has a time, in the form the API server keeps. -/
def Stamped (status : PolicyStatus) : Prop :=
  status.phase = .mitigating →
    ∃ last, status.lastMitigationTime = some last ∧ wholeSeconds last = last

def StampedAt (key other : NamespacedName) (status : PolicyStatus) : Prop :=
  other = key → Stamped status

theorem stamped_of_phase {status : PolicyStatus} (other : status.phase ≠ .mitigating) :
    Stamped status :=
  fun mitigating => absurd mitigating other

theorem stamped_stored {status : PolicyStatus}
    (timed : status.phase = .mitigating → status.lastMitigationTime.isSome) :
    Stamped status.stored := by
  intro mitigating
  obtain ⟨last, some⟩ := Option.isSome_iff_exists.mp (timed mitigating)
  refine ⟨wholeSeconds last, ?_, wholeSeconds_idem last⟩
  rw [PolicyStatus.stored, some, Option.map_some]

theorem Stamped.isSome {status : PolicyStatus} (stamped : Stamped status)
    (mitigating : status.phase = .mitigating) : status.lastMitigationTime.isSome := by
  obtain ⟨last, some, -⟩ := stamped mitigating
  rw [some]
  rfl

theorem stampedAt_respects (key : NamespacedName) : RespectsReconciler (StampedAt key) where
  stored := fun _ _ stamped same => stamped_stored (stamped same).isSome
  conditions := fun _ _ _ stamped same => stamped same
  monitoring := fun _ _ _ _ _ => stamped_of_phase PolicyPhase.noConfusion
  cleared := fun _ _ _ _ => stamped_of_phase PolicyPhase.noConfusion

section Watcher

variable {good : NamespacedName → PolicyStatus → Prop}

theorem writeStatus_tends (prev next : TelecomSecurityPolicy)
    (sends : good next.key next.status.stored) :
    Tends good (writeStatus prev next) (fun _ => True) := by
  have written : Tends good (updateStatus next) (fun _ => True) := by
    refine ⟨sends, fun answer trusted => ?_⟩
    cases answer with
    | error err => exact trivial
    | ok updated => exact ⟨trusted, fun _ _ => trivial⟩
  rw [writeStatus]
  split
  · exact written
  · refine ⟨trivial, fun allowed _ => ?_⟩
    cases allowed with
    | false => exact trivial
    | true => exact written

theorem execute_sends (watcher : ThreatScoreWatcher) (policy : TelecomSecurityPolicy)
    (wanted : Intent) (event : ThreatScoreEvent) :
    (watcher.execute policy wanted event).AsksOnly (SendsGood good) := by
  refine (watcher.execute_asks policy wanted event).mono (fun op executes => ?_)
  cases op <;> first | exact trivial | exact executes.elim

theorem applyPolicy_tends (watcher : ThreatScoreWatcher) (policy : TelecomSecurityPolicy)
    (event : ThreatScoreEvent)
    (idle : ∀ phase, (phase = .mitigating → policy.status.phase = .mitigating) →
      good policy.key (PolicyStatus.stored { policy.status with
        observedThreatScore := formatScore event.score
        phase := phase }))
    (armed : ∀ now, good policy.key
      (mitigatingStatus policy.status (intent policy event) event now).stored) :
    Tends good (watcher.applyPolicy policy event) (fun _ => True) := by
  have alerting := idle .alerting (fun impossible => by cases impossible)
  rw [ThreatScoreWatcher.applyPolicy]
  split
  · refine writeStatus_tends _ _ (idle _ (fun mitigating => ?_))
    split at mitigating
    · cases mitigating
    · exact mitigating
  · split
    · exact writeStatus_tends _ _ alerting
    · refine ⟨trivial, fun engaged _ => ?_⟩
      cases engaged with
      | true => exact writeStatus_tends _ _ alerting
      | false =>
          refine ⟨trivial, fun now _ => ?_⟩
          have written : Tends good (writeStatus policy { policy with
              status := mitigatingStatus policy.status (intent policy event) event now })
              (fun _ => True) := writeStatus_tends _ _ (armed now)
          change Vouches _ _ (writeStatus policy _ >>= _) _
          refine Vouches.bind (written.mono (fun outcome _ => ?_))
          cases outcome with
          | error err => exact trivial
          | ok done => exact (execute_sends _ _ _ _).vouches

end Watcher

theorem applyPolicy_stamps (key : NamespacedName) (watcher : ThreatScoreWatcher)
    (policy : TelecomSecurityPolicy) (event : ThreatScoreEvent) (stamped : Stamped policy.status) :
    Tends (StampedAt key) (watcher.applyPolicy policy event) (fun _ => True) :=
  applyPolicy_tends watcher policy event
    (fun _ kept _ => stamped_stored (fun mitigating => stamped.isSome (kept mitigating)))
    (fun _ _ => stamped_stored (fun _ => rfl))

structure Attended (key : NamespacedName) (world : World) : Prop where
  stored : Kept (StampedAt key) world
  indexed : ∀ policy, world.index.lookup key = some policy → Stamped policy.status
  standing : ∀ policy, some policy ∈ world.server.history key → policy.deletionTimestamp = none

section Step

variable {key : NamespacedName} {world after : World}

theorem Attended.of_frame (attended : Attended key world) (server : after.server = world.server)
    (index : after.index = world.index) : Attended key after := by
  refine ⟨attended.stored.of_server server, ?_, ?_⟩
  · rw [index]
    exact attended.indexed
  · rw [server]
    exact attended.standing

theorem exec_standing (choice : Choice) (op : Op) (attended : Attended key world)
    {policy : TelecomSecurityPolicy}
    (member : some policy ∈ (exec choice op world).2.server.history key) :
    policy.deletionTimestamp = none := by
  -- Neither of the two writes touches the mark, so a new version has its predecessor's.
  have replaced : ∀ (sent : TelecomSecurityPolicy) (next : TelecomSecurityPolicy →
      TelecomSecurityPolicy),
        (∀ current, (next current).deletionTimestamp = current.deletionTimestamp) →
      some policy ∈ (choice.write world ((world.server.replace sent next).1,
        { world with server := (world.server.replace sent next).2 })).2.server.history key →
      policy.deletionTimestamp = none := by
    intro sent next unmarked member
    rcases write_state choice world ((world.server.replace sent next).1,
      { world with server := (world.server.replace sent next).2 }) with unchanged | applied
    · rw [unchanged] at member
      exact attended.standing policy member
    · rw [applied] at member
      rcases Server.mem_history_replace member with older | ⟨current, rfl, stored, -, rfl⟩
      · exact attended.standing policy older
      · exact (unmarked current).trans
          (attended.standing current (Server.mem_history_of_persisted stored))
  by_cases writes : op.WritesServer
  · cases op with
    | updateStatus sent => exact replaced sent (Server.withStatus sent) (fun _ => rfl) member
    | update sent => exact replaced sent (Server.withObject sent) (fun _ => rfl) member
    | _ => exact writes.elim
  · rw [exec_server choice op world writes] at member
    exact attended.standing policy member

theorem exec_attended (choice : Choice) (op : Op) (sends : SendsGood (StampedAt key) op)
    (attended : Attended key world) :
    AnswersGood (StampedAt key) op (exec choice op world).1 ∧
      Attended key (exec choice op world).2 := by
  obtain ⟨answers, stored⟩ := exec_good choice op world sends attended.stored
  refine ⟨answers, stored, fun policy found => ?_,
    fun policy member => exec_standing choice op attended member⟩
  by_cases writes : op.WritesIndex
  · cases op with
    | indexPut put =>
        have same := PolicyIndex.lookup_key found
        rcases PolicyIndex.lookup_put_cases found with rfl | earlier
        · exact sends same
        · exact attended.indexed policy earlier
    | indexRemove removed => exact attended.indexed policy (PolicyIndex.lookup_of_remove found)
    | _ => exact writes.elim
  · rw [exec_index choice op world writes] at found
    exact attended.indexed policy found

theorem Attended.store (attended : Attended key world) (policy : TelecomSecurityPolicy)
    (alive : Alive policy) (stamped : Stamped policy.status)
    (unmarked : policy.deletionTimestamp = none) :
    Attended key { world with server := world.server.store key policy alive } := by
  refine ⟨attended.stored.store key policy alive (fun _ => stamped), attended.indexed,
    fun version member => ?_⟩
  rcases Server.mem_history_record (world.server.written_fresh key policy alive) member with
    ⟨-, newest⟩ | older
  · cases newest
    exact unmarked
  · exact attended.standing version older

theorem attended_create (spec : PolicySpec) (attended : Attended key world) :
    Attended key { world with server := world.server.create key spec } := by
  simp only [Server.create]
  split
  · exact attended
  · exact attended.store _ _ (stamped_of_phase PolicyPhase.noConfusion) rfl

theorem attended_editSpec (spec : PolicySpec) (attended : Attended key world) :
    Attended key { world with server := world.server.editSpec key spec } := by
  simp only [Server.editSpec]
  split
  · exact attended
  · rename_i current stored
    have known := Server.mem_history_of_persisted stored
    split
    · exact attended
    · exact attended.store _ _ (attended.stored key current known rfl)
        (attended.standing current known)

end Step

structure Carries (policy copy : TelecomSecurityPolicy) : Prop where
  key : copy.key = policy.key
  phase : copy.status.phase = policy.status.phase
  time : copy.status.lastMitigationTime = policy.status.lastMitigationTime
  drops : SameDrops copy.status policy.status

namespace Carries

variable {policy copy : TelecomSecurityPolicy}

theorem refl (policy : TelecomSecurityPolicy) : Carries policy policy := ⟨rfl, rfl, rfl, rfl, rfl⟩

theorem trans {last : TelecomSecurityPolicy} (first : Carries policy copy)
    (second : Carries copy last) : Carries policy last :=
  ⟨second.key.trans first.key, second.phase.trans first.phase, second.time.trans first.time,
    second.drops.1.trans first.drops.1, second.drops.2.trans first.drops.2⟩

theorem claims (carries : Carries policy copy) {drop : Drop} (claims : Claims policy.status drop) :
    Claims copy.status drop := by
  refine claims.mono (fun raw listed => ?_) (fun entry listed => ?_)
  · rw [carries.drops.1]
    exact listed
  · rw [carries.drops.2]
    exact listed

end Carries

section Reconcile

variable (reconciler : Reconciler) (policy : TelecomSecurityPolicy) (world : World)

theorem ensureFinalizer_carries (current : world.server.persisted policy.key = some policy) :
    (ensureFinalizer policy).Ends exec anyChoice
      (fun outcome _ => ∀ guarded, outcome = .ok guarded → Carries policy guarded) world := by
  rw [ensureFinalizer]
  split
  · intro guarded same
    cases same
    exact .refl policy
  · intro choice _
    dsimp only [Program.bind, perform]
    cases answer : (exec choice (.update { policy with
        finalizers := policy.finalizers ++ [telecomSecurityPolicyFinalizer] }) world).1 with
    | error err => exact fun _ impossible => by cases impossible
    | ok updated =>
        intro guarded same
        cases same
        obtain ⟨key, found, stored, -, status⟩ := update_answer answer
        cases current.symm.trans stored
        exact ⟨key, by rw [status], by rw [status], by rw [status], by rw [status]⟩

theorem report_carries (condition : Condition) (retryAfter : Duration)
    (kept : policy.status.lastMitigationTime.map wholeSeconds = policy.status.lastMitigationTime) :
    (Reconciler.reportScoringPipeline.report policy condition retryAfter).Ends exec anyChoice
      (fun outcome _ => ∀ pair, outcome = .ok pair → Carries policy pair.1) world := by
  intro choice _ choice _
  dsimp only [exec, Program.bind, perform]
  split
  · split
    · intro pair same
      cases same
      exact ⟨rfl, rfl, rfl, rfl, rfl⟩
    · exact fun _ impossible => by cases impossible
  · rename_i updated answer
    intro _ _ pair same
    cases same
    obtain ⟨key, status, -⟩ := updateStatus_answer answer
    refine ⟨key, by rw [status]; rfl, ?_, by rw [status]; rfl, by rw [status]; rfl⟩
    rw [status]
    exact kept

theorem reportScoringPipeline_carries
    (kept : policy.status.lastMitigationTime.map wholeSeconds = policy.status.lastMitigationTime) :
    (reconciler.reportScoringPipeline policy).Ends exec anyChoice
      (fun outcome _ => ∀ pair, outcome = .ok pair → Carries policy pair.1) world := by
  have unchanged : ∀ (retry : Duration) (pair : TelecomSecurityPolicy × Duration),
      (Except.ok (policy, retry) : Except Err _) = .ok pair → Carries policy pair.1 := by
    intro retry pair same
    cases same
    exact .refl policy
  rw [Reconciler.reportScoringPipeline]
  split
  · intro choice _
    dsimp only [exec, Program.bind, perform]
    split
    · split
      · exact unchanged _
      · exact report_carries policy world _ _ kept
    · exact report_carries policy world _ _ kept
  · exact unchanged 0

/-- A de-escalation that succeeds has waited for the rest of the dwell, or has
cleared the status after it. -/
theorem tryDeEscalate_settles {last : Time}
    (stamped : policy.status.lastMitigationTime = some last) :
    (reconciler.tryDeEscalate policy).Ends exec anyChoice
      (fun outcome final => ∀ result, outcome = .ok result →
        (0 < result.requeueAfter ∧
          result.requeueAfter = reconciler.deEscalationDwell - (world.clock - last)) ∨
        (reconciler.deEscalationDwell ≤ world.clock - last ∧
          Undo.Leaves .deEscalate policy.key final)) world := by
  rw [Reconciler.tryDeEscalate, stamped]
  intro choice _
  dsimp only [exec, Program.bind, perform]
  split
  · rename_i early
    intro result same
    cases same
    exact .inl ⟨early, rfl⟩
  · rename_i late
    have due := Int.le_of_sub_nonpos (Int.not_lt.mp late)
    refine Ends.bind ((ends_ambient _ world).mono (fun outcome middle _ => ?_))
    cases outcome with
    | error err => exact fun _ impossible => by cases impossible
    | ok done =>
        refine Ends.bind ((ends_ambient _ middle).mono (fun outcome later _ => ?_))
        cases outcome with
        | error err => exact fun _ impossible => by cases impossible
        | ok done =>
            intro choice _
            dsimp only [Program.bind]
            split
            · exact fun _ impossible => by cases impossible
            · rename_i updated answer
              obtain ⟨stored, status⟩ := exec_updateStatus_ok answer
              intro _ _ result _
              refine .inr ⟨due, updated, stored, ?_⟩
              rw [status]
              exact ⟨rfl, rfl, rfl⟩

theorem withSoonerRequeue_bounds (result : Result) (after : Duration)
    (positive : 0 < result.requeueAfter) :
    0 < (withSoonerRequeue result after).requeueAfter ∧
      (withSoonerRequeue result after).requeueAfter ≤ result.requeueAfter := by
  rw [withSoonerRequeue]
  split
  · exact ⟨positive, le_rfl⟩
  · rename_i later
    split
    · rename_i sooner
      rcases sooner with zero | shorter
      · exact absurd zero positive.ne'
      · exact ⟨not_le.mp later, shorter.le⟩
    · exact ⟨positive, le_rfl⟩

/-- What a successful `Reconcile` of a mitigating policy does about its timer: the
dwell is over and the mitigation undone, or it comes back by the end of the dwell. -/
def Wakes (last : Time) (result : Result) (final : World) : Prop :=
  (last + reconciler.deEscalationDwell ≤ world.clock ∧
    Undo.Leaves .deEscalate policy.key final ∧
    (reconciler.blocklist = true → ∀ drop, Claims policy.status drop →
      ¬ final.loader.Holds drop)) ∨
  (0 < result.requeueAfter ∧
    world.clock + result.requeueAfter ≤ last + reconciler.deEscalationDwell)

theorem tryDeEscalate_wakes {last : Time} (retry : Duration)
    (stamped : policy.status.lastMitigationTime = some last) :
    (reconciler.tryDeEscalate policy).Ends exec anyChoice
      (fun outcome final => ∀ result, outcome = .ok result →
        Wakes reconciler policy world last (withSoonerRequeue result retry) final) world := by
  refine (Ends.and (tryDeEscalate_settles reconciler policy world stamped)
    (Undo.tryDeEscalate_ends reconciler policy world)).mono
      (fun outcome final ended result success => ?_)
  rcases ended.1 result success with ⟨positive, waits⟩ | ⟨due, leaves⟩
  · obtain ⟨later, sooner⟩ := withSoonerRequeue_bounds result retry positive
    refine .inr ⟨later, ?_⟩
    calc world.clock + (withSoonerRequeue result retry).requeueAfter
        ≤ world.clock + (reconciler.deEscalationDwell - (world.clock - last)) := by
          rw [← waits]
          exact Int.add_le_add_left sooner _
      _ = last + reconciler.deEscalationDwell := by ring
  · refine .inl ⟨?_, leaves, fun wired drop claims held => ?_⟩
    · rw [Int.add_comm]
      exact Int.add_le_of_le_sub_right due
    · have ended := (ended.2 result success).1 ⟨last, stamped, due⟩
      exact ((ended.kernel drop).mp held).2 ⟨wired, claims⟩

theorem Wakes.of_carries {reconciler : Reconciler} {policy copy : TelecomSecurityPolicy}
    {world later final : World} {last : Time} {result : Result}
    (wakes : Wakes reconciler copy later last result final) (carries : Carries policy copy)
    (clock : later.clock = world.clock) : Wakes reconciler policy world last result final := by
  rw [Wakes, clock, carries.key] at wakes
  refine wakes.imp_left (fun woken => ⟨woken.1, woken.2.1, fun wired drop claims => ?_⟩)
  exact woken.2.2 wired drop (carries.claims claims)

theorem exec_getPolicy_current {choice : Choice} {key : NamespacedName}
    {policy : TelecomSecurityPolicy} {world : World} (fresh : choice.lag key = 0)
    (current : world.server.persisted key = some policy) :
    (exec choice (.getPolicy key) world).1 = .ok policy ∨
      ∃ text, (exec choice (.getPolicy key) world).1 = .error (errorf text) := by
  simp only [exec, fresh, Server.cached_zero, current, Choice.read]
  split
  · exact .inl rfl
  · exact .inr ⟨_, rfl⟩
  · exact .inr ⟨_, rfl⟩

/-- A successful `Reconcile` that reads the stored, mitigating version. -/
theorem reconcile_wakes {last : Time} (script : Nat → Choice) (result : Result)
    (current : world.server.persisted policy.key = some policy)
    (standing : policy.deletionTimestamp = none) (mitigating : policy.status.phase = .mitigating)
    (stamped : policy.status.lastMitigationTime = some last) (whole : wholeSeconds last = last)
    (fresh : (script 0).lag policy.key = 0)
    (success : ((reconciler.reconcile policy.key).run exec script world).1 = .ok result) :
    Wakes reconciler policy world last result
      ((reconciler.reconcile policy.key).run exec script world).2 := by
  rw [Reconciler.reconcile, perform_bind, Program.run] at success ⊢
  rcases exec_getPolicy_current fresh current with answer | ⟨text, answer⟩
  · rw [answer] at success ⊢
    dsimp only at success ⊢
    rw [if_neg (by rw [standing]; simp)] at success ⊢
    have whole : policy.status.lastMitigationTime.map wholeSeconds =
        policy.status.lastMitigationTime := by rw [stamped, Option.map_some, whole]
    refine (show Ends exec anyChoice _ (fun (outcome : Except Err Result) (final : World) =>
      ∀ result, outcome = .ok result → Wakes reconciler policy world last result final) world
        from ?_).run (permits_any _ _ _) result success
    refine Ends.bind ((Ends.and (ends_ambient _ world)
      (ensureFinalizer_carries policy world current)).mono (fun outcome middle ended => ?_))
    cases outcome with
    | error err => exact fun _ impossible => by cases impossible
    | ok guarded =>
        have first := ended.2 guarded rfl
        intro choice _
        have late : ¬ (guarded.status.phase = .unset ∨ guarded.status.phase = .pending) := by
          rw [first.phase, mitigating]
          decide
        dsimp only [Program.bind]
        rw [startMonitoring, if_neg late]
        change Ends exec anyChoice (reconciler.reportScoringPipeline guarded >>= _) _ _
        refine Ends.bind ((Ends.and (ends_ambient _ _) (reportScoringPipeline_carries reconciler
          guarded _ (by rw [first.time, whole]))).mono (fun outcome later reported => ?_))
        cases outcome with
        | error err => exact fun _ impossible => by cases impossible
        | ok pair =>
            have carried := first.trans (reported.2 pair rfl)
            have clock : later.clock = world.clock :=
              reported.1.clock.trans ended.1.clock
            dsimp only
            rw [if_pos (carried.phase.trans mitigating)]
            refine Ends.bind ((tryDeEscalate_wakes reconciler pair.1 later pair.2
              (carried.time.trans stamped)).mono (fun outcome final wakes => ?_))
            cases outcome with
            | error err => exact fun _ impossible => by cases impossible
            | ok slept =>
                intro result same
                cases same
                exact (wakes slept rfl).of_carries carried clock
  · rw [answer] at success
    cases success

end Reconcile

namespace Interleaving

structure InHand (key : NamespacedName) (state : Interleaving) : Prop where
  attended : Attended key state.world
  scoring : ∀ call, state.scoring = some call →
    Tends (StampedAt key) call.rest (fun _ => True)
  reconciling : ∀ run, state.reconciling = some run →
    Tends (StampedAt key) run.rest (fun _ => True)

variable {operator : Operator} {key : NamespacedName} {state : Interleaving}

theorem InHand.act (inHand : InHand key state) {world : World} (attended : Attended key world) :
    InHand key { state with world := world } :=
  ⟨attended, inHand.scoring, inHand.reconciling⟩

theorem next_inHand (move : Move) (kept : move ≠ .requestDelete) (inHand : InHand key state) :
    InHand key (state.next operator key move) := by
  cases move with
  | score event =>
      rw [next]
      split
      · rename_i policy free indexed
        refine ⟨inHand.attended, fun call same => ?_, inHand.reconciling⟩
        cases same
        exact applyPolicy_stamps key _ policy event (inHand.attended.indexed policy indexed)
      · exact inHand
  | scoreStep choice =>
      rw [next]
      split
      · rename_i policy event op rest settled flight
        have tends := inHand.scoring _ flight
        obtain ⟨answers, attended⟩ := exec_attended choice op tends.1 inHand.attended
        refine ⟨attended, fun call same => ?_, fun run flying => ?_⟩
        · cases same
          exact tends.2 _ answers
        · obtain ⟨before, flown, rfl⟩ := Option.map_eq_some_iff.mp flying
          exact inHand.reconciling before flown
      · exact inHand
  | scoreEnd =>
      rw [next]
      split
      · exact ⟨inHand.attended, fun _ none => (by cases none), inHand.reconciling⟩
      · exact inHand
  | reconcile =>
      rw [next]
      split
      · refine ⟨inHand.attended, inHand.scoring, fun run same => ?_⟩
        cases same
        exact reconcile_tends (stampedAt_respects key) operator.reconciler key
      · exact inHand
  | reconcileStep choice =>
      rw [next]
      split
      · rename_i op rest basis kernels flight
        have tends := inHand.reconciling _ flight
        obtain ⟨answers, attended⟩ := exec_attended choice op tends.1 inHand.attended
        refine ⟨attended, inHand.scoring, fun run same => ?_⟩
        cases same
        exact tends.2 _ answers
      · exact inHand
  | reconcileEnd =>
      rw [next]
      split
      · exact ⟨inHand.attended, inHand.scoring, fun _ none => (by cases none)⟩
      · exact inHand
  | create spec => exact inHand.act (attended_create spec inHand.attended)
  | editSpec spec => exact inHand.act (attended_editSpec spec inHand.attended)
  | requestDelete => exact absurd rfl kept
  | setKillSwitch engaged => exact inHand.act (inHand.attended.of_frame rfl rfl)
  | setLimiter allows => exact inHand.act (inHand.attended.of_frame rfl rfl)
  | advance elapsed => exact inHand.act (inHand.attended.of_frame rfl rfl)

def Untouched (key : NamespacedName) (world : World) : Prop :=
  ∀ policy, some policy ∈ world.server.history key →
    policy.status = .initial ∧ policy.deletionTimestamp = none

theorem untouched_inHand (fresh : state.Fresh) (untouched : Untouched key state.world) :
    InHand key state := by
  obtain ⟨unscored, unreconciled, empty⟩ := fresh
  refine ⟨⟨fun other policy member same => ?_, fun policy found => ?_,
    fun policy member => (untouched policy member).2⟩, fun call flight => ?_, fun run flight => ?_⟩
  · subst same
    rw [(untouched policy member).1]
    exact stamped_of_phase PolicyPhase.noConfusion
  · rw [empty, PolicyIndex.lookup, PolicyIndex.names, PolicyIndex.new] at found
    simp at found
  · cases unscored.symm.trans flight
  · cases unreconciled.symm.trans flight

/-- However scores and reconciles interleave, a mitigating policy has a time, and
a successful `Reconcile` that reads it as it is stored undoes the mitigation once
the dwell is over, or comes back by then. Only the stored policies need be those
of the run: the kernel, the mesh, the clock and the scoring pipeline may be any. -/
theorem no_lost_wake_up (operator : Operator) (key : NamespacedName) (start : Interleaving)
    (moves : List Move) (fresh : start.Fresh) (untouched : Untouched key start.world)
    (kept : Move.requestDelete ∉ moves) (policy : TelecomSecurityPolicy)
    (stored : (runMoves (next operator key) start moves).world.server.persisted key = some policy)
    (mitigating : policy.status.phase = .mitigating) :
    ∃ last, policy.status.lastMitigationTime = some last ∧
      ∀ (world : World) (script : Nat → Choice) (result : Result),
        world.server = (runMoves (next operator key) start moves).world.server →
        (script 0).lag key = 0 →
        ((operator.reconciler.reconcile key).run exec script world).1 = .ok result →
        Wakes operator.reconciler policy world last result
          ((operator.reconciler.reconcile key).run exec script world).2 := by
  have moved : AllMoves (next operator key) (fun _ move => move ≠ .requestDelete) start moves :=
    allMoves_of_forall (fun _ move member same => kept (same ▸ member))
  have inHand : InHand key (runMoves (next operator key) start moves) :=
    runMoves_invariant moves (fun _ move kept held => next_inHand move kept held)
      (untouched_inHand fresh untouched) moved
  have known := Server.mem_history_of_persisted stored
  obtain ⟨last, stamped, whole⟩ := inHand.attended.stored key policy known rfl mitigating
  refine ⟨last, stamped, fun world script result same lagless success => ?_⟩
  have named := Server.persisted_key stored
  subst named
  rw [← same] at stored
  exact reconcile_wakes operator.reconciler policy world script result stored
    (inHand.attended.standing policy known) mitigating stamped whole lagless success

theorem no_lost_wake_up_quiet :
    ∃ policy last, (runMoves (next plainOperator upfGuard) starting
        mitigatedAndQuiet).world.server.persisted upfGuard = some policy ∧
      Recorded policy.status ∧ policy.status.phase = .mitigating ∧
      Wakes plainOperator.reconciler policy
        (runMoves (next plainOperator upfGuard) starting mitigatedAndQuiet).world last .none
        ((plainOperator.reconciler.reconcile upfGuard).run exec quietly
          (runMoves (next plainOperator upfGuard) starting mitigatedAndQuiet).world).2 := by
  have mitigates : ((runMoves (next plainOperator upfGuard) starting
      mitigatedAndQuiet).world.server.persisted upfGuard).any (fun policy =>
        decide (Recorded policy.status ∧ policy.status.phase = .mitigating)) = true := by
    decide +kernel
  have success : ((plainOperator.reconciler.reconcile upfGuard).run exec quietly
      (runMoves (next plainOperator upfGuard) starting mitigatedAndQuiet).world).1 = .ok .none := by
    decide +kernel
  have created : (starting.world.server.history upfGuard).all (fun version => version.all
      (fun policy => decide (policy.status = .initial ∧ policy.deletionTimestamp = none))) =
        true := by decide +kernel
  have untouched : Untouched upfGuard starting.world := fun policy member =>
    of_decide_eq_true (List.all_eq_true.mp created (some policy) member)
  obtain ⟨policy, stored, held⟩ := Option.any_eq_true _ _ |>.mp mitigates
  obtain ⟨recorded, mitigating⟩ := of_decide_eq_true held
  obtain ⟨last, -, wakes⟩ := no_lost_wake_up plainOperator upfGuard starting mitigatedAndQuiet
    ⟨rfl, rfl, rfl⟩ untouched
      (by simp [mitigatedAndQuiet, aboutToBlock, reconcileAlone, scoreSteps])
    policy stored mitigating
  exact ⟨policy, last, stored, recorded, mitigating, wakes _ quietly .none rfl rfl success⟩

end Interleaving

end Sentinel5G.Controller
