import Sentinel5G.Controller.Grounds

namespace Sentinel5G.Controller

open Base Api Ebpf Program

structure Notes where
  /-- The version that `Get` returned. -/
  read : Option TelecomSecurityPolicy
  /-- The version the last call was answered, if it can be indexed as it is. -/
  offered : Option TelecomSecurityPolicy
  /-- The last call gave up the finalizer. -/
  released : Bool
  /-- The entry has been removed. -/
  removed : Bool

namespace Notes

def start : Notes := ⟨none, none, false, false⟩

def Indexable (policy : TelecomSecurityPolicy) : Prop :=
  policy.deletionTimestamp = none ∧ telecomSecurityPolicyFinalizer ∈ policy.finalizers

instance (policy : TelecomSecurityPolicy) : Decidable (Indexable policy) :=
  inferInstanceAs (Decidable (_ ∧ _))

def hear (notes : Notes) : (op : Op) → op.Answer → Notes
  | .getPolicy _, .ok policy =>
      { notes with
        read := some policy
        offered := if Indexable policy then some policy else none
        released := false }
  | .update sent, .ok updated =>
      { notes with
        offered := some updated
        released := decide (telecomSecurityPolicyFinalizer ∉ sent.finalizers) }
  | .updateStatus _, .ok updated => { notes with offered := some updated, released := false }
  | .indexRemove _, _ => { notes with offered := none, released := false, removed := true }
  | _, _ => { notes with offered := none, released := false }

end Notes

theorem hear_released {notes : Notes} {op : Op} {answer : op.Answer}
    (released : (notes.hear op answer).released = true) :
    ∃ sent updated, (⟨op, answer⟩ : Exchange Op.Answer) = ⟨.update sent, .ok updated⟩ ∧
      telecomSecurityPolicyFinalizer ∉ sent.finalizers := by
  cases op with
  | update sent =>
      cases answer with
      | error err => cases released
      | ok updated => exact ⟨sent, updated, rfl, of_decide_eq_true released⟩
  | getPolicy request => cases answer <;> cases released
  | updateStatus sent => cases answer <;> cases released
  | _ => cases released

def attend : Handler Op.Answer (World × Choice) Notes := fun surroundings op notes =>
  ((exec surroundings.2 op surroundings.1).1,
    notes.hear op (exec surroundings.2 op surroundings.1).1)

/-- The policy's calls come in order: nothing follows a removal. -/
def Proper (key : NamespacedName) (op : Op) (notes : Notes) : Prop :=
  notes.removed = false ∧
    match op with
    | .indexPut policy => notes.offered = some policy
    | .indexRemove _ => notes.read = none ∨ notes.released = true
    | .updateStatus sent => sent.key = key
    | .update sent => sent.key = key ∧ ∃ policy, notes.read = some policy ∧
        sent.resourceVersion = policy.resourceVersion ∧
        (telecomSecurityPolicyFinalizer ∉ sent.finalizers →
          telecomSecurityPolicyFinalizer ∈ policy.finalizers)
    | .getPolicy request => request = key
    | _ => True

def InTurn (key : NamespacedName) {α : Type} (program : Action α) (post : α → Notes → Prop)
    (notes : Notes) : Prop :=
  program.Endures attend Eq (Proper key) post notes

section Rules

variable {key : NamespacedName} {α β : Type} {program : Action α} {notes : Notes}

theorem inTurn_done {value : α} {post : α → Notes → Prop} (holds : post value notes) :
    InTurn key (.done value) post notes := by
  rintro _ rfl
  exact holds

theorem inTurn_over {value : α} : InTurn key (.done value) (fun _ _ => True) notes :=
  inTurn_done trivial

theorem InTurn.bind {rest : α → Action β} {post : β → Notes → Prop}
    (first : InTurn key program (fun value middle => InTurn key (rest value) post middle) notes) :
    InTurn key (program >>= rest) post notes :=
  Endures.bind (fun _ => rfl) first

theorem InTurn.mono {post wider : α → Notes → Prop} (inTurn : InTurn key program post notes)
    (implies : ∀ value final, post value final → wider value final) :
    InTurn key program wider notes :=
  Endures.mono inTurn implies

theorem inTurn_ask {op : Op} {next : op.Answer → Action α} {post : α → Notes → Prop}
    (proper : Proper key op notes)
    (rest : ∀ world choice, InTurn key (next (exec choice op world).1) post
      (notes.hear op (exec choice op world).1)) :
    InTurn key (.ask op next) post notes := by
  rintro _ rfl
  exact ⟨proper, fun surroundings => rest surroundings.1 surroundings.2⟩

theorem InTurn.proper {op : Op} {next : op.Answer → Action α} {post : α → Notes → Prop}
    (inTurn : InTurn key (.ask op next) post notes) : Proper key op notes :=
  (inTurn notes rfl).1

theorem InTurn.next {op : Op} {next : op.Answer → Action α} {post : α → Notes → Prop}
    (inTurn : InTurn key (.ask op next) post notes) (choice : Choice) (world : World) :
    InTurn key (next (exec choice op world).1) post (notes.hear op (exec choice op world).1) :=
  (inTurn notes rfl).2 (world, choice)

def Plain : Op → Prop
  | .getPolicy _ => False
  | .update _ => False
  | .updateStatus _ => False
  | .indexPut _ => False
  | .indexRemove _ => False
  | _ => True

theorem proper_plain {op : Op} (plain : Plain op) (standing : notes.removed = false) :
    Proper key op notes := by
  refine ⟨standing, ?_⟩
  cases op <;> first | exact trivial | exact plain.elim

theorem hear_plain {op : Op} (plain : Plain op) (answer : op.Answer) :
    notes.hear op answer = { notes with offered := none, released := false } := by
  cases op <;> first | rfl | exact plain.elim

def Minds (read : Option TelecomSecurityPolicy) (notes : Notes) : Prop :=
  notes.removed = false ∧ notes.read = read

theorem inTurn_plain {read : Option TelecomSecurityPolicy} (asks : program.AsksOnly Plain)
    (minds : Minds read notes) : InTurn key program (fun _ after => Minds read after) notes := by
  refine Endures.of_asksOnly asks ?_ ?_ ?_ minds
  · rintro before _ rfl held
    exact held
  · intro surroundings op current plain held
    dsimp only [attend]
    rw [hear_plain plain]
    exact held
  · exact fun op current plain held => proper_plain plain held.1

theorem inTurn_updateStatus {sent : TelecomSecurityPolicy}
    {next : Except Err TelecomSecurityPolicy → Action α} {post : α → Notes → Prop}
    (sameKey : sent.key = key) (standing : notes.removed = false)
    (failed : ∀ err after, after.removed = false → InTurn key (next (.error err)) post after)
    (stored : ∀ updated after, updated.key = key → after.removed = false →
      after.offered = some updated → InTurn key (next (.ok updated)) post after) :
    InTurn key (.ask (.updateStatus sent) next) post notes := by
  refine inTurn_ask ⟨standing, sameKey⟩ (fun world choice => ?_)
  cases answer : (exec choice (.updateStatus sent) world).1 with
  | error err => exact failed err _ standing
  | ok updated =>
      exact stored updated _ ((updateStatus_answer answer).1.trans sameKey) standing rfl

theorem inTurn_indexPut {policy : TelecomSecurityPolicy} {next : Unit → Action α}
    {post : α → Notes → Prop} (standing : notes.removed = false)
    (offered : notes.offered = some policy)
    (rest : ∀ after, after.removed = false → InTurn key (next ()) post after) :
    InTurn key (.ask (.indexPut policy) next) post notes :=
  inTurn_ask ⟨standing, offered⟩ (fun _ _ => rest _ standing)

end Rules

section Reconcile

variable {key : NamespacedName} {notes : Notes} {policy : TelecomSecurityPolicy}

theorem undoes_plain {status : PolicyStatus} (op : Op) (undoes : Undoes status op) : Plain op := by
  cases op <;> first | exact trivial | exact undoes.elim

theorem onMesh_plain (op : Op) (mesh : Mesh.OnMesh op) : Plain op := by
  cases op <;> first | exact trivial | exact mesh.elim

theorem ensureFinalizer_inTurn (sameKey : policy.key = key) (standing : notes.removed = false)
    (read : notes.read = some policy)
    (offered : telecomSecurityPolicyFinalizer ∈ policy.finalizers → notes.offered = some policy) :
    InTurn key (ensureFinalizer policy) (fun outcome after => ∀ guarded, outcome = .ok guarded →
      guarded.key = key ∧ after.removed = false ∧ after.offered = some guarded) notes := by
  rw [ensureFinalizer]
  split
  · rename_i present
    refine inTurn_done (fun guarded same => ?_)
    cases same
    exact ⟨sameKey, standing, offered present⟩
  · refine inTurn_ask ⟨standing, sameKey, policy, read, rfl, fun absent => ?_⟩
      (fun world choice => ?_)
    · exact absurd (List.mem_append_right _ List.mem_cons_self) absent
    · cases answer : (exec choice (.update { policy with
          finalizers := policy.finalizers ++ [telecomSecurityPolicyFinalizer] }) world).1 with
      | error err => exact inTurn_done (fun _ impossible => by cases impossible)
      | ok updated =>
          refine inTurn_done (fun guarded same => ?_)
          cases same
          exact ⟨(update_answer answer).1.trans sameKey, standing, rfl⟩

theorem startMonitoring_inTurn (sameKey : policy.key = key) (standing : notes.removed = false) :
    InTurn key (startMonitoring policy) (fun outcome after => ∀ monitored, outcome = .ok monitored →
      monitored.key = key ∧ after.removed = false) notes := by
  rw [startMonitoring]
  split
  · refine inTurn_updateStatus sameKey standing (fun err after _ => ?_)
      (fun updated after updatedKey standing offered => inTurn_indexPut standing offered
        (fun last standing => ?_))
    · exact inTurn_done (fun _ impossible => by cases impossible)
    · refine inTurn_done (fun monitored same => ?_)
      cases same
      exact ⟨updatedKey, standing⟩
  · refine inTurn_done (fun monitored same => ?_)
    cases same
    exact ⟨sameKey, standing⟩

theorem report_inTurn (sameKey : policy.key = key) (standing : notes.removed = false)
    (condition : Condition) (retryAfter : Duration) :
    InTurn key (Reconciler.reportScoringPipeline.report policy condition retryAfter)
      (fun outcome after => ∀ reported retry, outcome = .ok (reported, retry) →
        reported.key = key ∧ after.removed = false) notes := by
  refine inTurn_ask (proper_plain trivial standing) (fun world choice => ?_)
  refine inTurn_updateStatus sameKey standing (fun err after standing => ?_)
    (fun updated after updatedKey standing offered => inTurn_indexPut standing offered
      (fun last standing => ?_))
  · dsimp only [Program.bind]
    split
    · refine inTurn_done (fun reported retry same => ?_)
      cases same
      exact ⟨sameKey, standing⟩
    · exact inTurn_done (fun _ _ impossible => by cases impossible)
  · refine inTurn_done (fun reported retry same => ?_)
    cases same
    exact ⟨updatedKey, standing⟩

theorem reportScoringPipeline_inTurn (reconciler : Reconciler) (sameKey : policy.key = key)
    (standing : notes.removed = false) :
    InTurn key (reconciler.reportScoringPipeline policy)
      (fun outcome after => ∀ reported retry, outcome = .ok (reported, retry) →
        reported.key = key ∧ after.removed = false) notes := by
  have unchanged : ∀ (retry : Duration) (after : Notes), after.removed = false →
      InTurn key (.done (.ok (policy, retry)) : Action
        (Except Err (TelecomSecurityPolicy × Duration)))
          (fun outcome after => ∀ reported retry, outcome = .ok (reported, retry) →
          reported.key = key ∧ after.removed = false) after := by
    intro retry after standing
    refine inTurn_done (fun reported retry same => ?_)
    cases same
    exact ⟨sameKey, standing⟩
  rw [Reconciler.reportScoringPipeline]
  split
  · refine inTurn_ask (proper_plain trivial standing) (fun world choice => ?_)
    have still : (notes.hear .scoringStatus (exec choice .scoringStatus world).1).removed = false :=
      standing
    dsimp only [Program.bind, perform]
    split
    · split
      · exact unchanged _ _ still
      · exact report_inTurn sameKey still _ _
    · exact report_inTurn sameKey still _ _
  · exact unchanged 0 notes standing

theorem tryDeEscalate_inTurn (reconciler : Reconciler) (sameKey : policy.key = key)
    (standing : notes.removed = false) :
    InTurn key (reconciler.tryDeEscalate policy) (fun _ _ => True) notes := by
  rw [Reconciler.tryDeEscalate]
  split
  · exact inTurn_over
  · refine inTurn_ask (proper_plain trivial standing) (fun world choice => ?_)
    dsimp only [Program.bind, perform]
    split
    · exact inTurn_over
    · have minds : Minds notes.read (notes.hear .now (exec choice .now world).1) := ⟨standing, rfl⟩
      refine InTurn.bind ((inTurn_plain ((reconciler.undoBlocks_asks _ policy).mono undoes_plain)
        minds).mono (fun outcome middle minds => ?_))
      cases outcome with
      | error err => exact inTurn_over
      | ok done =>
          have released : Program.AsksOnly Plain (if policy.spec.actions.isolatePod then
              reconciler.undoQuarantine "de-escalate: " policy else pure (.ok ())) := by
            split
            · exact (reconciler.undoQuarantine_asks _ policy).mono onMesh_plain
            · exact trivial
          refine InTurn.bind ((inTurn_plain released minds).mono (fun freed after minds => ?_))
          cases freed with
          | error err => exact inTurn_over
          | ok done =>
              exact inTurn_updateStatus sameKey minds.1 (fun err after _ => inTurn_over)
                (fun updated after _ standing offered => inTurn_indexPut standing offered
                  (fun last _ => inTurn_over))

theorem finalize_inTurn (reconciler : Reconciler) (sameKey : policy.key = key)
    (minds : Minds (some policy) notes) :
    InTurn key (reconciler.finalize policy) (fun _ _ => True) notes := by
  rw [Reconciler.finalize]
  split
  · rename_i present
    refine InTurn.bind ((inTurn_plain ((reconciler.undoQuarantine_asks "" policy).mono onMesh_plain)
      minds).mono (fun freed middle minds => ?_))
    cases freed with
    | error err => exact inTurn_over
    | ok done =>
        refine InTurn.bind ((inTurn_plain ((reconciler.undoBlocks_asks "" policy).mono undoes_plain)
          minds).mono (fun unblocked after minds => ?_))
        cases unblocked with
        | error err => exact inTurn_over
        | ok done =>
            refine inTurn_ask ⟨minds.1, sameKey, policy, minds.2, rfl, fun _ => present⟩
              (fun world choice => ?_)
            cases (exec choice (.update { policy with
                finalizers := policy.finalizers.filter (· ≠ telecomSecurityPolicyFinalizer) })
                world).1 with
            | error err => exact inTurn_over
            | ok updated =>
                refine inTurn_ask ⟨minds.1, .inr ?_⟩ (fun world choice => inTurn_over)
                simp [Notes.hear]
  · exact inTurn_over

/-- Every index call of a `Reconcile` is in order. -/
theorem reconcile_inTurn (reconciler : Reconciler) (key : NamespacedName) :
    InTurn key (reconciler.reconcile key) (fun _ _ => True) .start := by
  refine inTurn_ask ⟨rfl, rfl⟩ (fun world choice => ?_)
  cases answer : (exec choice (.getPolicy key) world).1 with
  | error err =>
      dsimp only [Program.bind]
      split
      · exact inTurn_ask ⟨rfl, .inl rfl⟩ (fun _ _ => inTurn_over)
      · exact inTurn_over
  | ok policy =>
      have sameKey : policy.key = key := exec_getPolicy_key answer
      dsimp only [Program.bind]
      split
      · exact finalize_inTurn reconciler sameKey ⟨rfl, rfl⟩
      · rename_i live
        refine InTurn.bind ((ensureFinalizer_inTurn sameKey rfl rfl (fun present => ?_)).mono
          (fun outcome middle handed => ?_))
        · exact if_pos ⟨by simpa using live, present⟩
        · cases outcome with
          | error err => exact inTurn_over
          | ok guarded =>
              obtain ⟨guardedKey, standing, offered⟩ := handed guarded rfl
              refine inTurn_indexPut standing offered (fun after standing => ?_)
              change InTurn key (startMonitoring guarded >>= _) _ _
              refine InTurn.bind ((startMonitoring_inTurn guardedKey standing).mono
                (fun outcome middle handed => ?_))
              cases outcome with
              | error err => exact inTurn_over
              | ok monitored =>
                  obtain ⟨monitoredKey, standing⟩ := handed monitored rfl
                  refine InTurn.bind ((reportScoringPipeline_inTurn reconciler monitoredKey
                    standing).mono
                    (fun outcome middle handed => ?_))
                  cases outcome with
                  | error err => exact inTurn_over
                  | ok pair =>
                      obtain ⟨reportedKey, standing⟩ := handed pair.1 pair.2 rfl
                      dsimp only [Program.bind]
                      split
                      · refine InTurn.bind
                          ((tryDeEscalate_inTurn reconciler reportedKey standing).mono
                            (fun result final _ => ?_))
                        cases result <;> exact inTurn_over
                      · exact inTurn_over

end Reconcile

section Score

variable {key : NamespacedName} {notes : Notes}

theorem executes_plain {wanted : Intent} {event : ThreatScoreEvent} (op : Op)
    (executes : ThreatScoreWatcher.Executes wanted event op) : Plain op := by
  cases op <;> first | exact trivial | exact executes.elim

theorem updateStatus_inTurn {sent : TelecomSecurityPolicy} (sameKey : sent.key = key)
    (standing : notes.removed = false) :
    InTurn key (updateStatus sent) (fun _ after => after.removed = false) notes :=
  inTurn_updateStatus sameKey standing (fun _ _ standing => inTurn_done standing)
    (fun _ _ _ standing offered => inTurn_indexPut standing offered
      (fun _ standing => inTurn_done standing))

theorem writeStatus_inTurn {prev next : TelecomSecurityPolicy} (sameKey : next.key = key)
    (standing : notes.removed = false) :
    InTurn key (writeStatus prev next) (fun _ after => after.removed = false) notes := by
  rw [writeStatus]
  split
  · exact updateStatus_inTurn sameKey standing
  · refine inTurn_ask (proper_plain trivial standing) (fun world choice => ?_)
    dsimp only [Program.bind]
    split
    · exact updateStatus_inTurn sameKey standing
    · exact inTurn_done standing

theorem applyPolicy_inTurn (watcher : ThreatScoreWatcher) {policy : TelecomSecurityPolicy}
    (event : ThreatScoreEvent) (sameKey : policy.key = key) :
    InTurn key (watcher.applyPolicy policy event) (fun _ _ => True) .start := by
  have observes : ∀ (next : TelecomSecurityPolicy) (notes : Notes), next.key = key →
      notes.removed = false → InTurn key (writeStatus policy next) (fun _ _ => True) notes :=
    fun next notes sameKey standing =>
      (writeStatus_inTurn sameKey standing).mono (fun _ _ _ => trivial)
  rw [ThreatScoreWatcher.applyPolicy]
  split
  · exact observes _ _ sameKey rfl
  · split
    · exact observes _ _ sameKey rfl
    · refine inTurn_ask (proper_plain trivial rfl) (fun world choice => ?_)
      dsimp only [Program.bind]
      split
      · exact observes _ _ sameKey rfl
      · refine inTurn_ask (proper_plain trivial rfl) (fun world choice => ?_)
        change InTurn key (writeStatus policy _ >>= _) _ _
        refine InTurn.bind (InTurn.mono (writeStatus_inTurn ?_ rfl)
          (fun outcome after standing => ?_))
        · exact sameKey
        cases outcome with
        | error err => exact inTurn_done trivial
        | ok done =>
            exact (inTurn_plain ((watcher.execute_asks policy _ event).mono executes_plain)
              ⟨standing, rfl⟩).mono (fun _ _ _ => trivial)

def Scores (policy : TelecomSecurityPolicy) : Op → Prop
  | .updateStatus sent => sent.key = policy.key ∧ sent.resourceVersion = policy.resourceVersion
  | .indexPut _ => True
  | op => Plain op

theorem scores_plain {policy : TelecomSecurityPolicy} (op : Op) (plain : Plain op) :
    Scores policy op := by
  cases op <;> first | exact plain | exact plain.elim

theorem applyPolicy_scores (watcher : ThreatScoreWatcher) (policy : TelecomSecurityPolicy)
    (event : ThreatScoreEvent) : (watcher.applyPolicy policy event).AsksOnly (Scores policy) := by
  refine watcher.applyPolicy_asksOnly trivial trivial trivial (fun _ => ⟨rfl, rfl⟩)
    (fun _ => trivial) ?_
  exact (watcher.execute_asks policy _ event).mono
    (fun op executes => scores_plain op (executes_plain op executes))

end Score

end Sentinel5G.Controller
