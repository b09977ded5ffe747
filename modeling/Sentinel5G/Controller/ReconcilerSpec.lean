import Sentinel5G.Controller.Reconciler
import Sentinel5G.Controller.Versions

namespace Sentinel5G.Controller

open Base Api Ebpf Program

def Undoes (status : PolicyStatus) : Op → Prop
  | .unblock ip => ∃ raw ∈ status.blockedSourceIPs, parseIP raw = some ip
  | .unblockTunnel ip teid => ∃ entry ∈ status.blockedTunnels, parseTunnel entry = .ok (ip, teid)
  | _ => False

theorem undoes_frame {status : PolicyStatus} (op : Op) (undoes : Undoes status op) :
    ¬ op.WritesServer := by
  cases op <;> first | exact id | exact undoes.elim

theorem onMesh_frame (op : Op) (mesh : Mesh.OnMesh op) : ¬ op.WritesServer := by
  cases op <;> first | exact id | exact mesh.elim

theorem unblockSources_asks (context : String) (policy : TelecomSecurityPolicy)
    (status : PolicyStatus) (raws : List String)
    (listed : ∀ raw ∈ raws, raw ∈ status.blockedSourceIPs) :
    (unblockSources context policy raws).AsksOnly (Undoes status) := by
  induction raws with
  | nil => exact trivial
  | cons raw rest ih =>
      have later := ih (fun other member => listed other (List.mem_cons_of_mem _ member))
      rw [unblockSources]
      split
      · exact later
      · rename_i ip parsed
        refine ⟨⟨raw, listed raw List.mem_cons_self, parsed⟩, fun answer => ?_⟩
        cases answer with
        | error err => exact trivial
        | ok done => exact later

theorem unblockTunnels_asks (context : String) (policy : TelecomSecurityPolicy)
    (status : PolicyStatus) (entries : List String)
    (listed : ∀ entry ∈ entries, entry ∈ status.blockedTunnels) :
    (unblockTunnels context policy entries).AsksOnly (Undoes status) := by
  induction entries with
  | nil => exact trivial
  | cons entry rest ih =>
      have later := ih (fun other member => listed other (List.mem_cons_of_mem _ member))
      rw [unblockTunnels]
      split
      · exact later
      · rename_i ip teid parsed
        refine ⟨⟨entry, listed entry List.mem_cons_self, parsed⟩, fun answer => ?_⟩
        cases answer with
        | error err => exact trivial
        | ok done => exact later

namespace Reconciler

theorem undoBlocks_asks (reconciler : Reconciler) (context : String)
    (policy : TelecomSecurityPolicy) :
    (reconciler.undoBlocks context policy).AsksOnly (Undoes policy.status) := by
  rw [undoBlocks]
  split
  · refine (unblockSources_asks context policy policy.status _ (fun _ => id)).bind
      (fun outcome => ?_)
    cases outcome with
    | error err => exact trivial
    | ok done => exact unblockTunnels_asks context policy policy.status _ (fun _ => id)
  · exact trivial

theorem undoQuarantine_deletes (reconciler : Reconciler) (context : String)
    (policy : TelecomSecurityPolicy) :
    (reconciler.undoQuarantine context policy).AsksOnly Mesh.Deletes := by
  rw [undoQuarantine]
  split
  · refine (Mesh.Adapter.release_deletes _ _ _).bind (fun outcome => ?_)
    cases outcome <;> exact trivial
  · exact trivial

theorem undoQuarantine_asks (reconciler : Reconciler) (context : String)
    (policy : TelecomSecurityPolicy) :
    (reconciler.undoQuarantine context policy).AsksOnly Mesh.OnMesh :=
  (reconciler.undoQuarantine_deletes context policy).mono Mesh.deletes_onMesh

end Reconciler

/-- A property of statuses that every write of the reconciler respects. -/
structure RespectsReconciler (good : NamespacedName → PolicyStatus → Prop) : Prop where
  stored : ∀ key status, good key status → good key status.stored
  conditions : ∀ key status conditions, good key status →
    good key { status with conditions := conditions }
  monitoring : ∀ key status, good key status → status.phase = .unset ∨ status.phase = .pending →
    good key { status with phase := .monitoring }
  cleared : ∀ key status, good key status →
    good key { status with blockedSourceIPs := [], blockedTunnels := [], phase := .monitoring }

variable {good : NamespacedName → PolicyStatus → Prop}

def SendsGood (good : NamespacedName → PolicyStatus → Prop) : Op → Prop
  | .updateStatus sent => good sent.key sent.status.stored
  | .indexPut policy => good policy.key policy.status
  | _ => True

def AnswersGood (good : NamespacedName → PolicyStatus → Prop) : (op : Op) → op.Answer → Prop
  | .getPolicy _, .ok policy => good policy.key policy.status
  | .updateStatus _, .ok policy => good policy.key policy.status
  | .update _, .ok policy => good policy.key policy.status
  | _, _ => True

/-- While the versions are good, good calls are answered well and keep them so. -/
theorem exec_good (choice : Choice) (op : Op) (world : World) (sends : SendsGood good op)
    (kept : Kept good world) :
    AnswersGood good op (exec choice op world).1 ∧ Kept good (exec choice op world).2 := by
  cases op with
  | getPolicy key =>
      refine ⟨?_, kept⟩
      cases answer : (exec choice (.getPolicy key) world).1 with
      | error err => exact trivial
      | ok policy => exact kept policy.key policy (exec_getPolicy_ok answer)
  | updateStatus sent =>
      refine ⟨?_, exec_updateStatus_kept choice sent world kept (fun _ _ _ => sends)⟩
      cases answer : (exec choice (.updateStatus sent) world).1 with
      | error err => exact trivial
      | ok updated =>
          obtain ⟨sameKey, status, -⟩ := updateStatus_answer answer
          rw [AnswersGood, sameKey, status]
          exact sends
  | update sent =>
      refine ⟨?_, exec_update_kept choice sent world kept⟩
      cases answer : (exec choice (.update sent) world).1 with
      | error err => exact trivial
      | ok updated =>
          obtain ⟨sameKey, current, found, -, status⟩ := update_answer answer
          rw [AnswersGood, sameKey, status]
          exact kept _ current (Server.mem_history_of_persisted found)
  | _ => exact ⟨trivial, exec_frame_kept choice _ world id kept⟩

/-- A call of the reconciler answered in part: what is left of it sends only good
statuses, however the policies are written in the meantime. -/
abbrev Tends (good : NamespacedName → PolicyStatus → Prop) {α : Type} (program : Action α)
    (post : α → Prop) : Prop :=
  program.Vouches (AnswersGood good) (SendsGood good) post

theorem Tends.kept {α : Type} {program : Action α} {post : α → Prop} {world : World}
    (tends : Tends good program post) (kept : Kept good world) :
    program.Ends exec anyChoice (fun _ final => Kept good final) world :=
  (tends.ends (fun choice op current _ sends held => exec_good choice op current sends held)
    kept).mono (fun _ _ ended => ended.2)

def Hands (good : NamespacedName → PolicyStatus → Prop)
    (outcome : Except Err TelecomSecurityPolicy) : Prop :=
  ∀ policy, outcome = .ok policy → good policy.key policy.status

theorem hands_ok {policy : TelecomSecurityPolicy} (copy : good policy.key policy.status) :
    Hands good (.ok policy) := by
  intro other same
  cases same
  exact copy

theorem hands_error (err : Err) : Hands good (.error err) :=
  fun _ impossible => by cases impossible

theorem undoes_sends {status : PolicyStatus} (op : Op) (undoes : Undoes status op) :
    SendsGood good op := by
  cases op <;> first | exact trivial | exact undoes.elim

theorem onMesh_sends (op : Op) (mesh : Mesh.OnMesh op) : SendsGood good op := by
  cases op <;> first | exact trivial | exact mesh.elim

theorem ensureFinalizer_tends (policy : TelecomSecurityPolicy)
    (copy : good policy.key policy.status) :
    Tends good (ensureFinalizer policy) (Hands good) := by
  rw [ensureFinalizer]
  split
  · exact hands_ok copy
  · refine ⟨trivial, fun answer trusted => ?_⟩
    cases answer with
    | error err => exact hands_error _
    | ok updated => exact hands_ok trusted

section Respects

variable (respects : RespectsReconciler good) (reconciler : Reconciler)
  (policy : TelecomSecurityPolicy) (copy : good policy.key policy.status)
include respects copy

theorem startMonitoring_tends : Tends good (startMonitoring policy) (Hands good) := by
  rw [startMonitoring]
  split
  · rename_i early
    refine ⟨respects.stored _ _ (respects.monitoring _ _ copy early), fun answer trusted => ?_⟩
    cases answer with
    | error err => exact hands_error _
    | ok updated => exact ⟨trusted, fun _ _ => hands_ok trusted⟩
  · exact hands_ok copy

theorem report_tends (condition : Condition) (retryAfter : Duration) :
    Tends good (Reconciler.reportScoringPipeline.report policy condition retryAfter)
      (fun outcome => Hands good (outcome.map Prod.fst)) := by
  refine ⟨trivial, fun now _ => ?_⟩
  have changed := respects.conditions policy.key policy.status
    (setStatusCondition policy.status.conditions condition now) copy
  refine ⟨respects.stored _ _ changed, fun answer trusted => ?_⟩
  cases answer with
  | error err =>
      dsimp only [Program.bind]
      split
      · exact hands_ok changed
      · exact hands_error _
  | ok updated => exact ⟨trusted, fun _ _ => hands_ok trusted⟩

theorem reportScoringPipeline_tends :
    Tends good (reconciler.reportScoringPipeline policy)
      (fun outcome => Hands good (outcome.map Prod.fst)) := by
  rw [Reconciler.reportScoringPipeline]
  split
  · refine ⟨trivial, fun answer _ => ?_⟩
    dsimp only [Program.bind, perform]
    split
    · split
      · exact hands_ok copy
      · exact report_tends respects policy copy _ _
    · exact report_tends respects policy copy _ _
  · exact hands_ok copy

theorem tryDeEscalate_tends :
    Tends good (reconciler.tryDeEscalate policy) (fun _ => True) := by
  rw [Reconciler.tryDeEscalate]
  split
  · exact trivial
  · refine ⟨trivial, fun now _ => ?_⟩
    dsimp only [Program.bind, perform]
    split
    · exact trivial
    · have blocks : Program.AsksOnly (SendsGood good)
          (reconciler.undoBlocks "de-escalate: " policy) :=
        (reconciler.undoBlocks_asks _ policy).mono undoes_sends
      refine Vouches.bind (blocks.vouches.mono (fun unblocked _ => ?_))
      cases unblocked with
      | error err => exact trivial
      | ok done =>
          have released : Program.AsksOnly (SendsGood good)
              (if policy.spec.actions.isolatePod then
                reconciler.undoQuarantine "de-escalate: " policy else pure (.ok ())) := by
            split
            · exact (reconciler.undoQuarantine_asks _ policy).mono onMesh_sends
            · exact trivial
          refine Vouches.bind (released.vouches.mono (fun freed _ => ?_))
          cases freed with
          | error err => exact trivial
          | ok done =>
              refine ⟨respects.stored _ _ (respects.cleared _ _ copy), fun answer trusted => ?_⟩
              cases answer with
              | error err => exact trivial
              | ok updated => exact ⟨trusted, fun _ _ => trivial⟩

end Respects

theorem finalize_sends (reconciler : Reconciler) (policy : TelecomSecurityPolicy) :
    (reconciler.finalize policy).AsksOnly (SendsGood good) := by
  rw [Reconciler.finalize]
  split
  · refine ((reconciler.undoQuarantine_asks "" policy).mono onMesh_sends).bind (fun freed => ?_)
    cases freed with
    | error err => exact trivial
    | ok done =>
        refine ((reconciler.undoBlocks_asks "" policy).mono undoes_sends).bind
          (fun unblocked => ?_)
        cases unblocked with
        | error err => exact trivial
        | ok done =>
            refine ⟨trivial, fun answer => ?_⟩
            cases answer with
            | error err => exact trivial
            | ok updated => exact ⟨trivial, fun _ => trivial⟩
  · exact trivial

theorem reconcile_tends (respects : RespectsReconciler good) (reconciler : Reconciler)
    (request : NamespacedName) :
    Tends good (reconciler.reconcile request) (fun _ => True) := by
  refine ⟨trivial, fun answer trusted => ?_⟩
  cases answer with
  | error err =>
      dsimp only [Program.bind]
      split
      · exact ⟨trivial, fun _ _ => trivial⟩
      · exact trivial
  | ok policy =>
      dsimp only [Program.bind]
      split
      · exact (finalize_sends reconciler policy).vouches
      · refine Vouches.bind ((ensureFinalizer_tends policy trusted).mono (fun guarded handed => ?_))
        cases guarded with
        | error err => exact trivial
        | ok guarded =>
            have copy := handed guarded rfl
            refine ⟨copy, fun _ _ => ?_⟩
            change Vouches _ _ (startMonitoring guarded >>= _) _
            refine Vouches.bind ((startMonitoring_tends respects guarded copy).mono
              (fun monitored handed => ?_))
            cases monitored with
            | error err => exact trivial
            | ok monitored =>
                refine Vouches.bind ((reportScoringPipeline_tends respects reconciler monitored
                  (handed monitored rfl)).mono (fun reported handed => ?_))
                cases reported with
                | error err => exact trivial
                | ok pair =>
                    dsimp only [Program.bind]
                    split
                    · refine Vouches.bind ((tryDeEscalate_tends respects reconciler pair.1
                        (handed pair.1 rfl)).mono (fun result _ => ?_))
                      cases result <;> exact trivial
                    · exact trivial

end Sentinel5G.Controller
