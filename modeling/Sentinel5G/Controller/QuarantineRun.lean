import Sentinel5G.Controller.SharedClaims

/-! The quarantines of one policy along a run of scores, spec edits and undos.
A mitigation quarantines what the spec selects at that time, an undo releases
what the spec selects when it runs. -/

namespace Sentinel5G.Controller

open Base Api Ebpf Program

def quarantineTarget (spec : PolicySpec) : Option Labels :=
  if spec.actions.isolatePod then firstMatchLabels spec.targetWorkloads else none

inductive PolicyMove
  | score (lag : Nat) (event : ThreatScoreEvent) (script : Nat → Choice)
  | editSpec (spec : PolicySpec)
  | undo (undo : Undo) (lag : Nat) (script : Nat → Choice)
  | requestDelete
  | setKillSwitch (engaged : Bool)
  | setLimiter (allows : NamespacedName → Bool)
  | advance (elapsed : Nat)

structure QuarantineTrail where
  world : World
  created : List Mesh.ObjectKey

def QuarantineTrail.Clean (trail : QuarantineTrail) : Prop :=
  ∀ key ∈ trail.created, key ∉ trail.world.mesh.objects

instance (trail : QuarantineTrail) : Decidable trail.Clean :=
  inferInstanceAs (Decidable (∀ key ∈ trail.created, key ∉ trail.world.mesh.objects))

def appeared (before after : Mesh.Store) : List Mesh.ObjectKey :=
  after.objects.keys.filter (fun key => decide (key ∉ before.objects))

namespace Operator

variable (operator : Operator) (key : NamespacedName)

def follow (trail : QuarantineTrail) : PolicyMove → QuarantineTrail
  | .score lag event script =>
      let world := operator.next trail.world (.score key lag event script)
      ⟨world, trail.created ++ appeared trail.world.mesh world.mesh⟩
  | .undo undo lag script =>
      match trail.world.server.cached key lag with
      | none => trail
      | some policy =>
          { trail with
            world := ((undo.program operator.reconciler policy).run exec script trail.world).2 }
  | .editSpec spec => { trail with world := operator.next trail.world (.editSpec key spec) }
  | .requestDelete => { trail with world := operator.next trail.world (.requestDelete key) }
  | .setKillSwitch engaged =>
      { trail with world := operator.next trail.world (.setKillSwitch engaged) }
  | .setLimiter allows => { trail with world := operator.next trail.world (.setLimiter allows) }
  | .advance elapsed => { trail with world := operator.next trail.world (.advance elapsed) }

/-- The undo gets past its guard and ends without an error: its last write, of
the status or of the finalizers, went through. -/
def Completes (trail : QuarantineTrail) (undo : Undo) (lag : Nat) (script : Nat → Choice) : Prop :=
  ∃ policy result, trail.world.server.cached key lag = some policy ∧
    undo.Acts operator.reconciler policy trail.world ∧
    ((undo.program operator.reconciler policy).run exec script trail.world).1 = .ok result

end Operator

/-- While an object that a score has created is there, the target does not
change; and a score with a target works on a copy that has the stored one. -/
def Steady (key : NamespacedName) (trail : QuarantineTrail) : PolicyMove → Prop
  | .score lag _ _ => ∀ copy current, trail.world.server.cached key lag = some copy →
      trail.world.server.persisted key = some current → quarantineTarget copy.spec ≠ none →
      quarantineTarget current.spec = quarantineTarget copy.spec
  | .editSpec spec => ∀ current, trail.world.server.persisted key = some current →
      quarantineTarget spec = quarantineTarget current.spec ∨ trail.Clean
  | _ => True

def Touches (policy : TelecomSecurityPolicy) (placed : Mesh.Object → Prop) : Op → Prop
  | .update sent => sent.key = policy.key ∧ sent.resourceVersion = policy.resourceVersion ∧
      sent.spec = policy.spec
  | .meshCreate object => placed object
  | .meshUpdate object => placed object
  | _ => True

structure Evolved (policy : TelecomSecurityPolicy) (placed : Mesh.Object → Prop)
    (start world : World) : Prop where
  spec : ∀ current, world.server.persisted policy.key = some current →
    ∃ earlier, start.server.persisted policy.key = some earlier ∧ earlier.spec = current.spec
  known : some policy ∈ world.server.history policy.key
  mesh : ∀ (key : Mesh.ObjectKey) (object : Mesh.Object), world.mesh.objects[key]? = some object →
    start.mesh.objects[key]? = some object ∨ placed object

section Evolution

variable {policy : TelecomSecurityPolicy} {placed : Mesh.Object → Prop} {start world : World}

theorem Evolved.refl (known : some policy ∈ world.server.history policy.key) :
    Evolved policy placed world world :=
  ⟨fun current stored => ⟨current, stored, rfl⟩, known, fun _ _ found => .inl found⟩

theorem Evolved.of_frame {after : World} (evolved : Evolved policy placed start world)
    (server : after.server = world.server) (mesh : after.mesh = world.mesh) :
    Evolved policy placed start after where
  spec := by rw [server]; exact evolved.spec
  known := by rw [server]; exact evolved.known
  mesh := by rw [mesh]; exact evolved.mesh

theorem Evolved.replace (evolved : Evolved policy placed start world)
    (sent : TelecomSecurityPolicy) (next : TelecomSecurityPolicy → TelecomSecurityPolicy)
    (keeps : ∀ current, world.server.persisted policy.key = some current →
      sent.key = policy.key → sent.resourceVersion = current.resourceVersion →
      (next current).spec = current.spec) :
    Evolved policy placed start { world with server := (world.server.replace sent next).2 } where
  spec := by
    intro current stored
    rcases world.server.persisted_replace_cases sent next policy.key with same |
      ⟨before, sameKey, found, sameVersion, replaced | ⟨-, -, gone⟩⟩
    · rw [same] at stored
      exact evolved.spec current stored
    · rw [replaced] at stored
      cases stored
      obtain ⟨earlier, began, spec⟩ := evolved.spec before found
      exact ⟨earlier, began, spec.trans (keeps before found sameKey.symm sameVersion).symm⟩
    · rw [gone] at stored
      cases stored
  known := Server.history_replace_mono evolved.known
  mesh := evolved.mesh

theorem Evolved.put (evolved : Evolved policy placed start world) (object : Mesh.Object)
    (placing : ∀ version, placed { object with resourceVersion := version }) :
    Evolved policy placed start { world with mesh := world.mesh.put object } where
  spec := evolved.spec
  known := evolved.known
  mesh := by
    intro key other found
    simp only [Mesh.Store.put, Std.ExtTreeMap.getElem?_insert, Std.LawfulEqCmp.compare_eq_iff_eq]
      at found
    split at found
    · cases found
      exact .inr (placing _)
    · exact evolved.mesh key other found

theorem Evolved.write {α : Type} (choice : Choice) (effect : Except Err α × World)
    (kept : Evolved policy placed start world) (done : Evolved policy placed start effect.2) :
    Evolved policy placed start (choice.write world effect).2 := by
  rcases write_state choice world effect with unchanged | applied
  · rwa [unchanged]
  · rwa [applied]

theorem Evolved.delete (evolved : Evolved policy placed start world) (key : Mesh.ObjectKey) :
    Evolved policy placed start { world with mesh := (world.mesh.delete key).2 } := by
  rw [Mesh.Store.delete]
  split
  · exact ⟨evolved.spec, evolved.known, fun other object found =>
      evolved.mesh other object (Mesh.drop_within world.mesh key other object found)⟩
  · exact evolved

def Versionless (placed : Mesh.Object → Prop) : Prop :=
  ∀ object version, placed object → placed { object with resourceVersion := version }

theorem exec_evolved (versionless : Versionless placed) (choice : Choice) (op : Op)
    (touches : Touches policy placed op) (evolved : Evolved policy placed start world) :
    Evolved policy placed start (exec choice op world).2 := by
  cases op with
  | updateStatus sent =>
      exact evolved.write choice _ (evolved.replace sent _ (fun _ _ _ _ => rfl))
  | update sent =>
      obtain ⟨-, sameVersion, sameSpec⟩ := touches
      refine evolved.write choice _ (evolved.replace sent _ (fun current stored _ matching => ?_))
      have copy := Server.persisted_unique evolved.known stored (sameVersion.symm.trans matching)
      exact sameSpec.trans (congrArg TelecomSecurityPolicy.spec copy)
  | meshCreate object =>
      refine evolved.write choice _ ?_
      dsimp only [Mesh.Store.create]
      split
      · exact evolved
      · exact evolved.put object (fun version => versionless object version touches)
  | meshUpdate object =>
      refine evolved.write choice _ ?_
      dsimp only [Mesh.Store.update]
      split
      · exact evolved
      · split
        · exact evolved
        · exact evolved.put object (fun version => versionless object version touches)
  | meshDelete key => exact evolved.write choice _ (evolved.delete key)
  | _ => exact evolved.of_frame (exec_server choice _ world id) (exec_mesh choice _ world id)

theorem Evolved.ends {α : Type} {program : Action α} (versionless : Versionless placed)
    (touches : program.AsksOnly (Touches policy placed))
    (evolved : Evolved policy placed start world) :
    program.Ends exec anyChoice (fun _ final => Evolved policy placed start final) world :=
  Ends.of_asksOnly touches (fun choice op _ _ touched before =>
    exec_evolved versionless choice op touched before) evolved

end Evolution

def OfTarget (adapter : Mesh.Adapter) (policy : TelecomSecurityPolicy) (object : Mesh.Object) :
    Prop :=
  ∃ selector, quarantineTarget policy.spec = some selector ∧
    adapter.Owns policy.key.ns selector object

theorem owns_versionless (adapter : Mesh.Adapter) (ns : String) (selector : Labels) :
    Versionless (adapter.Owns ns selector) := by
  intro object version owned
  cases adapter <;> exact owned

theorem ofTarget_versionless (adapter : Mesh.Adapter) (policy : TelecomSecurityPolicy) :
    Versionless (OfTarget adapter policy) := by
  rintro object version ⟨selector, target, owned⟩
  exact ⟨selector, target, owns_versionless adapter _ selector object version owned⟩

section Touching

variable {policy : TelecomSecurityPolicy} {placed : Mesh.Object → Prop}

theorem touches_of_places (op : Op) (places : Mesh.Places placed op) :
    Touches policy placed op := by
  cases op <;> first | exact trivial | exact places | exact places.elim

theorem touches_of_deletes (op : Op) (deletes : Mesh.Deletes op) : Touches policy placed op := by
  cases op <;> first | exact trivial | exact deletes.elim

theorem touches_of_undoes {status : PolicyStatus} (op : Op) (undoes : Undoes status op) :
    Touches policy placed op := by
  cases op <;> first | exact trivial | exact undoes.elim

end Touching

theorem execute_touches (watcher : ThreatScoreWatcher) (policy : TelecomSecurityPolicy)
    (event : ThreatScoreEvent) :
    (watcher.execute policy (intent policy event) event).AsksOnly
      (Touches policy (OfTarget watcher.mesh policy)) := by
  refine AsksOnly.bind ?_ (fun tunnel => ?_)
  · rw [executeBlockTunnel]
    split
    · refine ⟨trivial, fun answer => ?_⟩
      cases answer <;> exact trivial
    · exact trivial
  · cases tunnel with
    | error err => exact trivial
    | ok done =>
        refine AsksOnly.bind ?_ (fun source => ?_)
        · rw [executeBlock]
          split
          · refine ⟨trivial, fun answer => ?_⟩
            cases answer <;> exact trivial
          · exact trivial
        · cases source with
          | error err => exact trivial
          | ok done =>
              exact (ThreatScoreWatcher.executeQuarantine_places watcher.mesh policy
                (intent policy event)).mono touches_of_places

theorem applyPolicy_touches (watcher : ThreatScoreWatcher) (policy : TelecomSecurityPolicy)
    (event : ThreatScoreEvent) :
    (watcher.applyPolicy policy event).AsksOnly (Touches policy (OfTarget watcher.mesh policy)) :=
  watcher.applyPolicy_asksOnly trivial trivial trivial (fun _ => trivial) (fun _ => trivial)
    (execute_touches watcher policy event)

theorem undoQuarantine_touches (reconciler : Reconciler) (context : String)
    (policy : TelecomSecurityPolicy) :
    (reconciler.undoQuarantine context policy).AsksOnly (Touches policy (fun _ => False)) :=
  (reconciler.undoQuarantine_deletes context policy).mono touches_of_deletes

theorem undoBlocks_touches (reconciler : Reconciler) (context : String)
    (policy : TelecomSecurityPolicy) :
    (reconciler.undoBlocks context policy).AsksOnly (Touches policy (fun _ => False)) :=
  (reconciler.undoBlocks_asks context policy).mono touches_of_undoes

def Current (policy : TelecomSecurityPolicy) (world : World) : Prop :=
  ∃ stored, world.server.persisted policy.key = some stored ∧ stored.spec = policy.spec

theorem Evolved.current {policy : TelecomSecurityPolicy} {start world : World}
    (evolved : Evolved policy (fun _ => False) start world) {current : TelecomSecurityPolicy}
    (stored : world.server.persisted policy.key = some current)
    (sameVersion : policy.resourceVersion = current.resourceVersion) : Current policy start := by
  obtain ⟨earlier, began, spec⟩ := evolved.spec current stored
  rw [← Server.persisted_unique evolved.known stored sameVersion] at spec
  exact ⟨earlier, began, spec⟩

structure Undone (undo : Undo) (reconciler : Reconciler) (policy : TelecomSecurityPolicy)
    (start : World) (outcome : Except Err Result) (final : World) : Prop where
  evolved : Evolved policy (fun _ => False) start final
  current : ∀ result, outcome = .ok result → undo.Acts reconciler policy start →
    Current policy start

theorem nothing_versionless : Versionless (fun _ => False) := fun _ _ => id

theorem tryDeEscalate_undone (reconciler : Reconciler) (policy : TelecomSecurityPolicy)
    (world : World) (known : some policy ∈ world.server.history policy.key) :
    (reconciler.tryDeEscalate policy).Ends exec anyChoice
      (Undone .deEscalate reconciler policy world) world := by
  rw [Reconciler.tryDeEscalate]
  cases stamped : policy.status.lastMitigationTime with
  | none =>
      exact ⟨.refl known, fun _ _ acts => absurd acts (Undo.not_acts_of_unstamped stamped)⟩
  | some last =>
      intro choice _
      dsimp only [exec, Program.bind, perform]
      split
      · rename_i early
        exact ⟨.refl known,
          fun _ _ acts => absurd early ((Undo.acts_deEscalate_iff stamped).mp acts)⟩
      · refine Ends.bind (((Evolved.refl known).ends nothing_versionless
          (undoBlocks_touches reconciler _ policy)).mono (fun outcome unblocked evolved => ?_))
        cases outcome with
        | error err => exact ⟨evolved, fun _ impossible => by cases impossible⟩
        | ok done =>
            have isolated : (if policy.spec.actions.isolatePod then
                reconciler.undoQuarantine "de-escalate: " policy
                else pure (.ok ()) : Action (Except Err Unit)).AsksOnly
                (Touches policy (fun _ => False)) := by
              split
              · exact undoQuarantine_touches reconciler _ policy
              · exact trivial
            refine Ends.bind ((evolved.ends nothing_versionless isolated).mono
              (fun outcome released evolved => ?_))
            cases outcome with
            | error err => exact ⟨evolved, fun _ impossible => by cases impossible⟩
            | ok done =>
                intro choice _
                have after := exec_evolved nothing_versionless choice (.updateStatus { policy with
                  status := { policy.status with
                    blockedSourceIPs := []
                    blockedTunnels := []
                    phase := .monitoring } }) trivial evolved
                dsimp only [Program.bind]
                split
                · exact ⟨after, fun _ impossible => by cases impossible⟩
                · rename_i updated answer
                  obtain ⟨-, -, current, stored, sameVersion⟩ := updateStatus_answer answer
                  intro choice _
                  exact ⟨after.of_frame rfl rfl,
                    fun _ _ _ => evolved.current stored sameVersion⟩

theorem finalize_undone (reconciler : Reconciler) (policy : TelecomSecurityPolicy)
    (world : World) (known : some policy ∈ world.server.history policy.key) :
    (reconciler.finalize policy).Ends exec anyChoice
      (Undone .finalize reconciler policy world) world := by
  rw [Reconciler.finalize]
  split
  · refine Ends.bind (((Evolved.refl known).ends nothing_versionless
      (undoQuarantine_touches reconciler _ policy)).mono (fun outcome released evolved => ?_))
    cases outcome with
    | error err => exact ⟨evolved, fun _ impossible => by cases impossible⟩
    | ok done =>
        refine Ends.bind ((evolved.ends nothing_versionless
          (undoBlocks_touches reconciler _ policy)).mono (fun outcome unblocked evolved => ?_))
        cases outcome with
        | error err => exact ⟨evolved, fun _ impossible => by cases impossible⟩
        | ok done =>
            intro choice _
            have touched : Touches policy (fun _ => False) (.update { policy with
              finalizers := policy.finalizers.filter (· ≠ telecomSecurityPolicyFinalizer) }) :=
              ⟨rfl, rfl, rfl⟩
            have after := exec_evolved nothing_versionless choice _ touched evolved
            dsimp only [Program.bind]
            split
            · exact ⟨after, fun _ impossible => by cases impossible⟩
            · rename_i updated answer
              obtain ⟨-, current, stored, sameVersion, -⟩ := update_answer answer
              intro choice _
              exact ⟨after.of_frame rfl rfl, fun _ _ _ => evolved.current stored sameVersion⟩
  · rename_i absent
    exact ⟨.refl known, fun _ _ held => absurd held absent⟩

theorem undo_undone (undo : Undo) (reconciler : Reconciler) (policy : TelecomSecurityPolicy)
    (world : World) (known : some policy ∈ world.server.history policy.key) :
    (undo.program reconciler policy).Ends exec anyChoice (Undone undo reconciler policy world)
      world := by
  cases undo with
  | deEscalate => exact tryDeEscalate_undone reconciler policy world known
  | finalize => exact finalize_undone reconciler policy world known

/-- What a score has created and is still there belongs to the stored policy's target. -/
def Held (adapter : Mesh.Adapter) (key : NamespacedName) (trail : QuarantineTrail) : Prop :=
  ∀ current, trail.world.server.persisted key = some current →
    ∀ object : Mesh.Object, trail.world.mesh.objects[object.key]? = some object →
      object.key ∈ trail.created →
      ∃ selector, quarantineTarget current.spec = some selector ∧
        adapter.Owns key.ns selector object

namespace Held

variable {adapter : Mesh.Adapter} {key : NamespacedName} {trail : QuarantineTrail}

theorem start (world : World) : Held adapter key ⟨world, []⟩ :=
  fun _ _ _ _ member => by cases member

theorem shrinks (held : Held adapter key trail) {after : World}
    (spec : ∀ current, after.server.persisted key = some current →
      ∃ earlier, trail.world.server.persisted key = some earlier ∧ earlier.spec = current.spec)
    (within : after.mesh.Within trail.world.mesh) :
    Held adapter key { trail with world := after } := by
  intro current stored object found member
  obtain ⟨earlier, began, same⟩ := spec current stored
  rw [← same]
  exact held earlier began object (within _ object found) member

theorem of_appeared {before after : Mesh.Store} {key : Mesh.ObjectKey}
    (member : key ∈ appeared before after) : before.objects[key]? = none := by
  have absent := of_decide_eq_true (List.mem_filter.mp member).2
  exact Std.ExtTreeMap.getElem?_eq_none absent

/-- A score: what it placed belongs to the target of its copy, which is the stored one. -/
theorem grows (held : Held adapter key trail) {after : World}
    (spec : ∀ current, after.server.persisted key = some current →
      ∃ earlier, trail.world.server.persisted key = some earlier ∧ earlier.spec = current.spec)
    (placed : ∀ (place : Mesh.ObjectKey) (object : Mesh.Object),
      after.mesh.objects[place]? = some object →
      trail.world.mesh.objects[place]? = some object ∨
        ∀ current, trail.world.server.persisted key = some current →
          ∃ selector, quarantineTarget current.spec = some selector ∧
            adapter.Owns key.ns selector object) :
    Held adapter key ⟨after, trail.created ++ appeared trail.world.mesh after.mesh⟩ := by
  intro current stored object found member
  obtain ⟨earlier, began, same⟩ := spec current stored
  rw [← same]
  rcases placed object.key object found with before | ours
  · rcases List.mem_append.mp member with old | fresh
    · exact held earlier began object before old
    · rw [of_appeared fresh] at before
      cases before
  · exact ours earlier began

theorem score (operator : Operator) (lag : Nat) (event : ThreatScoreEvent) (script : Nat → Choice)
    (steady : Steady key trail (.score lag event script))
    (held : Held operator.watcher.mesh key trail) :
    Held operator.watcher.mesh key (operator.follow key trail (.score lag event script)) := by
  rw [Operator.follow]
  cases found : trail.world.server.cached key lag with
  | none =>
      have idle : operator.next trail.world (.score key lag event script) = trail.world := by
        rw [Operator.next, found]
      rw [idle]
      exact held.grows (fun current stored => ⟨current, stored, rfl⟩) (fun _ _ there => .inl there)
  | some copy =>
      have ran : operator.next trail.world (.score key lag event script) =
          ((operator.watcher.applyPolicy copy event).run exec script trail.world).2 := by
        rw [Operator.next, found]
      have member := Server.mem_history_of_cached found
      have sameKey := trail.world.server.keyed _ _ member
      rw [← sameKey] at member
      have evolved := ((Evolved.refl member).ends (ofTarget_versionless operator.watcher.mesh copy)
        (applyPolicy_touches operator.watcher copy event)).run (permits_any _ script _)
      rw [← ran] at evolved
      refine held.grows (sameKey ▸ evolved.spec) (fun _ object there => ?_)
      refine (evolved.mesh _ object there).imp_right ?_
      rintro ⟨selector, target, owned⟩ current stored
      have targeted : quarantineTarget copy.spec ≠ none := by
        rw [target]
        exact Option.some_ne_none selector
      rw [sameKey] at owned
      exact ⟨selector, (steady copy current found stored targeted).trans target, owned⟩

theorem editSpec (operator : Operator) (spec : PolicySpec)
    (steady : Steady key trail (.editSpec spec)) (held : Held adapter key trail) :
    Held adapter key (operator.follow key trail (.editSpec spec)) := by
  intro current stored object found member
  dsimp only [Operator.follow, Operator.next, Server.editSpec] at stored found member
  split at stored
  · exact held current stored object found member
  · rename_i before began
    split at stored
    · exact held current stored object found member
    · have alive : Alive before := Server.alive_of_persisted began
      have written := Server.persisted_record_self trail.world.server
        (trail.world.server.written_fresh key { before with
          spec := spec, generation := before.generation + 1 } alive)
      cases written.symm.trans stored
      rcases steady before began with same | clean
      · change ∃ selector, quarantineTarget spec = some selector ∧ _
        rw [same]
        exact held before began object found member
      · exact absurd (Std.ExtTreeMap.mem_iff_isSome_getElem?.mpr (by rw [found]; rfl))
          (clean object.key member)

theorem requestDelete (operator : Operator) (held : Held adapter key trail) :
    Held adapter key (operator.follow key trail .requestDelete) := by
  refine held.shrinks (fun current stored => ?_) (fun _ _ found => found)
  dsimp only [Operator.next, Server.requestDelete] at stored
  split at stored
  · exact ⟨current, stored, rfl⟩
  · rename_i before began
    split at stored
    · exact ⟨current, stored, rfl⟩
    · split at stored
      · rename_i free
        have gone := Server.persisted_record_self trail.world.server
          (trail.world.server.none_fresh key)
        cases gone.symm.trans stored
      · rename_i held
        have marked := Server.persisted_record_self trail.world.server
          (trail.world.server.written_fresh key { before with
            deletionTimestamp := some (wholeSeconds trail.world.clock) } (fun _ => held))
        cases marked.symm.trans stored
        exact ⟨before, began, rfl⟩

theorem follow (operator : Operator) (move : PolicyMove) (steady : Steady key trail move)
    (held : Held operator.watcher.mesh key trail) :
    Held operator.watcher.mesh key (operator.follow key trail move) := by
  cases move with
  | score lag event script => exact held.score operator lag event script steady
  | undo undo lag script =>
      rw [Operator.follow]
      split
      · exact held
      · rename_i policy found
        have member := Server.mem_history_of_cached found
        have sameKey := trail.world.server.keyed _ _ member
        rw [← sameKey] at member
        have undone := (undo_undone undo operator.reconciler policy trail.world member).run
          (permits_any _ script _)
        refine held.shrinks ?_
          (fun _ object found => (undone.evolved.mesh _ object found).resolve_right id)
        rw [← sameKey]
        exact undone.evolved.spec
  | editSpec spec => exact held.editSpec operator spec steady
  | requestDelete => exact held.requestDelete operator
  | setKillSwitch engaged => exact held
  | setLimiter allows => exact held
  | advance elapsed => exact held

end Held

/-- A completed undo leaves nothing of what scores have created. -/
theorem undo_cleans (operator : Operator)
    (wired : operator.reconciler.mesh = some operator.watcher.mesh) {key : NamespacedName}
    {trail : QuarantineTrail} (held : Held operator.watcher.mesh key trail) {undo : Undo}
    {lag : Nat} {script : Nat → Choice} (completes : operator.Completes key trail undo lag script) :
    (operator.follow key trail (.undo undo lag script)).Clean := by
  obtain ⟨policy, result, found, acts, success⟩ := completes
  have member := Server.mem_history_of_cached found
  obtain rfl := trail.world.server.keyed _ _ member
  have undone := (undo_undone undo operator.reconciler policy trail.world member).run
    (permits_any _ script _)
  have ended := ((undo.program_ends operator.reconciler policy trail.world).run
    (permits_any _ script _) result success).1 acts
  obtain ⟨stored, current, sameSpec⟩ := undone.current result success acts
  simp only [QuarantineTrail.Clean, Operator.follow, found]
  intro created member still
  obtain ⟨object, present⟩ := Option.isSome_iff_exists.mp
    (Std.ExtTreeMap.mem_iff_isSome_getElem?.mp still)
  have place := Mesh.Store.keyed _ _ _ present
  subst place
  have before := (undone.evolved.mesh _ object present).resolve_right id
  obtain ⟨selector, target, owned⟩ := held stored current object before member
  rw [sameSpec, quarantineTarget] at target
  split at target
  · rename_i isolates
    have releases : undo.Releases policy := by
      cases undo with
      | deEscalate => exact isolates
      | finalize => exact trivial
    exact ended.released releases _ selector wired target ⟨object, present, owned⟩
  · cases target

/-- In every run that is steady throughout, an undo that completes leaves nothing
of what scores have created. -/
theorem no_quarantine_leaks (operator : Operator)
    (wired : operator.reconciler.mesh = some operator.watcher.mesh) (key : NamespacedName)
    (world : World) (moves : List PolicyMove)
    (steady : AllMoves (operator.follow key) (Steady key) ⟨world, []⟩ moves) (undo : Undo)
    (lag : Nat) (script : Nat → Choice)
    (completes : operator.Completes key (runMoves (operator.follow key) ⟨world, []⟩ moves) undo lag
      script) :
    (operator.follow key (runMoves (operator.follow key) ⟨world, []⟩ moves)
      (.undo undo lag script)).Clean := by
  have held : Held operator.watcher.mesh key (runMoves (operator.follow key) ⟨world, []⟩ moves) :=
    runMoves_invariant moves (fun _ move steady held => held.follow operator move steady)
      (.start world) steady
  exact undo_cleans operator wired held completes

theorem steady_of_current (key : NamespacedName) (trail : QuarantineTrail)
    (event : ThreatScoreEvent) (script : Nat → Choice) :
    Steady key trail (.score 0 event script) := by
  intro copy current found stored _
  rw [Server.cached_zero, stored] at found
  cases found
  rfl

def isolatingSpec : PolicySpec := { upfGuardSpec with actions := ⟨true, true, true⟩ }

def isolating : World :=
  runMoves plainOperator.next (.initial (fun _ => 16))
    [.create upfGuard isolatingSpec, .reconcile upfGuard quietly]

def mitigated : List PolicyMove :=
  [.score 0 (tunnelScore "10.0.0.1" 1) quietly, .advance (5 * minute).toNat]

def trailOf (moves : List PolicyMove) : QuarantineTrail :=
  runMoves (plainOperator.follow upfGuard) ⟨isolating, []⟩ moves

theorem completes_of_ok {moves : List PolicyMove} {undo : Undo}
    (ended : ((trailOf moves).world.server.cached upfGuard 0).any (fun policy =>
      (match undo with
        | .deEscalate => policy.status.lastMitigationTime.any (fun last =>
            decide (plainOperator.reconciler.deEscalationDwell ≤ (trailOf moves).world.clock -
              last))
        | .finalize => decide (telecomSecurityPolicyFinalizer ∈ policy.finalizers)) &&
      decide (((undo.program plainOperator.reconciler policy).run exec quietly
        (trailOf moves).world).1 = .ok .none)) = true) :
    plainOperator.Completes upfGuard (trailOf moves) undo 0 quietly := by
  obtain ⟨policy, found, checks⟩ := (Option.any_eq_true _ _).mp ended
  obtain ⟨guard, success⟩ := Bool.and_eq_true_iff.mp checks
  refine ⟨policy, .none, found, ?_, of_decide_eq_true success⟩
  cases undo with
  | deEscalate =>
      obtain ⟨last, stamped, due⟩ := (Option.any_eq_true _ _).mp guard
      exact ⟨last, stamped, of_decide_eq_true due⟩
  | finalize =>
      have held : telecomSecurityPolicyFinalizer ∈ policy.finalizers := of_decide_eq_true guard
      exact held

theorem no_quarantine_leaks_once :
    (trailOf mitigated).created ≠ [] ∧
      plainOperator.Completes upfGuard (trailOf mitigated) .deEscalate 0 quietly ∧
      (plainOperator.follow upfGuard (trailOf mitigated) (.undo .deEscalate 0 quietly)).Clean := by
  have completes : plainOperator.Completes upfGuard (trailOf mitigated) .deEscalate 0 quietly :=
    completes_of_ok (by decide +kernel)
  exact ⟨by decide +kernel, completes, no_quarantine_leaks plainOperator rfl upfGuard isolating
    mitigated ⟨steady_of_current _ _ _ _, trivial, trivial⟩ .deEscalate 0 quietly completes⟩

def switchedOff : List PolicyMove := mitigated ++ [.editSpec upfGuardSpec]

def retargeted : List PolicyMove :=
  mitigated ++ [.editSpec { isolatingSpec with targetWorkloads := [⟨"smf", ∅⟩] }, .requestDelete]

/-- A completed de-escalation, and a completed finalization, leave a quarantine. -/
theorem edited_quarantine_leaks :
    (plainOperator.Completes upfGuard (trailOf switchedOff) .deEscalate 0 quietly ∧
      ¬ (plainOperator.follow upfGuard (trailOf switchedOff) (.undo .deEscalate 0 quietly)).Clean) ∧
    plainOperator.Completes upfGuard (trailOf retargeted) .finalize 0 quietly ∧
      ¬ (plainOperator.follow upfGuard (trailOf retargeted) (.undo .finalize 0 quietly)).Clean :=
  ⟨⟨completes_of_ok (by decide +kernel), by decide +kernel⟩,
    completes_of_ok (by decide +kernel), by decide +kernel⟩

end Sentinel5G.Controller
