import Sentinel5G.Base.Run
import Sentinel5G.Mesh.Selectors

namespace Sentinel5G.Mesh

open Base Api Controller Program

/-- One call of `Quarantine`: the Pods it finds, and how its API calls go. -/
structure Attempt where
  pods : Std.ExtTreeMap NamespacedName Pod NamespacedName.cmp
  script : Nat → Choice

def Adapter.attempt (adapter : Adapter) (ns : String) (selector : Labels) (world : World)
    (attempt : Attempt) : World :=
  ((adapter.quarantine ns selector).run exec attempt.script
    { world with pods := attempt.pods }).2

def Adapter.Names (adapter : Adapter) (ns : String) (selector : Labels) (key : ObjectKey) : Prop :=
  match adapter with
  | .istio => key = (newAuthorizationPolicy ns selector).key
  | .cilium => key = (newCiliumNetworkPolicy ns selector).key
  | .linkerd => ∃ port, key = (newLinkerdServer ns (quarantineName selector) selector port).key
  | .noop => False

section Targets

variable {adapter : Adapter} {world : World} {ns : String} {selector : Labels} {object : Object}

theorem targets_names (member : object ∈ adapter.targets world ns selector) :
    adapter.Names ns selector object.key := by
  cases adapter with
  | istio => exact congrArg Object.key (List.mem_singleton.mp member)
  | cilium => exact congrArg Object.key (List.mem_singleton.mp member)
  | noop => cases member
  | linkerd =>
      obtain ⟨port, -, rfl⟩ := List.mem_map.mp member
      exact ⟨port, rfl⟩

theorem targets_owned (member : object ∈ adapter.targets world ns selector) :
    adapter.Owns ns selector object :=
  (owns_target_iff member (targets_unversioned member)).mpr rfl

end Targets

section Ownership

variable {adapter : Adapter} {ns : String} {selector : Labels} {store : Store}

theorem owns_unversioned (object : Object) :
    adapter.Owns ns selector object.unversioned ↔ adapter.Owns ns selector object := by
  cases adapter <;> exact Iff.rfl

theorem ownKey_iff {key : ObjectKey} :
    adapter.OwnKey store ns selector key ↔
      ∃ object, store.content key = some object ∧ adapter.Owns ns selector object := by
  constructor
  · rintro ⟨object, stored, owned⟩
    exact ⟨object.unversioned, by rw [Store.content, stored]; rfl,
      (owns_unversioned object).mpr owned⟩
  · rintro ⟨object, content, owned⟩
    obtain ⟨stored, found, rfl⟩ := stored_of_content content
    exact ⟨stored, found, (owns_unversioned stored).mp owned⟩

theorem quarantined_iff : adapter.Quarantined store ns selector ↔
    ∃ key, adapter.OwnKey store ns selector key := by
  constructor
  · rintro ⟨object, stored, owned⟩
    exact ⟨object.key, object, stored, owned⟩
  · rintro ⟨key, object, stored, owned⟩
    refine ⟨object, ?_, owned⟩
    rw [store.keyed key object stored]
    exact stored

end Ownership

section Attempts

variable (adapter : Adapter) (ns : String) (selector : Labels)

/-- Every key is as it was at the start, or holds an object of the quarantine
under a name of the quarantine. -/
def Adapter.Grown (start now : Store) : Prop :=
  ∀ key, now.content key = start.content key ∨
    (adapter.Names ns selector key ∧ adapter.OwnKey now ns selector key)

variable {adapter ns selector}

theorem attempt_grown {start : Store} {world : World} (attempt : Attempt)
    (grown : adapter.Grown ns selector start world.mesh) :
    adapter.Grown ns selector start (adapter.attempt ns selector world attempt).mesh := by
  have writes := ((adapter.quarantine_ends ns selector { world with pods := attempt.pods }).run
    (permits_any _ attempt.script _)).1
  intro key
  rcases writes key with same | ⟨object, member, rfl, stored⟩
  · rcases grown key with kept | ⟨named, owned⟩
    · exact .inl (same.trans kept)
    · rw [ownKey_iff] at owned ⊢
      exact .inr ⟨named, owned.imp (fun object held => ⟨same.trans held.1, held.2⟩)⟩
  · refine .inr ⟨targets_names member, ownKey_iff.mpr ⟨object.unversioned, stored, ?_⟩⟩
    exact (owns_unversioned object).mpr (targets_owned member)

theorem attempts_grown {start : Store} {world : World} (attempts : List Attempt)
    (grown : adapter.Grown ns selector start world.mesh) :
    adapter.Grown ns selector start
      (runMoves (adapter.attempt ns selector) world attempts).mesh := by
  induction attempts generalizing world with
  | nil => exact grown
  | cons attempt rest ih => exact ih (attempt_grown attempt grown)

theorem release_restores {start : Store} {world : World} (script : Nat → Choice)
    (grown : adapter.Grown ns selector start world.mesh)
    (success : ((adapter.release ns selector).run exec script world).1 = .ok ()) (key : ObjectKey) :
    ((adapter.release ns selector).run exec script world).2.mesh.content key = none ∨
      ((adapter.release ns selector).run exec script world).2.mesh.content key =
        start.content key := by
  have takes := (adapter.release_takes ns selector world).run (permits_any _ script world)
  have empty := (adapter.release_ends ns selector world).run (permits_any _ script world) success
  rcases takes key with same | ⟨gone, -⟩
  · rcases grown key with kept | ⟨-, owned⟩
    · exact .inr (same.trans kept)
    · obtain ⟨object, content, owned⟩ := ownKey_iff.mp owned
      refine absurd (quarantined_iff.mpr ⟨key, ownKey_iff.mpr ⟨object, ?_, owned⟩⟩) empty
      rw [same, content]
  · exact .inl gone

/-- Neither calls for the selector nor its release touch an object that bears
none of its names and does not belong to it. -/
theorem release_frame {start : Store} {world : World} (script : Nat → Choice)
    (grown : adapter.Grown ns selector start world.mesh) {key : ObjectKey}
    (foreign : ¬ adapter.Names ns selector key) (unowned : ¬ adapter.OwnKey start ns selector key) :
    ((adapter.release ns selector).run exec script world).2.mesh.content key =
      start.content key := by
  have kept := (grown key).resolve_right (fun changed => foreign changed.1)
  have takes := (adapter.release_takes ns selector world).run (permits_any _ script world)
  rcases takes key with same | ⟨-, owned⟩
  · exact same.trans kept
  · rw [ownKey_iff, kept, ← ownKey_iff] at owned
    exact absurd owned unowned

theorem release_idle {world : World} (script : Nat → Choice)
    (none : ¬ adapter.Quarantined world.mesh ns selector) (key : ObjectKey) :
    ((adapter.release ns selector).run exec script world).2.mesh.content key =
      world.mesh.content key := by
  have takes := (adapter.release_takes ns selector world).run (permits_any _ script world)
  exact (takes key).resolve_right (fun taken => none (quarantined_iff.mpr ⟨key, taken.2⟩))

/-- Repeating a successful quarantine over the same Pods changes nothing, even
where the repetition fails. -/
theorem quarantine_again {world later : World} (script again : Nat → Choice)
    (success : ((adapter.quarantine ns selector).run exec script world).1 = .ok ())
    (mesh : later.mesh = ((adapter.quarantine ns selector).run exec script world).2.mesh)
    (pods : later.pods = world.pods) (key : ObjectKey) :
    ((adapter.quarantine ns selector).run exec again later).2.mesh.content key =
      later.mesh.content key := by
  have written := ((adapter.quarantine_ends ns selector world).run
    (permits_any _ script world)).2 success
  have writes := ((adapter.quarantine_ends ns selector later).run
    (permits_any _ again later)).1
  have sameTargets : adapter.targets later ns selector = adapter.targets world ns selector := by
    cases adapter <;> simp only [Adapter.targets, declaredPorts, pods]
  rw [sameTargets] at writes
  rcases writes key with same | ⟨object, member, rfl, stored⟩
  · exact same
  · rw [stored, mesh, written object member, targets_unversioned member]

end Attempts

/-- After any quarantine calls for a selector, a successful release leaves none
of its objects and otherwise what was there before; a release of nothing changes
nothing, and so does a quarantine repeated over the same Pods. Only objects that
bear a name of the quarantine, or its label, are ever touched. -/
theorem release_undoes_quarantine (adapter : Adapter) (ns : String) (selector : Labels) :
    (∀ (world : World) (attempts : List Attempt) (script : Nat → Choice),
      let before := runMoves (adapter.attempt ns selector) world attempts
      let ended := (adapter.release ns selector).run exec script before
      (ended.1 = .ok () → ¬ adapter.Quarantined ended.2.mesh ns selector ∧
        ∀ key, ended.2.mesh.content key = none ∨
          ended.2.mesh.content key = world.mesh.content key) ∧
      ∀ key, ¬ adapter.Names ns selector key →
        before.mesh.content key = world.mesh.content key ∧
        (¬ adapter.OwnKey world.mesh ns selector key →
          ended.2.mesh.content key = world.mesh.content key)) ∧
    (∀ (world : World) (script : Nat → Choice), ¬ adapter.Quarantined world.mesh ns selector →
      let ended := (adapter.release ns selector).run exec script world
      (∀ key, ended.2.mesh.content key = world.mesh.content key) ∧
        ((∀ n, (script n).fault = .none) → ended.1 = .ok ())) ∧
    ∀ (world later : World) (script again : Nat → Choice),
      ((adapter.quarantine ns selector).run exec script world).1 = .ok () →
      later.mesh = ((adapter.quarantine ns selector).run exec script world).2.mesh →
      later.pods = world.pods →
      ∀ key, ((adapter.quarantine ns selector).run exec again later).2.mesh.content key =
        later.mesh.content key := by
  refine ⟨fun world attempts script => ?_, fun world script none => ?_,
    fun world later script again success mesh pods key =>
      quarantine_again script again success mesh pods key⟩
  · have grown := @attempts_grown adapter ns selector world.mesh world attempts (fun _ => .inl rfl)
    refine ⟨fun success => ⟨?_, release_restores script grown success⟩, fun key foreign => ⟨?_, ?_⟩⟩
    · exact (adapter.release_ends ns selector _).run (permits_any _ script _) success
    · exact (grown key).resolve_right (fun changed => foreign changed.1)
    · exact release_frame script grown foreign
  · refine ⟨release_idle script none, fun quiet => ?_⟩
    exact (adapter.release_succeeds ns selector world).run (permits_faultless _ script world quiet)

def upfLabels : Labels := (∅ : Labels).insert "app" "upf"

def upfPods (port : Int) : Std.ExtTreeMap NamespacedName Pod NamespacedName.cmp :=
  (∅ : Std.ExtTreeMap NamespacedName Pod NamespacedName.cmp).insert ⟨"core", "upf-0"⟩
    ⟨⟨"core", "upf-0"⟩, upfLabels, [port]⟩

theorem release_undoes_changed_ports :
    let before := runMoves (Adapter.linkerd.attempt "core" upfLabels) (World.initial (fun _ => 0))
      [⟨upfPods 8080, fun _ => .quiet⟩, ⟨upfPods 2152, fun _ => .quiet⟩]
    Adapter.linkerd.Quarantined before.mesh "core" upfLabels ∧
    ¬ Adapter.linkerd.Quarantined
      ((Adapter.linkerd.release "core" upfLabels).run exec (fun _ => .quiet) before).2.mesh "core"
        upfLabels := by
  intro before
  refine ⟨⟨{ newLinkerdServer "core" (quarantineName upfLabels) upfLabels 8080 with
    resourceVersion := 1 }, by decide +kernel, ?_⟩, ?_⟩
  · exact ⟨rfl, rfl, Std.ExtTreeMap.getElem?_insert_self⟩
  · exact (((release_undoes_quarantine .linkerd "core" upfLabels).1 (World.initial (fun _ => 0)) _
      (fun _ => .quiet)).1 (by decide +kernel)).1

def labelledServer : Object :=
  { newLinkerdServer "core" (quarantineName upfLabels) upfLabels 8080 with
    key := ⟨.server, "core", "upf-allow"⟩
    spec := .server upfLabels 8080 "all-unauthenticated" }

theorem release_deletes_labelled_server :
    ¬ Adapter.linkerd.Names "core" upfLabels labelledServer.key ∧
    let world := { World.initial (fun _ => 0) with mesh := Store.empty.put labelledServer }
    let ended := (Adapter.linkerd.release "core" upfLabels).run exec (fun _ => .quiet) world
    world.mesh.content labelledServer.key = some labelledServer ∧ ended.1 = .ok () ∧
      ended.2.mesh.content labelledServer.key = none := by
  refine ⟨?_, by decide +kernel⟩
  rintro ⟨port, same⟩
  have heads := congrArg (fun key : ObjectKey => key.name.toList.head?) same
  simp [labelledServer, newLinkerdServer, quarantineName, quarantineNamePrefix] at heads

end Sentinel5G.Mesh
