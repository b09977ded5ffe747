import Sentinel5G.Mesh.Effects

namespace Sentinel5G.Mesh

open Base Api Controller Program

inductive AdapterCall
  | quarantine
  | release
  deriving DecidableEq

def AdapterCall.program (call : AdapterCall) (adapter : Adapter) (ns : String)
    (selector : Labels) : Action (Except Err Unit) :=
  match call with
  | .quarantine => adapter.quarantine ns selector
  | .release => adapter.release ns selector

theorem hex8_length (value : UInt32) : (hex8 value).toList.length = 8 := by
  have short : (Nat.toDigits 16 value.toNat).length ≤ 8 :=
    (Nat.length_toDigits_le_iff (by decide) (by decide)).mpr value.toNat_lt
  simp only [hex8, String.toList_ofList, List.length_append, List.length_replicate]
  omega

theorem quarantineName_length (selector : Labels) :
    (quarantineName selector).toList.length = quarantineNamePrefix.toList.length + 8 := by
  rw [quarantineName, String.toList_append, List.length_append, hex8_length]

theorem quarantineName_of_append {first second : Labels} {tail other : String}
    (same : quarantineName first ++ tail = quarantineName second ++ other) :
    quarantineName first = quarantineName second := by
  have texts := congrArg String.toList same
  rw [String.toList_append, String.toList_append] at texts
  apply String.toList_injective
  apply (List.append_inj texts ?_).1
  rw [quarantineName_length, quarantineName_length]

section Targets

variable {adapter : Adapter} {world : World} {ns : String} {first second : Labels} {object : Object}

theorem targets_named (member : object ∈ adapter.targets world ns first) :
    ∃ tail, object.key.name = quarantineName first ++ tail := by
  cases adapter with
  | istio =>
      rw [List.mem_singleton.mp member]
      exact ⟨"", String.append_empty.symm⟩
  | cilium =>
      rw [List.mem_singleton.mp member]
      exact ⟨"", String.append_empty.symm⟩
  | noop => cases member
  | linkerd =>
      obtain ⟨port, -, rfl⟩ := List.mem_map.mp member
      exact ⟨"-" ++ toString port, String.append_assoc⟩

/-- An object of the first selector's quarantine belongs to the second one's
exactly when the names are the same. -/
theorem owns_target_iff {stored : Object} (member : object ∈ adapter.targets world ns first)
    (content : stored.unversioned = object) :
    adapter.Owns ns second stored ↔ quarantineName first = quarantineName second := by
  have sameKey : stored.key = object.key := by rw [← content, Object.unversioned]
  have sameLabels : stored.labels = object.labels := by rw [← content, Object.unversioned]
  cases adapter with
  | istio =>
      rw [List.mem_singleton.mp member] at sameKey
      simp [Adapter.Owns, sameKey, newAuthorizationPolicy]
  | cilium =>
      rw [List.mem_singleton.mp member] at sameKey
      simp [Adapter.Owns, sameKey, newCiliumNetworkPolicy]
  | noop => cases member
  | linkerd =>
      obtain ⟨port, -, rfl⟩ := List.mem_map.mp member
      simp [Adapter.Owns, sameKey, sameLabels, newLinkerdServer]

theorem stored_of_content {store : Store} {key : ObjectKey}
    (content : store.content key = some object) :
    ∃ stored, store.objects[key]? = some stored ∧ stored.unversioned = object :=
  Option.map_eq_some_iff.mp content

theorem call_spares (call : AdapterCall) (different : quarantineName first ≠ quarantineName second)
    (later : World) (script : Nat → Choice) (member : object ∈ adapter.targets world ns first)
    (stands : later.mesh.content object.key = some object) :
    ((call.program adapter ns second).run exec script later).2.mesh.content object.key =
      some object := by
  cases call with
  | quarantine =>
      have writes := ((adapter.quarantine_ends ns second later).run
        (permits_any _ script later)).1
      rcases writes object.key with same | ⟨other, listed, sameKey, -⟩
      · exact same.trans stands
      · obtain ⟨tail, named⟩ := targets_named member
        obtain ⟨rest, also⟩ := targets_named listed
        rw [sameKey, also] at named
        exact absurd (quarantineName_of_append named).symm different
  | release =>
      have takes := (adapter.release_takes ns second later).run
        (permits_any _ script later)
      rcases takes object.key with same | ⟨-, stored, found, owned⟩
      · exact same.trans stands
      · obtain ⟨other, alsoFound, content⟩ := stored_of_content stands
        rw [Option.some.inj (found.symm.trans alsoFound)] at owned
        exact absurd ((owns_target_iff member content).mp owned) different

end Targets

/-- After a successful quarantine of the first selector, no call for the second
one takes its objects away or points them elsewhere. -/
def Adapter.Spares (adapter : Adapter) (ns : String) (first second : Labels) : Prop :=
  ∀ (world later : World) (script again : Nat → Choice) (call : AdapterCall),
    ((adapter.quarantine ns first).run exec script world).1 = .ok () →
    later.mesh = ((adapter.quarantine ns first).run exec script world).2.mesh →
    ∀ object ∈ adapter.targets world ns first,
      ((call.program adapter ns second).run exec again later).2.mesh.content object.key =
        some object

def onePod (ns : String) (labels : Labels) : World :=
  { World.initial (fun _ => 0) with
    pods := (∅ : Std.ExtTreeMap NamespacedName Pod NamespacedName.cmp).insert ⟨ns, "pod"⟩
      ⟨⟨ns, "pod"⟩, labels, [80]⟩ }

theorem onePod_targets (adapter : Adapter) (meshed : adapter ≠ .noop) (ns : String)
    (labels : Labels) : adapter.targets (onePod ns labels) ns labels ≠ [] := by
  cases adapter with
  | istio => exact List.cons_ne_nil _ _
  | cilium => exact List.cons_ne_nil _ _
  | noop => exact absurd rfl meshed
  | linkerd =>
      have selected : Pod.matches ⟨⟨ns, "pod"⟩, labels, [80]⟩ ns labels = true := by
        simp only [Pod.matches, decide_true, Bool.true_and, List.all_eq_true, decide_eq_true_eq]
        exact fun pair => Std.ExtTreeMap.mem_toList_iff_getElem?_eq_some.mp
      have listed : (80 : Int) ∈ declaredPorts (onePod ns labels) ns labels := by
        rw [declaredPorts, Std.ExtTreeSet.mem_toList, Std.ExtTreeSet.mem_ofList,
          List.contains_iff_mem, List.mem_flatMap]
        refine ⟨⟨⟨ns, "pod"⟩, labels, [80]⟩, List.mem_filter.mpr ⟨?_, selected⟩,
          List.mem_singleton.mpr rfl⟩
        refine List.mem_map.mpr ⟨(⟨ns, "pod"⟩, ⟨⟨ns, "pod"⟩, labels, [80]⟩),
          Std.ExtTreeMap.mem_toList_iff_getElem?_eq_some.mpr ?_, rfl⟩
        exact Std.ExtTreeMap.getElem?_insert_self
      exact List.ne_nil_of_mem (List.mem_map_of_mem listed)

/-- Two selectors' quarantines do not interfere exactly when their names differ. -/
theorem quarantines_apart_iff (adapter : Adapter) (meshed : adapter ≠ .noop) (ns : String)
    (first second : Labels) :
    adapter.Spares ns first second ↔ quarantineName first ≠ quarantineName second := by
  constructor
  · intro spares same
    -- both calls go through without faults, and the release finds the object to be its own
    have success := (adapter.quarantine_succeeds ns first (onePod ns first)
      (onePod_targets adapter meshed ns first)).run
        (permits_faultless _ (fun _ => Choice.quiet) _ (fun _ => rfl))
    obtain ⟨object, member⟩ :=
      List.exists_mem_of_ne_nil _ (onePod_targets adapter meshed ns first)
    have stands := spares (onePod ns first) _ _ (fun _ => Choice.quiet) .release success rfl object
      member
    have released := (adapter.release_succeeds ns second _).run
      (permits_faultless _ (fun _ => Choice.quiet) ((adapter.quarantine ns first).run exec
        (fun _ => Choice.quiet) (onePod ns first)).2 (fun _ => rfl))
    obtain ⟨stored, found, content⟩ := stored_of_content stands
    refine ((adapter.release_ends ns second _).run (permits_any _ _ _)) released
      ⟨stored, ?_, (owns_target_iff member content).mpr same⟩
    rw [show stored.key = object.key by rw [← content, Object.unversioned]]
    exact found
  · intro different world later script again call success sameMesh object member
    refine call_spares call different later again member ?_
    rw [sameMesh]
    exact ((adapter.quarantine_ends ns first world).run (permits_any _ script world)).2 success
      object member

theorem quarantines_apart_iff_named :
    Adapter.Spares .linkerd "core" ((∅ : Labels).insert "app" "amf")
      ((∅ : Labels).insert "app" "smf") :=
  (quarantines_apart_iff .linkerd (by decide) "core" _ _).mpr (by decide +kernel)

def slicedSmf : Labels := (∅ : Labels).insert "app" "smf-slice-nrf"

def stagedUpf : Labels := (∅ : Labels).insert "app" "stage-edge-upf"

/-- Releasing one application lifts the other one's quarantine. -/
theorem release_lifts_another_quarantine :
    slicedSmf ≠ stagedUpf ∧ ∀ adapter ∈ [Adapter.istio, Adapter.cilium, Adapter.linkerd],
      ((adapter.quarantine "core" slicedSmf).run exec (fun _ => Choice.quiet)
        (onePod "core" slicedSmf)).1 = .ok () ∧
      adapter.targets (onePod "core" slicedSmf) "core" slicedSmf ≠ [] ∧
      ∀ object ∈ adapter.targets (onePod "core" slicedSmf) "core" slicedSmf,
        ((adapter.release "core" stagedUpf).run exec (fun _ => Choice.quiet)
          ((adapter.quarantine "core" slicedSmf).run exec (fun _ => Choice.quiet)
            (onePod "core" slicedSmf)).2).2.mesh.content object.key = none := by
  decide +kernel

end Sentinel5G.Mesh
