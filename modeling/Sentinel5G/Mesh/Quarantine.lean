import Sentinel5G.Controller.Frame
import Sentinel5G.Mesh.Adapter

namespace Sentinel5G.Mesh

open Base Api Controller Program

/-- Some object of the selector's quarantine is in the store. -/
def Adapter.Quarantined (adapter : Adapter) (store : Store) (ns : String) (selector : Labels) :
    Prop :=
  ∃ object, store.objects[object.key]? = some object ∧ adapter.Owns ns selector object

def Store.Within (after before : Store) : Prop :=
  ∀ (key : ObjectKey) (object : Object), after.objects[key]? = some object →
    before.objects[key]? = some object

theorem Store.Within.trans {first second third : Store} (inner : first.Within second)
    (outer : second.Within third) : first.Within third :=
  fun key object found => outer key object (inner key object found)

theorem drop_within (store : Store) (key : ObjectKey) : (store.drop key).Within store := by
  intro other object found
  simp only [Store.drop, Std.ExtTreeMap.getElem?_erase] at found
  split at found
  · cases found
  · exact found

theorem drop_absent (store : Store) (key : ObjectKey) : (store.drop key).objects[key]? = none := by
  simp [Store.drop]

theorem exec_meshDelete (choice : Choice) (key : ObjectKey) (world : World) :
    (exec choice (.meshDelete key) world).2.mesh.Within world.mesh ∧
    (((exec choice (.meshDelete key) world).1 = .ok () ∨
        ∃ err, (exec choice (.meshDelete key) world).1 = .error err ∧ err.kind = .notFound) →
      (exec choice (.meshDelete key) world).2.mesh.objects[key]? = none) := by
  dsimp only [exec, Choice.write, Store.delete]
  by_cases present : key ∈ world.mesh.objects
  · rw [if_pos present]
    split
    · exact ⟨drop_within _ key, fun _ => drop_absent _ key⟩
    · refine ⟨fun _ _ found => found, ?_⟩
      rintro (impossible | ⟨err, same, kind⟩)
      · cases impossible
      · cases same
        cases kind
    · exact ⟨drop_within _ key, fun _ => drop_absent _ key⟩
  · have absent : world.mesh.objects[key]? = none := Std.ExtTreeMap.getElem?_eq_none present
    rw [if_neg present]
    split <;> exact ⟨fun _ _ found => found, fun _ => absent⟩

theorem deleteUnstructuredIfExists_ends (key : ObjectKey) (world : World) :
    (deleteUnstructuredIfExists key).Ends exec (fun _ _ => True)
      (fun outcome final => final.mesh.Within world.mesh ∧
        (outcome = .ok () → final.mesh.objects[key]? = none)) world := by
  intro choice _
  obtain ⟨within, gone⟩ := exec_meshDelete choice key world
  cases answer : (exec choice (.meshDelete key) world).1 with
  | error err =>
      rw [answer] at gone
      dsimp only [Program.bind]
      split
      · rename_i kind
        exact ⟨within, fun _ => gone (.inr ⟨err, rfl, kind⟩)⟩
      · exact ⟨within, fun impossible => by cases impossible⟩
  | ok done =>
      rw [answer] at gone
      exact ⟨within, fun _ => gone (.inl rfl)⟩

theorem deleteAll_ends (objects : List Object) (world : World) :
    (deleteAll objects).Ends exec (fun _ _ => True)
      (fun outcome final => final.mesh.Within world.mesh ∧
        (outcome = .ok () → ∀ object ∈ objects, final.mesh.objects[object.key]? = none)) world := by
  induction objects generalizing world with
  | nil => exact ⟨fun _ _ found => found, fun _ _ member => by cases member⟩
  | cons object rest ih =>
      refine Ends.bind ((deleteUnstructuredIfExists_ends object.key world).mono
        (fun outcome middle held => ?_))
      cases outcome with
      | error err => exact ⟨held.1, fun impossible => by cases impossible⟩
      | ok done =>
          refine (ih middle).mono (fun outcome final later => ⟨later.1.trans held.1, ?_⟩)
          intro success other member
          rcases List.mem_cons.mp member with rfl | member
          · cases found : final.mesh.objects[other.key]? with
            | none => rfl
            | some left =>
                have earlier := later.1 _ left found
                rw [held.2 rfl] at earlier
                cases earlier
          · exact later.2 success other member

/-- After a successful release no object of the quarantine is left. -/
theorem Adapter.release_ends (adapter : Adapter) (ns : String) (selector : Labels) (world : World) :
    (adapter.release ns selector).Ends exec (fun _ _ => True)
      (fun outcome final => outcome = .ok () → ¬ adapter.Quarantined final.mesh ns selector)
      world := by
  cases adapter with
  | istio =>
      refine (deleteUnstructuredIfExists_ends _ world).mono (fun outcome final held success => ?_)
      rintro ⟨object, found, owned⟩
      rw [show object.key = _ from owned, held.2 success] at found
      cases found
  | cilium =>
      refine (deleteUnstructuredIfExists_ends _ world).mono (fun outcome final held success => ?_)
      rintro ⟨object, found, owned⟩
      rw [show object.key = _ from owned, held.2 success] at found
      cases found
  | noop =>
      rintro - ⟨object, -, owned⟩
      exact owned
  | linkerd =>
      intro choice _
      cases answer : (exec choice
          (.meshList .server ns quarantineForLabel (quarantineName selector)) world).1 with
      | error err => exact fun impossible => by cases impossible
      | ok servers =>
          have listed : servers = world.mesh.list .server ns quarantineForLabel
              (quarantineName selector) := by
            dsimp only [exec, Choice.read] at answer
            split at answer <;> cases answer
            rfl
          refine (deleteAll_ends servers world).mono (fun outcome final held success => ?_)
          rintro ⟨object, found, owned⟩
          have before := held.1 _ object found
          have member : object ∈ servers := by
            rw [listed, Store.list, List.mem_filter]
            refine ⟨?_, decide_eq_true owned⟩
            exact List.mem_map.mpr ⟨(object.key, object),
              Std.ExtTreeMap.mem_toList_iff_getElem?_eq_some.mpr before, rfl⟩
          rw [held.2 success object member] at found
          cases found

/-- The answers that make an undo fail. -/
def Hampers : (op : Op) → op.Answer → Prop
  | .unblock _, .error _ => True
  | .unblockTunnel _ _, .error _ => True
  | .meshDelete _, .error err => err.kind ≠ .notFound
  | .meshList _ _ _ _, .error _ => True
  | .updateStatus _, .error _ => True
  | .update _, .error _ => True
  | _, _ => False

theorem deleteUnstructuredIfExists_aborts (key : ObjectKey) :
    (deleteUnstructuredIfExists key).Aborts Hampers := by
  intro answer
  cases answer with
  | error err =>
      dsimp only [Program.bind]
      refine ⟨fun failed => ?_, fun passed => ?_⟩
      · rw [if_neg failed]
        exact ⟨_, rfl⟩
      · rw [if_pos (not_not.mp passed)]
        exact ⟨(), rfl⟩
  | ok done => exact ⟨fun failed => failed.elim, fun _ => ⟨(), rfl⟩⟩

theorem deleteAll_aborts (objects : List Object) : (deleteAll objects).Aborts Hampers := by
  induction objects with
  | nil => exact ⟨(), rfl⟩
  | cons object rest ih =>
      exact (deleteUnstructuredIfExists_aborts _).bind (fun _ => ⟨_, rfl⟩) (fun _ => ih)

theorem Adapter.release_aborts (adapter : Adapter) (ns : String) (selector : Labels) :
    (adapter.release ns selector).Aborts Hampers := by
  cases adapter with
  | istio => exact deleteUnstructuredIfExists_aborts _
  | cilium => exact deleteUnstructuredIfExists_aborts _
  | noop => exact ⟨(), rfl⟩
  | linkerd =>
      intro answer
      cases answer with
      | error err => exact ⟨fun _ => ⟨_, rfl⟩, fun passed => absurd trivial passed⟩
      | ok servers => exact ⟨fun failed => failed.elim, fun _ => deleteAll_aborts servers⟩

theorem deletes_sound (choice : Choice) (op : Op) (world : World) (quiet : faultless world choice)
    (deletes : Deletes op) : ¬ Hampers op (exec choice op world).1 := by
  have calm : choice.fault = .none := quiet
  cases op with
  | meshDelete key =>
      simp only [exec, Choice.write, calm, Store.delete]
      split
      · exact id
      · exact fun failed => failed rfl
  | meshList kind ns labelKey labelValue =>
      simp only [exec, Choice.read, calm]
      exact id
  | _ => exact deletes.elim

theorem Adapter.release_succeeds (adapter : Adapter) (ns : String) (selector : Labels)
    (world : World) :
    (adapter.release ns selector).Ends exec faultless
      (fun outcome _ => outcome = .ok ()) world := by
  refine ((adapter.release_aborts ns selector).succeeds exec (adapter.release_deletes ns selector)
    deletes_sound world).mono (fun outcome _ success => ?_)
  obtain ⟨done, same⟩ := success
  exact same

end Sentinel5G.Mesh
