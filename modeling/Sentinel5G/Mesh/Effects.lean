import Sentinel5G.Mesh.Quarantine

namespace Sentinel5G.Mesh

open Base Api Controller Program

def Object.unversioned (object : Object) : Object := { object with resourceVersion := 0 }

/-- What is stored under a key, versions aside. -/
def Store.content (store : Store) (key : ObjectKey) : Option Object :=
  store.objects[key]?.map Object.unversioned

theorem content_put (store : Store) (object : Object) (key : ObjectKey) :
    (store.put object).content key =
      if object.key = key then some object.unversioned else store.content key := by
  simp only [Store.content, Store.put, Std.ExtTreeMap.getElem?_insert,
    Std.LawfulEqCmp.compare_eq_iff_eq]
  split
  · rfl
  · rfl

theorem content_drop (store : Store) (dropped key : ObjectKey) :
    (store.drop dropped).content key = if dropped = key then none else store.content key := by
  simp only [Store.content, Store.drop, Std.ExtTreeMap.getElem?_erase,
    Std.LawfulEqCmp.compare_eq_iff_eq]
  split
  · rfl
  · rfl

def Upserts (object : Object) (before after : Store) : Prop :=
  (∀ key, key ≠ object.key → after.content key = before.content key) ∧
    (after.content object.key = before.content object.key ∨
      after.content object.key = some object.unversioned)

theorem Upserts.refl (object : Object) (store : Store) : Upserts object store store :=
  ⟨fun _ _ => rfl, .inl rfl⟩

theorem upserts_put (object : Object) (version : Nat) (store : Store) :
    Upserts object store (store.put { object with resourceVersion := version }) ∧
      (store.put { object with resourceVersion := version }).content object.key =
        some object.unversioned := by
  have written : (store.put { object with resourceVersion := version }).content object.key =
      some object.unversioned := by
    rw [content_put, if_pos rfl]
    rfl
  refine ⟨⟨fun key different => ?_, .inr written⟩, written⟩
  rw [content_put, if_neg (Ne.symm different)]

def Stores (object : Object) (before : Store) (outcome : Except Err Unit) (after : Store) : Prop :=
  ((∃ err, outcome = .error err) ∧ after = before) ∨ after = before.put object

theorem create_stores (store : Store) (object : Object) :
    Stores object store (store.create object).1 (store.create object).2 := by
  rw [Store.create]
  split
  · exact .inl ⟨⟨_, rfl⟩, rfl⟩
  · exact .inr rfl

theorem update_stores (store : Store) (object : Object) :
    Stores object store (store.update object).1 (store.update object).2 := by
  rw [Store.update]
  split
  · exact .inl ⟨⟨_, rfl⟩, rfl⟩
  · split
    · exact .inl ⟨⟨_, rfl⟩, rfl⟩
    · exact .inr rfl

theorem write_stores (choice : Choice) (world : World) {object : Object}
    {effect : Except Err Unit × Store} (stores : Stores object world.mesh effect.1 effect.2) :
    Stores object world.mesh (choice.write world (effect.1, { world with mesh := effect.2 })).1
      (choice.write world (effect.1, { world with mesh := effect.2 })).2.mesh := by
  rw [Choice.write]
  split
  · exact stores
  · exact .inl ⟨⟨_, rfl⟩, rfl⟩
  · rcases stores with ⟨-, same⟩ | stored
    · exact .inl ⟨⟨_, rfl⟩, same⟩
    · exact .inr stored

theorem Stores.upserts {object : Object} {version : Nat} {before after : Store}
    {outcome : Except Err Unit}
    (stores : Stores { object with resourceVersion := version } before outcome after) :
    Upserts object before after ∧
      (outcome = .ok () → after.content object.key = some object.unversioned) := by
  rcases stores with ⟨⟨err, failed⟩, rfl⟩ | rfl
  · refine ⟨.refl _ _, fun success => ?_⟩
    cases failed.symm.trans success
  · exact ⟨(upserts_put object version before).1, fun _ => (upserts_put object version before).2⟩

theorem createOrUpdateUnstructured_ends (object : Object) (world : World) :
    (createOrUpdateUnstructured object).Ends exec (fun _ _ => True)
      (fun outcome final => Upserts object world.mesh final.mesh ∧
        (outcome = .ok () → final.mesh.content object.key = some object.unversioned)) world := by
  intro choice _
  dsimp only [Program.bind, perform]
  cases (exec choice (.meshGet object.key) world).1 with
  | error err =>
      dsimp only
      split
      · intro choice _
        have stored : Stores { object with resourceVersion := object.resourceVersion } world.mesh
            (exec choice (.meshCreate object) world).1
            (exec choice (.meshCreate object) world).2.mesh :=
          write_stores choice world (create_stores world.mesh object)
        dsimp only [Program.bind]
        split
        · exact ⟨stored.upserts.1, fun impossible => by cases impossible⟩
        · rename_i accepted
          exact ⟨stored.upserts.1, fun _ => stored.upserts.2 accepted⟩
      · exact ⟨.refl _ _, fun impossible => by cases impossible⟩
  | ok existing =>
      intro choice _
      have stored : Stores { object with resourceVersion := existing.resourceVersion } world.mesh
          (exec choice (.meshUpdate { object with
            resourceVersion := existing.resourceVersion }) world).1
          (exec choice (.meshUpdate { object with
            resourceVersion := existing.resourceVersion }) world).2.mesh :=
        write_stores choice world (update_stores world.mesh _)
      dsimp only [Program.bind]
      split
      · exact ⟨stored.upserts.1, fun impossible => by cases impossible⟩
      · rename_i accepted
        exact ⟨stored.upserts.1, fun _ => stored.upserts.2 accepted⟩

/-- The ports declared by the Pods a selector matches. -/
def declaredPorts (world : World) (ns : String) (selector : Labels) : List Int :=
  (Std.ExtTreeSet.ofList (((world.pods.toList.map Prod.snd).filter
    (fun pod => Pod.matches pod ns selector)).flatMap Pod.containerPorts) compare).toList

/-- The objects a quarantine of the selector writes now. -/
def Adapter.targets (adapter : Adapter) (world : World) (ns : String) (selector : Labels) :
    List Object :=
  match adapter with
  | .istio => [newAuthorizationPolicy ns selector]
  | .cilium => [newCiliumNetworkPolicy ns selector]
  | .linkerd => (declaredPorts world ns selector).map
      (newLinkerdServer ns (quarantineName selector) selector)
  | .noop => []

theorem targets_unversioned {adapter : Adapter} {world : World} {ns : String} {selector : Labels}
    {object : Object} (member : object ∈ adapter.targets world ns selector) :
    object.unversioned = object := by
  cases adapter with
  | istio =>
      rw [List.mem_singleton.mp member]
      rfl
  | cilium =>
      rw [List.mem_singleton.mp member]
      rfl
  | noop => cases member
  | linkerd =>
      obtain ⟨port, -, rfl⟩ := List.mem_map.mp member
      rfl

/-- Some of `objects` are written, and nothing else is touched. -/
def Writes (objects : List Object) (before after : Store) : Prop :=
  ∀ key, after.content key = before.content key ∨
    ∃ object ∈ objects, key = object.key ∧ after.content key = some object.unversioned

theorem Writes.refl (objects : List Object) (store : Store) : Writes objects store store :=
  fun _ => .inl rfl

theorem Writes.trans {objects : List Object} {before middle after : Store}
    (first : Writes objects before middle) (second : Writes objects middle after) :
    Writes objects before after := by
  intro key
  rcases second key with same | written
  · rw [same]
    exact first key
  · exact .inr written

theorem Writes.mono {objects more : List Object} {before after : Store}
    (writes : Writes objects before after) (included : ∀ object ∈ objects, object ∈ more) :
    Writes more before after :=
  fun key => (writes key).imp_right (fun written => by
    obtain ⟨object, member, same⟩ := written
    exact ⟨object, included object member, same⟩)

theorem Upserts.writes {object : Object} {objects : List Object} {before after : Store}
    (upserts : Upserts object before after) (member : object ∈ objects) :
    Writes objects before after := by
  intro key
  by_cases same : key = object.key
  · rw [same]
    exact upserts.2.imp_right (fun written => ⟨object, member, rfl, written⟩)
  · exact .inl (upserts.1 key same)

theorem newLinkerdServer_key_inj {ns hash : String} {selector : Labels} {first second : Int}
    (same : (newLinkerdServer ns hash selector first).key =
      (newLinkerdServer ns hash selector second).key) : first = second := by
  simp only [newLinkerdServer, ObjectKey.mk.injEq, true_and] at same
  exact toString_int_inj ((String.append_right_inj _).mp same)

theorem quarantinePorts_ends (ns : String) (selector : Labels) (ports : List Int) (world : World) :
    (quarantinePorts ns selector ports).Ends exec (fun _ _ => True)
      (fun outcome final =>
        Writes (ports.map (newLinkerdServer ns (quarantineName selector) selector)) world.mesh
          final.mesh ∧
        (outcome = .ok () →
          ∀ object ∈ ports.map (newLinkerdServer ns (quarantineName selector) selector),
            final.mesh.content object.key = some object)) world := by
  induction ports generalizing world with
  | nil => exact ⟨.refl _ _, fun _ object member => by cases member⟩
  | cons port rest ih =>
      refine Ends.bind ((createOrUpdateUnstructured_ends _ world).mono
        (fun outcome middle first => ?_))
      rw [List.map_cons]
      have written : Writes (newLinkerdServer ns (quarantineName selector) selector port ::
          rest.map (newLinkerdServer ns (quarantineName selector) selector)) world.mesh
            middle.mesh := first.1.writes List.mem_cons_self
      cases outcome with
      | error err => exact ⟨written, fun impossible => by cases impossible⟩
      | ok done =>
          refine (ih middle).mono (fun outcome final later => ⟨written.trans
            (later.1.mono (fun _ => List.mem_cons_of_mem _)), fun success => ?_⟩)
          rw [List.forall_mem_cons]
          refine ⟨?_, later.2 success⟩
          rcases later.1 (newLinkerdServer ns (quarantineName selector) selector port).key with
            same | ⟨object, member, sameKey, stored⟩
          · exact same.trans (first.2 rfl)
          · obtain ⟨other, -, rfl⟩ := List.mem_map.mp member
            rw [stored, ← newLinkerdServer_key_inj sameKey]
            rfl

theorem discoverPorts_ends (ns : String) (selector : Labels) (world : World) :
    (discoverPorts ns selector).Ends exec (fun _ _ => True)
      (fun outcome final => final = world ∧
        ∀ ports, outcome = .ok ports → ports = declaredPorts world ns selector) world := by
  intro choice _
  dsimp only [Program.bind]
  cases answer : (exec choice (.listPods ns selector) world).1 with
  | error err => exact ⟨rfl, fun _ impossible => by cases impossible⟩
  | ok pods =>
      refine ⟨rfl, fun ports same => ?_⟩
      cases same
      rw [show pods = _ from read_ok answer]
      rfl

/-- A quarantine writes the objects of its selector, all of them if it succeeds. -/
theorem Adapter.quarantine_ends (adapter : Adapter) (ns : String) (selector : Labels)
    (world : World) :
    (adapter.quarantine ns selector).Ends exec (fun _ _ => True)
      (fun outcome final => Writes (adapter.targets world ns selector) world.mesh final.mesh ∧
        (outcome = .ok () → ∀ object ∈ adapter.targets world ns selector,
          final.mesh.content object.key = some object)) world := by
  have single : ∀ object : Object, object.unversioned = object →
      (createOrUpdateUnstructured object).Ends exec (fun _ _ => True)
        (fun outcome final => Writes [object] world.mesh final.mesh ∧
          (outcome = .ok () → ∀ other ∈ [object], final.mesh.content other.key = some other))
        world := by
    intro object plain
    refine (createOrUpdateUnstructured_ends object world).mono (fun outcome final ended =>
      ⟨ended.1.writes List.mem_cons_self, fun success other member => ?_⟩)
    rw [List.mem_singleton.mp member, ended.2 success, plain]
  cases adapter with
  | istio => exact single _ rfl
  | cilium => exact single _ rfl
  | noop => exact ⟨.refl _ _, fun _ object member => by cases member⟩
  | linkerd =>
      refine Ends.bind ((discoverPorts_ends ns selector world).mono
        (fun outcome middle found => ?_))
      obtain ⟨rfl, discovered⟩ := found
      cases outcome with
      | error err => exact ⟨.refl _ _, fun impossible => by cases impossible⟩
      | ok ports =>
          rw [discovered ports rfl]
          dsimp only
          split
          · exact ⟨.refl _ _, fun impossible => by cases impossible⟩
          · exact quarantinePorts_ends ns selector _ middle

def Takes (keys : ObjectKey → Prop) (before after : Store) : Prop :=
  ∀ key, after.content key = before.content key ∨ (after.content key = none ∧ keys key)

theorem Takes.trans {keys : ObjectKey → Prop} {before middle after : Store}
    (first : Takes keys before middle) (second : Takes keys middle after) :
    Takes keys before after := by
  intro key
  rcases second key with same | gone
  · rw [same]
    exact first key
  · exact .inr gone

theorem exec_meshDelete_takes (choice : Choice) (key : ObjectKey) (world : World) :
    Takes (· = key) world.mesh (exec choice (.meshDelete key) world).2.mesh := by
  have dropped : Takes (· = key) world.mesh (world.mesh.drop key) := by
    intro other
    rw [content_drop]
    split
    · rename_i same
      exact .inr ⟨rfl, same.symm⟩
    · exact .inl rfl
  dsimp only [exec, Choice.write, Store.delete]
  split
  · split
    · exact dropped
    · exact fun _ => .inl rfl
  · exact fun _ => .inl rfl
  · split
    · exact dropped
    · exact fun _ => .inl rfl

theorem deleteUnstructuredIfExists_takes (key : ObjectKey) (world : World) :
    (deleteUnstructuredIfExists key).Ends exec (fun _ _ => True)
      (fun _ final => Takes (· = key) world.mesh final.mesh) world := by
  intro choice _
  have takes := exec_meshDelete_takes choice key world
  dsimp only [Program.bind]
  split
  · split
    · exact takes
    · exact takes
  · exact takes

theorem Takes.mono {keys wider : ObjectKey → Prop} {before after : Store}
    (takes : Takes keys before after) (implies : ∀ key, keys key → wider key) :
    Takes wider before after :=
  fun key => (takes key).imp_right (fun gone => ⟨gone.1, implies key gone.2⟩)

theorem deleteAll_takes (objects : List Object) (world : World) :
    (deleteAll objects).Ends exec (fun _ _ => True)
      (fun _ final => Takes (fun key => ∃ object ∈ objects, key = object.key) world.mesh
        final.mesh) world := by
  induction objects generalizing world with
  | nil => exact fun _ => .inl rfl
  | cons object rest ih =>
      refine Ends.bind ((deleteUnstructuredIfExists_takes object.key world).mono
        (fun outcome middle first => ?_))
      have taken : Takes (fun key => ∃ other ∈ object :: rest, key = other.key) world.mesh
          middle.mesh := first.mono (fun key same => ⟨object, List.mem_cons_self, same⟩)
      cases outcome with
      | error err => exact taken
      | ok done =>
          refine (ih middle).mono (fun outcome final later => taken.trans (later.mono ?_))
          rintro key ⟨other, member, same⟩
          exact ⟨other, List.mem_cons_of_mem _ member, same⟩

def Adapter.OwnKey (adapter : Adapter) (store : Store) (ns : String) (selector : Labels)
    (key : ObjectKey) : Prop :=
  ∃ object, store.objects[key]? = some object ∧ adapter.Owns ns selector object

theorem Adapter.release_takes (adapter : Adapter) (ns : String) (selector : Labels)
    (world : World) :
    (adapter.release ns selector).Ends exec (fun _ _ => True)
      (fun _ final => Takes (adapter.OwnKey world.mesh ns selector) world.mesh final.mesh)
        world := by
  have single : ∀ key : ObjectKey, (∀ object : Object, object.key = key →
      adapter.Owns ns selector object) → (deleteUnstructuredIfExists key).Ends exec
        (fun _ _ => True) (fun _ final => Takes (adapter.OwnKey world.mesh ns selector) world.mesh
          final.mesh)
        world := by
    intro key owns
    refine (deleteUnstructuredIfExists_takes key world).mono (fun outcome final takes other => ?_)
    rcases takes other with same | ⟨gone, rfl⟩
    · exact .inl same
    · cases stored : world.mesh.objects[other]? with
      | none => exact .inl (by rw [gone, Store.content, stored]; rfl)
      | some object =>
          exact .inr ⟨gone, object, stored, owns object (world.mesh.keyed other object stored)⟩
  cases adapter with
  | istio => exact single _ (fun _ => id)
  | cilium => exact single _ (fun _ => id)
  | noop => exact fun _ => .inl rfl
  | linkerd =>
      intro choice _
      dsimp only [Program.bind, perform]
      cases answer : (exec choice
          (.meshList .server ns quarantineForLabel (quarantineName selector)) world).1 with
      | error err => exact fun _ => .inl rfl
      | ok servers =>
          rw [show servers = _ from read_ok answer]
          refine (deleteAll_takes _ world).mono (fun outcome final takes => takes.mono ?_)
          rintro key ⟨object, listed, rfl⟩
          obtain ⟨member, owned⟩ := List.mem_filter.mp listed
          obtain ⟨pair, present, rfl⟩ := List.mem_map.mp member
          have stored := Std.ExtTreeMap.mem_toList_iff_getElem?_eq_some.mp present
          have labelled := of_decide_eq_true owned
          refine ⟨pair.2, ?_, labelled⟩
          rw [world.mesh.keyed pair.1 pair.2 stored]
          exact stored

theorem createOrUpdateUnstructured_succeeds (object : Object) (world : World) :
    (createOrUpdateUnstructured object).Ends exec faultless (fun outcome _ => outcome = .ok ())
      world := by
  intro choice quiet
  have calm : choice.fault = .none := quiet
  dsimp only [Program.bind, perform, exec]
  rw [Choice.read, calm, Store.get]
  cases stored : world.mesh.objects[object.key]? with
  | none =>
      have absent : object.key ∉ world.mesh.objects := by
        rw [Std.ExtTreeMap.mem_iff_isSome_getElem?, stored]
        exact Bool.false_ne_true
      intro choice quiet
      have calm : choice.fault = .none := quiet
      dsimp only [Program.bind, exec]
      rw [Choice.write, calm, Store.create, if_neg absent]
      rfl
  | some existing =>
      intro choice quiet
      have calm : choice.fault = .none := quiet
      dsimp only [Program.bind, exec]
      rw [Choice.write, calm, Store.update, stored]
      simp only [ne_eq, not_true_eq_false, if_false]
      rfl

theorem quarantinePorts_succeeds (ns : String) (selector : Labels) (ports : List Int)
    (world : World) :
    (quarantinePorts ns selector ports).Ends exec faultless (fun outcome _ => outcome = .ok ())
      world := by
  induction ports generalizing world with
  | nil => rfl
  | cons port rest ih =>
      refine Ends.bind ((createOrUpdateUnstructured_succeeds _ world).mono
        (fun outcome middle success => ?_))
      rw [success]
      exact ih middle

theorem Adapter.quarantine_succeeds (adapter : Adapter) (ns : String) (selector : Labels)
    (world : World) (some : adapter.targets world ns selector ≠ []) :
    (adapter.quarantine ns selector).Ends exec faultless (fun outcome _ => outcome = .ok ())
      world := by
  cases adapter with
  | istio => exact createOrUpdateUnstructured_succeeds _ world
  | cilium => exact createOrUpdateUnstructured_succeeds _ world
  | noop => exact absurd rfl some
  | linkerd =>
      have found : (discoverPorts ns selector).Ends exec faultless
          (fun outcome final => outcome = .ok (declaredPorts world ns selector) ∧ final = world)
          world := by
        intro choice quiet
        have calm : choice.fault = .none := quiet
        dsimp only [Program.bind, exec]
        rw [Choice.read, calm]
        exact ⟨rfl, rfl⟩
      refine Ends.bind (found.mono (fun outcome middle discovered => ?_))
      obtain ⟨rfl, rfl⟩ := discovered
      have nonempty : (declaredPorts middle ns selector).length ≠ 0 := by
        rw [ne_eq, List.length_eq_zero_iff]
        intro none
        exact some (congrArg _ none)
      dsimp only
      rw [if_neg nonempty]
      exact quarantinePorts_succeeds ns selector _ middle

end Sentinel5G.Mesh
