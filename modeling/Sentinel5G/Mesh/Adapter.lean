import Sentinel5G.Controller.World

namespace Sentinel5G.Mesh

open Base Api Controller Program

inductive Adapter
  | istio
  | cilium
  | linkerd
  | noop
  deriving DecidableEq, Repr

def quarantineNamePrefix : String := "sentinel5g-quarantine-"

def quarantineForLabel : String := "sentinel5g.io/quarantine-for"

/-- FNV-1a over the UTF-8 bytes of a text, in 32 bits. -/
def fnv32a (text : String) : UInt32 :=
  text.toByteArray.data.toList.foldl
    (fun hash byte => (hash ^^^ UInt32.ofNat byte.toNat) * 16777619) 2166136261

def hex8 (value : UInt32) : String :=
  let digits := Nat.toDigits 16 value.toNat
  String.ofList (List.replicate (8 - digits.length) '0' ++ digits)

def quarantineName (selector : Labels) : String :=
  let text := selector.toList.foldl (fun text pair => text ++ pair.1 ++ "=" ++ pair.2 ++ ";") ""
  quarantineNamePrefix ++ hex8 (fnv32a text)

def managedBy : Labels := (∅ : Labels).insert "app.kubernetes.io/managed-by" "sentinel5g"

def newAuthorizationPolicy (ns : String) (selector : Labels) : Object where
  key := ⟨.authorizationPolicy, ns, quarantineName selector⟩
  resourceVersion := 0
  labels := managedBy
  spec := .authorizationPolicy selector 1 "DENY"

def newCiliumNetworkPolicy (ns : String) (selector : Labels) : Object where
  key := ⟨.ciliumNetworkPolicy, ns, quarantineName selector⟩
  resourceVersion := 0
  labels := managedBy
  spec := .ciliumNetworkPolicy selector ["all"] ["all"]

def newLinkerdServer (ns quarantineHash : String) (selector : Labels) (port : Int) : Object where
  key := ⟨.server, ns, quarantineHash ++ "-" ++ toString port⟩
  resourceVersion := 0
  labels := managedBy.insert quarantineForLabel quarantineHash
  spec := .server selector port "deny"

def createOrUpdateUnstructured (object : Object) : Action (Except Err Unit) := do
  match ← perform (Op.meshGet object.key) with
  | .error err =>
      if err.kind = .notFound then
        match ← perform (Op.meshCreate object) with
        | .error createErr => return .error (createErr.wrap ("create " ++ object.key.text))
        | .ok () => return .ok ()
      else return .error (err.wrap ("get existing " ++ object.key.text))
  | .ok existing =>
      match ← perform (Op.meshUpdate { object with resourceVersion := existing.resourceVersion
        }) with
      | .error err => return .error (err.wrap ("update " ++ object.key.text))
      | .ok () => return .ok ()

def deleteUnstructuredIfExists (key : ObjectKey) : Action (Except Err Unit) := do
  match ← perform (Op.meshDelete key) with
  | .error err =>
      if err.kind = .notFound then return .ok ()
      else return .error (err.wrap ("delete " ++ key.text))
  | .ok () => return .ok ()

def selectorText (selector : Labels) : String :=
  "map[" ++ " ".intercalate (selector.toList.map (fun pair => pair.1 ++ ":" ++ pair.2)) ++ "]"

def discoverPorts (ns : String) (selector : Labels) : Action (Except Err (List Int)) := do
  match ← perform (Op.listPods ns selector) with
  | .error err =>
      return .error (err.wrap ("list pods for selector " ++ selectorText selector ++ " in " ++ ns))
  | .ok pods =>
      let seen := pods.flatMap Pod.containerPorts
      return .ok (Std.ExtTreeSet.ofList seen compare).toList

def quarantinePorts (ns : String) (selector : Labels) : List Int → Action (Except Err Unit)
  | [] => return .ok ()
  | port :: rest => do
      let server := newLinkerdServer ns (quarantineName selector) selector port
      match ← createOrUpdateUnstructured server with
      | .error err => return .error (err.wrap ("quarantine port " ++ toString port))
      | .ok () => quarantinePorts ns selector rest

def deleteAll : List Object → Action (Except Err Unit)
  | [] => return .ok ()
  | object :: rest => do
      match ← deleteUnstructuredIfExists object.key with
      | .error err => return .error err
      | .ok () => deleteAll rest

def Adapter.quarantine (adapter : Adapter) (ns : String) (selector : Labels) :
    Action (Except Err Unit) :=
  match adapter with
  | .istio => createOrUpdateUnstructured (newAuthorizationPolicy ns selector)
  | .cilium => createOrUpdateUnstructured (newCiliumNetworkPolicy ns selector)
  | .noop => return .ok ()
  | .linkerd => do
      match ← discoverPorts ns selector with
      | .error err => return .error err
      | .ok ports =>
          if ports.length = 0 then
            return .error (errorf ("linkerd: no declared container ports found for selector " ++
              selectorText selector ++ " in namespace " ++ ns ++ " -- " ++
              "a Server-per-port quarantine has no effect with zero ports; either no Pods " ++
              "currently match, or none declare a containerPort " ++
              "(see LinkerdAdapter's doc comment)"))
          else quarantinePorts ns selector ports

def Adapter.release (adapter : Adapter) (ns : String) (selector : Labels) :
    Action (Except Err Unit) :=
  match adapter with
  | .istio => deleteUnstructuredIfExists (newAuthorizationPolicy ns selector).key
  | .cilium => deleteUnstructuredIfExists (newCiliumNetworkPolicy ns selector).key
  | .noop => return .ok ()
  | .linkerd => do
      match ← perform (Op.meshList .server ns quarantineForLabel (quarantineName selector)) with
      | .error err =>
          return .error (err.wrap ("list quarantine Servers for " ++ ns ++ "/" ++
            selectorText selector))
      | .ok servers => deleteAll servers

/-- `object` is one of those the adapter places for a selector. -/
def Adapter.Owns (adapter : Adapter) (ns : String) (selector : Labels) (object : Object) : Prop :=
  match adapter with
  | .istio => object.key = (newAuthorizationPolicy ns selector).key
  | .cilium => object.key = (newCiliumNetworkPolicy ns selector).key
  | .linkerd => object.key.kind = .server ∧ object.key.ns = ns ∧
      object.labels[quarantineForLabel]? = some (quarantineName selector)
  | .noop => False

def OnMesh : Op → Prop
  | .listPods _ _ => True
  | .meshGet _ => True
  | .meshCreate _ => True
  | .meshUpdate _ => True
  | .meshDelete _ => True
  | .meshList _ _ _ _ => True
  | _ => False

def Places (placed : Object → Prop) : Op → Prop
  | .listPods _ _ => True
  | .meshGet _ => True
  | .meshCreate object => placed object
  | .meshUpdate object => placed object
  | _ => False

def Deletes : Op → Prop
  | .meshDelete _ => True
  | .meshList _ _ _ _ => True
  | _ => False

theorem places_onMesh {placed : Object → Prop} (op : Op) (places : Places placed op) :
    OnMesh op := by
  cases op <;> first | exact trivial | exact places.elim

theorem places_mono {placed wider : Object → Prop} (op : Op)
    (implies : ∀ object, placed object → wider object) (places : Places placed op) :
    Places wider op := by
  cases op <;> first | exact trivial | exact places.elim | exact implies _ places

theorem deletes_onMesh (op : Op) (deletes : Deletes op) : OnMesh op := by
  cases op <;> first | exact trivial | exact deletes.elim

theorem createOrUpdateUnstructured_asks {placed : Object → Prop} (object : Object)
    (places : ∀ version, placed { object with resourceVersion := version }) :
    (createOrUpdateUnstructured object).AsksOnly (Places placed) := by
  refine ⟨trivial, fun answer => ?_⟩
  cases answer with
  | error err =>
      dsimp only [Program.bind]
      split
      · refine ⟨places object.resourceVersion, fun created => ?_⟩
        cases created <;> exact trivial
      · exact trivial
  | ok existing =>
      refine ⟨places existing.resourceVersion, fun updated => ?_⟩
      cases updated <;> exact trivial

theorem deleteUnstructuredIfExists_asks (key : ObjectKey) :
    (deleteUnstructuredIfExists key).AsksOnly Deletes := by
  refine ⟨trivial, fun answer => ?_⟩
  cases answer with
  | error err =>
      dsimp only [Program.bind]
      split <;> exact trivial
  | ok done => exact trivial

theorem quarantinePorts_asks (ns : String) (selector : Labels) (ports : List Int) :
    (quarantinePorts ns selector ports).AsksOnly (Places (Adapter.linkerd.Owns ns selector)) := by
  induction ports with
  | nil => exact trivial
  | cons port rest ih =>
      have owned : ∀ version, Adapter.linkerd.Owns ns selector
          { newLinkerdServer ns (quarantineName selector) selector port with
            resourceVersion := version } :=
        fun _ => ⟨rfl, rfl, Std.ExtTreeMap.getElem?_insert_self⟩
      refine (createOrUpdateUnstructured_asks _ owned).bind (fun outcome => ?_)
      cases outcome with
      | error err => exact trivial
      | ok done => exact ih

theorem deleteAll_asks (objects : List Object) : (deleteAll objects).AsksOnly Deletes := by
  induction objects with
  | nil => exact trivial
  | cons object rest ih =>
      refine (deleteUnstructuredIfExists_asks _).bind (fun outcome => ?_)
      cases outcome with
      | error err => exact trivial
      | ok done => exact ih

theorem Adapter.quarantine_places (adapter : Adapter) (ns : String) (selector : Labels) :
    (adapter.quarantine ns selector).AsksOnly (Places (adapter.Owns ns selector)) := by
  cases adapter with
  | istio => exact createOrUpdateUnstructured_asks _ (fun _ => rfl)
  | cilium => exact createOrUpdateUnstructured_asks _ (fun _ => rfl)
  | noop => exact trivial
  | linkerd =>
      have discovered : (discoverPorts ns selector).AsksOnly
          (Places (Adapter.linkerd.Owns ns selector)) := by
        refine ⟨trivial, fun answer => ?_⟩
        cases answer <;> exact trivial
      refine discovered.bind (fun outcome => ?_)
      cases outcome with
      | error err => exact trivial
      | ok ports =>
          dsimp only
          split
          · exact trivial
          · exact quarantinePorts_asks ns selector ports

theorem Adapter.release_deletes (adapter : Adapter) (ns : String) (selector : Labels) :
    (adapter.release ns selector).AsksOnly Deletes := by
  cases adapter with
  | istio => exact deleteUnstructuredIfExists_asks _
  | cilium => exact deleteUnstructuredIfExists_asks _
  | noop => exact trivial
  | linkerd =>
      refine ⟨trivial, fun answer => ?_⟩
      cases answer with
      | error err => exact trivial
      | ok servers => exact deleteAll_asks servers

end Sentinel5G.Mesh
