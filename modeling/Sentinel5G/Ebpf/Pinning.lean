import Sentinel5G.Ebpf.Updater

/-! The enforcement maps in the kernel, how an attach pins them, and what the operator of
a node does to them. -/

namespace Sentinel5G.Ebpf.Pinning

open Base

def mapName : EnforcementMap → String
  | .blocklist => "blocklist"
  | .blocklistV6 => "blocklist_v6"
  | .tunnelBlocklist => "tunnel_blocklist"
  | .tunnelBlocklistV6 => "tunnel_blocklist_v6"

def pinnedMapNames : List EnforcementMap :=
  [.blocklist, .blocklistV6, .tunnelBlocklist, .tunnelBlocklistV6]

inductive PinType
  | none
  | byName
  deriving DecidableEq

structure MapSpec where
  mapType : Nat
  keySize : Nat
  valueSize : Nat
  maxEntries : Nat
  flags : Nat
  pinning : PinType
  deriving DecidableEq

/-- The enforcement maps that an object exports. -/
abbrev CollectionSpec := EnforcementMap → Option MapSpec

/-- A map in the kernel, with what it was created from. -/
structure KernelMap (map : EnforcementMap) where
  spec : MapSpec
  hash : BpfHash map.keySize

def MapSpec.created {map : EnforcementMap} (spec : MapSpec) : KernelMap map :=
  ⟨spec, .empty _ spec.maxEntries⟩

/-- The maps in the kernel, numbered as they were created, and the pins. A map that is
pinned exists. -/
structure Kernel where
  maps : (map : EnforcementMap) → Nat → KernelMap map
  count : EnforcementMap → Nat
  pins : EnforcementMap → Option Nat
  held : ∀ map id, pins map = some id → id < count map

abbrev Collection := EnforcementMap → Option Nat

inductive LoadError
  | mapIncompatible (text : String)
  | other (text : String)

def LoadError.text : LoadError → String
  | .mapIncompatible text => text
  | .other text => text

/-- `NewCollectionWithOptions` of the library, with the pin path that is configured. -/
abbrev Load := CollectionSpec → Kernel → Except LoadError Collection × Kernel

/-- What the system answers to `ensurePinDir`: the nearest directory that exists, the type
of its filesystem, and why the pin directory cannot be made, if it cannot. -/
structure PinDir where
  existing : Option String
  statfs : Except String Nat
  mkdirAll : Option String

def bpfFsMagic : Nat := 0xcafe4a11

def ensurePinDir (path : String) (answers : PinDir) : Except Err Unit :=
  match answers.existing with
  | none =>
      .error (errorf ("resolve pin path " ++ quoted path ++ ": no existing ancestor directory"))
  | some existing =>
      match answers.statfs with
      | .error text => .error (errorf ("statfs " ++ quoted existing ++ ": " ++ text))
      | .ok type =>
          if type ≠ bpfFsMagic then
            .error ⟨.pinPathNotBPFFS, "pin path is not on a bpf filesystem (bpffs): " ++
              quoted existing ++ " (filesystem type " ++ hexLiteral type ++
              "); mount one with `mount -t bpf bpffs /sys/fs/bpf`, " ++
              "or mount the host's into the container (see docs/troubleshooting.md#ebpf)"⟩
          else match answers.mkdirAll with
            | some text => .error (errorf ("create pin directory " ++ quoted path ++ ": " ++ text))
            | none => .ok ()

def markPinned (spec : CollectionSpec) (name : EnforcementMap) : Except Err CollectionSpec :=
  match spec name with
  | none =>
      .error (errorf ("bpf object does not export map " ++ quoted (mapName name) ++
        ", so it cannot be pinned"))
  | some m => .ok (Function.update spec name (some { m with pinning := .byName }))

def markPinnedMaps (spec : CollectionSpec) : Except Err CollectionSpec :=
  pinnedMapNames.foldlM markPinned spec

/-- `remove` is why a pin cannot be removed; one that is not there is as good as removed. -/
def removePins (remove : EnforcementMap → Option String) (kernel : Kernel) :
    List String × Kernel :=
  (pinnedMapNames.filterMap (fun name =>
      (remove name).map (fun text => "remove pin " ++ quoted (mapName name) ++ ": " ++ text)),
    { kernel with
      pins := fun map => if (remove map).isSome then kernel.pins map else none
      held := fun map id pinned => by
        split at pinned
        · exact kernel.held map id pinned
        · cases pinned })

/-- How everything around one call of `AttachWithOptions` answers. A text is why a step
fails. -/
structure Surroundings where
  interface : Option String
  object : Except String CollectionSpec
  pinDir : PinDir
  first : Load
  remove : EnforcementMap → Option String
  second : Load
  exportsProgram : Bool
  /-- For the maps that are not enforcement maps. -/
  exportsMap : String → Bool
  attachXDP : Option String
  bootTime : Option String

/-- The flag says that the pins have been discarded. -/
def newPinnedCollection (env : Surroundings) (spec : CollectionSpec) (kernel : Kernel) :
    Except Err (Collection × Bool) × Kernel :=
  match env.first spec kernel with
  | (.ok coll, after) => (.ok (coll, false), after)
  | (.error (.other text), after) => (.error (errorf text), after)
  | (.error (.mapIncompatible text), after) =>
      match removePins env.remove after with
      | (fault :: faults, left) =>
          (.error (errorf ("pinned maps are incompatible with this object (" ++ text ++
            ") and removing the stale pins failed: " ++ "\n".intercalate (fault :: faults))), left)
      | ([], left) =>
          match env.second spec left with
          | (.error err, again) =>
              (.error (errorf ("pinned maps were incompatible with this object (" ++ text ++
                ") and reloading after removing them also failed: " ++ err.text)), again)
          | (.ok coll, again) => (.ok (coll, true), again)

structure Settings where
  objectPath : String
  iface : String
  pinPath : String

/-- `AttachWithOptions` up to the load. -/
def prepare (settings : Settings) (env : Surroundings) : Except Err CollectionSpec :=
  match env.interface with
  | some text =>
      .error (errorf ("resolve interface " ++ quoted settings.iface ++
        ": network interface not found: " ++ text))
  | none =>
      match env.object with
      | .error text =>
          .error (errorf ("load bpf collection spec from " ++ quoted settings.objectPath ++ ": " ++
            text))
      | .ok spec =>
          if settings.pinPath = "" then .ok spec
          else match ensurePinDir settings.pinPath env.pinDir with
            | .error err => .error (err.wrap "prepare pin path")
            | .ok _ =>
                match markPinnedMaps spec with
                | .error err =>
                    .error (err.wrap ("prepare pin path " ++ quoted settings.pinPath))
                | .ok marked => .ok marked

def instantiate (settings : Settings) (env : Surroundings) (spec : CollectionSpec)
    (kernel : Kernel) : Except Err (Collection × Bool) × Kernel :=
  if settings.pinPath = "" then
    match env.first spec kernel with
    | (.ok coll, after) => (.ok (coll, false), after)
    | (.error err, after) => (.error (errorf err.text), after)
  else newPinnedCollection env spec kernel

def verifyEnforcementKeySizes (kernel : Kernel) (coll : Collection) : Option Err :=
  (pinnedMapNames.find? (fun name =>
      (coll name).any (fun id => (kernel.maps name id).spec.keySize ≠ name.keySize))).map
    (fun name => errorf ("map " ++ quoted (mapName name) ++ " has key size " ++
      toString (((coll name).map fun id => (kernel.maps name id).spec.keySize).getD 0) ++
      ", this build expects " ++ toString name.keySize ++
      ": bpf/packet_filter.c and pkg/ebpf are out of sync"))

/-- The maps that are looked up in a collection, and whether it has them. -/
def lookups (env : Surroundings) (coll : Collection) : List (String × Bool) :=
  let enforcement map := (mapName map, (coll map).isSome)
  let other name := (name, env.exportsMap name)
  [enforcement .blocklist, other "signal_rate", other "scan_rate", other "tunnel_rate",
    enforcement .tunnelBlocklist, other "signaling_events", enforcement .blocklistV6,
    other "signal_rate_v6", other "scan_rate_v6", other "tunnel_rate_v6",
    enforcement .tunnelBlocklistV6, other "signaling_events_v6"]

/-- What is wrong behind the load, if anything; the collection is closed then. -/
def fault (settings : Settings) (env : Surroundings) (kernel : Kernel) (coll : Collection) :
    Option Err :=
  (if env.exportsProgram then none else
    some (errorf ("bpf object " ++ quoted settings.objectPath ++ " does not export program " ++
      quoted "xdp_packet_filter"))).or <|
  (((lookups env coll).find? fun lookup => !lookup.2).map fun lookup =>
    errorf ("bpf object " ++ quoted settings.objectPath ++ " does not export map " ++
      quoted lookup.1)).or <|
  (verifyEnforcementKeySizes kernel coll).or <|
  (env.attachXDP.map fun text =>
    errorf ("attach xdp program to " ++ quoted settings.iface ++ ": " ++ text)).or <|
  env.bootTime.map fun text =>
    errorf ("compute monotonic-to-wall-clock offset: clock_gettime(CLOCK_MONOTONIC): " ++ text)

/-- A loader by the maps of its collection. -/
structure Attached where
  maps : EnforcementMap → Nat
  pinReset : Bool

def Attached.loader (attached : Attached) (kernel : Kernel) : Loader :=
  ⟨fun map => (kernel.maps map (attached.maps map)).hash⟩

structure Node where
  kernel : Kernel
  attached : Option Attached

def attachWithOptions (settings : Settings) (env : Surroundings) (node : Node) :
    Except Err Unit × Node :=
  match prepare settings env with
  | .error err => (.error err, node)
  | .ok spec =>
      match instantiate settings env spec node.kernel with
      | (.error err, after) =>
          (.error (err.wrap "instantiate bpf collection"), { node with kernel := after })
      | (.ok (coll, pinReset), after) =>
          match fault settings env after coll with
          | some err => (.error err, { node with kernel := after })
          | none => (.ok (), ⟨after, some ⟨fun map => (coll map).getD 0, pinReset⟩⟩)

/-- Without a bpf filesystem the maps are not pinned, in a second attempt. -/
def attachBlocklist (settings : Settings) (env retry : Surroundings) (node : Node) : Node :=
  match attachWithOptions settings env node with
  | (.ok _, after) => after
  | (.error err, after) =>
      if settings.pinPath ≠ "" ∧ err.kind = .pinPathNotBPFFS then
        (attachWithOptions { settings with pinPath := "" } retry after).2
      else after

def performed (loader : Loader) (call : BlocklistCall) : Loader :=
  (call.apply loader).toOption.getD loader

/-- A map is written where it is, so whoever has it sees what is written. -/
def Kernel.write (kernel : Kernel) (maps : EnforcementMap → Nat) (after : Loader) : Kernel :=
  { kernel with
    maps := fun map => Function.update (kernel.maps map) (maps map)
      { kernel.maps map (maps map) with hash := after.maps map } }

inductive Move
  | attach (env retry : Surroundings)
  | call (call : BlocklistCall)
  /-- The process closes its collection, or dies. -/
  | stop

def Node.next (settings : Settings) (node : Node) : Move → Node
  | .attach env retry => attachBlocklist settings env retry node
  | .stop => { node with attached := none }
  | .call call =>
      match node.attached with
      | none => node
      | some attached =>
          { node with
            kernel := node.kernel.write attached.maps
              (performed (attached.loader node.kernel) call) }

/-- The calls that reach the kernel, those of an attached process. -/
def issued : Node × Move → List BlocklistCall
  | (node, .call call) => if node.attached.isSome then [call] else []
  | _ => []

def capacity (object : CollectionSpec) (map : EnforcementMap) : Nat :=
  ((object map).map MapSpec.maxEntries).getD 0

/-- What comes into force when the object is attached: what is pinned, and nothing where
there is no pin. -/
def Kernel.restored (kernel : Kernel) (object : CollectionSpec) : Loader :=
  ⟨fun map => (kernel.pins map).elim (.empty _ (capacity object map))
    (fun id => (kernel.maps map id).hash)⟩

end Sentinel5G.Ebpf.Pinning
