import Sentinel5G.Api.Server
import Sentinel5G.Base.Program
import Sentinel5G.Controller.PolicyIndex
import Sentinel5G.Controller.Tunnel
import Sentinel5G.Mesh.Store

/-! What the controller acts on: the API server, the policy index, the kernel
maps, the mesh objects, the clock; and how each call it makes is answered. -/

namespace Sentinel5G.Controller

open Base Api Ebpf

def defaultScoringPipelineGrace : Duration := 10 * minute

def notReadyRecheck : Duration := minute

inductive ScoringReason
  | scoresReceived
  | awaitingFirstScore
  | noThreatScoresReceived
  deriving DecidableEq, Repr

structure ScoringPipelineTracker where
  firstScoreUnixNano : Int
  startedAt : Time
  grace : Duration

namespace ScoringPipelineTracker

def markStarted (tracker : ScoringPipelineTracker) (now : Time) : ScoringPipelineTracker :=
  { tracker with startedAt := now }

def effectiveGrace (tracker : ScoringPipelineTracker) : Duration :=
  if tracker.grace > 0 then tracker.grace else defaultScoringPipelineGrace

def observe (tracker : ScoringPipelineTracker) (now : Time) : ScoringPipelineTracker :=
  if tracker.firstScoreUnixNano ≠ 0 then tracker else { tracker with firstScoreUnixNano := now }

def everScored (tracker : ScoringPipelineTracker) : Bool := tracker.firstScoreUnixNano ≠ 0

def status (tracker : ScoringPipelineTracker) (now : Time) : ScoringReason × Duration :=
  if tracker.everScored then (.scoresReceived, 0)
  else
    let remaining := tracker.effectiveGrace - (now - tracker.startedAt)
    if remaining > 0 then (.awaitingFirstScore, remaining)
    else (.noThreatScoresReceived, notReadyRecheck)

end ScoringPipelineTracker

structure World where
  server : Server
  pods : Std.ExtTreeMap NamespacedName Pod NamespacedName.cmp
  index : PolicyIndex
  loader : Loader
  mesh : Mesh.Store
  clock : Time
  /-- What `KillSwitch.Engaged` answers at the moment. -/
  engaged : Bool
  /-- What `ActionRateLimiter.Allow` answers at the moment, for each policy. -/
  allows : NamespacedName → Bool
  scoring : ScoringPipelineTracker

def World.initial (capacity : EnforcementMap → Nat) : World where
  server := .empty
  pods := ∅
  index := .new
  loader := .empty capacity
  mesh := .empty
  clock := 0
  engaged := false
  allows := fun _ => true
  scoring := ⟨0, 0, 0⟩

/-- The calls the controller makes on its surroundings. -/
inductive Op
  | getPod (key : NamespacedName)
  | listPods (ns : String) (selector : Labels)
  | getPolicy (key : NamespacedName)
  | listPolicies
  | updateStatus (policy : TelecomSecurityPolicy)
  | update (policy : TelecomSecurityPolicy)
  | indexPut (policy : TelecomSecurityPolicy)
  | indexRemove (key : NamespacedName)
  | matchingPolicies (ns : String) (podLabels : Labels)
  | engaged
  | allow (key : NamespacedName)
  | block (ip : IP)
  | unblock (ip : IP)
  | blockTunnel (ip : IP) (teid : UInt32)
  | unblockTunnel (ip : IP) (teid : UInt32)
  | blockedIPs
  | blockedTunnels
  | meshGet (key : Mesh.ObjectKey)
  | meshCreate (object : Mesh.Object)
  | meshUpdate (object : Mesh.Object)
  | meshDelete (key : Mesh.ObjectKey)
  | meshList (kind : Mesh.Kind) (ns labelKey labelValue : String)
  | now
  | observeScore
  | scoringStatus

@[reducible] def Op.Answer : Op → Type
  | .getPod _ => Except Err Pod
  | .listPods _ _ => Except Err (List Pod)
  | .getPolicy _ => Except Err TelecomSecurityPolicy
  | .listPolicies => Except Err (List TelecomSecurityPolicy)
  | .updateStatus _ => Except Err TelecomSecurityPolicy
  | .update _ => Except Err TelecomSecurityPolicy
  | .indexPut _ => Unit
  | .indexRemove _ => Unit
  | .matchingPolicies _ _ => List TelecomSecurityPolicy
  | .engaged => Bool
  | .allow _ => Bool
  | .block _ => Except Err Unit
  | .unblock _ => Except Err Unit
  | .blockTunnel _ _ => Except Err Unit
  | .unblockTunnel _ _ => Except Err Unit
  | .blockedIPs => Except Err (List IP)
  | .blockedTunnels => Except Err (List BlockedTunnel)
  | .meshGet _ => Except Err Mesh.Object
  | .meshCreate _ => Except Err Unit
  | .meshUpdate _ => Except Err Unit
  | .meshDelete _ => Except Err Unit
  | .meshList _ _ _ _ => Except Err (List Mesh.Object)
  | .now => Time
  | .observeScore => Unit
  | .scoringStatus => ScoringReason × Duration

abbrev Action := Program Op.Answer

/-- How a call to a remote component can go wrong beyond its own answer: it is
refused, or it takes effect and the reply is an error all the same. -/
inductive Fault
  | none
  | refused (text : String)
  | lost (text : String)
  deriving DecidableEq, Repr

/-- The order in which a map iteration visits what it visits. -/
structure MapOrder where
  arrange : List TelecomSecurityPolicy → List TelecomSecurityPolicy
  perm : ∀ policies, (arrange policies).Perm policies

/-- What the surroundings are free to choose when they answer one call. -/
structure Choice where
  fault : Fault
  /-- How many versions behind the cache is, for each object. -/
  lag : NamespacedName → Nat
  order : MapOrder

def Choice.quiet : Choice where
  fault := .none
  lag := fun _ => 0
  order := ⟨id, fun _ => .refl _⟩

namespace Choice

def read {α : Type} (choice : Choice) (result : Except Err α) : Except Err α :=
  match choice.fault with
  | .none => result
  | .refused text => .error (errorf text)
  | .lost text => .error (errorf text)

def write {α : Type} (choice : Choice) (world : World) (effect : Except Err α × World) :
    Except Err α × World :=
  match choice.fault with
  | .none => effect
  | .refused text => (.error (errorf text), world)
  | .lost text => (.error (errorf text), effect.2)

/-- A map operation is one system call: it fails without effect. -/
def syscall (choice : Choice) (world : World) (result : Except Err Loader) :
    Except Err Unit × World :=
  match choice.read result with
  | .error err => (.error err, world)
  | .ok loader => (.ok (), { world with loader := loader })

end Choice

def Pod.matches (pod : Pod) (ns : String) (selector : Labels) : Bool :=
  decide (pod.key.ns = ns) &&
    selector.toList.all (fun pair => decide (pod.labels[pair.1]? = some pair.2))

def exec (choice : Choice) : (op : Op) → World → op.Answer × World
  | .getPod key, world =>
      (choice.read (match world.pods[key]? with
        | some pod => .ok pod
        | none => .error (notFoundErr "pods" key)), world)
  | .listPods ns selector, world =>
      (choice.read (.ok ((world.pods.toList.map Prod.snd).filter
        (fun pod => Pod.matches pod ns selector))), world)
  | .getPolicy key, world =>
      (choice.read (match world.server.cached key (choice.lag key) with
        | some policy => .ok policy
        | none => .error (notFoundErr policyResource key)), world)
  | .listPolicies, world => (choice.read (.ok (world.server.listCached choice.lag)), world)
  | .updateStatus policy, world =>
      let effect := world.server.updateStatus policy
      choice.write world (effect.1, { world with server := effect.2 })
  | .update policy, world =>
      let effect := world.server.update policy
      choice.write world (effect.1, { world with server := effect.2 })
  | .indexPut policy, world => ((), { world with index := world.index.put policy })
  | .indexRemove key, world => ((), { world with index := world.index.remove key })
  | .matchingPolicies ns podLabels, world =>
      (choice.order.arrange (world.index.matchingPolicies ns podLabels), world)
  | .engaged, world => (world.engaged, world)
  | .allow key, world => (world.allows key, world)
  | .block ip, world => choice.syscall world (world.loader.block ip)
  | .unblock ip, world => choice.syscall world (world.loader.unblock ip)
  | .blockTunnel ip teid, world => choice.syscall world (world.loader.blockTunnel ip teid)
  | .unblockTunnel ip teid, world => choice.syscall world (world.loader.unblockTunnel ip teid)
  | .blockedIPs, world => (choice.read (.ok world.loader.blockedIPs), world)
  | .blockedTunnels, world => (choice.read (.ok world.loader.blockedTunnels), world)
  | .meshGet key, world => (choice.read (world.mesh.get key), world)
  | .meshCreate object, world =>
      let effect := world.mesh.create object
      choice.write world (effect.1, { world with mesh := effect.2 })
  | .meshUpdate object, world =>
      let effect := world.mesh.update object
      choice.write world (effect.1, { world with mesh := effect.2 })
  | .meshDelete key, world =>
      let effect := world.mesh.delete key
      choice.write world (effect.1, { world with mesh := effect.2 })
  | .meshList kind ns labelKey labelValue, world =>
      (choice.read (.ok (world.mesh.list kind ns labelKey labelValue)), world)
  | .now, world => (world.clock, world)
  | .observeScore, world => ((), { world with scoring := world.scoring.observe world.clock })
  | .scoringStatus, world => (world.scoring.status world.clock, world)

end Sentinel5G.Controller
