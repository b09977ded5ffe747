import Sentinel5G.Mesh.Adapter

namespace Sentinel5G.Controller

open Base Api Ebpf Program

structure ThreatScoreEvent where
  sourceEventID : String
  ns : String
  podName : String
  sourceIP : String
  teid : UInt32
  score : ℚ
  model : String
  detectedAt : Time

structure ThreatScoreWatcher where
  baseThreshold : ℚ
  mesh : Mesh.Adapter
  /-- Whether a `ScoringPipelineTracker` is wired in. -/
  scoring : Bool

def sensitivityMultiplier : Sensitivity → Option ℚ
  | .high => some (4 / 5)
  | .medium => some 1
  | .low => some (6 / 5)
  | .unset => none

def sensitivityMultiplierOrDefault (sensitivity : Sensitivity) : ℚ :=
  (sensitivityMultiplier sensitivity).getD 1

def ThreatScoreWatcher.threshold (watcher : ThreatScoreWatcher) (policy : TelecomSecurityPolicy) :
    ℚ :=
  let threshold := watcher.baseThreshold *
    sensitivityMultiplierOrDefault policy.spec.threatDetection.sensitivity
  if threshold > 1 then 1 else threshold

def roundHalfEven (numerator denominator : Nat) : Nat :=
  let quotient := numerator / denominator
  let twice := 2 * (numerator % denominator)
  if twice > denominator ∨ (twice = denominator ∧ quotient % 2 = 1) then quotient + 1 else quotient

def formatScore (score : ℚ) : String :=
  let scaled := roundHalfEven (score.num.natAbs * 10000) score.den
  let digits := Nat.toDigits 10 (scaled % 10000)
  (if score.num < 0 then "-" else "") ++ String.ofList (Nat.toDigits 10 (scaled / 10000)) ++ "." ++
    String.ofList (List.replicate (4 - digits.length) '0' ++ digits)

def appendUnique (ips : List String) (ip : String) : List String :=
  if ip ∈ ips then ips else ips ++ [ip]

def equalStringSet (a b : List String) : Bool :=
  if a.length ≠ b.length then false else b.all (fun x => decide (x ∈ a))

def statusDecisionChanged (prev next : TelecomSecurityPolicy) : Bool :=
  if prev.status.phase ≠ next.status.phase then true
  else if !equalStringSet prev.status.blockedSourceIPs next.status.blockedSourceIPs then true
  else !equalStringSet prev.status.blockedTunnels next.status.blockedTunnels

def firstMatchLabels : List WorkloadSelector → Option Labels
  | [] => none
  | selector :: rest =>
      if selector.app ≠ "" then some ((∅ : Labels).insert "app" selector.app)
      else if selector.matchLabels.size > 0 then some selector.matchLabels
      else firstMatchLabels rest

def updateStatus (policy : TelecomSecurityPolicy) : Action (Except Err Unit) := do
  match ← perform (Op.updateStatus policy) with
  | .error err => return .error (err.wrap ("update status for " ++ policy.key.text))
  | .ok updated =>
      perform (Op.indexPut updated)
      return .ok ()

def writeStatus (prev next : TelecomSecurityPolicy) : Action (Except Err Unit) := do
  if statusDecisionChanged prev next then updateStatus next
  else if ← perform (Op.allow next.key) then updateStatus next
  else return .ok ()

structure Intent where
  ip : Option IP
  blockTunnel : Bool
  blockSource : Bool
  quarantineSelector : Option Labels

def intent (policy : TelecomSecurityPolicy) (event : ThreatScoreEvent) : Intent :=
  let ip := parseIP event.sourceIP
  { ip := ip
    blockTunnel := policy.spec.actions.ebpfBlockTunnel && ip.isSome && decide (event.teid ≠ 0)
    blockSource := policy.spec.actions.ebpfBlock && ip.isSome
    quarantineSelector :=
      if policy.spec.actions.isolatePod then firstMatchLabels policy.spec.targetWorkloads
      else none }

/-- The status that records the intent before anything is touched. -/
def mitigatingStatus (status : PolicyStatus) (wanted : Intent) (event : ThreatScoreEvent)
    (now : Time) : PolicyStatus :=
  { status with
    observedThreatScore := formatScore event.score
    blockedTunnels :=
      if wanted.blockTunnel then
        appendUnique status.blockedTunnels (formatTunnel event.sourceIP event.teid)
      else status.blockedTunnels
    blockedSourceIPs :=
      if wanted.blockSource then appendUnique status.blockedSourceIPs event.sourceIP
      else status.blockedSourceIPs
    phase := .mitigating
    lastMitigationTime := some now }

def executeBlockTunnel (wanted : Intent) (event : ThreatScoreEvent) : Action (Except Err Unit) := do
  match wanted.blockTunnel, wanted.ip with
  | true, some ip =>
      match ← perform (Op.blockTunnel ip event.teid) with
      | .error err =>
          return .error (err.wrap ("ebpf block tunnel " ++ event.sourceIP ++ "/" ++
            hexLiteral event.teid.toNat))
      | .ok () => return .ok ()
  | _, _ => return .ok ()

def executeBlock (wanted : Intent) (event : ThreatScoreEvent) : Action (Except Err Unit) := do
  match wanted.blockSource, wanted.ip with
  | true, some ip =>
      match ← perform (Op.block ip) with
      | .error err => return .error (err.wrap ("ebpf block " ++ event.sourceIP))
      | .ok () => return .ok ()
  | _, _ => return .ok ()

def executeQuarantine (adapter : Mesh.Adapter) (policy : TelecomSecurityPolicy) (wanted : Intent) :
    Action (Except Err Unit) := do
  match wanted.quarantineSelector with
  | none => return .ok ()
  | some selector =>
      match ← adapter.quarantine policy.key.ns selector with
      | .error err => return .error (err.wrap ("mesh quarantine for " ++ policy.key.text))
      | .ok () => return .ok ()

namespace ThreatScoreWatcher

def execute (watcher : ThreatScoreWatcher) (policy : TelecomSecurityPolicy) (wanted : Intent)
    (event : ThreatScoreEvent) : Action (Except Err Unit) := do
  match ← executeBlockTunnel wanted event with
  | .error err => return .error err
  | .ok () =>
      match ← executeBlock wanted event with
      | .error err => return .error err
      | .ok () => executeQuarantine watcher.mesh policy wanted

def mitigate (watcher : ThreatScoreWatcher) (policy : TelecomSecurityPolicy)
    (event : ThreatScoreEvent) : Action (Except Err Unit) := do
  let wanted := intent policy event
  let now ← perform Op.now
  let latest := { policy with status := mitigatingStatus policy.status wanted event now }
  match ← writeStatus policy latest with
  | .error err => return .error err
  | .ok () => watcher.execute policy wanted event

def applyPolicy (watcher : ThreatScoreWatcher) (policy : TelecomSecurityPolicy)
    (event : ThreatScoreEvent) : Action (Except Err Unit) := do
  let observed := { policy.status with observedThreatScore := formatScore event.score }
  if event.score < watcher.threshold policy then
    let phase := if policy.status.phase ≠ .mitigating then .monitoring else policy.status.phase
    writeStatus policy { policy with status := { observed with phase := phase } }
  else if policy.spec.threatDetection.autoMitigate = false then
    writeStatus policy { policy with status := { observed with phase := .alerting } }
  else if ← perform Op.engaged then
    writeStatus policy { policy with status := { observed with phase := .alerting } }
  else watcher.mitigate policy event

def applyAll (watcher : ThreatScoreWatcher) (event : ThreatScoreEvent) :
    List TelecomSecurityPolicy → Action (List (Except Err Unit))
  | [] => return []
  | policy :: rest => do
      let outcome ← watcher.applyPolicy policy event
      let others ← watcher.applyAll event rest
      return outcome :: others

/-- `handle` from the Pod lookup on, with the outcomes that it writes to the log. -/
def applyMatching (watcher : ThreatScoreWatcher) (event : ThreatScoreEvent) :
    Action (Except Err (List (Except Err Unit))) := do
  match ← perform (Op.getPod ⟨event.ns, event.podName⟩) with
  | .error err =>
      if err.kind = .notFound then return .ok []
      else return .error (err.wrap ("get pod " ++ event.ns ++ "/" ++ event.podName))
  | .ok pod =>
      let policies ← perform (Op.matchingPolicies event.ns pod.labels)
      let outcomes ← watcher.applyAll event policies
      return .ok outcomes

def attempts (watcher : ThreatScoreWatcher) (event : ThreatScoreEvent) :
    Action (Except Err (List (Except Err Unit))) := do
  if watcher.scoring then perform Op.observeScore
  watcher.applyMatching event

/-- A failure to apply a policy is logged, and nil is returned all the same. -/
def handle (watcher : ThreatScoreWatcher) (event : ThreatScoreEvent) :
    Action (Except Err Unit) := do
  match ← watcher.attempts event with
  | .error err => return .error err
  | .ok _ => return .ok ()

def warmIndex : Action (Except Err Unit) := do
  match ← perform Op.listPolicies with
  | .error err => return .error err
  | .ok policies =>
      for policy in policies do
        if policy.deletionTimestamp.isNone then perform (Op.indexPut policy)
      return .ok ()

end ThreatScoreWatcher

end Sentinel5G.Controller
