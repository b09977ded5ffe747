import Sentinel5G.Controller.Watcher

namespace Sentinel5G.Controller

open Base Api Ebpf Program

def telecomSecurityPolicyFinalizer : String := "security.sentinel5g.io/finalizer"

def defaultDeEscalationDwell : Duration := 5 * minute

structure Reconciler where
  /-- Whether `Blocklist` is wired in; it is nil only in tests. -/
  blocklist : Bool
  /-- `Mesh`, nil only in tests. -/
  mesh : Option Mesh.Adapter
  dwell : Duration
  /-- Whether a `ScoringPipelineTracker` is wired in. -/
  scoring : Bool

def Reconciler.deEscalationDwell (reconciler : Reconciler) : Duration :=
  if reconciler.dwell > 0 then reconciler.dwell else defaultDeEscalationDwell

structure Result where
  requeueAfter : Duration
  deriving DecidableEq, Repr

def Result.none : Result := ⟨0⟩

def withSoonerRequeue (result : Result) (after : Duration) : Result :=
  if after ≤ 0 then result
  else if result.requeueAfter = 0 ∨ after < result.requeueAfter then ⟨after⟩
  else result

def conditionScoringPipelineReady : String := "ScoringPipelineReady"

def ScoringReason.text : ScoringReason → String
  | .scoresReceived => "ScoresReceived"
  | .awaitingFirstScore => "AwaitingFirstScore"
  | .noThreatScoresReceived => "NoThreatScoresReceived"

def ScoringReason.status : ScoringReason → ConditionStatus
  | .scoresReceived => .isTrue
  | .awaitingFirstScore => .isFalse
  | .noThreatScoresReceived => .isFalse

def ScoringReason.message : ScoringReason → String
  | .scoresReceived => "The AI engine has published at least one threat score."
  | .awaitingFirstScore =>
      "Subscribed to the threat score subject; no score has arrived yet. " ++
      "Normal shortly after install."
  | .noThreatScoresReceived =>
      "Subscribed to the threat score subject, but no threat score has ever arrived. " ++
      "The AI engine (cmd/ai-engine) is deployed separately from this operator and needs a " ++
      "trained model; without it nothing publishes a score and this policy will stay in its " ++
      "current phase indefinitely. See docs/production-install.md."

def findStatusCondition (conditions : List Condition) (type : String) : Option Condition :=
  conditions.find? (fun condition => decide (condition.type = type))

/-- `meta.SetStatusCondition`: the transition time moves only with the status. -/
def setStatusCondition (conditions : List Condition) (next : Condition) (now : Time) :
    List Condition :=
  match findStatusCondition conditions next.type with
  | none => conditions ++ [{ next with lastTransitionTime := now }]
  | some existing =>
      let time := if existing.status = next.status then existing.lastTransitionTime else now
      conditions.map (fun condition =>
        if condition = existing then { next with lastTransitionTime := time } else condition)

/-- The policy after the call, and how long until the answer could change. -/
def Reconciler.reportScoringPipeline (reconciler : Reconciler) (policy : TelecomSecurityPolicy) :
    Action (Except Err (TelecomSecurityPolicy × Duration)) := do
  if reconciler.scoring then
    let (reason, retryAfter) ← perform Op.scoringStatus
    let condition : Condition :=
      { type := conditionScoringPipelineReady
        status := reason.status
        observedGeneration := policy.generation
        lastTransitionTime := 0
        reason := reason.text
        message := reason.message }
    match findStatusCondition policy.status.conditions conditionScoringPipelineReady with
    | some existing =>
        if existing.status = condition.status ∧ existing.reason = condition.reason then
          return .ok (policy, retryAfter)
        else report policy condition retryAfter
    | none => report policy condition retryAfter
  else return .ok (policy, 0)
where
  report (policy : TelecomSecurityPolicy) (condition : Condition) (retryAfter : Duration) :
      Action (Except Err (TelecomSecurityPolicy × Duration)) := do
    let now ← perform Op.now
    let changed := { policy with status := { policy.status with
      conditions := setStatusCondition policy.status.conditions condition now } }
    match ← perform (Op.updateStatus changed) with
    | .error err =>
        -- A conflict leaves the caller with the copy it has, new condition included.
        if err.kind = .conflict then return .ok (changed, second)
        else return .error (err.wrap ("update scoring pipeline condition for " ++ policy.key.text))
    | .ok updated =>
        perform (Op.indexPut updated)
        return .ok (updated, retryAfter)

def unblockSources (context : String) (policy : TelecomSecurityPolicy) :
    List String → Action (Except Err Unit)
  | [] => return .ok ()
  | raw :: rest => do
      match parseIP raw with
      | none => unblockSources context policy rest
      | some ip =>
          match ← perform (Op.unblock ip) with
          | .error err =>
              return .error (err.wrap (context ++ "unblock " ++ raw ++ " for " ++ policy.key.text))
          | .ok () => unblockSources context policy rest

def unblockTunnels (context : String) (policy : TelecomSecurityPolicy) :
    List String → Action (Except Err Unit)
  | [] => return .ok ()
  | entry :: rest => do
      match parseTunnel entry with
      | .error _ => unblockTunnels context policy rest
      | .ok (ip, teid) =>
          match ← perform (Op.unblockTunnel ip teid) with
          | .error err =>
              return .error (err.wrap (context ++ "unblock tunnel " ++ entry ++ " for " ++
                policy.key.text))
          | .ok () => unblockTunnels context policy rest

/-- The kernel half of both undo paths, which differ only in the error prefix. -/
def Reconciler.undoBlocks (reconciler : Reconciler) (context : String)
    (policy : TelecomSecurityPolicy) : Action (Except Err Unit) := do
  if reconciler.blocklist then
    match ← unblockSources context policy policy.status.blockedSourceIPs with
    | .error err => return .error err
    | .ok () => unblockTunnels context policy policy.status.blockedTunnels
  else return .ok ()

def Reconciler.undoQuarantine (reconciler : Reconciler) (context : String)
    (policy : TelecomSecurityPolicy) : Action (Except Err Unit) := do
  match reconciler.mesh, firstMatchLabels policy.spec.targetWorkloads with
  | some adapter, some selector =>
      match ← adapter.release policy.key.ns selector with
      | .error err =>
          return .error (err.wrap (context ++ "release mesh quarantine for " ++ policy.key.text))
      | .ok () => return .ok ()
  | _, _ => return .ok ()

def Reconciler.tryDeEscalate (reconciler : Reconciler) (policy : TelecomSecurityPolicy) :
    Action (Except Err Result) := do
  match policy.status.lastMitigationTime with
  | none => return .ok .none
  | some last =>
      let elapsed := (← perform Op.now) - last
      let remaining := reconciler.deEscalationDwell - elapsed
      if remaining > 0 then return .ok ⟨remaining⟩
      else
        match ← reconciler.undoBlocks "de-escalate: " policy with
        | .error err => return .error err
        | .ok () =>
            match ← (if policy.spec.actions.isolatePod then
                reconciler.undoQuarantine "de-escalate: " policy
              else return .ok ()) with
            | .error err => return .error err
            | .ok () =>
                let cleared := { policy with status := { policy.status with
                  blockedSourceIPs := []
                  blockedTunnels := []
                  phase := .monitoring } }
                match ← perform (Op.updateStatus cleared) with
                | .error err =>
                    return .error (err.wrap ("update status after de-escalating " ++
                      policy.key.text))
                | .ok updated =>
                    perform (Op.indexPut updated)
                    return .ok .none

def Reconciler.finalize (reconciler : Reconciler) (policy : TelecomSecurityPolicy) :
    Action (Except Err Result) := do
  if telecomSecurityPolicyFinalizer ∈ policy.finalizers then
    match ← reconciler.undoQuarantine "" policy with
    | .error err => return .error err
    | .ok () =>
        match ← reconciler.undoBlocks "" policy with
        | .error err => return .error err
        | .ok () =>
            let released := { policy with
              finalizers := policy.finalizers.filter (· ≠ telecomSecurityPolicyFinalizer) }
            match ← perform (Op.update released) with
            | .error err => return .error (err.wrap ("remove finalizer from " ++ policy.key.text))
            | .ok _ =>
                perform (Op.indexRemove policy.key)
                return .ok .none
  else return .ok .none

def ensureFinalizer (policy : TelecomSecurityPolicy) :
    Action (Except Err TelecomSecurityPolicy) := do
  if telecomSecurityPolicyFinalizer ∈ policy.finalizers then return .ok policy
  else
    match ← perform (Op.update { policy with
        finalizers := policy.finalizers ++ [telecomSecurityPolicyFinalizer] }) with
    | .error err => return .error (err.wrap ("add finalizer to " ++ policy.key.text))
    | .ok updated => return .ok updated

def startMonitoring (policy : TelecomSecurityPolicy) :
    Action (Except Err TelecomSecurityPolicy) := do
  if policy.status.phase = .unset ∨ policy.status.phase = .pending then
    match ← perform (Op.updateStatus { policy with
        status := { policy.status with phase := .monitoring } }) with
    | .error err => return .error (err.wrap ("update status for " ++ policy.key.text))
    | .ok updated =>
        perform (Op.indexPut updated)
        return .ok updated
  else return .ok policy

def Reconciler.reconcile (reconciler : Reconciler) (request : NamespacedName) :
    Action (Except Err Result) := do
  match ← perform (Op.getPolicy request) with
  | .error err =>
      if err.kind = .notFound then
        perform (Op.indexRemove request)
        return .ok .none
      else return .error (err.wrap ("get TelecomSecurityPolicy " ++ request.text))
  | .ok policy =>
      if policy.deletionTimestamp.isSome then reconciler.finalize policy
      else
        match ← ensureFinalizer policy with
        | .error err => return .error err
        | .ok guarded =>
            perform (Op.indexPut guarded)
            match ← startMonitoring guarded with
            | .error err => return .error err
            | .ok monitored =>
                match ← reconciler.reportScoringPipeline monitored with
                | .error err => return .error err
                | .ok (reported, scoringRetry) =>
                    if reported.status.phase = .mitigating then
                      match ← reconciler.tryDeEscalate reported with
                      | .error err => return .error err
                      | .ok result => return .ok (withSoonerRequeue result scoringRetry)
                    else return .ok (withSoonerRequeue .none scoringRetry)

end Sentinel5G.Controller
