import Sentinel5G.Api.Policy

namespace Sentinel5G.Config

open Base Api

/-- A `float64`, as far as its comparisons go. -/
inductive Float64
  | number (value : ℚ)
  | infinite (negative : Bool)
  | nan
  deriving DecidableEq

def Float64.lt : Float64 → Float64 → Bool
  | .nan, _ => false
  | _, .nan => false
  | .number first, .number second => decide (first < second)
  | .number _, .infinite negative => !negative
  | .infinite negative, .number _ => negative
  | .infinite first, .infinite second => first && !second

/-- What `strconv`, `time` and `fmt` read and print. -/
structure Library where
  parseFloat : String → Except Err Float64
  parseBool : String → Except Err Bool
  parseUint32 : String → Except Err UInt32
  atoi : String → Except Err Int
  parseDuration : String → Except Err Duration
  formatFloat : Float64 → String
  formatDuration : Duration → String

abbrev Env := String → Option String

structure OperatorConfig where
  metricsBindAddress : String
  healthProbeBindAddress : String
  leaderElect : Bool
  natsURL : String
  natsEventsSubject : String
  natsThreatsSubject : String
  natsStreamName : String
  natsCredentialsFile : String
  natsUsername : String
  natsPassword : String
  natsTLSCAFile : String
  natsTLSCertFile : String
  natsTLSKeyFile : String
  natsAllowUnauthenticated : Bool
  threatScoreThreshold : Float64
  meshAdapter : String
  logLevel : String
  hubbleAddr : String
  hubbleTLSCAFile : String
  hubbleTLSCertFile : String
  hubbleTLSKeyFile : String
  deEscalationDwell : Duration
  scoringPipelineGrace : Duration
  bpfPinPath : String
  blocklistReconcileInterval : Duration
  natsEventBatchSize : Int
  natsEventFlushInterval : Duration
  reactorStatusWritesPerSecond : Float64
  reactorStatusWriteBurst : Int
  killSwitchConfigMapName : String
  killSwitchNamespace : String
  killSwitchPollInterval : Duration
  gtpuTunnelFloodEnabled : Bool
  gtpuTunnelFloodPPS : UInt32
  gtpuTunnelFloodCooldown : Duration
  gtpuSourceFloodEnabled : Bool
  gtpuSourceFloodPPS : UInt32
  gtpuSourceFloodDistinctTunnels : Int
  gtpuSourceFloodWindow : Duration
  gtpuSourceFloodCooldown : Duration

section Environment

variable (go : Library) (env : Env)

def getEnv (key fallback : String) : String :=
  match env key with
  | some value => if value ≠ "" then value else fallback
  | none => fallback

def getEnvAllowEmpty (key fallback : String) : String := (env key).getD fallback

/-- A variable that is not set, or empty, has its default; a value that does not
parse is reported under the name of the variable. -/
def parseEnv {α : Type} (parse : String → Except Err α) (key : String) (fallback : α) :
    Except Err α :=
  match env key with
  | none => .ok fallback
  | some value =>
      if value = "" then .ok fallback
      else
        match parse value with
        | .ok parsed => .ok parsed
        | .error err => .error (err.wrap ("invalid " ++ key))

def parseFloatEnv := parseEnv env go.parseFloat

def parseBoolEnv := parseEnv env go.parseBool

def parseUint32Env := parseEnv env go.parseUint32

def parseIntEnv := parseEnv env (fun value => do
  let parsed ← go.atoi value
  if parsed < 0 then .error (errorf ("must not be negative, got " ++ toString parsed))
  else .ok parsed)

def parseDurationEnv := parseEnv env go.parseDuration

def defaultPinPath : String := "/sys/fs/bpf/sentinel5g"

def readConfig : Except Err OperatorConfig := do
  let threshold ← parseFloatEnv go env "THREAT_SCORE_THRESHOLD" (.number (85 / 100))
  let leaderElect ← parseBoolEnv go env "LEADER_ELECT" false
  let deEscalationDwell ← parseDurationEnv go env "DE_ESCALATION_DWELL" (5 * minute)
  let scoringPipelineGrace ← parseDurationEnv go env "SCORING_PIPELINE_GRACE" (10 * minute)
  let tunnelFloodEnabled ← parseBoolEnv go env "GTPU_TUNNEL_FLOOD_ENABLED" true
  let tunnelFloodPPS ← parseUint32Env go env "GTPU_TUNNEL_FLOOD_PPS" 100000
  let tunnelFloodCooldown ← parseDurationEnv go env "GTPU_TUNNEL_FLOOD_COOLDOWN" (30 * second)
  let sourceFloodEnabled ← parseBoolEnv go env "GTPU_SOURCE_FLOOD_ENABLED" true
  let sourceFloodPPS ← parseUint32Env go env "GTPU_SOURCE_FLOOD_PPS" 500000
  let sourceFloodDistinct ← parseIntEnv go env "GTPU_SOURCE_FLOOD_DISTINCT_TUNNELS" 2048
  let sourceFloodWindow ← parseDurationEnv go env "GTPU_SOURCE_FLOOD_WINDOW" second
  let sourceFloodCooldown ← parseDurationEnv go env "GTPU_SOURCE_FLOOD_COOLDOWN" (30 * second)
  let allowUnauthenticated ← parseBoolEnv go env "NATS_ALLOW_UNAUTHENTICATED" false
  let blocklistReconcileInterval ← parseDurationEnv go env "BLOCKLIST_RECONCILE_INTERVAL" minute
  let killSwitchPoll ← parseDurationEnv go env "KILL_SWITCH_POLL_INTERVAL" (2 * second)
  let eventBatchSize ← parseIntEnv go env "NATS_EVENT_BATCH_SIZE" 1
  let eventFlushInterval ← parseDurationEnv go env "NATS_EVENT_FLUSH_INTERVAL" (second / 4)
  let reactorRate ← parseFloatEnv go env "REACTOR_STATUS_WRITES_PER_SECOND" (.number 10)
  let reactorBurst ← parseIntEnv go env "REACTOR_STATUS_WRITE_BURST" 20
  return {
    metricsBindAddress := getEnv env "METRICS_BIND_ADDRESS" ":8080"
    healthProbeBindAddress := getEnv env "HEALTH_PROBE_BIND_ADDRESS" ":8081"
    leaderElect := leaderElect
    natsURL := getEnv env "NATS_URL" "nats://localhost:4222"
    natsEventsSubject := getEnv env "NATS_EVENTS_SUBJECT" "sentinel5g.events.normalized"
    natsThreatsSubject := getEnv env "NATS_THREATS_SUBJECT" "sentinel5g.threats.scored"
    natsStreamName := getEnv env "NATS_STREAM_NAME" "SENTINEL5G"
    natsCredentialsFile := getEnv env "NATS_CREDENTIALS_FILE" ""
    natsUsername := getEnv env "NATS_USERNAME" ""
    natsPassword := getEnv env "NATS_PASSWORD" ""
    natsTLSCAFile := getEnv env "NATS_TLS_CA_FILE" ""
    natsTLSCertFile := getEnv env "NATS_TLS_CERT_FILE" ""
    natsTLSKeyFile := getEnv env "NATS_TLS_KEY_FILE" ""
    natsAllowUnauthenticated := allowUnauthenticated
    threatScoreThreshold := threshold
    meshAdapter := getEnv env "MESH_ADAPTER" "istio"
    logLevel := getEnv env "LOG_LEVEL" "info"
    hubbleAddr := getEnv env "HUBBLE_ADDR" ""
    hubbleTLSCAFile := getEnv env "HUBBLE_TLS_CA_FILE" ""
    hubbleTLSCertFile := getEnv env "HUBBLE_TLS_CERT_FILE" ""
    hubbleTLSKeyFile := getEnv env "HUBBLE_TLS_KEY_FILE" ""
    deEscalationDwell := deEscalationDwell
    scoringPipelineGrace := scoringPipelineGrace
    bpfPinPath := getEnvAllowEmpty env "BPF_PIN_PATH" defaultPinPath
    blocklistReconcileInterval := blocklistReconcileInterval
    natsEventBatchSize := eventBatchSize
    natsEventFlushInterval := eventFlushInterval
    reactorStatusWritesPerSecond := reactorRate
    reactorStatusWriteBurst := reactorBurst
    killSwitchConfigMapName := getEnvAllowEmpty env "KILL_SWITCH_CONFIGMAP_NAME"
      "sentinel5g-killswitch"
    killSwitchNamespace := getEnv env "KILL_SWITCH_NAMESPACE" ((env "POD_NAMESPACE").getD "")
    killSwitchPollInterval := killSwitchPoll
    gtpuTunnelFloodEnabled := tunnelFloodEnabled
    gtpuTunnelFloodPPS := tunnelFloodPPS
    gtpuTunnelFloodCooldown := tunnelFloodCooldown
    gtpuSourceFloodEnabled := sourceFloodEnabled
    gtpuSourceFloodPPS := sourceFloodPPS
    gtpuSourceFloodDistinctTunnels := sourceFloodDistinct
    gtpuSourceFloodWindow := sourceFloodWindow
    gtpuSourceFloodCooldown := sourceFloodCooldown }

def natsHasCredentials (cfg : OperatorConfig) : Bool :=
  cfg.natsCredentialsFile != "" || cfg.natsUsername != "" || cfg.natsTLSCertFile != "" ||
    cfg.natsTLSCAFile != ""

def refusal (cfg : OperatorConfig) : Option String :=
  if cfg.threatScoreThreshold.lt (.number 0) ∨ (Float64.number 1).lt cfg.threatScoreThreshold then
    some ("THREAT_SCORE_THRESHOLD must be within [0,1], got " ++
      go.formatFloat cfg.threatScoreThreshold)
  else if cfg.gtpuTunnelFloodEnabled ∧ cfg.gtpuTunnelFloodPPS = 0 then
    some "GTPU_TUNNEL_FLOOD_PPS must be greater than 0 when GTPU_TUNNEL_FLOOD_ENABLED is true"
  else if cfg.gtpuSourceFloodEnabled ∧ cfg.gtpuSourceFloodPPS = 0 ∧
      cfg.gtpuSourceFloodDistinctTunnels = 0 then
    some ("GTPU_SOURCE_FLOOD_PPS and GTPU_SOURCE_FLOOD_DISTINCT_TUNNELS cannot both be 0 " ++
      "when GTPU_SOURCE_FLOOD_ENABLED is true: set at least one, or set " ++
      "GTPU_SOURCE_FLOOD_ENABLED=false to turn the detector off explicitly")
  else if cfg.gtpuSourceFloodWindow ≤ 0 then
    some ("GTPU_SOURCE_FLOOD_WINDOW must be greater than 0, got " ++
      go.formatDuration cfg.gtpuSourceFloodWindow)
  else if cfg.natsAllowUnauthenticated = false ∧ natsHasCredentials cfg = false then
    some ("refusing to start with an unauthenticated NATS connection: set NATS_CREDENTIALS_FILE, "
      ++
      "NATS_USERNAME+NATS_PASSWORD, or NATS_TLS_CERT_FILE+NATS_TLS_KEY_FILE, " ++
      "or set NATS_ALLOW_UNAUTHENTICATED=true to opt into it explicitly " ++
      "(see docs/integrations.md's \"Securing the NATS message bus\")")
  else none

def validated (cfg : OperatorConfig) : Except Err OperatorConfig :=
  match refusal go cfg with
  | some text => .error (errorf text)
  | none => .ok cfg

def load : Except Err OperatorConfig := do
  let cfg ← readConfig go env
  validated go cfg

end Environment

/-- What every configuration meets that the operator starts with. -/
structure Accepted (cfg : OperatorConfig) : Prop where
  threshold : cfg.threatScoreThreshold.lt (.number 0) = false ∧
    (Float64.number 1).lt cfg.threatScoreThreshold = false
  tunnelFlood : cfg.gtpuTunnelFloodEnabled = true → cfg.gtpuTunnelFloodPPS ≠ 0
  sourceFlood : cfg.gtpuSourceFloodEnabled = true → cfg.gtpuSourceFloodPPS ≠ 0 ∨
    cfg.gtpuSourceFloodDistinctTunnels ≠ 0
  window : 0 < cfg.gtpuSourceFloodWindow
  authenticated : cfg.natsAllowUnauthenticated = true ∨ natsHasCredentials cfg = true

theorem refusal_eq_none (go : Library) (cfg : OperatorConfig) :
    refusal go cfg = none ↔ Accepted cfg := by
  rw [refusal]
  constructor
  · intro silent
    split at silent
    · cases silent
    · rename_i inRange
      split at silent
      · cases silent
      · rename_i tunnel
        split at silent
        · cases silent
        · rename_i source
          split at silent
          · cases silent
          · rename_i window
            split at silent
            · cases silent
            · rename_i authenticated
              constructor
              · simpa using inRange
              · intro enabled zero
                exact tunnel ⟨enabled, zero⟩
              · intro enabled
                by_contra neither
                simp only [ne_eq, not_or, not_not] at neither
                exact source ⟨enabled, neither⟩
              · exact not_le.mp window
              · simpa only [not_and_or, Bool.not_eq_false] using authenticated
  · intro accepted
    rw [if_neg (by simp [accepted.threshold]),
      if_neg (fun refused => accepted.tunnelFlood refused.1 refused.2),
      if_neg (fun refused => (accepted.sourceFlood refused.1).elim (absurd refused.2.1)
        (absurd refused.2.2)),
      if_neg (not_le.mpr accepted.window)]
    rcases accepted.authenticated with allowed | known
    · simp [allowed]
    · simp [known]

theorem validated_ok_iff {go : Library} {read cfg : OperatorConfig} :
    validated go read = .ok cfg ↔ read = cfg ∧ Accepted cfg := by
  rw [validated]
  cases verdict : refusal go read with
  | none =>
      have accepted := (refusal_eq_none go read).mp verdict
      constructor
      · intro same
        cases same
        exact ⟨rfl, accepted⟩
      · rintro ⟨rfl, -⟩
        rfl
  | some text =>
      constructor
      · intro impossible
        cases impossible
      · rintro ⟨rfl, accepted⟩
        rw [(refusal_eq_none go read).mpr accepted] at verdict
        cases verdict

/-- The operator starts with what it reads, if that is acceptable. -/
theorem load_ok_iff {go : Library} {env : Env} {cfg : OperatorConfig} :
    load go env = .ok cfg ↔ readConfig go env = .ok cfg ∧ Accepted cfg := by
  rw [load]
  cases readConfig go env with
  | error err =>
      constructor
      · intro impossible
        cases impossible
      · rintro ⟨impossible, -⟩
        cases impossible
  | ok read =>
      rw [Except.ok.injEq]
      exact validated_ok_iff

theorem exists_loaded {go : Library} {env : Env} {chosen : OperatorConfig → Bool}
    (found : (load go env).toOption.any chosen = true) :
    ∃ cfg, load go env = .ok cfg ∧ chosen cfg = true := by
  cases outcome : load go env with
  | error err =>
      rw [outcome] at found
      cases found
  | ok cfg =>
      rw [outcome] at found
      exact ⟨cfg, rfl, found⟩

end Sentinel5G.Config
