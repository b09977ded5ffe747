import Sentinel5G.Events.Json
import Mathlib.Algebra.Order.Field.Rat

namespace Sentinel5G.AiEngine

open Api Events

inductive Raised
  | valueError
  | typeError
  | runtimeError
  | other
  deriving DecidableEq, Repr

/-- What the conversions that can raise, and the text of other values, are left to:
`float` raises for an integer beyond its range, `int` for what is not finite. -/
structure Builtins where
  fromisoformat : String → Except Raised Time
  intOfText : String → Except Raised Int
  intOfFloat : ℚ → Except Raised Int
  floatOfText : String → Except Raised ℚ
  floatOfInt : Int → Except Raised ℚ
  str : Json → String
  floatOfInt_small : ∀ value, value.natAbs < 10 ^ 21 → floatOfInt value = .ok value

namespace Builtins

variable (builtins : Builtins)

def toStr : Json → String
  | .text value => value
  | value => builtins.str value

def toInt : Json → Except Raised Int
  | .bool value => .ok (if value then 1 else 0)
  | .int value => .ok value
  | .float value => builtins.intOfFloat value
  | .text value => builtins.intOfText value
  | _ => .error .typeError

def toFloat : Json → Except Raised ℚ
  | .bool value => .ok (if value then 1 else 0)
  | .int value => builtins.floatOfInt value
  | .float value => .ok value
  | .text value => builtins.floatOfText value
  | _ => .error .typeError

end Builtins

def truth : Json → Bool
  | .null => false
  | .bool value => value
  | .int value => decide (value ≠ 0)
  | .float value => decide (value ≠ 0)
  | .text value => decide (value ≠ "")
  | .array items => !items.isEmpty
  | .object fields => !fields.isEmpty

structure NormalizedEvent where
  protocol : String
  destPort : Int
  payloadSize : Int
  ratePerSecond : ℚ
  malformed : Bool
  observedAt : Time
  teid : Int
  tunnelRatePerSecond : ℚ

/-- The time of an event, which is `now` unless it has a text for it. -/
def parseObservedAt (builtins : Builtins) (now : Time) (data : Dict) : Except Raised Time :=
  match data.get "observedAt" with
  | some (.text value) => builtins.fromisoformat (value.replace "Z" "+00:00")
  | _ => .ok now

def readFields (builtins : Builtins) (data : Dict) (observedAt : Time) :
    Except Raised NormalizedEvent := do
  let destPort ← builtins.toInt ((data.get "destPort").getD (.int 0))
  let payloadSize ← builtins.toInt ((data.get "payloadSize").getD (.int 0))
  let ratePerSecond ← builtins.toFloat ((data.get "ratePerSecond").getD (.float 0))
  let teid ← builtins.toInt ((data.get "teid").getD (.int 0))
  let tunnelRatePerSecond ← builtins.toFloat ((data.get "tunnelRatePerSecond").getD (.float 0))
  return {
    protocol := builtins.toStr ((data.get "protocol").getD (.text "UNKNOWN"))
    destPort := destPort
    payloadSize := payloadSize
    ratePerSecond := ratePerSecond
    malformed := truth ((data.get "malformed").getD (.bool false))
    observedAt := observedAt
    teid := teid
    tunnelRatePerSecond := tunnelRatePerSecond }

def NormalizedEvent.fromDict (builtins : Builtins) (now : Time) (data : Dict) :
    Except Raised NormalizedEvent := do
  let observedAt ← parseObservedAt builtins now data
  readFields builtins data observedAt

theorem toFloat_floatJson (builtins : Builtins) (value : ℚ) :
    builtins.toFloat (floatJson value) = .ok value := by
  rw [floatJson]
  split
  · rename_i whole
    rw [Builtins.toFloat, builtins.floatOfInt_small _ whole.2,
      Rat.coe_int_num_of_den_eq_one whole.1]
  · rfl

/-- What the ingestion sends is read back field by field. -/
theorem fromDict_json (builtins : Builtins) (now : Time) (timeText : Time → String)
    (event : Ingestion.NormalizedEvent) :
    NormalizedEvent.fromDict builtins now (normalizedEventJson timeText event) =
      (builtins.fromisoformat ((timeText event.observedAt).replace "Z" "+00:00")).map (fun time =>
        { protocol := protocolName event.protocol
          destPort := event.destPort.toNat
          payloadSize := event.payloadSize.toNat
          ratePerSecond := event.ratePerSecond
          malformed := event.malformed
          observedAt := time
          teid := event.teid.toNat
          tunnelRatePerSecond := event.tunnelRatePerSecond }) := by
  have observed : parseObservedAt builtins now (normalizedEventJson timeText event) =
      builtins.fromisoformat ((timeText event.observedAt).replace "Z" "+00:00") := rfl
  rw [NormalizedEvent.fromDict, observed]
  cases builtins.fromisoformat ((timeText event.observedAt).replace "Z" "+00:00") with
  | error raised => rfl
  | ok time =>
      have rate : builtins.toFloat (((normalizedEventJson timeText event).get
          "ratePerSecond").getD (.float 0)) = .ok event.ratePerSecond :=
        toFloat_floatJson builtins _
      have tunnelRate : builtins.toFloat (((normalizedEventJson timeText event).get
          "tunnelRatePerSecond").getD (.float 0)) = .ok event.tunnelRatePerSecond :=
        toFloat_floatJson builtins _
      change readFields builtins (normalizedEventJson timeText event) time = _
      rw [readFields, rate, tunnelRate]
      rfl

def featureNames : List String :=
  ["proto_gtpu", "proto_sip", "proto_smpp", "proto_http2", "proto_unknown", "payload_size_norm",
    "untunneled_rate_norm", "malformed", "dest_port_signaling", "dest_port_norm",
    "tunnel_rate_norm", "has_teid"]

def featureVectorSize : Nat := featureNames.length

def protocols : List String := ["GTP-U", "SIP", "SMPP", "HTTP2"]

def signalingPorts : List Int := [2152, 5060]

def maxPayloadBytes : ℚ := 4096

def maxRatePerSecond : ℚ := 5000

def maxTunnelRatePerSecond : ℚ := 2000

def clipped (value bound : ℚ) : ℚ := min (max value 0) bound / bound

def flag (holds : Bool) : ℚ := if holds then 1 else 0

/-- The rate of the source speaks for traffic without a tunnel only. -/
def rateNorm (event : NormalizedEvent) : ℚ :=
  if event.teid ≠ 0 then 0 else clipped event.ratePerSecond maxRatePerSecond

def features (event : NormalizedEvent) : List ℚ :=
  protocols.map (fun protocol => flag (event.protocol = protocol)) ++
    [flag (event.protocol ∉ protocols)] ++
    [clipped event.payloadSize maxPayloadBytes, rateNorm event, flag event.malformed,
      flag (event.destPort ∈ signalingPorts), clipped event.destPort 65535,
      clipped event.tunnelRatePerSecond maxTunnelRatePerSecond, flag (event.teid ≠ 0)]

def extractFeatures (event : NormalizedEvent) : Except Raised (List ℚ) :=
  if (features event).length ≠ featureVectorSize then .error .runtimeError
  else .ok (features event)

/-- The vector always has its size. -/
theorem extractFeatures_eq (event : NormalizedEvent) :
    extractFeatures event = .ok (features event) :=
  if_neg (not_not.mpr rfl)

theorem extractFeatures_tunneled {event : NormalizedEvent} (tunneled : event.teid ≠ 0)
    (rate : ℚ) (time : Time) :
    extractFeatures { event with ratePerSecond := rate, observedAt := time } =
      extractFeatures event := by
  have same : rateNorm { event with ratePerSecond := rate, observedAt := time } =
      rateNorm event := by
    rw [rateNorm, rateNorm, if_pos tunneled, if_pos tunneled]
  simp only [extractFeatures_eq, features, same]

def lenientBuiltins : Builtins where
  fromisoformat _ := .ok 0
  intOfText _ := .error .valueError
  intOfFloat value := .ok (value.num.tdiv value.den)
  floatOfText _ := .error .valueError
  floatOfInt value := .ok value
  str _ := ""
  floatOfInt_small _ _ := rfl

end Sentinel5G.AiEngine
