import Sentinel5G.Ingestion.Normalize

namespace Sentinel5G.Events

open Api Ingestion

/-- A JSON value as it is read back; a number is an integer if it is written like one. -/
inductive Json
  | null
  | bool (value : Bool)
  | int (value : Int)
  | float (value : ℚ)
  | text (value : String)
  | array (items : List Json)
  | object (fields : List (String × Json))

abbrev Dict := List (String × Json)

/-- Of several members of one name the last one counts. -/
def Dict.get (dict : Dict) (name : String) : Option Json :=
  (dict.reverse.find? (fun field => decide (field.1 = name))).map Prod.snd

/-- From 1e21 on the encoder writes an exponent. -/
def floatJson (value : ℚ) : Json :=
  if value.den = 1 ∧ value.num.natAbs < 10 ^ 21 then .int value.num else .float value

def protocolName : Protocol → String
  | .gtpu => "GTP-U"
  | .sip => "SIP"
  | .smpp => "SMPP"
  | .http2 => "HTTP2"
  | .portScan => "PORT_SCAN"
  | .unknown => "UNKNOWN"

def normalizedEventJson (timeText : Time → String) (event : NormalizedEvent) : Dict :=
  [("eventId", .text event.eventID),
    ("observedAt", .text (timeText event.observedAt)),
    ("namespace", .text event.ns),
    ("podName", .text event.podName),
    ("nodeName", .text event.nodeName),
    ("sourceIp", .text event.sourceIP),
    ("destIp", .text event.destIP),
    ("destPort", .int event.destPort.toNat),
    ("protocol", .text (protocolName event.protocol)),
    ("payloadSize", .int event.payloadSize.toNat),
    ("ratePerSecond", floatJson event.ratePerSecond),
    ("malformed", .bool event.malformed),
    ("vlanId", .int event.vlanID.toNat),
    ("teid", .int event.teid.toNat),
    ("tunnelRatePerSecond", floatJson event.tunnelRatePerSecond)]

end Sentinel5G.Events
