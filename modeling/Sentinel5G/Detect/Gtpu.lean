import Sentinel5G.Base.FifoMap
import Sentinel5G.Controller.Watcher
import Sentinel5G.Ingestion.Normalize

namespace Sentinel5G.Detect

open Base Api Controller Ingestion

def modelGTPUTunnelFlood : String := "rule:gtpu-tunnel-flood"

def modelGTPUSourceFlood : String := "rule:gtpu-source-flood"

def defaultCooldown : Duration := 30 * second

def defaultTrackedTunnels : Nat := 4096

structure GTPUFloodConfig where
  enabled : Bool
  packetsPerSecond : UInt32
  cooldown : Duration
  maxTrackedTunnels : Int

structure TunnelID where
  sourceIP : String
  teid : UInt32
  deriving DecidableEq, Repr, Inhabited

namespace TunnelID

def cmp : TunnelID → TunnelID → Ordering :=
  compareLex (compareOn sourceIP) (compareOn teid)

instance : Std.TransCmp cmp :=
  inferInstanceAs (Std.TransCmp (compareLex (compareOn sourceIP) (compareOn teid)))

end TunnelID

structure GTPUFloodDetector where
  cfg : GTPUFloodConfig
  lastFired : FifoMap TunnelID Time TunnelID.cmp

def sizeOr (configured : Int) (fallback : Nat) : Nat :=
  if configured ≤ 0 then fallback else configured.toNat

theorem sizeOr_pos (configured : Int) (fallback : Nat) (positive : 0 < fallback) :
    0 < sizeOr configured fallback := by
  rw [sizeOr]
  split
  · exact positive
  · omega

theorem orDefault_pos (configured fallback : Duration) (positive : 0 < fallback) :
    0 < if configured ≤ 0 then fallback else configured := by
  split
  · exact positive
  · rename_i set
    exact not_le.mp set

def newGTPUFloodDetector (cfg : GTPUFloodConfig) : GTPUFloodDetector where
  cfg := { cfg with cooldown := if cfg.cooldown ≤ 0 then defaultCooldown else cfg.cooldown }
  lastFired := .empty (sizeOr cfg.maxTrackedTunnels defaultTrackedTunnels)
    (sizeOr_pos _ _ (by decide))

namespace GTPUFloodDetector

def claim (detector : GTPUFloodDetector) (id : TunnelID) (now : Time) :
    Bool × GTPUFloodDetector :=
  match detector.lastFired.lookup id with
  | some last =>
      if now - last < detector.cfg.cooldown then (false, detector)
      else (true, { detector with lastFired := detector.lastFired.update id now })
  | none => (true, { detector with lastFired := detector.lastFired.remember id now })

def evaluate (detector : GTPUFloodDetector) (event : NormalizedEvent) (now : Time) :
    Option ThreatScoreEvent × GTPUFloodDetector :=
  if detector.cfg.enabled = false ∨ detector.cfg.packetsPerSecond = 0 then (none, detector)
  else if event.protocol ≠ .gtpu ∨ event.teid = 0 then (none, detector)
  else if event.tunnelRatePerSecond < detector.cfg.packetsPerSecond.toNat then (none, detector)
  else
    match detector.claim ⟨event.sourceIP, event.teid⟩ now with
    | (false, after) => (none, after)
    | (true, after) =>
        (some {
          sourceEventID := event.eventID
          ns := event.ns
          podName := event.podName
          sourceIP := event.sourceIP
          teid := event.teid
          score := 1
          model := modelGTPUTunnelFlood
          detectedAt := now }, after)

end GTPUFloodDetector

def defaultSourceFloodWindow : Duration := second

def defaultTrackedSources : Nat := 1024

def defaultTunnelsPerSource : Nat := 4096

structure GTPUSourceFloodConfig where
  enabled : Bool
  packetsPerSecond : UInt32
  distinctTunnels : Int
  window : Duration
  cooldown : Duration
  maxTrackedSources : Int
  maxTunnelsPerSource : Int

structure SourceWindow where
  start : Time
  packets : UInt32
  teids : Std.ExtTreeSet UInt32 compare
  /-- `none` is the zero time: the source has not been reported. -/
  lastFired : Option Time

structure GTPUSourceFloodDetector where
  cfg : GTPUSourceFloodConfig
  sources : FifoMap String SourceWindow compare

def newGTPUSourceFloodDetector (cfg : GTPUSourceFloodConfig) : GTPUSourceFloodDetector where
  cfg := { cfg with
    window := if cfg.window ≤ 0 then defaultSourceFloodWindow else cfg.window
    cooldown := if cfg.cooldown ≤ 0 then defaultCooldown else cfg.cooldown
    maxTrackedSources := sizeOr cfg.maxTrackedSources defaultTrackedSources
    maxTunnelsPerSource := sizeOr cfg.maxTunnelsPerSource defaultTunnelsPerSource }
  sources := .empty (sizeOr cfg.maxTrackedSources defaultTrackedSources)
    (sizeOr_pos _ _ (by decide))

structure SourceFloodObservation where
  packetsInWindow : UInt32
  distinctTunnels : Nat
  deriving DecidableEq, Repr

namespace SourceWindow

/-- The counts start again with the window; the cooldown does not. -/
def rolled (window : SourceWindow) (length : Duration) (now : Time) : SourceWindow :=
  if now - window.start ≥ length then { window with start := now, packets := 0, teids := ∅ }
  else window

def counted (window : SourceWindow) (maxTunnels : Int) (teid : UInt32) : SourceWindow :=
  { window with
    packets := window.packets + 1
    teids := if window.teids.size < maxTunnels then window.teids.insert teid else window.teids }

def cooling (window : SourceWindow) (cooldown : Duration) (now : Time) : Bool :=
  match window.lastFired with
  | some last => decide (now - last < cooldown)
  | none => false

end SourceWindow

namespace GTPUSourceFloodDetector

def configured (detector : GTPUSourceFloodDetector) : Bool :=
  detector.cfg.enabled &&
    (decide (detector.cfg.packetsPerSecond > 0) || decide (detector.cfg.distinctTunnels > 0))

def report (detector : GTPUSourceFloodDetector) (packets : UInt32) (distinct : Nat) : Bool :=
  if detector.cfg.packetsPerSecond > 0 ∧ packets ≥ detector.cfg.packetsPerSecond then true
  else decide (detector.cfg.distinctTunnels > 0 ∧ (distinct : Int) ≥ detector.cfg.distinctTunnels)

def track (detector : GTPUSourceFloodDetector) (sourceIP : String) (now : Time) :
    SourceWindow × FifoMap String SourceWindow compare :=
  match detector.sources.lookup sourceIP with
  | some window => (window, detector.sources)
  | none =>
      let fresh : SourceWindow := ⟨now, 0, ∅, none⟩
      (fresh, detector.sources.remember sourceIP fresh)

def observe (detector : GTPUSourceFloodDetector) (sourceIP : String) (teid : UInt32) (now : Time) :
    SourceFloodObservation × Bool × GTPUSourceFloodDetector :=
  let (found, sources) := detector.track sourceIP now
  let window := (found.rolled detector.cfg.window now).counted detector.cfg.maxTunnelsPerSource teid
  let emit := detector.report window.packets window.teids.size &&
    !window.cooling detector.cfg.cooldown now
  let window' := if emit then { window with lastFired := some now } else window
  (⟨window.packets, window.teids.size⟩, emit,
    { detector with sources := sources.update sourceIP window' })

/-- The score names no tunnel: the finding is about the peer. -/
def evaluate (detector : GTPUSourceFloodDetector) (event : NormalizedEvent) (now : Time) :
    Option ThreatScoreEvent × SourceFloodObservation × GTPUSourceFloodDetector :=
  if detector.configured = false then (none, ⟨0, 0⟩, detector)
  else if event.protocol ≠ .gtpu ∨ event.teid = 0 ∨ event.sourceIP = "" then
    (none, ⟨0, 0⟩, detector)
  else
    match detector.observe event.sourceIP event.teid now with
    | (observed, false, after) => (none, observed, after)
    | (observed, true, after) =>
        (some {
          sourceEventID := event.eventID
          ns := event.ns
          podName := event.podName
          sourceIP := event.sourceIP
          teid := 0
          score := 1
          model := modelGTPUSourceFlood
          detectedAt := now }, observed, after)

end GTPUSourceFloodDetector

/-- What both detectors say about an event they report: whose it is, where it
came from, and no doubt about it. -/
structure Reported (event : NormalizedEvent) (score : ThreatScoreEvent) : Prop where
  ns : score.ns = event.ns
  podName : score.podName = event.podName
  sourceIP : score.sourceIP = event.sourceIP
  certain : score.score = 1

theorem GTPUFloodDetector.evaluate_reports {detector : GTPUFloodDetector} {event : NormalizedEvent}
    {now : Time} {score : ThreatScoreEvent}
    (fired : (detector.evaluate event now).1 = some score) : Reported event score := by
  rw [evaluate] at fired
  split at fired
  · cases fired
  · split at fired
    · cases fired
    · split at fired
      · cases fired
      · split at fired <;> cases fired
        exact ⟨rfl, rfl, rfl, rfl⟩

theorem GTPUSourceFloodDetector.evaluate_reports {detector : GTPUSourceFloodDetector}
    {event : NormalizedEvent} {now : Time} {score : ThreatScoreEvent}
    (fired : (detector.evaluate event now).1 = some score) : Reported event score := by
  rw [evaluate] at fired
  split at fired
  · cases fired
  · split at fired
    · cases fired
    · split at fired <;> cases fired
      exact ⟨rfl, rfl, rfl, rfl⟩

end Sentinel5G.Detect
