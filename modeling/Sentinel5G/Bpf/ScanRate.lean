import Sentinel5G.Bpf.OffPort

namespace Sentinel5G.Bpf

open Base Ebpf

def Arrival.hits (family : Family) (source : Bytes) (port : UInt16) (arrival : Arrival) : Bool :=
  decide (arrival.probe family source = some port)

def burstEvents (bootTime : Int) (step : Step) : List SignalingEvent :=
  (step.2.events bootTime).filter isBurst

theorem ratesAfter_scanRate (family : Family) {source : Bytes} (port : UInt16)
    (width : source.length = family.width) (arrivals : List Arrival) :
    ((ratesAfter .empty arrivals).of family).scanRate[family.path.scanKey source port]? =
      entryOf (openWindow late
        ((arrivals.filter (Arrival.hits family source port)).map
          (fun arrival => arrival.env.now))) := by
  apply counter_eq fun rates => (rates.of family).scanRate[family.path.scanKey source port]?
  · cases family <;> exact Std.ExtTreeMap.getElem?_empty
  · intro arrival rates
    simp only [Arrival.hits, decide_eq_true_eq]
    exact verdict_scanRate arrival family rates port width

theorem priorCount_eq {family : Family} {source : Bytes} {port : UInt16}
    (width : source.length = family.width) {past : List Arrival} {last : Arrival}
    (ordered : InOrder (past ++ [last])) (hit : last.hits family source port = true)
    (verdict : Verdict) :
    priorCount
        ((ratesAfter .empty past).of family).scanRate[family.path.scanKey source port]?
        last.env.now =
      UInt32.ofNat (continued (expired signalingRateWindowNs)
        (openWindow (expired signalingRateWindowNs)
          (selected (Arrival.hits family source port) past)) (last, verdict)).length := by
  have times : (selected (Arrival.hits family source port) past ++ [(last, verdict)]).Pairwise
      (fun start step => late start.1.env.now step.1.env.now =
        expired signalingRateWindowNs start step) :=
    ordered.rolled_eq_expired hit verdict signalingRateWindowNs
  have window := congrArg List.length (map_continued times)
  rw [List.length_map] at window
  rw [ratesAfter_scanRate family port width past, priorCount_entryOf, window,
    ← map_selected, List.map_map]
  rfl

/-- The frame that makes a window reach the threshold is reported, given room. -/
def BurstRule (bootTime : Int) (before : List Step) (step : Step) : Prop :=
  before.length < 2 ^ 32 → (burstEvents bootTime step).length =
    if Reaches (fun steps : List Step => steps.length) scanEmitThreshold.toNat before step then
      (step.1.env.reserve 0).isSome.toNat
    else 0

theorem burstRule_continued {family : Family} {source : Bytes} {port : UInt16}
    (width : source.length = family.width) {past : List Arrival} {last : Arrival}
    (ordered : InOrder (past ++ [last])) (hit : last.hits family source port = true)
    (bootTime : Int) :
    BurstRule bootTime (continued (expired signalingRateWindowNs)
      (openWindow (expired signalingRateWindowNs)
        (selected (Arrival.hits family source port) past))
      (last, last.verdict (ratesAfter .empty past))) (last, last.verdict
        (ratesAfter .empty past)) := by
  have prior := priorCount_eq width ordered hit (last.verdict (ratesAfter .empty past))
  generalize continued _ _ _ = before at prior ⊢
  intro bounded
  obtain ⟨seen, size, found, rfl, rfl, passes, segment⟩ :=
    Arrival.probe_eq_some (of_decide_eq_true hit)
  have tenth : UInt32.ofNat before.length + 1 = scanEmitThreshold ↔
      Reaches (fun steps : List Step => steps.length) scanEmitThreshold.toNat before
        (last, last.verdict (ratesAfter .empty past)) := by
    rw [Reaches, List.length_append, List.length_singleton, ← UInt32.toNat_inj, UInt32.toNat_add,
      UInt32.toNat_ofNat', Nat.mod_eq_of_lt bounded]
    have ten : scanEmitThreshold.toNat = 10 := rfl
    have one : (1 : UInt32).toNat = 1 := rfl
    rw [ten, one]
    omega
  rw [burstEvents, count_burst found passes segment]
  simp only [Sighting.path, prior, tenth]

structure BurstsReported (arrivals : List Arrival) (bootTime : Int) : Prop where
  /-- One event in every window with enough packets of a source to a port, at the
  packet that makes them enough. -/
  once : ∀ family source port, source.length = family.width →
    ∃ windows, Cut (expired signalingRateWindowNs)
        (selected (Arrival.hits family source port) arrivals) windows ∧
      ∀ window ∈ windows, window.length < 2 ^ 32 →
        EdgeTriggered (fun steps : List Step => steps.length) scanEmitThreshold.toNat
          (fun step => (burstEvents bootTime step).length)
          (fun step => (step.1.env.reserve 0).isSome) window
  /-- Every such event names the source and the port of its packet. -/
  named : ∀ step ∈ run .empty arrivals, ∀ record ∈ step.2.records, ∀ event,
    record.decode bootTime = .ok event → isBurst event = true →
      ∀ family source port, step.1.hits family source port = true ↔
        record.family = family ∧ event.sourceIP = source ∧ event.destPort = port

theorem bursts_are_reported_once {arrivals : List Arrival} (ordered : InOrder arrivals)
    (bootTime : Int) : BurstsReported arrivals bootTime := by
  constructor
  · intro family source port width
    have rule : Throughout (fun past step => BurstRule bootTime
        (continued (expired signalingRateWindowNs)
          (openWindow (expired signalingRateWindowNs) past) step) step)
        (selected (Arrival.hits family source port) arrivals) := by
      apply throughout_selected
      intro past last rest split hit
      exact burstRule_continued width (ordered.upTo split) hit bootTime
    obtain ⟨windows, cut, inside⟩ := exists_cut_throughout rule
    refine ⟨windows, cut, fun window member bounded => ?_⟩
    apply gauge_length.edgeTriggered (by decide)
    intro before step after split
    apply inside window member before step after split
    rw [split, List.length_append] at bounded
    omega
  · intro step member record emitted event decoded burst family source port
    rw [Arrival.hits, decide_eq_true_iff]
    exact probe_iff_of_event member emitted decoded (.inr burst) family source port

theorem burst_of_ten_is_reported :
    InOrder (volley plainEnv (List.replicate 10 53)) ∧
      BurstsReported (volley plainEnv (List.replicate 10 53)) 0 ∧
      ((run .empty (volley plainEnv (List.replicate 10 53))).map (fun step =>
        (burstEvents 0 step).map (fun event => event.destPort))) =
        List.replicate 9 [] ++ [[53]] :=
  ⟨volley_inOrder _ _, bursts_are_reported_once (volley_inOrder _ _) 0, by decide +kernel⟩

/-- Ten packets in one window, and no event: the ring buffer is full. -/
theorem full_ring_hides_burst :
    ∃ arrivals window, InOrder arrivals ∧
      Cut (expired signalingRateWindowNs)
        (selected (Arrival.hits .ipv4 [10, 0, 0, 1] 53) arrivals) [window] ∧
      scanEmitThreshold.toNat ≤ window.length ∧ window.length < 2 ^ 32 ∧
      ∀ step ∈ run .empty arrivals, step.2.events 0 = [] := by
  have length : (selected (Arrival.hits .ipv4 [10, 0, 0, 1] 53)
      (volley noRoom (List.replicate 10 53))).length = 10 := by decide +kernel
  refine ⟨volley noRoom (List.replicate 10 53), _, volley_inOrder _ _, cut_volley _ _ _ _ ?_, ?_,
    ?_, ?_⟩
  · exact List.ne_nil_of_length_pos (by rw [length]; decide)
  · rw [length]
    decide
  · rw [length]
    decide
  · decide +kernel

end Sentinel5G.Bpf
