import Sentinel5G.Bpf.ScanRate

namespace Sentinel5G.Bpf

open Base Ebpf

def Sighting.signals (seen : Sighting) : Bool :=
  match seen.segment with
  | .gtpu _ _ _ => true
  | .sip _ => true
  | _ => false

def Arrival.signals (family : Family) (source : Bytes) (arrival : Arrival) : Bool :=
  (sight arrival.frame).any (fun seen =>
    decide (seen.family = family ∧ seen.saddr = source) &&
      (seen.signals && !seen.sourceBlocked arrival.loader))

theorem Sighting.outcome_signalRate (seen : Sighting) (env : Env) (loader : Loader)
    (maps : RateMaps) :
    (seen.outcome env loader maps).maps.signalRate =
      if seen.signals && !seen.sourceBlocked loader then
        maps.signalRate.insert seen.saddr (countPacket maps.signalRate[seen.saddr]? env.now)
      else maps.signalRate := by
  rw [outcome]
  cases seen.sourceBlocked loader with
  | true => simp
  | false =>
      cases segment : seen.segment with
      | unread => simp [admitted, signals, segment]
      | truncated => simp [admitted, signals, segment]
      | sip size => simp [admitted, signals, segment, RateMaps.countSource]
      | offPort destPort size =>
          simp [admitted, signals, segment, Sighting.inspectOffPort_eq, RateMaps.countPort,
            RateMaps.scanPorts]
      | gtpu size parse teid =>
          -- The tunnel is looked up after its source is counted.
          simp only [admitted, signals, segment, Bool.false_eq_true, if_false]
          split
          · rfl
          · split <;> rfl

/-- One frame moves the counter of a source exactly if it signals. -/
theorem verdict_signalRate (arrival : Arrival) (family : Family) (rates : Rates) (source : Bytes) :
    ((arrival.verdict rates).rates.of family).signalRate[source]? =
      if arrival.signals family source then
        some (countPacket (rates.of family).signalRate[source]? arrival.env.now)
      else (rates.of family).signalRate[source]? := by
  cases found : sight arrival.frame with
  | none => simp [verdict_unseen arrival found, Arrival.signals, found]
  | some seen =>
      rw [verdict_rates arrival family found, Arrival.signals, found, Option.any_some]
      by_cases same : seen.family = family
      · subst same
        rw [if_pos rfl, seen.outcome_signalRate]
        cases seen.signals && !seen.sourceBlocked arrival.loader with
        | true =>
            simp [getElem?_insert_update (fun entry => countPacket entry arrival.env.now)]
        | false => simp
      · simp [same]

/-- After every run the counter of a source stands for its running window. -/
theorem ratesAfter_signalRate (family : Family) (source : Bytes) (arrivals : List Arrival) :
    ((ratesAfter .empty arrivals).of family).signalRate[source]? =
      entryOf (openWindow late
        ((arrivals.filter (Arrival.signals family source)).map
          (fun arrival => arrival.env.now))) := by
  apply counter_eq fun rates => (rates.of family).signalRate[source]?
  · cases family <;> exact Std.ExtTreeMap.getElem?_empty
  · intro arrival rates
    exact verdict_signalRate arrival family rates source

end Sentinel5G.Bpf
