import Sentinel5G.AiEngine.Bystander
import Sentinel5G.Bpf.SignalRate

/-! The rate that an event is given when userspace comes to it: the counter that
`SignalRate` looks up outlives the window it counted. -/

namespace Sentinel5G.AiEngine

open Base Ebpf Bpf Controller
open Ingestion (fromSignalingEvent)

def rateSource (ip : IP) : Option (Family × Bytes) :=
  match ip.to4 with
  | some v4 => some (.ipv4, v4)
  | none => (ipv6Key ip).toOption.map (fun v6 => (.ipv6, v6))

def countedFor (family : Family) (source : Bytes) (port : UInt16) (arrival : Arrival) : Bool :=
  if isSignalingPort port then arrival.signals family source else arrival.hits family source port

def countedTimes (arrivals : List Arrival) (ip : IP) (port : UInt16) : List UInt64 :=
  match rateSource ip with
  | none => []
  | some (family, source) =>
      (arrivals.filter (countedFor family source port)).map (fun arrival => arrival.env.now)

theorem ipv6Key_length {ip : IP} {v6 : Bytes} (key : ipv6Key ip = .ok v6) : v6.length = 16 := by
  rw [ipv6Key] at key
  split at key
  · cases key
  · cases long : ip.to16 with
    | none => simp [long] at key
    | some found =>
        rw [long] at key
        cases key
        exact to16_length ip v6 long

theorem rateSource_width {ip : IP} {family : Family} {source : Bytes}
    (found : rateSource ip = some (family, source)) : source.length = family.width := by
  rw [rateSource] at found
  cases short : ip.to4 with
  | some v4 =>
      rw [short] at found
      cases found
      exact to4_length ip source short
  | none =>
      rw [short] at found
      cases key : ipv6Key ip with
      | error err =>
          rw [key] at found
          cases found
      | ok v6 =>
          rw [key] at found
          cases found
          exact ipv6Key_length key

theorem signalRate_eq (rates : Rates) (ip : IP) (port : UInt16) :
    signalRate rates ip port =
      (rateSource ip).bind (fun key =>
        (if isSignalingPort port then (rates.of key.1).signalRate[key.2]?
          else (rates.of key.1).scanRate[key.1.path.scanKey key.2 port]?).map
          (fun entry => entry.count)) := by
  rw [signalRate, rateSource]
  cases ip.to4 with
  | some v4 => cases isSignalingPort port <;> rfl
  | none =>
      cases ipv6Key ip with
      | error err => rfl
      | ok v6 => cases isSignalingPort port <;> rfl

/-- What a lookup finds after a run is the last window of the frames of its key. -/
theorem signalRate_ratesAfter (arrivals : List Arrival) (ip : IP) (port : UInt16) :
    signalRate (ratesAfter .empty arrivals) ip port =
      (entryOf (openWindow late (countedTimes arrivals ip port))).map
        (fun entry => entry.count) := by
  rw [signalRate_eq, countedTimes]
  cases found : rateSource ip with
  | none => rfl
  | some key =>
      rw [Option.bind_some]
      cases signaling : isSignalingPort port with
      | true =>
          have counted : countedFor key.1 key.2 port = Arrival.signals key.1 key.2 := by
            funext arrival
            rw [countedFor, signaling, if_pos rfl]
          rw [if_pos rfl, ratesAfter_signalRate, ← counted]
      | false =>
          have counted : countedFor key.1 key.2 port = Arrival.hits key.1 key.2 port := by
            funext arrival
            rw [countedFor, signaling, if_neg Bool.false_ne_true]
          rw [if_neg Bool.false_ne_true, ratesAfter_scanRate _ _ (rateSource_width found),
            ← counted]

def Current (now : UInt64) (window : List Nat) : Prop :=
  ∃ start ∈ window.head?, now.toNat ≤ start + signalingRateWindowNs.toNat

structure FindsCurrent (rates : Rates) (now : UInt64) (ip : IP) (port : UInt16)
    (windows : List (List Nat)) : Prop where
  count : ∀ n, (signalRate rates ip port).map UInt32.toNat = some n ↔
    ∃ window ∈ windows, Current now window ∧ n = window.length
  /-- The rate of an event with that source and port is not from another window. -/
  recorded : ∀ event podIndex nodeName eventID, event.sourceIP = ip → event.destPort = port →
    let rate := (fromSignalingEvent event podIndex (signalRate rates) nodeName
      eventID).ratePerSecond
    (∃ window ∈ windows, Current now window ∧ rate = window.length) ∨
      (rate = 0 ∧ ∀ window ∈ windows, ¬ Current now window)

def RateIsFresh (arrivals : List Arrival) (now : UInt64) (ip : IP) (port : UInt16) : Prop :=
  ∃ windows, Cut lateNs ((countedTimes arrivals ip port).map UInt64.toNat) windows ∧
    FindsCurrent (ratesAfter .empty arrivals) now ip port windows

/-- The last window of the key has not passed, and its frames can be counted. -/
def LastsUntil (arrivals : List Arrival) (now : UInt64) (ip : IP) (port : UInt16) : Prop :=
  ∀ start rest, openWindow lateNs ((countedTimes arrivals ip port).map UInt64.toNat) =
    start :: rest →
    now.toNat ≤ start + signalingRateWindowNs.toNat ∧ (start :: rest).length < 2 ^ 32

section Lookup

variable {arrivals : List Arrival} {now : UInt64} (ip : IP) (port : UInt16)

theorem countedTimes_ordered (ordered : InOrder arrivals) :
    (countedTimes arrivals ip port).Pairwise (· ≤ ·) := by
  rw [countedTimes]
  split
  · exact List.Pairwise.nil
  · rw [List.pairwise_map]
    exact List.Pairwise.filter _ ordered

theorem countedTimes_le (past : ∀ arrival ∈ arrivals, arrival.env.now ≤ now) :
    ∀ time ∈ (countedTimes arrivals ip port).map UInt64.toNat, time ≤ now.toNat := by
  intro time member
  obtain ⟨counted, inside, rfl⟩ := List.mem_map.mp member
  rw [countedTimes] at inside
  split at inside
  · cases inside
  · obtain ⟨arrival, chosen, rfl⟩ := List.mem_map.mp inside
    exact UInt64.le_iff_toNat_le.mp (past arrival (List.mem_filter.mp chosen).1)

theorem signalRate_toNat (ordered : InOrder arrivals) :
    (signalRate (ratesAfter .empty arrivals) ip port).map UInt32.toNat =
      match openWindow lateNs ((countedTimes arrivals ip port).map UInt64.toNat) with
      | [] => none
      | start :: rest => some ((start :: rest).length % 2 ^ 32) := by
  have windows : (openWindow late (countedTimes arrivals ip port)).map UInt64.toNat =
      openWindow lateNs ((countedTimes arrivals ip port).map UInt64.toNat) :=
    map_openWindow ((countedTimes_ordered ip port ordered).imp fun before => lateNs_eq before)
  rw [← windows, signalRate_ratesAfter]
  cases openWindow late (countedTimes arrivals ip port) with
  | nil => rfl
  | cons start rest => simp [entryOf]

theorem current_eq_last {xs : List Nat} {earlier : List (List Nat)} {last window : List Nat}
    (past : ∀ time ∈ xs, time ≤ now.toNat) (cut : Cut lateNs xs (earlier ++ [last]))
    (member : window ∈ earlier ++ [last]) (current : Current now window) : window = last := by
  rcases List.mem_append.mp member with before | final
  · obtain ⟨start, first, time, inside, passed⟩ := cut.stale_of_mem before
    obtain ⟨begun, head, recent⟩ := current
    cases Option.mem_unique first head
    have later := past time inside
    have expired := of_decide_eq_true passed
    omega
  · exact List.mem_singleton.mp final

theorem ratePerSecond_eq (rates : Rates) (event : SignalingEvent) (podIndex : PodIPIndex)
    (nodeName eventID : String) :
    (fromSignalingEvent event podIndex (signalRate rates) nodeName eventID).ratePerSecond =
      (((signalRate rates event.sourceIP event.destPort).map UInt32.toNat).getD 0 : ℕ) := by
  rw [fromSignalingEvent]
  cases signalRate rates event.sourceIP event.destPort with
  | none => simp
  | some count => rfl

theorem FindsCurrent.of_count {rates : Rates} {ip : IP} {port : UInt16} {windows : List (List Nat)}
    (count : ∀ n, (signalRate rates ip port).map UInt32.toNat = some n ↔
      ∃ window ∈ windows, Current now window ∧ n = window.length) :
    FindsCurrent rates now ip port windows := by
  refine ⟨count, fun event podIndex nodeName eventID source dest => ?_⟩
  subst source dest
  dsimp only
  rw [ratePerSecond_eq]
  cases found : (signalRate rates event.sourceIP event.destPort).map UInt32.toNat with
  | some n =>
      obtain ⟨window, member, current, rfl⟩ := (count n).mp found
      exact .inl ⟨window, member, current, rfl⟩
  | none =>
      refine .inr ⟨by simp, fun window member current => ?_⟩
      have impossible := (count window.length).mpr ⟨window, member, current, rfl⟩
      rw [found] at impossible
      cases impossible

end Lookup

/-- Whatever a run has left in the counters, a later lookup tells the truth exactly
if the last window of its key is not over. -/
theorem rate_is_fresh_iff {arrivals : List Arrival} (ordered : InOrder arrivals) {now : UInt64}
    (past : ∀ arrival ∈ arrivals, arrival.env.now ≤ now) (ip : IP) (port : UInt16) :
    RateIsFresh arrivals now ip port ↔ LastsUntil arrivals now ip port := by
  have found := signalRate_toNat ip port ordered
  have bound := countedTimes_le ip port past
  rw [RateIsFresh, LastsUntil]
  generalize (countedTimes arrivals ip port).map UInt64.toNat = times at found bound
  constructor
  · rintro ⟨windows, cut, finds⟩ start rest last
    rw [last] at found
    obtain ⟨window, member, current, length⟩ := (finds.count _).mp found
    rcases List.eq_nil_or_concat windows with rfl | ⟨earlier, final, rfl⟩
    · cases member
    · rw [List.concat_eq_append] at cut member
      have same := current_eq_last bound cut member current
      rw [same, ← cut.last_eq, last] at current length
      obtain ⟨begun, head, recent⟩ := current
      cases head
      refine ⟨recent, ?_⟩
      rw [← length]
      exact Nat.mod_lt _ (by decide)
  · intro lasts
    by_cases empty : times = []
    · subst empty
      refine ⟨[], ⟨rfl, by simp, List.isChain_nil⟩, .of_count fun n => ?_⟩
      rw [found]
      simp [openWindow]
    · obtain ⟨earlier, cut⟩ : ∃ earlier, Cut lateNs times (earlier ++ [openWindow lateNs times]) :=
        cut_openWindow empty
      refine ⟨_, cut, .of_count fun n => ?_⟩
      cases last : openWindow lateNs times with
      | nil => exact absurd last (openWindow_ne_nil empty)
      | cons start rest =>
          obtain ⟨recent, fits⟩ := lasts start rest last
          rw [last] at found cut
          rw [found]
          dsimp only
          rw [Nat.mod_eq_of_lt fits, Option.some.injEq]
          constructor
          · rintro rfl
            exact ⟨start :: rest, by simp, ⟨start, rfl, recent⟩, rfl⟩
          · rintro ⟨window, member, current, rfl⟩
            rw [current_eq_last bound cut member current]

def truncatedFrame : Bytes :=
  List.replicate 12 0 ++ [0x08, 0x00] ++
    [0x45, 0, 0, 24, 0, 0, 0, 0, 64, 17, 0, 0, 10, 0, 0, 1, 10, 0, 0, 2] ++ [0x80, 0x00, 0, 0]

def envAt (now : UInt64) : Env := ⟨now, fun _ => some now⟩

def staleTrace : List Arrival :=
  [⟨envAt 0, bareLoader, probeFrame 0⟩, ⟨envAt 5000000000, bareLoader, truncatedFrame⟩]

def freshTrace : List Arrival :=
  [⟨envAt 0, bareLoader, probeFrame 0⟩, ⟨envAt 500000000, bareLoader, probeFrame 0⟩]

theorem lookup_in_time_is_fresh :
    RateIsFresh freshTrace 1000000000 [10, 0, 0, 1] 0 ∧
      signalRate (ratesAfter .empty freshTrace) [10, 0, 0, 1] 0 = some 2 := by
  refine ⟨(rate_is_fresh_iff ?_ ?_ _ _).mpr ?_, by decide +kernel⟩
  · simp [InOrder, freshTrace, envAt]
  · simp [freshTrace, envAt]
  · have window : openWindow lateNs ((countedTimes freshTrace [10, 0, 0, 1] 0).map UInt64.toNat) =
        [0, 500000000] := by decide +kernel
    intro start rest last
    rw [window] at last
    cases last
    decide

/-- The truncated datagram has no port, and is given the rate of port 0 as it was
five seconds before. -/
theorem truncated_event_gets_stale_rate :
    ¬ RateIsFresh staleTrace 5000000000 [10, 0, 0, 1] 0 ∧
      ((run .empty staleTrace).flatMap (fun step => step.2.events 0)).map (fun event =>
        (event.destPort, event.malformed,
          (fromSignalingEvent event .new (signalRate (ratesAfter .empty staleTrace)) "node"
            "event").ratePerSecond)) = [(0, true, 1)] := by
  constructor
  · rintro ⟨windows, cut, finds⟩
    obtain ⟨window, member, ⟨start, head, recent⟩, -⟩ := (finds.count 1).mp (by decide +kernel)
    have times : (countedTimes staleTrace [10, 0, 0, 1] 0).map UInt64.toNat = [0] := by
      decide +kernel
    have counted : start ∈ windows.flatten :=
      List.mem_flatten.mpr ⟨window, member, List.mem_of_mem_head? head⟩
    rw [cut.whole, times, List.mem_singleton] at counted
    rw [counted] at recent
    exact absurd recent (by decide)
  · decide +kernel

end Sentinel5G.AiEngine
