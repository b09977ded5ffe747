import Sentinel5G.Bpf.OffPort

namespace Sentinel5G.Bpf

open Base Ebpf

namespace PortScanEntry

/-- The loop over the table, `left` rounds before its end. Nothing is an access
outside of the table. -/
def search (entry : PortScanEntry) (destPort : UInt16) : Nat → Option Bool
  | 0 => some false
  | left + 1 =>
      let i := multiportScanThreshold - (left + 1)
      if entry.distinctCount.toNat ≤ i then some false
      else match entry.ports[i]? with
        | none => none
        | some port => if port = destPort then some true else entry.search destPort left

theorem slots_set (entry : PortScanEntry) (destPort : UInt16) :
    (entry.ports.set entry.distinctCount.toNat destPort).length = multiportScanThreshold := by
  rw [List.length_set, entry.slots]

def touchChecked (entry : PortScanEntry) (destPort : UInt16) : Option (PortScanEntry × Bool) :=
  if entry.emitted then some (entry, false)
  else (entry.search destPort multiportScanThreshold).bind fun found =>
    if found then some (entry, false)
    else if entry.distinctCount.toNat ≥ multiportScanThreshold then some (entry, false)
    else if entry.distinctCount.toNat < entry.ports.length then
      let grown := { entry with
        ports := entry.ports.set entry.distinctCount.toNat destPort
        slots := entry.slots_set destPort
        distinctCount := entry.distinctCount + 1 }
      if grown.distinctCount.toNat = multiportScanThreshold then
        some ({ grown with emitted := true }, true)
      else some (grown, false)
    else none

theorem search_eq (entry : PortScanEntry) (destPort : UInt16) {left : Nat}
    (rounds : left ≤ multiportScanThreshold) :
    entry.search destPort left = some (decide (destPort ∈
      (entry.ports.take entry.distinctCount.toNat).drop (multiportScanThreshold - left))) := by
  induction left with
  | zero =>
      have all : (entry.ports.take entry.distinctCount.toNat).drop multiportScanThreshold = [] := by
        apply List.drop_eq_nil_of_le
        rw [List.length_take, entry.slots]
        omega
      simp [search, all]
  | succ left ih =>
      have next : multiportScanThreshold - (left + 1) + 1 = multiportScanThreshold - left := by
        omega
      have inside : multiportScanThreshold - (left + 1) < entry.ports.length := by
        rw [entry.slots]
        omega
      simp only [search]
      split
      · rename_i done
        have rest : (entry.ports.take entry.distinctCount.toNat).drop
            (multiportScanThreshold - (left + 1)) = [] := by
          apply List.drop_eq_nil_of_le
          rw [List.length_take]
          omega
        simp [rest]
      · rename_i more
        have taken : multiportScanThreshold - (left + 1) <
            (entry.ports.take entry.distinctCount.toNat).length := by
          rw [List.length_take]
          omega
        rw [List.getElem?_eq_getElem inside, List.drop_eq_getElem_cons taken, next,
          List.getElem_take]
        dsimp only
        split
        · rename_i same
          simp [same]
        · rename_i other
          rw [ih (by omega)]
          simp [Ne.symm other]

/-- No access leaves the table, whatever the entry holds. -/
theorem touchChecked_eq (entry : PortScanEntry) (destPort : UInt16) :
    entry.touchChecked destPort = some (entry.touch destPort) := by
  have found := entry.search_eq destPort (le_refl multiportScanThreshold)
  rw [Nat.sub_self, List.drop_zero] at found
  rw [touchChecked, touch, found, Option.bind_some]
  cases entry.emitted with
  | true => rfl
  | false =>
      simp only [Bool.false_eq_true, if_false]
      by_cases seen : destPort ∈ entry.ports.take entry.distinctCount.toNat
      · simp only [seen, decide_true, if_true]
      · simp only [seen, decide_false, Bool.false_eq_true, if_false]
        by_cases full : entry.distinctCount.toNat ≥ multiportScanThreshold
        · simp only [full, if_true]
        · have inside : entry.distinctCount.toNat < entry.ports.length := by
            rw [entry.slots]
            omega
          simp only [full, inside, if_false, if_true]
          split <;> rfl

structure Sound (entry : PortScanEntry) : Prop where
  distinct : (entry.ports.take entry.distinctCount.toNat).Nodup
  used : 1 ≤ entry.distinctCount.toNat
  fits : entry.distinctCount.toNat ≤ multiportScanThreshold
  emitted : entry.emitted = true ↔ entry.distinctCount.toNat = multiportScanThreshold

structure Holds (entry : PortScanEntry) (firsts : List UInt16) : Prop where
  table : entry.ports.take entry.distinctCount.toNat = firsts.take multiportScanThreshold
  count : entry.distinctCount.toNat = min multiportScanThreshold firsts.length
  emitted : entry.emitted = decide (multiportScanThreshold ≤ firsts.length)

theorem Holds.sound {entry : PortScanEntry} {firsts : List UInt16} (held : entry.Holds firsts)
    (nonempty : firsts ≠ []) (distinct : firsts.Nodup) : entry.Sound := by
  have threshold : multiportScanThreshold = 15 := rfl
  have touched := List.length_pos_of_ne_nil nonempty
  have count := held.count
  constructor
  · rw [held.table]
    exact distinct.sublist (List.take_sublist _ _)
  · omega
  · omega
  · rw [held.emitted, decide_eq_true_iff]
    omega

theorem fresh_holds (now : UInt64) (port : UInt16) : (fresh now port).Holds [port] := by
  constructor
  · rfl
  · rfl
  · rfl

theorem Holds.touch_full {entry : PortScanEntry} {firsts : List UInt16} (held : entry.Holds firsts)
    (full : multiportScanThreshold ≤ firsts.length) (port : UInt16) :
    entry.touch port = (entry, false) := by
  rw [PortScanEntry.touch, if_pos (by rw [held.emitted]; exact decide_eq_true full)]

theorem Holds.touch_seen {entry : PortScanEntry} {firsts : List UInt16} (held : entry.Holds firsts)
    {port : UInt16} (seen : port ∈ firsts) : entry.touch port = (entry, false) := by
  by_cases full : multiportScanThreshold ≤ firsts.length
  · exact held.touch_full full port
  · have listed : port ∈ entry.ports.take entry.distinctCount.toNat := by
      rwa [held.table, List.take_of_length_le (by omega)]
    rw [PortScanEntry.touch, if_pos listed, ite_self]

theorem take_set_succ (ports : List UInt16) {slot : Nat} (inside : slot < ports.length)
    (port : UInt16) : (ports.set slot port).take (slot + 1) = ports.take slot ++ [port] := by
  rw [List.take_add_one, List.take_set_of_le (le_refl slot), List.getElem?_set_self inside]
  rfl

theorem Holds.touch_new {entry : PortScanEntry} {firsts : List UInt16} (held : entry.Holds firsts)
    {port : UInt16} (new : port ∉ firsts) (free : firsts.length < multiportScanThreshold) :
    (entry.touch port).1.Holds (firsts ++ [port]) ∧
      (entry.touch port).2 = decide (firsts.length + 1 = multiportScanThreshold) := by
  have threshold : multiportScanThreshold = 15 := rfl
  have count : entry.distinctCount.toNat = firsts.length := by
    rw [held.count]
    omega
  have table : entry.ports.take firsts.length = firsts := by
    rw [← count, held.table, List.take_of_length_le (by omega)]
  have quiet : ¬ entry.emitted = true := by
    rw [held.emitted, decide_eq_true_iff]
    omega
  have grown : (entry.distinctCount + 1).toNat = firsts.length + 1 := by
    rw [UInt16.toNat_add, count]
    have one : (1 : UInt16).toNat = 1 := rfl
    omega
  have slots : (entry.ports.set entry.distinctCount.toNat port).take
      (entry.distinctCount + 1).toNat = (firsts ++ [port]).take multiportScanThreshold := by
    rw [grown, count, take_set_succ _ (by rw [entry.slots]; omega), table,
      List.take_of_length_le (by simp; omega)]
  rw [PortScanEntry.touch, if_neg quiet, if_neg (by rw [count, table]; exact new),
    if_neg (by omega)]
  dsimp only
  split
  · rename_i complete
    rw [grown] at complete
    refine ⟨⟨?_, ?_, ?_⟩, (decide_eq_true complete).symm⟩
    · exact slots
    · rw [grown, List.length_append, List.length_singleton]
      omega
    · simp only [List.length_append, List.length_singleton, complete, le_refl, decide_true]
  · rename_i short
    rw [grown] at short
    refine ⟨⟨?_, ?_, ?_⟩, (decide_eq_false short).symm⟩
    · exact slots
    · rw [grown, List.length_append, List.length_singleton]
      omega
    · rw [held.emitted, decide_eq_decide, List.length_append, List.length_singleton]
      omega

/-- One more packet in the window of an entry. It is reported if its port is new
and completes the scan. -/
theorem Holds.touch {entry : PortScanEntry} {ports : List UInt16}
    (held : entry.Holds ports.eraseDups) (port : UInt16) :
    (entry.touch port).1.Holds (ports ++ [port]).eraseDups ∧
      ((entry.touch port).2 = true ↔
        ports.eraseDups.length < multiportScanThreshold ∧
          multiportScanThreshold ≤ (ports ++ [port]).eraseDups.length) := by
  rw [eraseDups_concat]
  by_cases seen : port ∈ ports
  · rw [if_pos seen, held.touch_seen (List.mem_eraseDups.mpr seen)]
    exact ⟨held, by simp⟩
  · rw [if_neg seen, List.length_append, List.length_singleton]
    by_cases full : multiportScanThreshold ≤ ports.eraseDups.length
    · rw [held.touch_full full]
      refine ⟨⟨?_, ?_, ?_⟩, by simp; omega⟩
      · rw [held.table, List.take_append_of_le_length full]
      · rw [held.count, List.length_append]
        omega
      · rw [held.emitted, decide_eq_decide, List.length_append]
        omega
    · obtain ⟨after, edge⟩ :=
        held.touch_new (fun old => seen (List.mem_eraseDups.mp old)) (by omega)
      refine ⟨after, ?_⟩
      rw [edge, decide_eq_true_iff]
      omega

theorem touch_windowStartNs (entry : PortScanEntry) (port : UInt16) :
    (entry.touch port).1.windowStartNs = entry.windowStartNs := by
  rw [PortScanEntry.touch]
  dsimp only
  repeat' split
  all_goals rfl

end PortScanEntry

def lateScan (start packet : UInt64 × UInt16) : Bool :=
  rolled start.1 multiportScanWindowNs packet.1

def scanEntryOf : List (UInt64 × UInt16) → Option PortScanEntry
  | [] => none
  | first :: rest =>
      some (rest.foldl (fun entry packet => (entry.touch packet.2).1) (.fresh first.1 first.2))

theorem scanEntryOf_concat (first : UInt64 × UInt16) (rest : List (UInt64 × UInt16))
    (packet : UInt64 × UInt16) :
    scanEntryOf (first :: (rest ++ [packet])) =
      (scanEntryOf (first :: rest)).map (fun entry => (entry.touch packet.2).1) := by
  rw [scanEntryOf, List.foldl_append]
  rfl

theorem scanEntryOf_start {first : UInt64 × UInt16} {rest : List (UInt64 × UInt16)}
    {entry : PortScanEntry} (present : scanEntryOf (first :: rest) = some entry) :
    entry.windowStartNs = first.1 := by
  induction rest using List.reverseRecOn generalizing entry with
  | nil =>
      cases present
      rfl
  | append_singleton rest packet ih =>
      rw [scanEntryOf_concat] at present
      obtain ⟨before, found, rfl⟩ := Option.map_eq_some_iff.mp present
      rw [PortScanEntry.touch_windowStartNs, ih found]

theorem scanEntryOf_holds {first : UInt64 × UInt16} {rest : List (UInt64 × UInt16)}
    {entry : PortScanEntry} (present : scanEntryOf (first :: rest) = some entry) :
    entry.Holds ((first :: rest).map Prod.snd).eraseDups := by
  induction rest using List.reverseRecOn generalizing entry with
  | nil =>
      cases present
      exact PortScanEntry.fresh_holds first.1 first.2
  | append_singleton rest packet ih =>
      rw [scanEntryOf_concat] at present
      obtain ⟨before, found, rfl⟩ := Option.map_eq_some_iff.mp present
      rw [← List.cons_append, List.map_append, List.map_singleton]
      exact ((ih found).touch packet.2).1

/-- The tracker takes the entry of a window to that of the next one. -/
theorem scanPort_scanEntryOf (window : List (UInt64 × UInt16)) (packet : UInt64 × UInt16) :
    some (scanPort (scanEntryOf window) packet.2 packet.1).1 =
        scanEntryOf (extendWindow lateScan window packet) ∧
      ((scanPort (scanEntryOf window) packet.2 packet.1).2 = true ↔
        Reaches (fun packets => (packets.map Prod.snd).toFinset.card) multiportScanThreshold
          (continued lateScan window packet) packet) := by
  have first : ¬ Reaches (fun packets : List (UInt64 × UInt16) =>
      (packets.map Prod.snd).toFinset.card) multiportScanThreshold [] packet := by
    intro edge
    exact absurd edge.2 (by simp [multiportScanThreshold])
  cases window with
  | nil => exact ⟨rfl, by simpa [scanEntryOf, scanPort, continued] using first⟩
  | cons start rest =>
      obtain ⟨entry, present⟩ : ∃ entry, scanEntryOf (start :: rest) = some entry := ⟨_, rfl⟩
      have held := scanEntryOf_holds present
      cases passed : rolled start.1 multiportScanWindowNs packet.1 with
      | true =>
          simp only [present, scanPort, scanEntryOf_start present, passed, if_true, extendWindow,
            continued, lateScan, Bool.false_eq_true, false_iff]
          exact ⟨rfl, first⟩
      | false =>
          have after := held.touch packet.2
          simp only [scanPort, extendWindow, continued, lateScan, passed, Bool.false_eq_true,
            if_false, scanEntryOf_concat]
          simp only [present, scanEntryOf_start present, passed, Bool.false_eq_true, if_false,
            Option.map_some, true_and, after.2, Reaches, card_toFinset_eq, List.map_append,
            List.map_singleton]

def Arrival.probes (family : Family) (source : Bytes) (arrival : Arrival) : Bool :=
  (arrival.probe family source).isSome

def portOf (family : Family) (source : Bytes) (step : Step) : UInt16 :=
  (step.1.probe family source).getD 0

def distinctPorts (family : Family) (source : Bytes) (steps : List Step) : Nat :=
  (steps.map (portOf family source)).toFinset.card

def scanEvents (bootTime : Int) (step : Step) : List SignalingEvent :=
  (step.2.events bootTime).filter isPortScan

def packetOf (family : Family) (source : Bytes) (step : Step) : UInt64 × UInt16 :=
  (step.1.env.now, portOf family source step)

/-- After every run the entry of a source stands for its running window. -/
theorem ratesAfter_portScan (family : Family) (source : Bytes) (arrivals : List Arrival) :
    ((ratesAfter .empty arrivals).of family).portScan[source]? =
      scanEntryOf (openWindow lateScan
        ((selected (Arrival.probes family source) arrivals).map (packetOf family source))) := by
  induction arrivals using List.reverseRecOn with
  | nil => cases family <;> exact Std.ExtTreeMap.getElem?_empty
  | append_singleton arrivals last ih =>
      rw [ratesAfter_concat, verdict_portScan last family _ source, selected_concat, ih]
      cases probed : last.probe family source with
      | none => simp only [Arrival.probes, probed, Option.isSome_none, Bool.false_eq_true, if_false,
          List.append_nil]
      | some port =>
          simp only [Arrival.probes, probed, Option.isSome_some, if_true, List.map_append,
            List.map_singleton, openWindow_concat]
          have moved := (scanPort_scanEntryOf (openWindow lateScan
            ((selected (Arrival.probes family source) arrivals).map (packetOf family source)))
            (last.env.now, port)).1
          simpa only [packetOf, portOf, probed, Option.getD_some, Arrival.probes] using moved

def ScanRule (family : Family) (source : Bytes) (bootTime : Int) (before : List Step)
    (step : Step) : Prop :=
  (scanEvents bootTime step).length =
    if Reaches (distinctPorts family source) multiportScanThreshold before step then
      (step.1.env.reserve 1).isSome.toNat
    else 0

theorem scanRule_continued {family : Family} {source : Bytes} {past : List Arrival} {last : Arrival}
    (ordered : InOrder (past ++ [last])) (probing : last.probes family source = true)
    (bootTime : Int) :
    ScanRule family source bootTime (continued (expired multiportScanWindowNs)
      (openWindow (expired multiportScanWindowNs)
        (selected (Arrival.probes family source) past))
      (last, last.verdict (ratesAfter .empty past))) (last, last.verdict
        (ratesAfter .empty past)) := by
  have times : (selected (Arrival.probes family source) past ++
      [(last, last.verdict (ratesAfter .empty past))]).Pairwise (fun start step =>
        lateScan (packetOf family source start) (packetOf family source step) =
          expired multiportScanWindowNs start step) :=
    ordered.rolled_eq_expired probing _ multiportScanWindowNs
  obtain ⟨port, probed⟩ := Option.isSome_iff_exists.mp probing
  have edge := (scanPort_scanEntryOf (openWindow lateScan
    ((selected (Arrival.probes family source) past).map (packetOf family source)))
    (packetOf family source (last, last.verdict (ratesAfter .empty past)))).2
  rw [← ratesAfter_portScan, ← map_continued times] at edge
  generalize continued _ _ _ = before at edge ⊢
  have named : packetOf family source (last, last.verdict (ratesAfter .empty past)) =
      (last.env.now, port) := by
    simp only [packetOf, portOf, probed, Option.getD_some]
  have reached : Reaches (fun packets : List (UInt64 × UInt16) =>
      (packets.map Prod.snd).toFinset.card) multiportScanThreshold
        (before.map (packetOf family source)) (last.env.now, port) ↔
      Reaches (distinctPorts family source) multiportScanThreshold before
        (last, last.verdict (ratesAfter .empty past)) := by
    rw [← named, Reaches, Reaches, ← List.map_singleton, ← List.map_append, List.map_map,
      List.map_map]
    rfl
  rw [named, reached] at edge
  obtain ⟨seen, size, found, rfl, rfl, passes, segment⟩ := Arrival.probe_eq_some probed
  rw [ScanRule, scanEvents, count_portScan found passes segment]
  simp only [edge]

structure ScansReported (arrivals : List Arrival) (bootTime : Int) : Prop where
  /-- Every entry keeps its table, its counter and its flag in step. -/
  entries : ∀ family (source : Bytes) (entry : PortScanEntry),
    ((ratesAfter .empty arrivals).of family).portScan[source]? = some entry → entry.Sound
  /-- No access to the table of an entry is out of range. -/
  bounds : ∀ (entry : PortScanEntry) destPort,
    entry.touchChecked destPort = some (entry.touch destPort)
  /-- One event in every window in which a source gets to enough ports, at the
  packet that makes them enough. -/
  once : ∀ family source,
    ∃ windows, Cut (expired multiportScanWindowNs)
        (selected (Arrival.probes family source) arrivals) windows ∧
      ∀ window ∈ windows,
        EdgeTriggered (distinctPorts family source) multiportScanThreshold
          (fun step => (scanEvents bootTime step).length)
          (fun step => (step.1.env.reserve 1).isSome) window
  /-- Every such event names the source and the port of its packet. -/
  named : ∀ step ∈ run .empty arrivals, ∀ record ∈ step.2.records, ∀ event,
    record.decode bootTime = .ok event → isPortScan event = true →
      ∀ family source port, step.1.probe family source = some port ↔
        record.family = family ∧ event.sourceIP = source ∧ event.destPort = port

theorem port_scans_are_reported_once {arrivals : List Arrival} (ordered : InOrder arrivals)
    (bootTime : Int) : ScansReported arrivals bootTime := by
  constructor
  · intro family source entry present
    rw [ratesAfter_portScan] at present
    cases window : openWindow lateScan
        ((selected (Arrival.probes family source) arrivals).map (packetOf family source)) with
    | nil =>
        rw [window] at present
        cases present
    | cons first rest =>
        rw [window] at present
        apply (scanEntryOf_holds present).sound
        · rw [List.map_cons, List.eraseDups_cons]
          exact List.cons_ne_nil _ _
        · exact nodup_eraseDups _
  · exact PortScanEntry.touchChecked_eq
  · intro family source
    have rule : Throughout (fun past step => ScanRule family source bootTime
        (continued (expired multiportScanWindowNs)
          (openWindow (expired multiportScanWindowNs) past) step) step)
        (selected (Arrival.probes family source) arrivals) := by
      apply throughout_selected
      intro past last rest split probing
      exact scanRule_continued (ordered.upTo split) probing bootTime
    obtain ⟨windows, cut, inside⟩ := exists_cut_throughout rule
    refine ⟨windows, cut, fun window member => ?_⟩
    exact (gauge_distinct (portOf family source)).edgeTriggered (by decide) (inside window member)
  · intro step member record emitted event decoded scan family source port
    exact probe_iff_of_event member emitted decoded (.inl scan) family source port

theorem scan_of_fifteen_ports_is_reported :
    InOrder (volley plainEnv ((List.range 16).map UInt16.ofNat)) ∧
      ScansReported (volley plainEnv ((List.range 16).map UInt16.ofNat)) 0 ∧
      ((run .empty (volley plainEnv ((List.range 16).map UInt16.ofNat))).map (fun step =>
        (scanEvents 0 step).map (fun event => event.destPort))) =
        List.replicate 14 [] ++ [[14], []] :=
  ⟨volley_inOrder _ _, port_scans_are_reported_once (volley_inOrder _ _) 0, by decide +kernel⟩

/-- Fifteen ports in one window, and no event: the ring buffer is full. -/
theorem full_ring_hides_scan :
    ∃ arrivals window, InOrder arrivals ∧
      Cut (expired multiportScanWindowNs)
        (selected (Arrival.probes .ipv4 [10, 0, 0, 1]) arrivals) [window] ∧
      multiportScanThreshold ≤ distinctPorts .ipv4 [10, 0, 0, 1] window ∧
      ∀ step ∈ run .empty arrivals, step.2.events 0 = [] := by
  have ports : (selected (Arrival.probes .ipv4 [10, 0, 0, 1])
      (volley noRoom ((List.range 15).map UInt16.ofNat))).map (portOf .ipv4 [10, 0, 0, 1]) =
        (List.range 15).map UInt16.ofNat := by decide +kernel
  refine ⟨volley noRoom ((List.range 15).map UInt16.ofNat), _, volley_inOrder _ _,
    cut_volley _ _ _ _ ?_, ?_, ?_⟩
  · intro empty
    rw [empty] at ports
    exact absurd ports (by decide)
  · rw [distinctPorts, ports]
    decide
  · decide +kernel

end Sentinel5G.Bpf
