import Sentinel5G.Controller.Convergence

/-! A reconciliation pass in which any call may fail: the corrections it tries
and what it remembers are functions of what it read, and a failing call costs
no more than its own correction. -/

namespace Sentinel5G.Controller

open Base Api Ebpf Program

def callKey : BlocklistCall → String
  | .block ip => "ip:" ++ ip.string
  | .unblock ip => "ip:" ++ ip.string
  | .blockTunnel ip teid => "tunnel:" ++ formatTunnel ip.string teid
  | .unblockTunnel ip teid => "tunnel:" ++ formatTunnel ip.string teid

def additions {V : Type} (family : Family V) (actual : Keyed V) (items : List (String × V)) :
    List BlocklistCall :=
  (items.filter (fun item => decide (item.1 ∉ actual))).map
    (fun item => family.place item.2)

def removals {V : Type} (family : Family V) (desired : Keyed V) (unclaimed : Unclaimed)
    (items : List (String × V)) : List BlocklistCall :=
  (items.filter (fun item => decide (item.1 ∉ desired ∧ family.space ++ item.1 ∈ unclaimed))).map
    (fun item => family.lift item.2)

def leftovers {V : Type} (family : Family V) (desired : Keyed V) (items : List (String × V)) :
    List String :=
  (items.filter (fun item => decide (item.1 ∉ desired))).map (fun item => family.space ++ item.1)

def corrections (desired : Keyed IP × Keyed BlockedTunnel) (kernelIPs : List IP)
    (kernelTunnels : List BlockedTunnel) (unclaimed : Unclaimed) : List BlocklistCall :=
  additions ipFamily (keyedBy actualIP kernelIPs) desired.1.toList ++
    removals ipFamily desired.1 unclaimed (keyedBy actualIP kernelIPs).toList ++
    additions tunnelFamily (keyedBy actualTunnel kernelTunnels) desired.2.toList ++
    removals tunnelFamily desired.2 unclaimed (keyedBy actualTunnel kernelTunnels).toList

def remembered (desired : Keyed IP × Keyed BlockedTunnel) (kernelIPs : List IP)
    (kernelTunnels : List BlockedTunnel) : Unclaimed :=
  .ofList (leftovers ipFamily desired.1 (keyedBy actualIP kernelIPs).toList ++
    leftovers tunnelFamily desired.2 (keyedBy actualTunnel kernelTunnels).toList) compare

def kernelCall : Exchange Op.Answer → Option (BlocklistCall × Except Err Unit)
  | ⟨.block ip, answer⟩ => some (.block ip, answer)
  | ⟨.unblock ip, answer⟩ => some (.unblock ip, answer)
  | ⟨.blockTunnel ip teid, answer⟩ => some (.blockTunnel ip teid, answer)
  | ⟨.unblockTunnel ip teid, answer⟩ => some (.unblockTunnel ip teid, answer)
  | _ => none

def kernelCalls (log : List (Exchange Op.Answer)) : List (BlocklistCall × Except Err Unit) :=
  log.filterMap kernelCall

def readFailed : Exchange Op.Answer → Bool
  | ⟨.listPolicies, .error _⟩ => true
  | ⟨.blockedIPs, .error _⟩ => true
  | ⟨.blockedTunnels, .error _⟩ => true
  | _ => false

/-- All of `planned` was tried, and every failure left one error. -/
structure Tried (planned : List BlocklistCall) (errs : List Err) (log : List (Exchange Op.Answer)) :
    Prop where
  calls : (kernelCalls log).map Prod.fst = planned
  errors : errs.length = (kernelCalls log).countP (fun made => !made.2.isOk)

section Tried

variable {planned later : List BlocklistCall} {errs others : List Err}
  {log back : List (Exchange Op.Answer)}

theorem Tried.append (first : Tried planned errs log) (second : Tried later others back) :
    Tried (planned ++ later) (errs ++ others) (log ++ back) where
  calls := by
    simp only [kernelCalls, List.filterMap_append, List.map_append]
    exact congrArg₂ _ first.calls second.calls
  errors := by
    simp only [kernelCalls, List.filterMap_append, List.countP_append, List.length_append]
    exact congrArg₂ _ first.errors second.errors

theorem Tried.cons {call : BlocklistCall} {context key : String} {outcome : Except Err Unit}
    (tried : Tried planned errs log)
    (made : kernelCalls back = [(call, outcome)]) :
    Tried (call :: planned) (failures context key outcome errs) (back ++ log) where
  calls := by
    rw [kernelCalls, List.filterMap_append, ← kernelCalls, ← kernelCalls, made]
    exact congrArg (List.cons call) tried.calls
  errors := by
    rw [kernelCalls, List.filterMap_append, List.countP_append, ← kernelCalls, ← kernelCalls, made,
      ← tried.errors]
    cases outcome with
    | error err => simp [failures, Except.isOk, Except.toBool, Nat.add_comm]
    | ok value => simp [failures, Except.isOk, Except.toBool]

theorem Tried.length (tried : Tried planned errs log) :
    (kernelCalls log).length = planned.length := by
  simpa using congrArg List.length tried.calls

theorem Tried.succeeded (tried : Tried planned errs log) :
    (planned.length : Int) - errs.length =
      ((kernelCalls log).countP (fun made => made.2.isOk) : Nat) := by
  have split := @List.length_eq_countP_add_countP _ (fun made => made.2.isOk) (kernelCalls log)
  have failed := tried.errors
  have length := tried.length
  simp only [Bool.not_eq_true, Bool.decide_eq_false] at split
  omega

theorem Tried.errs_eq_nil (tried : Tried planned errs log) :
    errs = [] ↔ ∀ made ∈ kernelCalls log, made.2.isOk := by
  rw [← List.length_eq_zero_iff, tried.errors, List.countP_eq_zero]
  simp

end Tried

theorem invoke_logs (call : BlocklistCall) :
    (invoke call).Logs (fun log outcome => kernelCalls log = [(call, outcome)]) := by
  cases call <;> exact fun answer => rfl

section Loops

variable {V : Type} (family : Family V)

theorem reapply_logs (actual : Keyed V) (items : List (String × V)) :
    (reapply family actual items).Logs (fun log added =>
      Tried (additions family actual items) added.errs log ∧
        added.missing = (additions family actual items).length) := by
  induction items with
  | nil => exact ⟨⟨rfl, rfl⟩, rfl⟩
  | cons item items ih =>
      rw [reapply]
      split
      · rename_i present
        have same : additions family actual (item :: items) = additions family actual items := by
          simp [additions, present]
        rw [same]
        exact ih
      · rename_i absent
        have grown : additions family actual (item :: items) =
            family.place item.2 :: additions family actual items := by
          simp [additions, absent]
        rw [grown]
        refine Logs.bind ((invoke_logs _).mono (fun front outcome made => ?_))
        refine Logs.map (ih.mono (fun back others done => ?_))
        exact ⟨done.1.cons made, congrArg (· + 1) done.2⟩

theorem prune_logs (desired : Keyed V) (unclaimed : Unclaimed) (items : List (String × V)) :
    (prune family desired unclaimed items).Logs (fun log removed =>
      Tried (removals family desired unclaimed items) removed.errs log ∧
        removed.extra = (removals family desired unclaimed items).length ∧
        removed.stillUnclaimed = leftovers family desired items) := by
  induction items with
  | nil => exact ⟨⟨rfl, rfl⟩, rfl, rfl⟩
  | cons item items ih =>
      rw [prune]
      split
      · rename_i claimed
        have same : removals family desired unclaimed (item :: items) =
            removals family desired unclaimed items := by simp [removals, claimed]
        have left : leftovers family desired (item :: items) = leftovers family desired items := by
          simp [leftovers, claimed]
        rw [same, left]
        exact ih
      · rename_i extra
        have left : leftovers family desired (item :: items) =
            (family.space ++ item.1) :: leftovers family desired items := by
          simp [leftovers, extra]
        rw [left]
        split
        · rename_i again
          have grown : removals family desired unclaimed (item :: items) =
              family.lift item.2 ::
                removals family desired unclaimed items := by
            simp [removals, extra, again]
          rw [grown]
          refine Logs.bind ((invoke_logs _).mono (fun front outcome made => ?_))
          refine Logs.map (ih.mono (fun back others done => ?_))
          exact ⟨done.1.cons made, congrArg (· + 1) done.2.1, congrArg _ done.2.2⟩
        · rename_i first
          have same : removals family desired unclaimed (item :: items) =
              removals family desired unclaimed items := by simp [removals, first]
          rw [same]
          refine Logs.map (ih.mono (fun back others done => ?_))
          exact ⟨done.1, done.2.1, congrArg _ done.2.2⟩

end Loops

/-- What a pass remembers and reports for the calls it made, however they
turned out. -/
structure Isolates (planned : List BlocklistCall) (found : Unclaimed)
    (calls : List (BlocklistCall × Except Err Unit)) (outcome : SyncOutcome) : Prop where
  tried : calls.map Prod.fst = planned
  remembers : outcome.unclaimed = found
  counted : outcome.report.corrections = calls.length
  failed : outcome.err = none ↔ ∀ made ∈ calls, made.2.isOk
  applied : ∀ err, outcome.err = some err → ∃ causes : Err,
    err = causes.wrap ("blocklist reconciliation applied " ++
      toString (calls.countP (fun made => made.2.isOk)) ++ " of " ++ toString calls.length ++
      " corrections")

theorem syncErr_eq_none_iff (report : DriftReport) (errs : List Err) :
    syncErr report errs = none ↔ errs = [] := by
  cases errs with
  | nil => simp [syncErr]
  | cons err errs => simp [syncErr]

theorem syncErr_applied {planned : List BlocklistCall} {errs : List Err}
    {log : List (Exchange Op.Answer)} {report : DriftReport} {err : Err}
    (tried : Tried planned errs log) (failed : syncErr report errs = some err)
    (counted : report.corrections = planned.length) :
    err = (joinErrs errs).wrap ("blocklist reconciliation applied " ++
      toString ((kernelCalls log).countP (fun made => made.2.isOk)) ++ " of " ++
      toString (kernelCalls log).length ++ " corrections") := by
  rw [syncErr] at failed
  split at failed
  · rw [counted, tried.succeeded] at failed
    rw [tried.length]
    exact (Option.some.inj failed).symm
  · cases failed

theorem correct_logs (desired : Keyed IP × Keyed BlockedTunnel) (kernelIPs : List IP)
    (kernelTunnels : List BlockedTunnel) (unclaimed : Unclaimed) :
    (correct desired kernelIPs kernelTunnels unclaimed).Logs
      (fun log => Isolates (corrections desired kernelIPs kernelTunnels unclaimed)
        (remembered desired kernelIPs kernelTunnels) (kernelCalls log)) := by
  refine Logs.bind ((reapply_logs _ _ _).mono (fun first addedIPs sources => ?_))
  refine Logs.bind ((prune_logs _ _ unclaimed _).mono (fun second removedIPs oldSources => ?_))
  refine Logs.bind ((reapply_logs _ _ _).mono (fun third addedTunnels tunnels => ?_))
  refine Logs.map ((prune_logs _ _ unclaimed _).mono (fun fourth removedTunnels oldTunnels => ?_))
  have tried := ((sources.1.append oldSources.1).append tunnels.1).append oldTunnels.1
  simp only [← List.append_assoc]
  have counted : addedIPs.missing + addedTunnels.missing + removedIPs.extra + removedTunnels.extra =
      (corrections desired kernelIPs kernelTunnels unclaimed).length := by
    rw [sources.2, oldSources.2.1, tunnels.2, oldTunnels.2.1]
    simp only [corrections, List.length_append]
    omega
  exact {
    tried := tried.calls
    remembers := by
      rw [remembered, ← oldSources.2.2, ← oldTunnels.2.2]
    counted := counted.trans tried.length.symm
    failed := (syncErr_eq_none_iff _ _).trans tried.errs_eq_nil
    applied := fun err failed => ⟨_, syncErr_applied tried failed counted⟩ }

section Keys

variable {V : Type} {family : Family V} {table desired actual : Keyed V} {unclaimed : Unclaimed}

def Spelled (family : Family V) (table : Keyed V) : Prop :=
  ∀ key value, table[key]? = some value →
    callKey (family.place value) = family.space ++ key ∧
      callKey (family.lift value) = family.space ++ key

theorem Spelled.of_mem (spelled : Spelled family table) {item : String × V}
    (member : item ∈ table.toList) :
    callKey (family.place item.2) = family.space ++ item.1 ∧
      callKey (family.lift item.2) = family.space ++ item.1 :=
  spelled _ _ (Std.ExtTreeMap.mem_toList_iff_getElem?_eq_some.mp member)

theorem keys_nodup (space : String) (table : Keyed V) (chosen : String × V → Bool) :
    ((table.toList.filter chosen).map (fun item => space ++ item.1)).Nodup := by
  have distinct : (table.toList.map Prod.fst).Nodup := by
    rw [Std.ExtTreeMap.map_fst_toList_eq_keys]
    exact Std.ExtTreeMap.nodup_keys
  have fewer := distinct.sublist (List.filter_sublist.map Prod.fst : List.Sublist
    ((table.toList.filter chosen).map Prod.fst) _)
  refine List.pairwise_map.mpr ((List.pairwise_map.mp fewer).imp (fun different same => ?_))
  exact different ((String.append_right_inj _).mp same)

theorem additions_keys (spelled : Spelled family desired) :
    (additions family actual desired.toList).map callKey =
      (desired.toList.filter (fun item => decide (item.1 ∉ actual))).map
        (fun item => family.space ++ item.1) := by
  rw [additions, List.map_map]
  apply List.map_congr_left
  intro item member
  exact (spelled.of_mem (List.mem_of_mem_filter member)).1

theorem removals_keys (spelled : Spelled family actual) :
    (removals family desired unclaimed actual.toList).map callKey =
      (actual.toList.filter (fun item => decide (item.1 ∉ desired ∧
        family.space ++ item.1 ∈ unclaimed))).map (fun item => family.space ++ item.1) := by
  rw [removals, List.map_map]
  apply List.map_congr_left
  intro item member
  exact (spelled.of_mem (List.mem_of_mem_filter member)).2

theorem mem_additions (spelled : Spelled family desired) {call : BlocklistCall}
    (member : call ∈ additions family actual desired.toList) :
    ∃ key, callKey call = family.space ++ key ∧ key ∈ desired ∧ key ∉ actual := by
  obtain ⟨item, chosen, rfl⟩ := List.mem_map.mp member
  obtain ⟨listed, absent⟩ := List.mem_filter.mp chosen
  refine ⟨item.1, (spelled.of_mem listed).1, ?_, of_decide_eq_true absent⟩
  rw [Std.ExtTreeMap.mem_iff_isSome_getElem?,
    Std.ExtTreeMap.mem_toList_iff_getElem?_eq_some.mp listed]
  rfl

theorem mem_removals (spelled : Spelled family actual) {call : BlocklistCall}
    (member : call ∈ removals family desired unclaimed actual.toList) :
    ∃ key, callKey call = family.space ++ key ∧ key ∉ desired := by
  obtain ⟨item, chosen, rfl⟩ := List.mem_map.mp member
  obtain ⟨listed, stale⟩ := List.mem_filter.mp chosen
  exact ⟨item.1, (spelled.of_mem listed).2, (of_decide_eq_true stale).1⟩

theorem family_nodup (wanted : Spelled family desired) (read : Spelled family actual) :
    ((additions family actual desired.toList ++
      removals family desired unclaimed actual.toList).map callKey).Nodup := by
  rw [List.map_append, List.nodup_append]
  refine ⟨?_, ?_, fun key added other removed same => ?_⟩
  · rw [additions_keys wanted]
    exact keys_nodup _ _ _
  · rw [removals_keys read]
    exact keys_nodup _ _ _
  · obtain ⟨placed, placing, rfl⟩ := List.mem_map.mp added
    obtain ⟨lifted, lifting, rfl⟩ := List.mem_map.mp removed
    obtain ⟨one, named, claimed, -⟩ := mem_additions wanted placing
    obtain ⟨two, also, unasked⟩ := mem_removals read lifting
    rw [named, also] at same
    rw [← (String.append_right_inj _).mp same] at unasked
    exact unasked claimed

end Keys

theorem desiredIPs_spelled (policies : List TelecomSecurityPolicy) :
    Spelled ipFamily (desiredEnforcement policies).1 := by
  intro key ip stored
  obtain ⟨raw, -, same⟩ := entry_of_keyedBy stored
  rw [desiredIP] at same
  split at same
  · cases same
  · cases same
    exact ⟨rfl, rfl⟩

theorem desiredTunnels_spelled (policies : List TelecomSecurityPolicy) :
    Spelled tunnelFamily (desiredEnforcement policies).2 := by
  intro key tunnel stored
  obtain ⟨entry, -, same⟩ := entry_of_keyedBy stored
  rw [desiredTunnel] at same
  split at same
  · cases same
  · split at same
    · cases same
    · cases same
      exact ⟨rfl, rfl⟩

theorem actualIPs_spelled (kernelIPs : List IP) :
    Spelled ipFamily (keyedBy actualIP kernelIPs) := by
  intro key ip stored
  obtain ⟨shown, -, same⟩ := entry_of_keyedBy stored
  cases same
  exact ⟨rfl, rfl⟩

theorem actualTunnels_spelled (kernelTunnels : List BlockedTunnel) :
    Spelled tunnelFamily (keyedBy actualTunnel kernelTunnels) := by
  intro key tunnel stored
  obtain ⟨shown, -, same⟩ := entry_of_keyedBy stored
  cases same
  exact ⟨rfl, rfl⟩

/-- The two families' keys are told apart by their first letter. -/
theorem spaces_apart (first second : String) :
    ipFamily.space ++ first ≠ tunnelFamily.space ++ second := by
  intro same
  have heads := congrArg (fun text : String => text.toList.head?) same
  simp [ipFamily, tunnelFamily] at heads

def ClaimedKey (policies : List TelecomSecurityPolicy) (key : String) : Prop :=
  ∃ drop, Desired policies drop ∧ mark drop = key

def ShownKey (loader : Loader) (key : String) : Prop :=
  (∃ ip ∈ loader.blockedIPs, key = callKey (.block ip)) ∨
    ∃ tunnel ∈ loader.blockedTunnels, key = callKey (.blockTunnel tunnel.ip tunnel.teid)

theorem sourceKey_of_mark {drop : Drop} {key : String} (same : mark drop = ipFamily.space ++ key) :
    sourceKey drop = some key := by
  cases drop with
  | source address => rw [← (String.append_right_inj _).mp same, sourceKey]
  | tunnel address teid => exact absurd same.symm (spaces_apart _ _)

theorem tunnelKey_of_mark {drop : Drop} {key : String}
    (same : mark drop = tunnelFamily.space ++ key) : tunnelKey drop = some key := by
  cases drop with
  | source address => exact absurd same (spaces_apart _ _)
  | tunnel address teid => rw [← (String.append_right_inj _).mp same, tunnelKey]

theorem claimedKey_iff {V : Type} {family : Family V} {keyOf : Drop → Option String}
    {policies : List TelecomSecurityPolicy} {desired : Keyed V}
    (represents : Represents family keyOf)
    (unmarked : ∀ {drop key}, mark drop = family.space ++ key → keyOf drop = some key)
    (wanted : Lists family keyOf desired (Desired policies)) (key : String) :
    ClaimedKey policies (family.space ++ key) ↔ key ∈ desired := by
  constructor
  · rintro ⟨drop, asked, same⟩
    exact wanted.complete drop key (unmarked same) asked
  · intro member
    obtain ⟨value, stored⟩ := Option.isSome_iff_exists.mp
      (Std.ExtTreeMap.mem_iff_isSome_getElem?.mp member)
    obtain ⟨drop, named, -, asked⟩ := wanted.sound key value stored
    exact ⟨drop, asked, represents.marked named⟩

theorem claimedKey_ip_iff (policies : List TelecomSecurityPolicy) (key : String) :
    ClaimedKey policies (ipFamily.space ++ key) ↔ key ∈ (desiredEnforcement policies).1 :=
  claimedKey_iff ipFamily_represents sourceKey_of_mark (desiredIPs_lists policies) key

theorem claimedKey_tunnel_iff (policies : List TelecomSecurityPolicy) (key : String) :
    ClaimedKey policies (tunnelFamily.space ++ key) ↔ key ∈ (desiredEnforcement policies).2 :=
  claimedKey_iff tunnelFamily_represents tunnelKey_of_mark (desiredTunnels_lists policies) key

theorem shownKey_ip_iff (loader : Loader) (key : String) :
    ShownKey loader (ipFamily.space ++ key) ↔ key ∈ keyedBy actualIP loader.blockedIPs := by
  rw [mem_keyedBy]
  constructor
  · rintro (⟨ip, member, same⟩ | ⟨tunnel, -, same⟩)
    · refine ⟨ip, member, ip, ?_⟩
      rw [actualIP, (String.append_right_inj _).mp same]
    · exact absurd same (spaces_apart _ _)
  · rintro ⟨ip, member, value, same⟩
    cases same
    exact .inl ⟨ip, member, rfl⟩

theorem shownKey_tunnel_iff (loader : Loader) (key : String) :
    ShownKey loader (tunnelFamily.space ++ key) ↔
      key ∈ keyedBy actualTunnel loader.blockedTunnels := by
  rw [mem_keyedBy]
  constructor
  · rintro (⟨ip, -, same⟩ | ⟨tunnel, member, same⟩)
    · exact absurd same.symm (spaces_apart _ _)
    · refine ⟨tunnel, member, tunnel, ?_⟩
      rw [actualTunnel, (String.append_right_inj _).mp same]
  · rintro ⟨tunnel, member, value, same⟩
    cases same
    exact .inr ⟨tunnel, member, rfl⟩

section Plan

variable (policies : List TelecomSecurityPolicy) (loader : Loader) (unclaimed : Unclaimed)

def plan : List BlocklistCall :=
  corrections (desiredEnforcement policies) loader.blockedIPs loader.blockedTunnels unclaimed

theorem plan_nodup : ((plan policies loader unclaimed).map callKey).Nodup := by
  rw [plan, corrections, List.append_assoc, List.map_append, List.nodup_append]
  refine ⟨family_nodup (desiredIPs_spelled policies) (actualIPs_spelled _),
    family_nodup (desiredTunnels_spelled policies) (actualTunnels_spelled _), ?_⟩
  intro first source second tunnel same
  obtain ⟨call, member, rfl⟩ := List.mem_map.mp source
  obtain ⟨other, listed, rfl⟩ := List.mem_map.mp tunnel
  have one : ∃ key, callKey call = ipFamily.space ++ key := by
    rcases List.mem_append.mp member with added | removed
    · exact (mem_additions (desiredIPs_spelled policies) added).imp (fun _ named => named.1)
    · exact (mem_removals (actualIPs_spelled _) removed).imp (fun _ named => named.1)
  have two : ∃ key, callKey other = tunnelFamily.space ++ key := by
    rcases List.mem_append.mp listed with added | removed
    · exact (mem_additions (desiredTunnels_spelled policies) added).imp (fun _ named => named.1)
    · exact (mem_removals (actualTunnels_spelled _) removed).imp (fun _ named => named.1)
  obtain ⟨key, named⟩ := one
  obtain ⟨otherKey, also⟩ := two
  rw [named, also] at same
  exact spaces_apart _ _ same

/-- A call of the plan blocks a claimed key that the kernel did not show, or
unblocks a key that is not claimed. -/
theorem mem_plan {call : BlocklistCall} (member : call ∈ plan policies loader unclaimed) :
    (call.placing = true ∧ ClaimedKey policies (callKey call) ∧ ¬ ShownKey loader (callKey call)) ∨
      (call.placing = false ∧ ¬ ClaimedKey policies (callKey call)) := by
  simp only [plan, corrections, List.mem_append, or_assoc] at member
  rcases member with added | removed | added | removed
  · obtain ⟨key, named, claimed, absent⟩ := mem_additions (desiredIPs_spelled policies) added
    obtain ⟨item, -, rfl⟩ := List.mem_map.mp added
    rw [named, claimedKey_ip_iff, shownKey_ip_iff]
    exact .inl ⟨rfl, claimed, absent⟩
  · obtain ⟨key, named, unasked⟩ := mem_removals (actualIPs_spelled _) removed
    obtain ⟨item, -, rfl⟩ := List.mem_map.mp removed
    rw [named, claimedKey_ip_iff]
    exact .inr ⟨rfl, unasked⟩
  · obtain ⟨key, named, claimed, absent⟩ := mem_additions (desiredTunnels_spelled policies) added
    obtain ⟨item, -, rfl⟩ := List.mem_map.mp added
    rw [named, claimedKey_tunnel_iff, shownKey_tunnel_iff]
    exact .inl ⟨rfl, claimed, absent⟩
  · obtain ⟨key, named, unasked⟩ := mem_removals (actualTunnels_spelled _) removed
    obtain ⟨item, -, rfl⟩ := List.mem_map.mp removed
    rw [named, claimedKey_tunnel_iff]
    exact .inr ⟨rfl, unasked⟩

end Plan

/-- The kernel before and after a sequence of calls with the given outcomes: a
call that failed left no trace. -/
inductive Replays : Loader → List (BlocklistCall × Except Err Unit) → Loader → Prop
  | nil (loader : Loader) : Replays loader [] loader
  | failed {before after : Loader} {rest : List (BlocklistCall × Except Err Unit)}
      (call : BlocklistCall) (err : Err) (later : Replays before rest after) :
      Replays before ((call, .error err) :: rest) after
  | done {before middle after : Loader} {rest : List (BlocklistCall × Except Err Unit)}
      (call : BlocklistCall) (accepted : call.apply before = .ok middle)
      (later : Replays middle rest after) : Replays before ((call, .ok ()) :: rest) after

section Replays

variable {before after : Loader} {made : List (BlocklistCall × Except Err Unit)}

theorem kernelCall_ofCall (call : BlocklistCall) (choice : Choice) (world : World) :
    kernelCall ⟨.ofCall call, (exec choice (.ofCall call) world).1⟩ =
      some (call, (choice.syscall world (call.apply world.loader)).1) := by
  cases call <;> rfl

theorem exchanges_replays {α : Type} {program : Action α}
    (asks : program.AsksOnly (fun op => ∃ call, op = .ofCall call)) (script : Nat → Choice)
    (world : World) :
    Replays world.loader (kernelCalls (program.exchanges exec script world))
      (program.run exec script world).2.loader := by
  induction program generalizing script world with
  | done value => exact .nil _
  | ask op next ih =>
      obtain ⟨⟨call, rfl⟩, later⟩ := asks
      have rest := ih (exec (script 0) (.ofCall call) world).1 (later _) (fun n => script (n + 1))
        (exec (script 0) (.ofCall call) world).2
      have start := congrArg World.loader (exec_ofCall (script 0) call world)
      rw [Program.exchanges, kernelCalls, List.filterMap_cons, kernelCall_ofCall]
      rcases syscall_cases (script 0) world (call.apply world.loader) with
        ⟨err, failed⟩ | ⟨middle, accepted, same⟩
      · rw [failed] at start ⊢
        rw [start] at rest
        exact .failed call err rest
      · rw [same] at start ⊢
        rw [start] at rest
        exact .done call accepted rest

theorem mark_of_names {call : BlocklistCall} {drop : Drop}
    (names : call.Places drop ∨ call.Lifts drop) : mark drop = callKey call := by
  cases call with
  | block ip =>
      obtain ⟨address, long, rfl⟩ := names.resolve_right id
      rw [mark, callKey, string_eq_text ip address long]
  | unblock ip =>
      obtain ⟨address, long, rfl⟩ := names.resolve_left id
      rw [mark, callKey, string_eq_text ip address long]
  | blockTunnel ip teid =>
      obtain ⟨address, long, -, rfl⟩ := names.resolve_right id
      rw [mark, callKey, string_eq_text ip address long]
  | unblockTunnel ip teid =>
      obtain ⟨address, long, -, rfl⟩ := names.resolve_left id
      rw [mark, callKey, string_eq_text ip address long]

/-- An accepted call decides about the drop of its key and about no other. -/
theorem apply_decides {call : BlocklistCall} (accepted : call.apply before = .ok after) :
    ∃ drop, mark drop = callKey call ∧ (after.Holds drop ↔ call.placing = true) ∧
      ∀ other, mark other ≠ callKey call → (after.Holds other ↔ before.Holds other) := by
  rcases BlocklistCall.apply_cases accepted with ⟨drop, places, adds⟩ | ⟨drop, lifts, removes⟩
  · have named := mark_of_names (.inl places)
    refine ⟨drop, named, ?_, fun other different => ?_⟩
    · cases call <;> first | exact places.elim | simp [adds.holds, BlocklistCall.placing]
    · rw [adds.holds]
      exact or_iff_right (fun same => different (same ▸ named))
  · have named := mark_of_names (.inr lifts)
    refine ⟨drop, named, ?_, fun other different => ?_⟩
    · cases call <;> first | exact lifts.elim | simp [removes.holds, BlocklistCall.placing]
    · rw [removes.holds]
      exact and_iff_right (fun same => different (same ▸ named))

theorem Replays.frame (replays : Replays before made after) {drop : Drop}
    (elsewhere : mark drop ∉ made.map (fun entry => callKey entry.1)) :
    after.Holds drop ↔ before.Holds drop := by
  induction replays with
  | nil loader => rfl
  | failed call err later ih =>
      rw [List.map_cons, List.mem_cons, not_or] at elsewhere
      exact ih elsewhere.2
  | done call accepted later ih =>
      rw [List.map_cons, List.mem_cons, not_or] at elsewhere
      obtain ⟨-, -, -, others⟩ := apply_decides accepted
      exact (ih elsewhere.2).trans (others drop elsewhere.1)

/-- When no two calls are about one key, what a successful call did still stands
at the end. -/
theorem Replays.effective (replays : Replays before made after)
    (distinct : (made.map (fun entry => callKey entry.1)).Nodup) {call : BlocklistCall}
    (succeeded : (call, .ok ()) ∈ made) :
    ∃ drop, mark drop = callKey call ∧ (after.Holds drop ↔ call.placing = true) := by
  induction replays with
  | nil loader => cases succeeded
  | failed other err later ih =>
      rw [List.map_cons, List.nodup_cons] at distinct
      refine ih distinct.2 ((List.mem_cons.mp succeeded).resolve_left (fun same => ?_))
      cases (Prod.mk.inj same).2
  | done other accepted later ih =>
      rw [List.map_cons, List.nodup_cons] at distinct
      rcases List.mem_cons.mp succeeded with same | earlier
      · obtain ⟨drop, named, decided, -⟩ := apply_decides accepted
        obtain ⟨rfl, -⟩ := Prod.mk.inj same
        refine ⟨drop, named, (later.frame ?_).trans decided⟩
        rw [named]
        exact distinct.1
      · exact ih distinct.2 earlier

end Replays

theorem correct_calls (desired : Keyed IP × Keyed BlockedTunnel) (kernelIPs : List IP)
    (kernelTunnels : List BlockedTunnel) (unclaimed : Unclaimed) :
    (correct desired kernelIPs kernelTunnels unclaimed).AsksOnly
      (fun op => ∃ call, op = .ofCall call) := by
  refine AsksOnly.bind (reapply_asks _ _ (fun _ _ _ => ⟨_, rfl⟩)) (fun _ => ?_)
  refine AsksOnly.bind (prune_asks _ _ _ (fun _ _ _ _ => ⟨_, rfl⟩)) (fun _ => ?_)
  refine AsksOnly.bind (reapply_asks _ _ (fun _ _ _ => ⟨_, rfl⟩)) (fun _ => ?_)
  exact AsksOnly.bind (prune_asks _ _ _ (fun _ _ _ _ => ⟨_, rfl⟩)) (fun _ => trivial)

/-- A pass that got all its reads: the calls it tries, and what comes of them. -/
structure Corrected (policies : List TelecomSecurityPolicy) (unclaimed : Unclaimed)
    (before : Loader) (calls : List (BlocklistCall × Except Err Unit)) (outcome : SyncOutcome)
    (after : Loader) : Prop extends
      Isolates (plan policies before unclaimed)
        (remembered (desiredEnforcement policies) before.blockedIPs before.blockedTunnels) calls
        outcome where
  distinct : (calls.map (fun made => callKey made.1)).Nodup
  unblocks : ∀ made ∈ calls, made.1.placing = false → ¬ ClaimedKey policies (callKey made.1)
  blocks : ∀ made ∈ calls, made.1.placing = true →
    ClaimedKey policies (callKey made.1) ∧ ¬ ShownKey before (callKey made.1)
  effective : ∀ call, (call, .ok ()) ∈ calls →
    ∃ drop, mark drop = callKey call ∧ (after.Holds drop ↔ call.placing = true)

theorem correct_corrected (policies : List TelecomSecurityPolicy) (unclaimed : Unclaimed)
    (script : Nat → Choice) (world : World) :
    let program := correct (desiredEnforcement policies) world.loader.blockedIPs
      world.loader.blockedTunnels unclaimed
    Corrected policies unclaimed world.loader (kernelCalls (program.exchanges exec script world))
      (program.run exec script world).1 (program.run exec script world).2.loader := by
  intro program
  have isolates := (correct_logs (desiredEnforcement policies) world.loader.blockedIPs
    world.loader.blockedTunnels unclaimed).run exec script world
  have distinct : ((kernelCalls (program.exchanges exec script world)).map
      (fun made => callKey made.1)).Nodup := by
    have planned := plan_nodup policies world.loader unclaimed
    rw [plan, ← isolates.tried, List.map_map] at planned
    exact planned
  have listed : ∀ made ∈ kernelCalls (program.exchanges exec script world),
      made.1 ∈ plan policies world.loader unclaimed := by
    intro made member
    rw [plan, ← isolates.tried]
    exact List.mem_map_of_mem member
  refine { isolates with distinct := distinct, unblocks := ?_, blocks := ?_, effective := ?_ }
  · intro made member lifting
    rcases mem_plan policies world.loader unclaimed (listed made member) with placed | lifted
    · rw [placed.1] at lifting
      cases lifting
    · exact lifted.2
  · intro made member placing
    rcases mem_plan policies world.loader unclaimed (listed made member) with placed | lifted
    · exact placed.2
    · rw [lifted.1] at placing
      cases placing
  · intro call succeeded
    exact (exchanges_replays (correct_calls _ _ _ _) script world).effective distinct succeeded

theorem readFailed_ofCall (call : BlocklistCall) (answer : (Op.ofCall call).Answer) :
    readFailed ⟨.ofCall call, answer⟩ = false := by
  cases call <;> rfl

theorem correct_reads_nothing (desired : Keyed IP × Keyed BlockedTunnel) (kernelIPs : List IP)
    (kernelTunnels : List BlockedTunnel) (unclaimed : Unclaimed) (script : Nat → Choice)
    (world : World) :
    ∀ exchange ∈ (correct desired kernelIPs kernelTunnels unclaimed).exchanges exec script world,
      readFailed exchange = false := by
  intro exchange member
  obtain ⟨op, answer⟩ := exchange
  obtain ⟨call, rfl⟩ := (correct_calls _ _ _ _).exchanges exec script world _ member
  exact readFailed_ofCall call answer

/-- A pass that could not read everything calls nothing and forgets nothing. Any
other pass tries the same calls and remembers the same keys whatever fails, and
reports exactly the failures. -/
theorem sync_isolates_errors (unclaimed : Unclaimed) (script : Nat → Choice) (world : World) :
    let log := (sync unclaimed).exchanges exec script world
    let ended := (sync unclaimed).run exec script world
    ((∃ exchange ∈ log, readFailed exchange = true) →
      kernelCalls log = [] ∧ ended.1.unclaimed = unclaimed ∧ ended.1.err ≠ none) ∧
    ((∀ exchange ∈ log, readFailed exchange = false) →
      Corrected (world.server.listCached (script 0).lag) unclaimed world.loader (kernelCalls log)
        ended.1 ended.2.loader) := by
  have read : ∀ {α : Type} (choice : Choice) (value : α),
      (∃ err, choice.read (.ok value) = .error err) ∨ choice.read (.ok value) = .ok value := by
    intro α choice value
    rw [Choice.read]
    split
    · exact .inr rfl
    · exact .inl ⟨_, rfl⟩
    · exact .inl ⟨_, rfl⟩
  simp only [sync, perform_bind, Program.run, Program.exchanges, exec]
  rcases read (script 0) (world.server.listCached (script 0).lag) with ⟨err, failed⟩ | listed
  · rw [failed]
    refine ⟨fun _ => ⟨rfl, rfl, Option.some_ne_none _⟩, fun passed => ?_⟩
    cases passed _ List.mem_cons_self
  simp only [listed, readKernel, perform_bind, Program.run, Program.exchanges, exec, Nat.zero_add]
  rcases read (script 1) world.loader.blockedIPs with ⟨err, failed⟩ | sources
  · rw [failed]
    refine ⟨fun _ => ⟨rfl, rfl, Option.some_ne_none _⟩, fun passed => ?_⟩
    cases passed _ (List.mem_cons_of_mem _ List.mem_cons_self)
  simp only [sources, readTunnels, perform_bind, Program.run, Program.exchanges, exec,
    Nat.reduceAdd]
  rcases read (script 2) world.loader.blockedTunnels with ⟨err, failed⟩ | tunnels
  · rw [failed]
    refine ⟨fun _ => ⟨rfl, rfl, Option.some_ne_none _⟩, fun passed => ?_⟩
    cases passed _ (List.mem_cons_of_mem _ (List.mem_cons_of_mem _ List.mem_cons_self))
  rw [tunnels]
  constructor
  · rintro ⟨exchange, member, failed⟩
    simp only [List.mem_cons] at member
    rcases member with rfl | rfl | rfl | called
    · cases failed
    · cases failed
    · cases failed
    · rw [correct_reads_nothing _ _ _ _ _ _ exchange called] at failed
      cases failed
  · intro _
    exact correct_corrected (world.server.listCached (script 0).lag) unclaimed _ world

def busyOnce : Nat → Choice
  | 3 => { Choice.quiet with fault := .refused "device or resource busy" }
  | _ => .quiet

theorem refused_block_spares_the_tunnel :
    Corrected (restarted.world.server.listCached (fun _ => 0)) ∅ restarted.world.loader
      (kernelCalls ((sync ∅).exchanges exec busyOnce restarted.world))
      ((sync ∅).run exec busyOnce restarted.world).1
      ((sync ∅).run exec busyOnce restarted.world).2.loader ∧
    (kernelCalls ((sync ∅).exchanges exec busyOnce restarted.world)).map
      (fun made => made.2.isOk) = [false, true] :=
  ⟨(sync_isolates_errors ∅ busyOnce restarted.world).2 (by decide +kernel), by decide +kernel⟩

end Sentinel5G.Controller
