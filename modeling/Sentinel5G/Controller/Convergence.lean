import Sentinel5G.Controller.Lifecycle
import Sentinel5G.Controller.SyncSpec

namespace Sentinel5G.Controller

open Base Api Ebpf Program

def Undisturbed (policies : List TelecomSecurityPolicy) (world : World) (choice : Choice) : Prop :=
  choice.fault = .none ∧ world.server.listCached choice.lag = policies

def desiredSlots (policies : List TelecomSecurityPolicy) : List Slot :=
  (desiredEnforcement policies).1.toList.filterMap
    (fun entry => (blocklistMapAndKey entry.2).toOption) ++
  (desiredEnforcement policies).2.toList.filterMap
    (fun entry => (tunnelBlocklistMapAndKey entry.2.ip entry.2.teid).toOption)

def Fits (policies : List TelecomSecurityPolicy) (loader : Loader) : Prop :=
  ∀ map, ((desiredSlots policies).filter (fun slot => decide (slot.map = map))).length ≤
    (loader.maps map).maxEntries

theorem mem_desiredSlots {policies : List TelecomSecurityPolicy} {drop : Drop}
    (desired : Desired policies drop) : drop.slot ∈ desiredSlots policies := by
  rw [desiredSlots, List.mem_append, List.mem_filterMap, List.mem_filterMap]
  cases drop with
  | source address =>
      left
      have lists := desiredIPs_lists policies
      obtain ⟨ip, member⟩ := lists.mem_toList rfl desired
      obtain ⟨named, key, ⟨other, long, rfl⟩, -⟩ := lists.names member
      have same : Drop.source address = .source other := ipFamily_represents.keyOf_inj rfl key
      refine ⟨_, member, ?_⟩
      rw [same, blocklistMapAndKey_eq ip other long]
      rfl
  | tunnel address teid =>
      right
      have lists := desiredTunnels_lists policies
      obtain ⟨entry, member⟩ := lists.mem_toList rfl desired
      obtain ⟨named, key, ⟨other, long, nonzero, rfl⟩, -⟩ := lists.names member
      have same : Drop.tunnel address teid = .tunnel other entry.teid :=
        tunnelFamily_represents.keyOf_inj rfl key
      refine ⟨_, member, ?_⟩
      rw [same, tunnelBlocklistMapAndKey_eq entry.ip other entry.teid long nonzero]
      rfl

theorem room_of_missing {policies : List TelecomSecurityPolicy} {loader : Loader}
    (canonical : loader.Canonical) (fits : Fits policies loader)
    (inside : ∀ drop, loader.Holds drop → Desired policies drop) {drop : Drop}
    (desired : Desired policies drop) (absent : ¬ loader.Holds drop) :
    ¬ loader.Full drop.slot.map := by
  have fewer := BpfHash.size_lt_of_missing (loader.maps drop.slot.map)
    (((desiredSlots policies).filter (fun slot => decide (slot.map = drop.slot.map))).map Slot.key)
    (by
      intro key member
      obtain ⟨other, same, -⟩ := canonical ⟨drop.slot.map, key⟩ member
      have held : loader.Holds other := by
        rw [Loader.Holds, ← same]
        exact member
      refine List.mem_map.mpr ⟨other.slot, List.mem_filter.mpr
        ⟨mem_desiredSlots (inside other held), ?_⟩, ?_⟩
      · simp [← same]
      · rw [← same])
    (List.mem_map.mpr ⟨drop.slot, List.mem_filter.mpr ⟨mem_desiredSlots desired, by simp⟩, rfl⟩)
    absent
  rw [List.length_map] at fewer
  exact Nat.not_le.mpr (Nat.lt_of_lt_of_le fewer (fits drop.slot.map))

def MapFull (loader : Loader) (drop : Drop) : Prop := loader.Full drop.slot.map

theorem mapFull_stable (before after : Loader) (placed drop : Drop)
    (adds : Loader.Adds before after placed) (full : MapFull before drop) : MapFull after drop :=
  adds.full full

section Passes

variable {policies : List TelecomSecurityPolicy} {unclaimed : Unclaimed}

/-- Every entry without a claim is one the last pass remembers. -/
def Aware (policies : List TelecomSecurityPolicy) (unclaimed : Unclaimed) (loader : Loader) :
    Prop :=
  ∀ drop, loader.Holds drop → ¬ Desired policies drop → mark drop ∈ unclaimed

theorem Pass.aware {escape : Loader → Drop → Prop} {before after : Loader} {outcome : SyncOutcome}
    (pass : Pass escape policies unclaimed before outcome after) :
    Aware policies outcome.unclaimed after := by
  intro drop held undesired
  apply (pass.remembered drop).mpr
  rcases pass.moves.added drop held with earlier | missing
  · exact ⟨earlier, undesired⟩
  · exact absurd missing.1 undesired

theorem Pass.inside {escape : Loader → Drop → Prop} {before after : Loader} {outcome : SyncOutcome}
    (pass : Pass escape policies unclaimed before outcome after)
    (cleared : ∀ drop, Stale policies unclaimed before.Holds drop → ¬ after.Holds drop)
    (aware : Aware policies unclaimed before) (drop : Drop) (held : after.Holds drop) :
    Desired policies drop := by
  by_contra undesired
  rcases pass.moves.added drop held with earlier | missing
  · exact cleared drop ⟨earlier, undesired, aware drop earlier undesired⟩ held
  · exact undesired missing.1

theorem Pass.exact {before after : Loader} {outcome : SyncOutcome}
    (pass : Pass MapFull policies unclaimed before outcome after) (canonical : before.Canonical)
    (fits : Fits policies before) (inside : ∀ drop, before.Holds drop → Desired policies drop)
    (drop : Drop) : after.Holds drop ↔ Desired policies drop := by
  constructor
  · intro held
    exact (pass.moves.added drop held).elim (inside drop) And.left
  · intro desired
    rcases pass.landed drop desired with held | ⟨-, middle, moves, absent, full⟩
    · exact held
    · have within : ∀ other, middle.Holds other → Desired policies other := fun other held =>
        (moves.added other held).elim (inside other) And.left
      have room : Fits policies middle := by
        intro map
        rw [moves.capacity map]
        exact fits map
      exact absurd full (room_of_missing (moves.canonical canonical) room within desired absent)

theorem sync_reads {permitted : World → Choice → Prop}
    (answers : ∀ world choice, permitted world choice → Undisturbed policies world choice)
    {world : World} {post : SyncOutcome → World → Prop}
    (corrects : (correct (desiredEnforcement policies) world.loader.blockedIPs
      world.loader.blockedTunnels unclaimed).Ends exec permitted post world) :
    (sync unclaimed).Ends exec permitted post world := by
  intro listing allowed
  obtain ⟨quiet, listed⟩ := answers world listing allowed
  simp only [exec, Choice.read, quiet, listed]
  intro first allowed
  obtain ⟨quiet, -⟩ := answers world first allowed
  simp only [exec, Choice.read, quiet]
  intro second allowed
  obtain ⟨quiet, -⟩ := answers world second allowed
  simp only [exec, Choice.read, quiet]
  exact corrects

theorem sync_passes {world : World} (canonical : world.loader.Canonical) :
    (sync unclaimed).Ends exec (Undisturbed policies)
      (fun outcome final => Pass MapFull policies unclaimed world.loader outcome final.loader ∧
        ∀ drop, Stale policies unclaimed world.loader.Holds drop → ¬ final.loader.Holds drop)
      world := by
  apply sync_reads (fun _ _ allowed => allowed)
  apply Ends.and
  · apply correct_ends canonical mapFull_stable
    intro current choice drop undisturbed refused
    exact Loader.full_of_refused (refused undisturbed.1)
  · exact correct_clears canonical (fun _ _ undisturbed => undisturbed.1)

def Roomy (world : World) (_ : Choice) : Prop := ∀ map, ¬ world.loader.Full map

def NoObstacle (_ : Loader) (_ : Drop) : Prop := False

theorem sync_lands {world : World} (canonical : world.loader.Canonical) :
    (sync unclaimed).Ends exec
      (fun current choice => Undisturbed policies current choice ∧ Roomy current choice)
      (fun _ final => ∀ drop, Desired policies drop → final.loader.Holds drop) world := by
  apply sync_reads (fun _ _ allowed => allowed.1)
  have refusal : ∀ current choice (drop : Drop),
      (Undisturbed policies current choice ∧ Roomy current choice) →
      (choice.fault = .none → ¬ current.loader.Accepts drop.slot) →
      NoObstacle current.loader drop := by
    intro current choice drop allowed refused
    exact allowed.2 _ (Loader.full_of_refused (refused allowed.1.1))
  refine (correct_ends canonical (fun _ _ _ _ _ => id) refusal).mono ?_
  intro outcome final pass drop desired
  refine (pass.landed drop desired).resolve_right ?_
  rintro ⟨_, _, _, _, impossible⟩
  exact impossible

theorem correct_idle {loader : Loader} (canonical : loader.Canonical)
    (same : ∀ drop, loader.Holds drop ↔ Desired policies drop) :
    correct (desiredEnforcement policies) loader.blockedIPs loader.blockedTunnels unclaimed =
      .done {
        report := {
          DriftReport.listed (desiredEnforcement policies) with
          kernelIPs := loader.blockedIPs.length
          kernelTunnels := loader.blockedTunnels.length }
        err := none
        unclaimed := .ofList [] compare } := by
  have ips := actualIPs_lists canonical
  have tunnels := actualTunnels_lists canonical
  have noMissingIP : ∀ pair ∈ (desiredEnforcement policies).1.toList,
      pair.1 ∈ keyedBy actualIP loader.blockedIPs := by
    intro pair member
    obtain ⟨drop, named, -, desired⟩ := (desiredIPs_lists policies).names member
    exact ips.complete drop pair.1 named ((same drop).mpr desired)
  have noExtraIP : ∀ pair ∈ (keyedBy actualIP loader.blockedIPs).toList,
      pair.1 ∈ (desiredEnforcement policies).1 := by
    intro pair member
    obtain ⟨drop, named, -, held⟩ := ips.names member
    exact (desiredIPs_lists policies).complete drop pair.1 named ((same drop).mp held)
  have noMissingTunnel : ∀ pair ∈ (desiredEnforcement policies).2.toList,
      pair.1 ∈ keyedBy actualTunnel loader.blockedTunnels := by
    intro pair member
    obtain ⟨drop, named, -, desired⟩ := (desiredTunnels_lists policies).names member
    exact tunnels.complete drop pair.1 named ((same drop).mpr desired)
  have noExtraTunnel : ∀ pair ∈ (keyedBy actualTunnel loader.blockedTunnels).toList,
      pair.1 ∈ (desiredEnforcement policies).2 := by
    intro pair member
    obtain ⟨drop, named, -, held⟩ := tunnels.names member
    exact (desiredTunnels_lists policies).complete drop pair.1 named ((same drop).mp held)
  rw [correct, reapply_idle _ _ noMissingIP, prune_idle _ _ _ noExtraIP,
    reapply_idle _ _ noMissingTunnel, prune_idle _ _ _ noExtraTunnel]
  rfl

end Passes

structure Stage where
  world : World
  unclaimed : Unclaimed

namespace Stage

def pass (stage : Stage) (script : Nat → Choice) : SyncOutcome × World :=
  (sync stage.unclaimed).run exec script stage.world

def next (stage : Stage) (script : Nat → Choice) : Stage :=
  ⟨(stage.pass script).2, (stage.pass script).1.unclaimed⟩

def after (start : Stage) (scripts : Nat → Nat → Choice) : Nat → Stage
  | 0 => start
  | n + 1 => (start.after scripts n).next (scripts n)

def InSync (policies : List TelecomSecurityPolicy) (stage : Stage) : Prop :=
  (∀ key, key ∈ keyedBy actualIP stage.world.loader.blockedIPs ↔
    key ∈ (desiredEnforcement policies).1) ∧
  ∀ key, key ∈ keyedBy actualTunnel stage.world.loader.blockedTunnels ↔
    key ∈ (desiredEnforcement policies).2

/-- The next pass calls nothing on the kernel and reports nothing to correct. -/
structure Quiet (stage : Stage) (script : Nat → Choice) : Prop where
  uncalled : ∀ exchange ∈ (sync stage.unclaimed).exchanges exec script stage.world,
    ¬ exchange.op.WritesKernel
  corrections : (stage.pass script).1.report.corrections = 0
  pendingIPs : (stage.pass script).1.report.pendingExtraIPs = 0
  pendingTunnels : (stage.pass script).1.report.pendingExtraTunnels = 0

variable {policies : List TelecomSecurityPolicy} {stage : Stage} {script : Nat → Choice}

theorem inSync_of_exact (canonical : stage.world.loader.Canonical)
    (exact : ∀ drop, stage.world.loader.Holds drop ↔ Desired policies drop) :
    stage.InSync policies := by
  have transfer : ∀ {V : Type} {family : Family V} {keyOf : Drop → Option String}
      {desired actual : Keyed V}, Lists family keyOf desired (Desired policies) →
      Lists family keyOf actual stage.world.loader.Holds →
      ∀ key, key ∈ actual ↔ key ∈ desired := by
    intro V family keyOf desired actual wanted read key
    constructor
    · intro member
      obtain ⟨value, stored⟩ := Option.isSome_iff_exists.mp
        (Std.ExtTreeMap.mem_iff_isSome_getElem?.mp member)
      obtain ⟨drop, named, -, held⟩ := read.sound key value stored
      exact wanted.complete drop key named ((exact drop).mp held)
    · intro member
      obtain ⟨value, stored⟩ := Option.isSome_iff_exists.mp
        (Std.ExtTreeMap.mem_iff_isSome_getElem?.mp member)
      obtain ⟨drop, named, -, asked⟩ := wanted.sound key value stored
      exact read.complete drop key named ((exact drop).mpr asked)
  exact ⟨transfer (desiredIPs_lists policies) (actualIPs_lists canonical),
    transfer (desiredTunnels_lists policies) (actualTunnels_lists canonical)⟩

theorem reads_of_undisturbed
    (undisturbed : (sync stage.unclaimed).Permits exec (Undisturbed policies) script stage.world) :
    exec (script 0) .listPolicies stage.world = (.ok policies, stage.world) ∧
    exec (script 1) .blockedIPs stage.world =
      (.ok stage.world.loader.blockedIPs, stage.world) ∧
    exec (script 2) .blockedTunnels stage.world =
      (.ok stage.world.loader.blockedTunnels, stage.world) := by
  obtain ⟨⟨quiet, listed⟩, later⟩ := undisturbed
  have first : exec (script 0) .listPolicies stage.world = (.ok policies, stage.world) := by
    simp [exec, Choice.read, quiet, listed]
  rw [first] at later
  obtain ⟨⟨quiet, -⟩, later⟩ := later
  have second : exec (script 1) .blockedIPs stage.world =
      (.ok stage.world.loader.blockedIPs, stage.world) := by
    simp [exec, Choice.read, quiet]
  simp only [Nat.zero_add, second] at later
  obtain ⟨⟨quiet, -⟩, later⟩ := later
  refine ⟨first, second, ?_⟩
  simp [exec, Choice.read, quiet]

theorem quiet_of_exact (canonical : stage.world.loader.Canonical)
    (exact : ∀ drop, stage.world.loader.Holds drop ↔ Desired policies drop)
    (undisturbed : (sync stage.unclaimed).Permits exec (Undisturbed policies) script stage.world) :
    stage.Quiet script := by
  obtain ⟨listed, sources, tunnels⟩ := reads_of_undisturbed undisturbed
  have idle : correct (desiredEnforcement policies) stage.world.loader.blockedIPs
      stage.world.loader.blockedTunnels stage.unclaimed = _ := correct_idle canonical exact
  have asked : (sync stage.unclaimed).exchanges exec script stage.world =
      [⟨.listPolicies, .ok policies⟩, ⟨.blockedIPs, .ok stage.world.loader.blockedIPs⟩,
        ⟨.blockedTunnels, .ok stage.world.loader.blockedTunnels⟩] := by
    simp only [sync, readKernel, readTunnels, perform_bind, exchanges, listed, Nat.zero_add,
      sources, tunnels, idle]
  have outcome : (stage.pass script).1.report = {
      DriftReport.listed (desiredEnforcement policies) with
      kernelIPs := stage.world.loader.blockedIPs.length
      kernelTunnels := stage.world.loader.blockedTunnels.length } := by
    simp only [pass, sync, readKernel, readTunnels, perform_bind, Program.run, listed, Nat.zero_add,
      sources, tunnels, idle]
  refine ⟨?_, ?_, ?_, ?_⟩
  · rw [asked]
    simp [Op.WritesKernel]
  · rw [outcome]
    rfl
  · rw [outcome]
    rfl
  · rw [outcome]
    rfl

variable {start : Stage} {scripts : Nat → Nat → Choice}

section After

variable (canonical : start.world.loader.Canonical) (fits : Fits policies start.world.loader)
  (undisturbed : ∀ n, (sync (start.after scripts n).unclaimed).Permits exec (Undisturbed policies)
    (scripts n) (start.after scripts n).world)

include canonical fits undisturbed

theorem after_sound (n : Nat) : (start.after scripts n).world.loader.Canonical ∧
    Fits policies (start.after scripts n).world.loader := by
  induction n with
  | zero => exact ⟨canonical, fits⟩
  | succ n ih =>
      have moves := ((sync_passes ih.1).run (undisturbed n)).1.moves
      refine ⟨moves.canonical ih.1, fun map => ?_⟩
      exact (ih.2 map).trans_eq (moves.capacity map).symm

/-- From the first pass on, what is in the kernel without a claim is remembered. -/
theorem after_aware (n : Nat) : Aware policies (start.after scripts (n + 1)).unclaimed
    (start.after scripts (n + 1)).world.loader := by
  have sound := after_sound canonical fits undisturbed n
  exact ((sync_passes sound.1).run (undisturbed n)).1.aware

/-- From the second pass on, nothing is in the kernel without a claim. -/
theorem after_inside (n : Nat) (drop : Drop)
    (held : (start.after scripts (n + 2)).world.loader.Holds drop) : Desired policies drop := by
  have sound := after_sound canonical fits undisturbed (n + 1)
  obtain ⟨pass, cleared⟩ := (sync_passes sound.1).run (undisturbed (n + 1))
  exact pass.inside cleared (after_aware canonical fits undisturbed n) drop held

/-- From the third pass on, the kernel holds exactly what is desired: the entries
that the second pass removed have made the room that was missing. -/
theorem after_exact (n : Nat) (drop : Drop) :
    (start.after scripts (n + 3)).world.loader.Holds drop ↔ Desired policies drop := by
  have sound := after_sound canonical fits undisturbed (n + 2)
  obtain ⟨pass, -⟩ := (sync_passes sound.1).run (undisturbed (n + 2))
  exact pass.exact sound.1 sound.2 (after_inside canonical fits undisturbed n) drop

end After

/-- Three undisturbed passes make the kernel hold exactly what the policies
claim, and every later pass is idle; where no map is full during the first pass,
everything desired is in place after it. -/
theorem sync_converges (canonical : start.world.loader.Canonical)
    (fits : Fits policies start.world.loader)
    (undisturbed : ∀ n, (sync (start.after scripts n).unclaimed).Permits exec
      (Undisturbed policies) (scripts n) (start.after scripts n).world) :
    (∀ n, 3 ≤ n → (start.after scripts n).InSync policies ∧
      (start.after scripts n).Quiet (scripts n)) ∧
    ((sync start.unclaimed).Permits exec Roomy (scripts 0) start.world →
      (∀ key ∈ (desiredEnforcement policies).1,
        key ∈ keyedBy actualIP (start.after scripts 1).world.loader.blockedIPs) ∧
      ∀ key ∈ (desiredEnforcement policies).2,
        key ∈ keyedBy actualTunnel (start.after scripts 1).world.loader.blockedTunnels) := by
  constructor
  · intro n late
    obtain ⟨more, rfl⟩ := Nat.exists_eq_add_of_le' late
    have sound := (after_sound canonical fits undisturbed (more + 3)).1
    have exact := after_exact canonical fits undisturbed more
    exact ⟨inSync_of_exact sound exact, quiet_of_exact sound exact (undisturbed (more + 3))⟩
  · intro roomy
    have sound := (after_sound canonical fits undisturbed 1).1
    have landed := (sync_lands canonical).run ((undisturbed 0).and roomy)
    constructor
    · intro key member
      obtain ⟨value, stored⟩ := Option.isSome_iff_exists.mp
        (Std.ExtTreeMap.mem_iff_isSome_getElem?.mp member)
      obtain ⟨drop, named, -, desired⟩ := (desiredIPs_lists policies).sound key value stored
      exact (actualIPs_lists sound).complete drop key named (landed drop desired)
    · intro key member
      obtain ⟨value, stored⟩ := Option.isSome_iff_exists.mp
        (Std.ExtTreeMap.mem_iff_isSome_getElem?.mp member)
      obtain ⟨drop, named, -, desired⟩ := (desiredTunnels_lists policies).sound key value stored
      exact (actualTunnels_lists sound).complete drop key named (landed drop desired)

theorem sync_server (unclaimed : Unclaimed) (world : World) (script : Nat → Choice) :
    ((sync unclaimed).run exec script world).2.server = world.server := by
  have framed : (sync unclaimed).Ends exec anyChoice
      (fun _ final => final.server = world.server) world :=
    Ends.of_asksOnly (sync_frame unclaimed) (fun choice op current _ frame same =>
      (exec_server choice op current frame).trans same) rfl
  exact framed.run (permits_any _ script world)

theorem undisturbed_quietly (start : Stage) (n : Nat) :
    (sync (start.after (fun _ => quietly) n).unclaimed).Permits exec
      (Undisturbed (start.world.server.listCached (fun _ => 0))) quietly
        (start.after (fun _ => quietly) n).world := by
  have unwritten : (start.after (fun _ => quietly) n).world.server = start.world.server := by
    induction n with
    | zero => rfl
    | succ n ih => exact (sync_server _ _ quietly).trans ih
  exact permits_of_asksOnly (sync_frame _)
    (fun choice op current frame (same : current.server = start.world.server) =>
      (exec_server choice op current frame).trans same)
    (fun current _ same => ⟨rfl, by rw [same]; rfl⟩) unwritten

end Stage

def restarted : Stage where
  world := {
    runMoves plainOperator.next guarded
      [.score upfGuard 0 (tunnelScore "10.0.0.1" 1) quietly] with
    loader := .empty (fun _ => 1) }
  unclaimed := ∅

theorem restart_replays_claims :
    attacker.text ∈ (desiredEnforcement (restarted.world.server.listCached (fun _ => 0))).1 ∧
    (restarted.after (fun _ => quietly) 3).InSync
      (restarted.world.server.listCached (fun _ => 0)) := by
  refine ⟨by decide +kernel, ?_⟩
  refine ((Stage.sync_converges (Loader.empty_canonical _) ?_
    (Stage.undisturbed_quietly restarted)).1 3 (Nat.le_refl 3)).1
  intro map
  cases map <;> decide +kernel

end Sentinel5G.Controller
