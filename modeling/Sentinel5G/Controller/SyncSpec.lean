import Sentinel5G.Controller.Enforcement

namespace Sentinel5G.Controller

open Base Api Ebpf Program

def Op.ofCall : BlocklistCall → Op
  | .block ip => .block ip
  | .unblock ip => .unblock ip
  | .blockTunnel ip teid => .blockTunnel ip teid
  | .unblockTunnel ip teid => .unblockTunnel ip teid

def Corrects (fresh gone : Drop → Prop) (op : Op) : Prop :=
  ∃ call drop, op = .ofCall call ∧
    ((call.Places drop ∧ fresh drop) ∨ (call.Lifts drop ∧ gone drop))

section Invoke

variable {call : BlocklistCall} {permitted : World → Choice → Prop}

theorem invoke_ends {post : Except Err Unit → World → Prop} {world : World}
    (answered : ∀ choice, permitted world choice →
      post (choice.syscall world (call.apply world.loader)).1
        (choice.syscall world (call.apply world.loader)).2) :
    (invoke call).Ends exec permitted post world := by
  cases call <;> exact answered

theorem invoke_asks {allowed : Op → Prop} (allows : allowed (.ofCall call)) :
    (invoke call).AsksOnly allowed := by
  cases call <;> exact ⟨allows, fun _ => trivial⟩

theorem exec_ofCall (choice : Choice) (call : BlocklistCall) (world : World) :
    (exec choice (.ofCall call) world).2 =
      (choice.syscall world (call.apply world.loader)).2 := by
  cases call <;> rfl

theorem invoke_places {drop : Drop} (places : call.Places drop)
    {post : Except Err Unit → World → Prop} {world : World}
    (refused : ∀ choice err, permitted world choice →
      (choice.fault = .none → ¬ world.loader.Accepts drop.slot) → post (.error err) world)
    (placed : ∀ after, Loader.Adds world.loader after drop →
      post (.ok ()) { world with loader := after }) :
    (invoke call).Ends exec permitted post world := by
  refine invoke_ends (fun choice allowed => ?_)
  rw [Choice.syscall, Choice.read]
  cases applied : call.apply world.loader with
  | error err =>
      have full := BlocklistCall.apply_refused places applied
      split <;> rename_i answer
      · exact refused choice _ allowed (fun _ => full)
      · split at answer <;> cases answer
  | ok after =>
      have adds := BlocklistCall.apply_adds places applied
      split <;> rename_i answer
      · refine refused choice _ allowed (fun quiet => ?_)
        rw [quiet] at answer
        cases answer
      · split at answer <;> cases answer
        exact placed after adds

theorem invoke_lifts {drop : Drop} (lifts : call.Lifts drop)
    {post : Except Err Unit → World → Prop} {world : World}
    (refused : ∀ choice err, permitted world choice → choice.fault ≠ .none →
      post (.error err) world)
    (lifted : ∀ after, Loader.Removes world.loader after drop →
      post (.ok ()) { world with loader := after }) :
    (invoke call).Ends exec permitted post world := by
  refine invoke_ends (fun choice allowed => ?_)
  obtain ⟨after, applied, removes⟩ := BlocklistCall.apply_lifts lifts world.loader
  rw [Choice.syscall, Choice.read, applied]
  split <;> rename_i answer
  · refine refused choice _ allowed (fun quiet => ?_)
    rw [quiet] at answer
    cases answer
  · split at answer <;> cases answer
    exact lifted after removes

variable {fresh gone : Drop → Prop}

theorem exec_corrects {op : Op} (corrects : Corrects fresh gone op) (choice : Choice)
    (world : World) : Loader.Moves fresh gone world.loader (exec choice op world).2.loader := by
  obtain ⟨call, drop, rfl, effect⟩ := corrects
  rw [exec_ofCall]
  rcases syscall_cases choice world (call.apply world.loader) with
    ⟨err, failed⟩ | ⟨after, done, same⟩
  · rw [failed]
    exact .refl _
  · rw [same]
    rcases effect with ⟨places, comes⟩ | ⟨lifts, leaves⟩
    · exact .of_adds (BlocklistCall.apply_adds places done) places.identified comes
    · obtain ⟨removed, accepted, removes⟩ := BlocklistCall.apply_lifts lifts world.loader
      rw [done] at accepted
      cases accepted
      exact .of_removes removes leaves

theorem ofCall_frame (call : BlocklistCall) : ¬ (Op.ofCall call).WritesServer := by
  cases call <;> exact id

theorem corrects_moves {α : Type} {program : Action α}
    (asks : program.AsksOnly (Corrects fresh gone)) (world : World) :
    program.Ends exec permitted
      (fun _ final => Loader.Moves fresh gone world.loader final.loader) world :=
  Ends.of_asksOnly asks (fun choice _ current _ corrects moves =>
    moves.trans (exec_corrects corrects choice current)) (.refl _)

end Invoke

section Loops

variable {V : Type} {family : Family V} {keyOf : Drop → Option String} {fresh gone : Drop → Prop}
  {permitted : World → Choice → Prop}

theorem reapply_asks {allowed : Op → Prop} (actual : Keyed V) (items : List (String × V))
    (missing : ∀ pair ∈ items, pair.1 ∉ actual → allowed (.ofCall (family.place pair.2))) :
    (reapply family actual items).AsksOnly allowed := by
  induction items with
  | nil => trivial
  | cons pair items ih =>
      rw [List.forall_mem_cons] at missing
      rw [reapply]
      split
      · exact ih missing.2
      · rename_i absent
        refine AsksOnly.bind (invoke_asks (missing.1 absent)) (fun _ => ?_)
        exact AsksOnly.bind (ih missing.2) (fun _ => trivial)

theorem prune_asks {allowed : Op → Prop} (desired : Keyed V) (unclaimed : Unclaimed)
    (items : List (String × V))
    (stale : ∀ pair ∈ items, pair.1 ∉ desired → family.space ++ pair.1 ∈ unclaimed →
      allowed (.ofCall (family.lift pair.2))) :
    (prune family desired unclaimed items).AsksOnly allowed := by
  induction items with
  | nil => trivial
  | cons pair items ih =>
      rw [List.forall_mem_cons] at stale
      rw [prune]
      split
      · exact ih stale.2
      · rename_i extra
        split
        · rename_i remembered
          refine AsksOnly.bind (invoke_asks (stale.1 extra remembered)) (fun _ => ?_)
          exact AsksOnly.bind (ih stale.2) (fun _ => trivial)
        · exact AsksOnly.bind (ih stale.2) (fun _ => trivial)

theorem reapply_idle (actual : Keyed V) (items : List (String × V))
    (present : ∀ pair ∈ items, pair.1 ∈ actual) :
    reapply family actual items = .done ⟨0, []⟩ := by
  induction items with
  | nil => rfl
  | cons pair items ih =>
      rw [List.forall_mem_cons] at present
      rw [reapply, if_pos present.1, ih present.2]

theorem prune_idle (desired : Keyed V) (unclaimed : Unclaimed) (items : List (String × V))
    (claimed : ∀ pair ∈ items, pair.1 ∈ desired) :
    prune family desired unclaimed items = .done ⟨[], 0, 0, []⟩ := by
  induction items with
  | nil => rfl
  | cons pair items ih =>
      rw [List.forall_mem_cons] at claimed
      rw [prune, if_pos claimed.1, ih claimed.2]

theorem prune_returns (desired : Keyed V) (unclaimed : Unclaimed) (items : List (String × V)) :
    (prune family desired unclaimed items).Returns (fun removals => ∀ text,
      text ∈ removals.stillUnclaimed ↔
        ∃ pair ∈ items, pair.1 ∉ desired ∧ text = family.space ++ pair.1) := by
  induction items with
  | nil => simp [prune, Returns]
  | cons pair items ih =>
      rw [prune]
      split
      · rename_i claimed
        simpa only [List.exists_mem_cons_iff, claimed, not_true, false_and, false_or] using ih
      · rename_i extra
        have extended : ∀ removals : Removals, (∀ text, text ∈ removals.stillUnclaimed ↔
            ∃ pair ∈ items, pair.1 ∉ desired ∧ text = family.space ++ pair.1) →
            ∀ text, text ∈ (family.space ++ pair.1) :: removals.stillUnclaimed ↔
              ∃ other ∈ pair :: items, other.1 ∉ desired ∧ text = family.space ++ other.1 := by
          intro removals held text
          rw [List.mem_cons, List.exists_mem_cons_iff, held text]
          simp only [extra, not_false_eq_true, true_and]
        split
        · refine Returns.bind (returns_any _) (fun outcome _ => ?_)
          exact Returns.bind ih (fun removals held => extended removals held)
        · exact Returns.bind ih (fun removals held => extended removals held)

theorem reapply_keeps {invariant : Loader → Prop}
    (step : ∀ before after drop, Loader.Adds before after drop → invariant before →
      invariant after)
    (actual : Keyed V) (items : List (String × V))
    (named : ∀ pair ∈ items, ∃ drop, (family.place pair.2).Places drop) {world : World}
    (holds : invariant world.loader) :
    (reapply family actual items).Ends exec permitted (fun _ final => invariant final.loader)
      world := by
  have asks : (reapply family actual items).AsksOnly (Corrects (fun _ => True) (fun _ => False)) :=
    reapply_asks actual items (fun pair member _ => by
      obtain ⟨drop, places⟩ := named pair member
      exact ⟨_, drop, rfl, .inl ⟨places, trivial⟩⟩)
  refine Ends.of_asksOnly asks (fun choice op current _ corrects held => ?_) holds
  obtain ⟨call, drop, rfl, ⟨places, -⟩ | ⟨-, impossible⟩⟩ := corrects
  · rw [exec_ofCall]
    rcases syscall_cases choice current (call.apply current.loader) with
      ⟨err, failed⟩ | ⟨after, done, same⟩
    · rwa [failed]
    · rw [same]
      exact step _ _ _ (BlocklistCall.apply_adds places done) held
  · exact impossible.elim

/-- Every missing entry is placed, or the pass reports an error and `escape`
says why the kernel did not take it. -/
theorem reapply_lands (represents : Represents family keyOf) {escape : Loader → Drop → Prop}
    (stable : ∀ before after placed drop, Loader.Adds before after placed → escape before drop →
      escape after drop)
    (refusal : ∀ world choice drop, permitted world choice →
      (choice.fault = .none → ¬ world.loader.Accepts drop.slot) → escape world.loader drop)
    (actual : Keyed V) (items : List (String × V))
    (named : ∀ pair ∈ items, ∃ drop, keyOf drop = some pair.1 ∧
      (family.place pair.2).Places drop) (world : World) :
    (reapply family actual items).Ends exec permitted
      (fun added final => ∀ pair ∈ items, pair.1 ∉ actual → ∀ drop, keyOf drop = some pair.1 →
        final.loader.Holds drop ∨ (added.errs ≠ [] ∧ escape final.loader drop)) world := by
  induction items generalizing world with
  | nil => exact fun pair member => (List.not_mem_nil member).elim
  | cons pair items ih =>
      rw [List.forall_mem_cons] at named
      rw [reapply]
      split
      · rename_i present
        refine (ih named.2 world).mono (fun added final landed => ?_)
        rw [List.forall_mem_cons]
        exact ⟨fun absent => absurd present absent, landed⟩
      · obtain ⟨drop, key, places⟩ := named.1
        have later : ∀ pair ∈ items, ∃ drop, (family.place pair.2).Places drop := by
          intro other member
          obtain ⟨placed, -, does⟩ := named.2 other member
          exact ⟨placed, does⟩
        refine Ends.bind (invoke_places places (fun choice err allowed full => ?_)
          (fun after adds => ?_))
        · have escapes := refusal world choice drop allowed full
          refine Ends.bind ((Ends.and (ih named.2 world) (reapply_keeps
            (fun before after placed => stable before after placed drop) actual items later
              escapes)).mono (fun added final outcome => ?_))
          obtain ⟨landed, stuck⟩ := outcome
          refine List.forall_mem_cons.mpr ⟨fun _ other named =>
            .inr ⟨List.cons_ne_nil _ _, ?_⟩, fun other member absent target named => ?_⟩
          · rwa [represents.keyOf_inj named key]
          · exact (landed other member absent target named).imp_right
              (fun stopped => ⟨List.cons_ne_nil _ _, stopped.2⟩)
        · have held := (adds.holds drop).mpr (.inl rfl)
          refine Ends.bind ((Ends.and (ih named.2 _) (reapply_keeps
            (fun before after placed adds earlier => (adds.holds drop).mpr (.inr earlier)) actual
              items later held)).mono (fun added final outcome => ?_))
          obtain ⟨landed, stays⟩ := outcome
          refine List.forall_mem_cons.mpr ⟨fun _ other named => .inl ?_, landed⟩
          rwa [represents.keyOf_inj named key]

theorem prune_clears (represents : Represents family keyOf)
    (faultless : ∀ world choice, permitted world choice → choice.fault = .none)
    (desired : Keyed V) (unclaimed : Unclaimed) (items : List (String × V))
    (named : ∀ pair ∈ items, ∃ drop, keyOf drop = some pair.1 ∧
      (family.place pair.2).Places drop) (world : World) :
    (prune family desired unclaimed items).Ends exec permitted
      (fun _ final => ∀ pair ∈ items, pair.1 ∉ desired → family.space ++ pair.1 ∈ unclaimed →
        ∀ drop, keyOf drop = some pair.1 → ¬ final.loader.Holds drop) world := by
  induction items generalizing world with
  | nil => exact fun pair member => (List.not_mem_nil member).elim
  | cons pair items ih =>
      rw [List.forall_mem_cons] at named
      rw [prune]
      split
      · rename_i claimed
        refine (ih named.2 world).mono (fun removals final cleared => ?_)
        exact List.forall_mem_cons.mpr ⟨fun extra => absurd claimed extra, cleared⟩
      · split
        · obtain ⟨drop, key, places⟩ := named.1
          refine Ends.bind (invoke_lifts (represents.lifts places)
            (fun choice err allowed fault => absurd (faultless world choice allowed) fault)
            (fun after removes => ?_))
          have asks : (prune family desired unclaimed items).AsksOnly
              (Corrects (fun _ => False) (fun _ => True)) :=
            prune_asks desired unclaimed items (fun other member _ _ => by
              obtain ⟨target, -, does⟩ := named.2 other member
              exact ⟨_, target, rfl, .inr ⟨represents.lifts does, trivial⟩⟩)
          refine Ends.bind ((Ends.and (ih named.2 _) (corrects_moves asks _)).mono
            (fun removals final outcome => ?_))
          obtain ⟨cleared, moves⟩ := outcome
          refine List.forall_mem_cons.mpr ⟨fun _ _ target named held => ?_, cleared⟩
          rw [represents.keyOf_inj named key] at held
          rcases moves.added drop held with earlier | impossible
          · exact ((removes.holds drop).mp earlier).1 rfl
          · exact impossible
        · rename_i forgotten
          refine Ends.bind ((ih named.2 world).mono (fun removals final cleared => ?_))
          exact List.forall_mem_cons.mpr ⟨fun _ remembered => absurd remembered forgotten, cleared⟩

end Loops

def Missing (policies : List TelecomSecurityPolicy) (shown : Drop → Prop) (drop : Drop) : Prop :=
  Desired policies drop ∧ ¬ shown drop

/-- Shown by the read without being desired, and remembered from the previous pass. -/
def Stale (policies : List TelecomSecurityPolicy) (unclaimed : Unclaimed) (shown : Drop → Prop)
    (drop : Drop) : Prop :=
  shown drop ∧ ¬ Desired policies drop ∧ mark drop ∈ unclaimed

section Tables

variable {V : Type} {family : Family V} {keyOf : Drop → Option String}
  {policies : List TelecomSecurityPolicy} {shown : Drop → Prop} {desired actual : Keyed V}
  (represents : Represents family keyOf)
  (wanted : Lists family keyOf desired (Desired policies)) (read : Lists family keyOf actual shown)

include represents wanted

include read in
theorem corrects_missing {gone : Drop → Prop} {pair : String × V}
    (member : pair ∈ desired.toList) (absent : pair.1 ∉ actual) :
    Corrects (Missing policies shown) gone (.ofCall (family.place pair.2)) := by
  obtain ⟨drop, named, places, asked⟩ := wanted.names member
  refine ⟨_, drop, rfl, .inl ⟨places, asked, fun seen => ?_⟩⟩
  exact absent ((read.mem_iff represents named).mpr seen)

include read in
theorem corrects_stale {fresh : Drop → Prop} {unclaimed : Unclaimed} {pair : String × V}
    (member : pair ∈ actual.toList)
    (extra : pair.1 ∉ desired) (remembered : family.space ++ pair.1 ∈ unclaimed) :
    Corrects fresh (Stale policies unclaimed shown) (.ofCall (family.lift pair.2)) := by
  obtain ⟨drop, named, places, seen⟩ := read.names member
  refine ⟨_, drop, rfl, .inr ⟨represents.lifts places, seen, ?_, ?_⟩⟩
  · exact fun asked => extra ((wanted.mem_iff represents named).mpr asked)
  · rwa [represents.marked named]

include read in
theorem unclaimed_iff (text : String) :
    (∃ pair ∈ actual.toList, pair.1 ∉ desired ∧ text = family.space ++ pair.1) ↔
      ∃ drop, (keyOf drop).isSome ∧ text = mark drop ∧ shown drop ∧ ¬ Desired policies drop := by
  constructor
  · rintro ⟨pair, member, extra, rfl⟩
    obtain ⟨drop, named, places, seen⟩ := read.names member
    refine ⟨drop, by rw [named]; rfl, (represents.marked named).symm, seen, fun asked => ?_⟩
    exact extra ((wanted.mem_iff represents named).mpr asked)
  · rintro ⟨drop, tagged, rfl, seen, unasked⟩
    obtain ⟨key, named⟩ := Option.isSome_iff_exists.mp tagged
    obtain ⟨value, member⟩ := read.mem_toList named seen
    refine ⟨(key, value), member, fun listed => ?_, represents.marked named⟩
    exact unasked ((wanted.mem_iff represents named).mp listed)

end Tables

section Correct

variable {policies : List TelecomSecurityPolicy} {shown : Drop → Prop} {kernelIPs : List IP}
  {kernelTunnels : List BlockedTunnel} (unclaimed : Unclaimed)
  (ips : Lists ipFamily sourceKey (keyedBy actualIP kernelIPs) shown)
  (tunnels : Lists tunnelFamily tunnelKey (keyedBy actualTunnel kernelTunnels) shown)

include ips in
theorem reapplyIPs_asks :
    (reapply ipFamily (keyedBy actualIP kernelIPs) (desiredEnforcement policies).1.toList).AsksOnly
      (Corrects (Missing policies shown) (Stale policies unclaimed shown)) :=
  reapply_asks _ _ (fun _ member absent =>
    corrects_missing ipFamily_represents (desiredIPs_lists policies) ips member absent)

include tunnels in
theorem reapplyTunnels_asks :
    (reapply tunnelFamily (keyedBy actualTunnel kernelTunnels)
      (desiredEnforcement policies).2.toList).AsksOnly
        (Corrects (Missing policies shown) (Stale policies unclaimed shown)) :=
  reapply_asks _ _ (fun _ member absent =>
    corrects_missing tunnelFamily_represents (desiredTunnels_lists policies) tunnels member absent)

include ips in
theorem pruneIPs_asks :
    (prune ipFamily (desiredEnforcement policies).1 unclaimed
      (keyedBy actualIP kernelIPs).toList).AsksOnly
        (Corrects (Missing policies shown) (Stale policies unclaimed shown)) :=
  prune_asks _ _ _ (fun _ member extra remembered =>
    corrects_stale ipFamily_represents (desiredIPs_lists policies) ips member extra remembered)

include tunnels in
theorem pruneTunnels_asks :
    (prune tunnelFamily (desiredEnforcement policies).2 unclaimed
      (keyedBy actualTunnel kernelTunnels).toList).AsksOnly
        (Corrects (Missing policies shown) (Stale policies unclaimed shown)) :=
  prune_asks _ _ _ (fun _ member extra remembered =>
    corrects_stale tunnelFamily_represents (desiredTunnels_lists policies) tunnels member extra
      remembered)

include ips tunnels

/-- The corrections place what is missing and lift what is stale, and nothing else. -/
theorem correct_asks :
    (correct (desiredEnforcement policies) kernelIPs kernelTunnels unclaimed).AsksOnly
      (Corrects (Missing policies shown) (Stale policies unclaimed shown)) := by
  refine AsksOnly.bind (reapplyIPs_asks unclaimed ips) (fun addedIPs => ?_)
  refine AsksOnly.bind (pruneIPs_asks unclaimed ips) (fun removedIPs => ?_)
  refine AsksOnly.bind (reapplyTunnels_asks unclaimed tunnels) (fun addedTunnels => ?_)
  exact AsksOnly.bind (pruneTunnels_asks unclaimed tunnels) (fun removedTunnels => trivial)

theorem correct_remembers :
    (correct (desiredEnforcement policies) kernelIPs kernelTunnels unclaimed).Returns
      (fun outcome => ∀ drop, mark drop ∈ outcome.unclaimed ↔
        shown drop ∧ ¬ Desired policies drop) := by
  refine Returns.bind (returns_any _) (fun addedIPs _ => ?_)
  refine Returns.bind (prune_returns _ unclaimed _) (fun removedIPs sources => ?_)
  refine Returns.bind (returns_any _) (fun addedTunnels _ => ?_)
  refine Returns.bind (prune_returns _ unclaimed _) (fun removedTunnels entries => ?_)
  intro drop
  have member : mark drop ∈ Std.ExtTreeSet.ofList
      (removedIPs.stillUnclaimed ++ removedTunnels.stillUnclaimed) compare ↔
        mark drop ∈ removedIPs.stillUnclaimed ∨ mark drop ∈ removedTunnels.stillUnclaimed := by
    rw [Std.ExtTreeSet.mem_ofList, List.contains_iff_mem, List.mem_append]
  rw [member, sources, entries,
    unclaimed_iff ipFamily_represents (desiredIPs_lists policies) ips,
    unclaimed_iff tunnelFamily_represents (desiredTunnels_lists policies) tunnels]
  constructor
  · rintro (⟨other, -, same, found⟩ | ⟨other, -, same, found⟩)
    · rwa [mark_inj same]
    · rwa [mark_inj same]
  · intro found
    cases drop with
    | source address => exact .inl ⟨_, rfl, rfl, found⟩
    | tunnel address teid => exact .inr ⟨_, rfl, rfl, found⟩

end Correct

theorem correct_frame (desired : Keyed IP × Keyed BlockedTunnel) (kernelIPs : List IP)
    (kernelTunnels : List BlockedTunnel) (unclaimed : Unclaimed) :
    (correct desired kernelIPs kernelTunnels unclaimed).AsksOnly
      (fun op => ¬ op.WritesServer) := by
  refine AsksOnly.bind (reapply_asks _ _ (fun _ _ _ => ofCall_frame _)) (fun _ => ?_)
  refine AsksOnly.bind (prune_asks _ _ _ (fun _ _ _ _ => ofCall_frame _)) (fun _ => ?_)
  refine AsksOnly.bind (reapply_asks _ _ (fun _ _ _ => ofCall_frame _)) (fun _ => ?_)
  exact AsksOnly.bind (prune_asks _ _ _ (fun _ _ _ _ => ofCall_frame _)) (fun _ => trivial)

theorem sync_frame (unclaimed : Unclaimed) :
    (sync unclaimed).AsksOnly (fun op => ¬ op.WritesServer) := by
  refine ⟨id, fun listed => ?_⟩
  cases listed with
  | error err => trivial
  | ok policies =>
      refine ⟨id, fun readIPs => ?_⟩
      cases readIPs with
      | error err => trivial
      | ok kernelIPs =>
          refine ⟨id, fun readTunnels => ?_⟩
          cases readTunnels with
          | error err => trivial
          | ok kernelTunnels => exact correct_frame _ kernelIPs kernelTunnels unclaimed

theorem syncErr_ne_none {report : DriftReport} {errs : List Err} (failed : errs ≠ []) :
    syncErr report errs ≠ none := by
  rw [syncErr, if_pos (List.length_pos_iff.mpr failed)]
  exact Option.some_ne_none _

structure Pass (escape : Loader → Drop → Prop) (policies : List TelecomSecurityPolicy)
    (unclaimed : Unclaimed) (before : Loader) (outcome : SyncOutcome) (after : Loader) : Prop where
  moves : Loader.Moves (Missing policies before.Holds) (Stale policies unclaimed before.Holds)
    before after
  landed : ∀ drop, Desired policies drop → after.Holds drop ∨ (outcome.err ≠ none ∧
    ∃ middle, Loader.Moves (Missing policies before.Holds) (Stale policies unclaimed before.Holds)
      before middle ∧ ¬ middle.Holds drop ∧ escape middle drop)
  remembered : ∀ drop, mark drop ∈ outcome.unclaimed ↔
    before.Holds drop ∧ ¬ Desired policies drop

section Pass

variable {V : Type} {family : Family V} {keyOf : Drop → Option String}
  {policies : List TelecomSecurityPolicy} {unclaimed : Unclaimed} {shown : Drop → Prop}
  {desired actual : Keyed V} {permitted : World → Choice → Prop}

theorem reapply_covers (represents : Represents family keyOf)
    (wanted : Lists family keyOf desired (Desired policies))
    (read : Lists family keyOf actual shown) {escape : Loader → Drop → Prop}
    (stable : ∀ before after placed drop, Loader.Adds before after placed → escape before drop →
      escape after drop)
    (refusal : ∀ world choice drop, permitted world choice →
      (choice.fault = .none → ¬ world.loader.Accepts drop.slot) → escape world.loader drop)
    (world : World) :
    (reapply family actual desired.toList).Ends exec permitted
      (fun added final => ∀ drop, (keyOf drop).isSome → Missing policies shown drop →
        final.loader.Holds drop ∨ (added.errs ≠ [] ∧ escape final.loader drop)) world := by
  have named : ∀ pair ∈ desired.toList, ∃ drop, keyOf drop = some pair.1 ∧
      (family.place pair.2).Places drop := by
    intro pair member
    obtain ⟨drop, key, places, -⟩ := wanted.names member
    exact ⟨drop, key, places⟩
  refine (reapply_lands represents stable refusal actual _ named world).mono
    (fun added final landed drop tagged missing => ?_)
  obtain ⟨key, same⟩ := Option.isSome_iff_exists.mp tagged
  obtain ⟨value, member⟩ := wanted.mem_toList same missing.1
  refine landed (key, value) member (fun present => ?_) drop same
  exact missing.2 ((read.mem_iff represents same).mp present)

theorem prune_covers (represents : Represents family keyOf)
    (wanted : Lists family keyOf desired (Desired policies))
    (read : Lists family keyOf actual shown) (faultless : ∀ world choice, permitted world choice →
      choice.fault = .none) (world : World) :
    (prune family desired unclaimed actual.toList).Ends exec permitted
      (fun _ final => ∀ drop, (keyOf drop).isSome → Stale policies unclaimed shown drop →
        ¬ final.loader.Holds drop) world := by
  have named : ∀ pair ∈ actual.toList, ∃ drop, keyOf drop = some pair.1 ∧
      (family.place pair.2).Places drop := by
    intro pair member
    obtain ⟨drop, key, places, -⟩ := read.names member
    exact ⟨drop, key, places⟩
  refine (prune_clears represents faultless desired unclaimed _ named world).mono
    (fun removals final cleared drop tagged stale => ?_)
  obtain ⟨key, same⟩ := Option.isSome_iff_exists.mp tagged
  obtain ⟨value, member⟩ := read.mem_toList same stale.1
  refine cleared (key, value) member (fun listed => ?_) ?_ drop same
  · exact stale.2.1 ((wanted.mem_iff represents same).mp listed)
  · rw [← represents.marked same]
    exact stale.2.2

variable {world : World} (canonical : world.loader.Canonical)

include canonical

theorem correct_lands {escape : Loader → Drop → Prop}
    (stable : ∀ before after placed drop, Loader.Adds before after placed → escape before drop →
      escape after drop)
    (refusal : ∀ world choice drop, permitted world choice →
      (choice.fault = .none → ¬ world.loader.Accepts drop.slot) → escape world.loader drop) :
    (correct (desiredEnforcement policies) world.loader.blockedIPs world.loader.blockedTunnels
      unclaimed).Ends exec permitted
        (fun outcome final => ∀ drop, Missing policies world.loader.Holds drop →
          final.loader.Holds drop ∨ (outcome.err ≠ none ∧
            ∃ middle, Loader.Moves (Missing policies world.loader.Holds)
              (Stale policies unclaimed world.loader.Holds) world.loader middle ∧
                ¬ middle.Holds drop ∧ escape middle drop)) world := by
  have ips := actualIPs_lists canonical
  have tunnels := actualTunnels_lists canonical
  refine Ends.bind ((Ends.and (corrects_moves (reapplyIPs_asks unclaimed ips) world)
    (reapply_covers ipFamily_represents (desiredIPs_lists policies) ips stable refusal
      world)).mono (fun addedIPs first outcome => ?_))
  obtain ⟨movedFirst, sources⟩ := outcome
  refine Ends.bind ((corrects_moves (pruneIPs_asks unclaimed ips) first).mono
    (fun removedIPs second movedSecond => ?_))
  refine Ends.bind ((Ends.and (corrects_moves (reapplyTunnels_asks unclaimed tunnels) second)
    (reapply_covers tunnelFamily_represents (desiredTunnels_lists policies) tunnels stable refusal
      second)).mono (fun addedTunnels third outcome => ?_))
  obtain ⟨movedThird, entries⟩ := outcome
  refine Ends.bind ((corrects_moves (pruneTunnels_asks unclaimed tunnels) third).mono
    (fun removedTunnels final movedFinal => ?_))
  intro drop missing
  have fresh : ¬ Stale policies unclaimed world.loader.Holds drop := fun stale =>
    stale.2.1 missing.1
  by_cases held : final.loader.Holds drop
  · exact .inl held
  · right
    -- a drop that is in place when its family's additions end is not lifted any more
    have absent : ¬ third.loader.Holds drop := fun earlier =>
      (movedFinal.kept drop earlier).elim held fresh
    cases drop with
    | source address =>
        have gone : ¬ first.loader.Holds (.source address) := fun earlier =>
          ((movedSecond.trans movedThird).kept _ earlier).elim absent fresh
        rcases sources (.source address) rfl missing with placed | ⟨failed, escapes⟩
        · exact absurd placed gone
        · refine ⟨syncErr_ne_none (by simp [failed]), first.loader, movedFirst, gone, escapes⟩
    | tunnel address teid =>
        rcases entries (.tunnel address teid) rfl missing with placed | ⟨failed, escapes⟩
        · exact absurd placed absent
        · refine ⟨syncErr_ne_none (by simp [failed]), third.loader, ?_, absent, escapes⟩
          exact (movedFirst.trans movedSecond).trans movedThird

theorem correct_clears
    (faultless : ∀ world choice, permitted world choice → choice.fault = .none) :
    (correct (desiredEnforcement policies) world.loader.blockedIPs world.loader.blockedTunnels
      unclaimed).Ends exec permitted
        (fun _ final => ∀ drop, Stale policies unclaimed world.loader.Holds drop →
          ¬ final.loader.Holds drop) world := by
  have ips := actualIPs_lists canonical
  have tunnels := actualTunnels_lists canonical
  refine Ends.bind ((returns_any _).ends world |>.mono (fun addedIPs first _ => ?_))
  refine Ends.bind ((prune_covers ipFamily_represents (desiredIPs_lists policies) ips faultless
    first).mono (fun removedIPs second sources => ?_))
  refine Ends.bind ((corrects_moves (reapplyTunnels_asks unclaimed tunnels) second).mono
    (fun addedTunnels third movedThird => ?_))
  refine Ends.bind ((Ends.and (corrects_moves (pruneTunnels_asks unclaimed tunnels) third)
    (prune_covers tunnelFamily_represents (desiredTunnels_lists policies) tunnels faultless
      third)).mono (fun removedTunnels final outcome => ?_))
  obtain ⟨movedFinal, entries⟩ := outcome
  intro drop stale held
  cases drop with
  | source address =>
      rcases (movedThird.trans movedFinal).added _ held with earlier | missing
      · exact sources _ rfl stale earlier
      · exact stale.2.1 missing.1
  | tunnel address teid => exact entries _ rfl stale held

theorem correct_ends {escape : Loader → Drop → Prop}
    (stable : ∀ before after placed drop, Loader.Adds before after placed → escape before drop →
      escape after drop)
    (refusal : ∀ world choice drop, permitted world choice →
      (choice.fault = .none → ¬ world.loader.Accepts drop.slot) → escape world.loader drop) :
    (correct (desiredEnforcement policies) world.loader.blockedIPs world.loader.blockedTunnels
      unclaimed).Ends exec permitted
        (fun outcome final => Pass escape policies unclaimed world.loader outcome final.loader)
          world := by
  have ips := actualIPs_lists canonical
  have tunnels := actualTunnels_lists canonical
  refine (Ends.and (corrects_moves (correct_asks unclaimed ips tunnels) world)
    (Ends.and (correct_lands canonical stable refusal)
      ((correct_remembers unclaimed ips tunnels).ends world))).mono
        (fun outcome final ended => ?_)
  obtain ⟨moves, landed, remembered⟩ := ended
  refine ⟨moves, fun drop asked => ?_, remembered⟩
  by_cases shown : world.loader.Holds drop
  · exact .inl ((moves.kept drop shown).resolve_right (fun stale => stale.2.1 asked))
  · exact landed drop ⟨asked, shown⟩

end Pass

end Sentinel5G.Controller
