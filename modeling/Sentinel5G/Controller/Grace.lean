import Sentinel5G.Controller.Lifecycle
import Sentinel5G.Controller.SyncSpec

/-! Passes interleaved, call by call, with the other users of the kernel maps:
what the two-pass rule guarantees about an entry that a pass removes. -/

namespace Sentinel5G.Controller

open Base Api Ebpf Program

structure Trail where
  first : Loader
  since : List Loader

def Trail.extend (loader : Loader) (trail : Trail) : Trail := ⟨trail.first, loader :: trail.since⟩

def Trail.Throughout (trail : Trail) (drop : Drop) : Prop :=
  trail.first.Holds drop ∧ ∀ loader ∈ trail.since, loader.Holds drop

structure Seen where
  policies : Option (List TelecomSecurityPolicy)
  sources : Option Trail
  tunnels : Option Trail

namespace Seen

def nothing : Seen := ⟨none, none, none⟩

def trail (seen : Seen) : Drop → Option Trail
  | .source _ => seen.sources
  | .tunnel _ _ => seen.tunnels

def extend (loader : Loader) (seen : Seen) : Seen :=
  ⟨seen.policies, seen.sources.map (Trail.extend loader), seen.tunnels.map (Trail.extend loader)⟩

def observe (loader : Loader) : (op : Op) → op.Answer → Seen → Seen
  | .listPolicies, .ok policies, seen => { seen with policies := some policies }
  | .blockedIPs, .ok _, seen => { seen with sources := some ⟨loader, []⟩ }
  | .blockedTunnels, .ok _, seen => { seen with tunnels := some ⟨loader, []⟩ }
  | _, _, seen => seen

def Found (seen : Seen) (drop : Drop) : Prop :=
  ∃ policies trail, seen.policies = some policies ∧ seen.trail drop = some trail ∧
    trail.first.Holds drop ∧ ¬ Desired policies drop

/-- The drop has been in force since the pass's read. -/
def Unbroken (seen : Seen) (drop : Drop) : Prop :=
  ∃ trail, seen.trail drop = some trail ∧ trail.Throughout drop

end Seen

structure Reconciliation where
  world : World
  unclaimed : Unclaimed
  pass : Option (Action SyncOutcome)
  seen : Seen
  previous : Option Seen

namespace Reconciliation

inductive Move
  | start
  | step (choice : Choice)
  | finish
  /-- A call by another component. -/
  | call (call : BlocklistCall) (choice : Choice)
  | setServer (server : Server)

def record (state : Reconciliation) (world : World) (pass : Option (Action SyncOutcome))
    (seen : Seen) : Reconciliation where
  world := world
  unclaimed := state.unclaimed
  pass := pass
  seen := seen.extend world.loader
  previous := state.previous.map (Seen.extend world.loader)

def next (state : Reconciliation) : Move → Reconciliation
  | .start =>
      match state.pass with
      | none => { state with pass := some (sync state.unclaimed), seen := .nothing }
      | some _ => state
  | .step choice =>
      match state.pass with
      | some (.ask op rest) =>
          let reply := exec choice op state.world
          state.record reply.2 (some (rest reply.1))
            (state.seen.observe state.world.loader op reply.1)
      | _ => state
  | .finish =>
      match state.pass with
      | some (.done outcome) =>
          { state with
            unclaimed := outcome.unclaimed
            pass := none
            seen := .nothing
            previous := if state.seen.tunnels.isSome then some state.seen else state.previous }
      | _ => state
  | .call call choice =>
      state.record (choice.syscall state.world (call.apply state.world.loader)).2 state.pass
        state.seen
  | .setServer server => { state with world := { state.world with server := server } }

def Fresh (state : Reconciliation) : Prop :=
  state.world.loader.Canonical ∧ state.unclaimed = ∅ ∧ state.pass = none ∧
    state.seen = .nothing ∧ state.previous = none

def Removes (state : Reconciliation) (choice : Choice) (drop : Drop) : Prop :=
  state.world.loader.Holds drop ∧ ¬ (state.next (.step choice)).world.loader.Holds drop

/-- The drop has been in force since the kernel read of the last complete pass,
and neither that pass nor the one in flight saw a claim to it. -/
def Graced (state : Reconciliation) (drop : Drop) : Prop :=
  ∃ before trail, state.previous = some before ∧ before.trail drop = some trail ∧
    trail.Throughout drop ∧
    (∃ policies, before.policies = some policies ∧ ¬ Claimed policies drop) ∧
    ∃ policies, state.seen.policies = some policies ∧ ¬ Claimed policies drop

/-- No other component puts back an entry that the last complete pass, or the one
in flight, found without a claim. -/
def Spares (state : Reconciliation) : Move → Prop
  | .call call _ => ∀ drop, call.Places drop → state.world.loader.Holds drop ∨
      (¬ state.seen.Found drop ∧ ∀ before, state.previous = some before → ¬ before.Found drop)
  | _ => True

end Reconciliation

namespace Seen

variable {seen : Seen} {loader : Loader} {drop : Drop}

theorem trail_extend :
    (seen.extend loader).trail drop = (seen.trail drop).map (.extend loader) := by
  cases drop <;> rfl

theorem found_extend : (seen.extend loader).Found drop ↔ seen.Found drop := by
  constructor
  · rintro ⟨policies, trail, listed, kept, held, undesired⟩
    rw [trail_extend, Option.map_eq_some_iff] at kept
    obtain ⟨shorter, read, rfl⟩ := kept
    exact ⟨policies, shorter, listed, read, held, undesired⟩
  · rintro ⟨policies, trail, listed, read, held, undesired⟩
    exact ⟨policies, trail.extend loader, listed, by rw [trail_extend, read]; rfl, held, undesired⟩

theorem Unbroken.extend (unbroken : seen.Unbroken drop) (held : loader.Holds drop) :
    (seen.extend loader).Unbroken drop := by
  obtain ⟨trail, read, first, since⟩ := unbroken
  refine ⟨trail.extend loader, by rw [trail_extend, read]; rfl, first, ?_⟩
  exact List.forall_mem_cons.mpr ⟨held, since⟩

end Seen

def shown (sources tunnels : Trail) : Drop → Prop
  | .source address => sources.first.Holds (.source address)
  | .tunnel address teid => tunnels.first.Holds (.tunnel address teid)

namespace Reconciliation

inductive Phase (unclaimed : Unclaimed) : Option (Action SyncOutcome) → Seen → Prop
  | idle : Phase unclaimed none .nothing
  | started : Phase unclaimed (some (sync unclaimed)) .nothing
  | listed (policies : List TelecomSecurityPolicy) :
      Phase unclaimed (some (readKernel unclaimed (desiredEnforcement policies)))
        ⟨some policies, none, none⟩
  | halfRead (policies : List TelecomSecurityPolicy) (sources : Trail)
      (canonical : sources.first.Canonical) :
      Phase unclaimed
        (some (readTunnels unclaimed (desiredEnforcement policies) sources.first.blockedIPs))
        ⟨some policies, some sources, none⟩
  | correcting (policies : List TelecomSecurityPolicy) (sources tunnels : Trail)
      (program : Action SyncOutcome)
      (asks : program.AsksOnly (Corrects (Missing policies (shown sources tunnels))
        (Stale policies unclaimed (shown sources tunnels))))
      (returns : program.Returns (fun outcome => ∀ drop, mark drop ∈ outcome.unclaimed ↔
        shown sources tunnels drop ∧ ¬ Desired policies drop)) :
      Phase unclaimed (some program) ⟨some policies, some sources, some tunnels⟩
  | failed (outcome : SyncOutcome) (seen : Seen) (kept : outcome.unclaimed = unclaimed)
      (unread : seen.tunnels = none) : Phase unclaimed (some (.done outcome)) seen

theorem Phase.extend {unclaimed : Unclaimed} {pass : Option (Action SyncOutcome)} {seen : Seen}
    (phase : Phase unclaimed pass seen) (loader : Loader) :
    Phase unclaimed pass (seen.extend loader) := by
  cases phase with
  | idle => exact .idle
  | started => exact .started
  | listed policies => exact .listed policies
  | halfRead policies sources canonical =>
      exact .halfRead policies (sources.extend loader) canonical
  | correcting policies sources tunnels program asks returns =>
      have same : shown (sources.extend loader) (tunnels.extend loader) =
          shown sources tunnels := by
        funext drop
        cases drop <;> rfl
      exact .correcting policies (sources.extend loader) (tunnels.extend loader) program
        (same ▸ asks) (same ▸ returns)
  | failed outcome seen kept unread =>
      exact .failed outcome _ kept (by rw [Seen.extend, unread]; rfl)

theorem correcting_of_reads (policies : List TelecomSecurityPolicy) (unclaimed : Unclaimed)
    (sources tunnels : Trail) (canonicalSources : sources.first.Canonical)
    (canonicalTunnels : tunnels.first.Canonical) :
    Phase unclaimed (some (correct (desiredEnforcement policies) sources.first.blockedIPs
      tunnels.first.blockedTunnels unclaimed)) ⟨some policies, some sources, some tunnels⟩ := by
  have ips : Lists ipFamily sourceKey (keyedBy actualIP sources.first.blockedIPs)
      (shown sources tunnels) := by
    refine (actualIPs_lists canonicalSources).congr (fun drop tagged => ?_)
    cases drop with
    | source address => rfl
    | tunnel address teid => cases tagged
  have entries : Lists tunnelFamily tunnelKey (keyedBy actualTunnel tunnels.first.blockedTunnels)
      (shown sources tunnels) := by
    refine (actualTunnels_lists canonicalTunnels).congr (fun drop tagged => ?_)
    cases drop with
    | source address => cases tagged
    | tunnel address teid => rfl
  exact .correcting policies sources tunnels _ (correct_asks unclaimed ips entries)
    (correct_remembers unclaimed ips entries)

def Reclaimed (seen : Seen) (drop : Drop) : Prop :=
  seen.tunnels.isSome ∧ ∃ policies, seen.policies = some policies ∧ Desired policies drop

/-- What the reconciler remembers is what its last complete pass found without a
claim, and such a drop has been in force since, is not in force, or has been
placed again by the pass in flight. -/
structure Sound (state : Reconciliation) : Prop where
  canonical : state.world.loader.Canonical
  remembered : ∀ drop, mark drop ∈ state.unclaimed →
    ∃ before, state.previous = some before ∧ before.Found drop
  earlier : ∀ before, state.previous = some before → ∀ drop, before.Found drop →
    before.Unbroken drop ∨ ¬ state.world.loader.Holds drop ∨ Reclaimed state.seen drop
  current : ∀ drop, state.seen.Found drop →
    state.seen.Unbroken drop ∨ ¬ state.world.loader.Holds drop
  phase : Phase state.unclaimed state.pass state.seen

theorem sound_of_fresh {state : Reconciliation} (fresh : state.Fresh) : state.Sound := by
  obtain ⟨world, unclaimed, pass, seen, previous⟩ := state
  obtain ⟨canonical, rfl, rfl, rfl, rfl⟩ := fresh
  refine ⟨canonical, fun drop member => ?_, fun before impossible => (by cases impossible),
    ?_, .idle⟩
  · simp at member
  · rintro drop ⟨policies, trail, impossible, -⟩
    cases impossible

theorem reclaimed_extend {seen : Seen} {loader : Loader} {drop : Drop} :
    Reclaimed (seen.extend loader) drop ↔ Reclaimed seen drop := by
  simp [Reclaimed, Seen.extend]

theorem Sound.record {state : Reconciliation} (sound : state.Sound) {world : World}
    {pass : Option (Action SyncOutcome)} {seen : Seen} {fresh gone : Drop → Prop}
    (moves : Loader.Moves fresh gone state.world.loader world.loader)
    (phase : Phase state.unclaimed pass seen)
    (read : ∀ drop, seen.Found drop → seen.trail drop = some ⟨state.world.loader, []⟩ ∨
      (state.seen.Found drop ∧ seen.trail drop = state.seen.trail drop))
    (reclaims : ∀ drop, Reclaimed state.seen drop → Reclaimed seen drop)
    (spared : ∀ drop, seen.Found drop → fresh drop → state.world.loader.Holds drop)
    (replaced : ∀ before, state.previous = some before → ∀ drop, before.Found drop → fresh drop →
      state.world.loader.Holds drop ∨ Reclaimed seen drop) :
    (state.record world pass seen).Sound where
  canonical := moves.canonical sound.canonical
  remembered := by
    intro drop member
    obtain ⟨before, latest, found⟩ := sound.remembered drop member
    refine ⟨before.extend world.loader, ?_, Seen.found_extend.mpr found⟩
    exact Option.map_eq_some_iff.mpr ⟨before, latest, rfl⟩
  earlier := by
    intro extended latest drop found
    obtain ⟨before, earlier, rfl⟩ := Option.map_eq_some_iff.mp latest
    have found := Seen.found_extend.mp found
    by_cases held : world.loader.Holds drop
    · rcases sound.earlier before earlier drop found with unbroken | absent | reclaimed
      · exact .inl (unbroken.extend held)
      · have placed := (moves.added drop held).resolve_left absent
        have reclaimed := (replaced before earlier drop found placed).resolve_left absent
        exact .inr (.inr (reclaimed_extend.mpr reclaimed))
      · exact .inr (.inr (reclaimed_extend.mpr (reclaims drop reclaimed)))
    · exact .inr (.inl held)
  current := by
    intro drop found
    have found := Seen.found_extend.mp found
    by_cases held : world.loader.Holds drop
    · left
      refine Seen.Unbroken.extend ?_ held
      rcases read drop found with fresh | ⟨already, same⟩
      · obtain ⟨-, trail, -, shown, first, -⟩ := found
        rw [fresh, Option.some.injEq] at shown
        subst shown
        exact ⟨_, fresh, first, fun _ member => (List.not_mem_nil member).elim⟩
      · rcases sound.current drop already with ⟨trail, shown, throughout⟩ | absent
        · exact ⟨trail, same.trans shown, throughout⟩
        · have placed := (moves.added drop held).resolve_left absent
          exact absurd (spared drop found placed) absent
    · exact .inr held
  phase := phase.extend world.loader

theorem Sound.reads {state : Reconciliation} (sound : state.Sound)
    {pass : Option (Action SyncOutcome)} {seen : Seen} (phase : Phase state.unclaimed pass seen)
    (read : ∀ drop, seen.Found drop → seen.trail drop = some ⟨state.world.loader, []⟩ ∨
      (state.seen.Found drop ∧ seen.trail drop = state.seen.trail drop))
    (reclaims : ∀ drop, Reclaimed state.seen drop → Reclaimed seen drop) :
    (state.record state.world pass seen).Sound :=
  have still : Loader.Moves (fun _ => False) (fun _ => False) state.world.loader
    state.world.loader := .refl _
  sound.record still phase read reclaims (fun _ _ impossible => impossible.elim)
    (fun _ _ _ _ impossible => impossible.elim)

theorem step_sound {state : Reconciliation} (sound : state.Sound) (choice : Choice) :
    (state.next (.step choice)).Sound := by
  obtain ⟨world, unclaimed, pass, seen, previous⟩ := state
  have phase : Phase unclaimed pass seen := sound.phase
  cases phase with
  | idle => exact sound
  | started =>
      have unread : ∀ drop, ¬ Reclaimed Seen.nothing drop := by
        rintro drop ⟨impossible, -⟩
        cases impossible
      cases answered : choice.read (.ok (world.server.listCached choice.lag)) with
      | error err =>
          simp only [next, sync, perform_bind, exec, answered]
          exact sound.reads (.failed _ _ rfl rfl) (fun _ found => .inr ⟨found, rfl⟩) (fun _ => id)
      | ok policies =>
          simp only [next, sync, perform_bind, exec, answered]
          refine sound.reads (.listed policies) (fun drop found => ?_)
            (fun drop reclaimed => absurd reclaimed (unread drop))
          obtain ⟨-, trail, -, impossible, -⟩ := found
          cases drop <;> cases impossible
  | listed policies =>
      cases answered : choice.read (.ok world.loader.blockedIPs) with
      | error err =>
          simp only [next, readKernel, perform_bind, exec, answered]
          exact sound.reads (.failed _ _ rfl rfl) (fun _ found => .inr ⟨found, rfl⟩) (fun _ => id)
      | ok kernelIPs =>
          simp only [next, readKernel, perform_bind, exec, answered, read_ok answered]
          refine sound.reads (.halfRead policies ⟨world.loader, []⟩ sound.canonical)
            (fun drop found => ?_) (fun drop reclaimed => ?_)
          · cases drop with
            | source address => exact .inl rfl
            | tunnel address teid =>
                obtain ⟨-, trail, -, impossible, -⟩ := found
                cases impossible
          · obtain ⟨impossible, -⟩ := reclaimed
            cases impossible
  | halfRead policies sources canonical =>
      cases answered : choice.read (.ok world.loader.blockedTunnels) with
      | error err =>
          simp only [next, readTunnels, perform_bind, exec, answered]
          exact sound.reads (.failed _ _ rfl rfl) (fun _ found => .inr ⟨found, rfl⟩) (fun _ => id)
      | ok kernelTunnels =>
          simp only [next, readTunnels, perform_bind, exec, answered, read_ok answered]
          refine sound.reads (correcting_of_reads policies unclaimed sources ⟨world.loader, []⟩
            canonical sound.canonical) (fun drop found => ?_) (fun drop reclaimed => ?_)
          · cases drop with
            | source address => exact .inr ⟨found, rfl⟩
            | tunnel address teid => exact .inl rfl
          · obtain ⟨impossible, -⟩ := reclaimed
            cases impossible
  | correcting policies sources tunnels program asks returns =>
      cases program with
      | done outcome => exact sound
      | ask op rest =>
          have moves := exec_corrects asks.1 choice world
          have unread : ∀ answer seen, Seen.observe world.loader op answer seen = seen := by
            obtain ⟨call, -, rfl, -⟩ := asks.1
            intro answer seen
            cases call <;> rfl
          simp only [next, unread]
          refine sound.record moves (.correcting policies sources tunnels _ (asks.2 _) (returns _))
            (fun drop found => .inr ⟨found, rfl⟩) (fun _ => id) (fun drop found missing => ?_)
            (fun before _ drop _ missing => .inr ⟨rfl, policies, rfl, missing.1⟩)
          obtain ⟨listed, -, same, -, -, undesired⟩ := found
          cases same
          exact absurd missing.1 undesired
  | failed outcome seen kept unread => exact sound

theorem finish_sound {state : Reconciliation} (sound : state.Sound) :
    (state.next .finish).Sound := by
  obtain ⟨world, unclaimed, pass, seen, previous⟩ := state
  have nothingFound : ∀ drop, ¬ Seen.nothing.Found drop := by
    rintro drop ⟨policies, trail, impossible, -⟩
    cases impossible
  have phase : Phase unclaimed pass seen := sound.phase
  cases phase with
  | idle => exact sound
  | started => exact sound
  | listed policies => exact sound
  | halfRead policies sources canonical => exact sound
  | correcting policies sources tunnels program asks returns =>
      cases program with
      | ask op rest => exact sound
      | done outcome =>
          refine ⟨sound.canonical, fun drop member => ?_, ?_,
            fun drop found => absurd found (nothingFound drop), .idle⟩
          · obtain ⟨seen, undesired⟩ := (returns drop).mp member
            refine ⟨_, rfl, policies, ?_⟩
            cases drop with
            | source address => exact ⟨sources, rfl, rfl, seen, undesired⟩
            | tunnel address teid => exact ⟨tunnels, rfl, rfl, seen, undesired⟩
          · rintro before ⟨⟩ drop found
            exact (sound.current drop found).imp_right .inl
  | failed outcome seen kept unread =>
      have same : (next ⟨world, unclaimed, some (.done outcome), seen, previous⟩ .finish) =
          ⟨world, unclaimed, none, .nothing, previous⟩ := by
        simp [next, kept, unread]
      rw [same]
      refine ⟨sound.canonical, sound.remembered, fun before latest drop found => ?_,
        fun drop found => absurd found (nothingFound drop), .idle⟩
      rcases sound.earlier before latest drop found with unbroken | absent | ⟨impossible, -⟩
      · exact .inl unbroken
      · exact .inr (.inl absent)
      · simp [unread] at impossible

theorem syscall_moves (choice : Choice) (call : BlocklistCall) (world : World) :
    Loader.Moves call.Places call.Lifts world.loader
      (choice.syscall world (call.apply world.loader)).2.loader := by
  rcases syscall_cases choice world (call.apply world.loader) with
    ⟨err, failed⟩ | ⟨after, done, same⟩
  · rw [failed]
    exact .refl _
  · rw [same]
    rcases BlocklistCall.apply_cases done with ⟨drop, places, adds⟩ | ⟨drop, lifts, removes⟩
    · exact .of_adds adds places.identified places
    · exact .of_removes removes lifts

theorem next_sound {state : Reconciliation} (sound : state.Sound) (move : Move)
    (spares : state.Spares move) : (state.next move).Sound := by
  cases move with
  | start =>
      obtain ⟨world, unclaimed, pass, seen, previous⟩ := state
      cases pass with
      | some program => exact sound
      | none =>
          have phase : Phase unclaimed none seen := sound.phase
          cases phase
          exact ⟨sound.canonical, sound.remembered, sound.earlier, sound.current, .started⟩
  | step choice => exact step_sound sound choice
  | finish => exact finish_sound sound
  | call call choice =>
      refine sound.record (syscall_moves choice call state.world) sound.phase
        (fun drop found => .inr ⟨found, rfl⟩) (fun _ => id) (fun drop found places => ?_)
        (fun before latest drop found places => ?_)
      · exact (spares drop places).resolve_right (fun unfound => unfound.1 found)
      · exact .inl ((spares drop places).resolve_right
          (fun unfound => unfound.2 before latest found))
  | setServer server =>
      exact ⟨sound.canonical, sound.remembered, sound.earlier, sound.current, sound.phase⟩

theorem claimed_of_held {loader : Loader} (canonical : loader.Canonical) {drop : Drop}
    (held : loader.Holds drop) {policies : List TelecomSecurityPolicy}
    (undesired : ¬ Desired policies drop) : ¬ Claimed policies drop := by
  intro claimed
  obtain ⟨other, same, identified⟩ := canonical drop.slot held
  rw [← Drop.slot_inj same] at identified
  exact undesired ⟨claimed, identified⟩

theorem Sound.graced {state : Reconciliation} (sound : state.Sound) {choice : Choice} {drop : Drop}
    (removes : state.Removes choice drop) : state.Graced drop := by
  obtain ⟨world, unclaimed, pass, seen, previous⟩ := state
  obtain ⟨held, gone⟩ := removes
  have stays : (next ⟨world, unclaimed, pass, seen, previous⟩ (.step choice)).world.loader ≠
      world.loader := by
    intro same
    rw [same] at gone
    exact gone held
  have phase : Phase unclaimed pass seen := sound.phase
  cases phase with
  | idle => exact absurd rfl stays
  | started => exact absurd rfl stays
  | listed policies => exact absurd rfl stays
  | halfRead policies sources canonical => exact absurd rfl stays
  | failed outcome seen kept unread => exact absurd rfl stays
  | correcting policies sources tunnels program asks returns =>
      cases program with
      | done outcome => exact absurd rfl stays
      | ask op rest =>
          have moves := exec_corrects asks.1 choice world
          have stale := (moves.kept drop held).resolve_left gone
          obtain ⟨before, latest, found⟩ := sound.remembered drop stale.2.2
          have unbroken : before.Unbroken drop := by
            rcases sound.earlier before latest drop found with unbroken | absent | reclaimed
            · exact unbroken
            · exact absurd held absent
            · obtain ⟨-, listed, same, desired⟩ := reclaimed
              cases same
              exact absurd desired stale.2.1
          obtain ⟨trail, read, throughout⟩ := unbroken
          obtain ⟨listed, -, same, -, -, undesired⟩ := found
          exact ⟨before, trail, latest, read, throughout,
            ⟨listed, same, claimed_of_held sound.canonical held undesired⟩,
            policies, rfl, claimed_of_held sound.canonical held stale.2.1⟩

/-- In every run in which no other component puts back an entry that a pass had
found without a claim, what a pass removes has been in force since the read of
the pass before it and was claimed by no policy either pass saw. -/
theorem removals_are_graced (start : Reconciliation) (fresh : start.Fresh) (moves : List Move)
    (spared : AllMoves next Spares start moves) (choice : Choice) (drop : Drop)
    (removes : (runMoves next start moves).Removes choice drop) :
    (runMoves next start moves).Graced drop := by
  have step : ∀ state move, Spares state move → state.Sound → (state.next move).Sound :=
    fun _ move spares sound => next_sound sound move spares
  exact (runMoves_invariant moves step (sound_of_fresh fresh) spared).graced removes

instance (trail : Trail) (drop : Drop) : Decidable (trail.Throughout drop) :=
  inferInstanceAs (Decidable (_ ∧ _))

instance (state : Reconciliation) (choice : Choice) (drop : Drop) :
    Decidable (state.Removes choice drop) :=
  inferInstanceAs (Decidable (_ ∧ _))

def newlyStarted : Reconciliation where
  world := .initial (fun _ => 16)
  unclaimed := ∅
  pass := none
  seen := .nothing
  previous := none

def secondPass (between : List Move) : List Move :=
  [.call (.block attacker.val) .quiet, .start, .step .quiet, .step .quiet, .step .quiet, .finish] ++
    between ++ [.start, .step .quiet, .step .quiet, .step .quiet]

theorem unclaimed_drop_is_graced :
    (runMoves next newlyStarted (secondPass [])).Removes .quiet (.source attacker) ∧
    (runMoves next newlyStarted (secondPass [])).Graced (.source attacker) := by
  have removes : (runMoves next newlyStarted (secondPass [])).Removes .quiet
      (.source attacker) := by
    decide +kernel
  refine ⟨removes, removals_are_graced newlyStarted ⟨Loader.empty_canonical _, rfl, rfl, rfl, rfl⟩ _
    ?_ .quiet _ removes⟩
  refine ⟨fun drop _ => .inr ⟨?_, fun before impossible => (by cases impossible)⟩, trivial, trivial,
    trivial, trivial, trivial, trivial, trivial, trivial, trivial, trivial⟩
  rintro ⟨policies, trail, impossible, -⟩
  cases impossible

/-- An entry that is taken out and placed anew between two passes is removed by
the second one as if it had been there all along. -/
theorem replaced_drop_is_removed :
    newlyStarted.Fresh ∧
    (runMoves next newlyStarted (secondPass [.call (.unblock attacker.val) .quiet,
      .call (.block attacker.val) .quiet])).Removes .quiet (.source attacker) ∧
    ¬ (runMoves next newlyStarted (secondPass [.call (.unblock attacker.val) .quiet,
      .call (.block attacker.val) .quiet])).Graced (.source attacker) := by
  refine ⟨⟨Loader.empty_canonical _, rfl, rfl, rfl, rfl⟩, by decide +kernel, ?_⟩
  rintro ⟨before, trail, latest, read, throughout, -⟩
  have broken : ((runMoves next newlyStarted (secondPass [.call (.unblock attacker.val) .quiet,
      .call (.block attacker.val) .quiet])).previous.bind
        (fun seen => seen.trail (.source attacker))).all
          (fun trail => decide (¬ trail.Throughout (.source attacker))) = true := by
    decide +kernel
  rw [latest, Option.bind_some, read] at broken
  exact of_decide_eq_true broken throughout

end Reconciliation

end Sentinel5G.Controller
