import Sentinel5G.Controller.ReactorLimiter
import Sentinel5G.Controller.Redelivery
import Mathlib.Algebra.Order.Floor.Ring
import Mathlib.Data.Rat.Floor

namespace Sentinel5G.Controller

open Base Api Ebpf Program

/-- A score with the time since the one before, the kill switch, what becomes of
its status write, and how the other calls are answered. -/
structure TimedScore where
  event : ThreatScoreEvent
  elapsed : Nat
  engaged : Bool
  fault : Fault
  script : Nat → Choice

def TimedScore.around (score : TimedScore) (state : Limited) : Limited :=
  ({ state.1 with
      clock := state.1.clock + score.elapsed
      engaged := score.engaged }, state.2)

namespace ThreatScoreWatcher

variable (watcher : ThreatScoreWatcher) (key : NamespacedName)

def attend (state : Limited) (score : TimedScore) : Except Err Unit × Limited :=
  match (score.around state).1.index.lookup key with
  | none => (.ok (), score.around state)
  | some policy =>
      (watcher.applyPolicy policy score.event).run (limited score.fault) score.script
        (score.around state)

def follow (state : Limited) (score : TimedScore) : Limited := (watcher.attend key state score).2

/-- While the policy mitigates, the score takes a token of the limiter and does not move
the time of the last mitigation: it is below the threshold, or its write fails. -/
def wastesToken (state : Limited) (score : TimedScore) : Bool :=
  (state.1.index.lookup key).any (fun policy => decide (policy.status.phase = .mitigating ∧
    statusDecisionChanged policy (watcher.scored policy score.event (score.around state).1) =
      false ∧
    (ReactorLimiter.allow state.2 key (score.around state).1.clock).1 = true ∧
    (score.event.score < watcher.threshold policy ∨ score.fault ≠ .none ∨
      state.1.server.persisted key ≠ some policy)))

end ThreatScoreWatcher

/-- The last whole second that is at least one throttle window before a time. -/
def throttleFloor (r : ℚ) (now : Time) : Time := wholeSeconds ⌊(now : ℚ) - second / r⌋

def StampedSince (key : NamespacedName) (floor : Time) (server : Server) : Prop :=
  ∃ current last, server.persisted key = some current ∧
    current.status.lastMitigationTime = some last ∧ floor ≤ last

theorem whole_throttleFloor (r : ℚ) (now : Time) :
    wholeSeconds (throttleFloor r now) = throttleFloor r now :=
  wholeSeconds_idem _

theorem throttleFloor_le_now {r : ℚ} (positive : 0 < r) (now : Time) :
    throttleFloor r now ≤ wholeSeconds now := by
  have window : (0 : ℚ) ≤ second / r := div_nonneg (by norm_num [second]) positive.le
  have before : ((⌊(now : ℚ) - second / r⌋ : Time) : ℚ) ≤ now :=
    (Int.floor_le _).trans (by linarith)
  exact wholeSeconds_mono (Int.cast_le.mp before)

theorem throttleFloor_le_window (r : ℚ) (now : Time) :
    (throttleFloor r now : ℚ) ≤ (now : ℚ) - second / r :=
  (Int.cast_le.mpr (wholeSeconds_le _)).trans (Int.floor_le _)

/-- The index has a version of the policy. While that one mitigates, the limiter has given
no token away in the window before `due`, or the stored time has reached its floor. -/
structure Punctual (key : NamespacedName) (r : ℚ) (due : Time) (state : Limited)
    (limiter : ReactorLimiter) (policy : TelecomSecurityPolicy) : Prop where
  given : state.2 = some limiter
  rate : limiter.rate = r
  sound : limiter.Sound key state.1.clock
  indexed : state.1.index.lookup key = some policy
  known : some policy ∈ state.1.server.history key
  timed : policy.status.phase = .mitigating →
    (∀ bucket, limiter.limiters[key]? = some bucket → (bucket.last : ℚ) ≤ due - second / r) ∨
      throttleFloor r due ≤ state.1.clock ∧
        StampedSince key (throttleFloor r due) state.1.server

section Step

variable {fault : Fault} {policy : TelecomSecurityPolicy} {status : PolicyStatus}
  {before after : Limited} {written : Except Err Unit}

theorem StatusWrite.limits (write : StatusWrite fault policy status before written after)
    {limiter : ReactorLimiter} (given : before.2 = some limiter)
    (sound : limiter.Sound policy.key before.1.clock) :
    ∃ asked : ReactorLimiter, after.2 = some asked ∧ asked.rate = limiter.rate ∧
      asked.Sound policy.key after.1.clock ∧
      (statusDecisionChanged policy { policy with status := status } = true ∨
        (ReactorLimiter.allow before.2 policy.key before.1.clock).1 = false →
          asked.limiters[policy.key]? = limiter.limiters[policy.key]?) := by
  have answered := write.limiter
  rw [write.clock]
  split at answered
  · exact ⟨limiter, answered.trans given, rfl, sound, fun _ => rfl⟩
  · rename_i unchanged
    rw [given] at answered ⊢
    refine ⟨_, answered, rfl, sound.drawn, fun untouched => ?_⟩
    obtain ⟨bucket, found, same, -⟩ := sound.refused (untouched.resolve_left unchanged)
    rw [Std.ExtTreeMap.getElem?_insert_self, same, found]

theorem StatusWrite.copy (write : StatusWrite fault policy status before written after)
    (indexed : before.1.index.lookup policy.key = some policy)
    (known : some policy ∈ before.1.server.history policy.key) :
    ∃ copy, after.1.index.lookup policy.key = some copy ∧
      some copy ∈ after.1.server.history policy.key := by
  cases write.result with
  | withheld unchanged refused server index =>
      exact ⟨policy, index ▸ indexed, write.known policy known⟩
  | stored updated synced recorded =>
      exact ⟨updated, synced.indexed, Server.mem_history_of_persisted synced.stored⟩
  | failed err index cause => exact ⟨policy, index ▸ indexed, write.known policy known⟩

end Step

section Scored

variable {watcher : ThreatScoreWatcher} {policy : TelecomSecurityPolicy}
  {event : ThreatScoreEvent} {engaged : Bool} {now floor last : Time}

theorem scoredStatus_armed (armed : watcher.Armed policy event engaged) :
    (watcher.scoredStatus policy event engaged now).lastMitigationTime = some now := by
  rw [ThreatScoreWatcher.scoredStatus, if_pos armed]
  rfl

theorem scoredStatus_idle (idle : ¬ watcher.Armed policy event engaged) :
    (watcher.scoredStatus policy event engaged now).lastMitigationTime =
      policy.status.lastMitigationTime := by
  rw [ThreatScoreWatcher.scoredStatus, if_neg idle]

/-- A score that leaves the policy mitigating without acting is below the threshold. -/
theorem below_of_mitigating (idle : ¬ watcher.Armed policy event engaged)
    (mitigating : (watcher.scoredStatus policy event engaged now).phase = .mitigating) :
    event.score < watcher.threshold policy ∧ policy.status.phase = .mitigating := by
  rw [ThreatScoreWatcher.scoredStatus_phase, if_neg idle] at mitigating
  split at mitigating
  · rename_i below
    split at mitigating
    · cases mitigating
    · exact ⟨below, mitigating⟩
  · cases mitigating

theorem scoredStatus_since (whole : wholeSeconds floor = floor) (past : floor ≤ now)
    (stamped : policy.status.lastMitigationTime = some last) (order : floor ≤ last) :
    ∃ time, (watcher.scoredStatus policy event engaged now).stored.lastMitigationTime =
      some time ∧ floor ≤ time := by
  rw [stored_lastMitigationTime]
  by_cases armed : watcher.Armed policy event engaged
  · rw [scoredStatus_armed armed]
    exact ⟨_, rfl, whole ▸ wholeSeconds_mono past⟩
  · rw [scoredStatus_idle armed, stamped]
    exact ⟨_, rfl, whole ▸ wholeSeconds_mono order⟩

theorem StampedSince.write {fault : Fault} {before after : Limited} {written : Except Err Unit}
    (since : StampedSince policy.key floor before.1.server) (whole : wholeSeconds floor = floor)
    (past : floor ≤ before.1.clock)
    (write : StatusWrite fault policy
      (watcher.scoredStatus policy event before.1.engaged before.1.clock) before written after) :
    StampedSince policy.key floor after.1.server := by
  obtain ⟨current, last, stored, stamped, order⟩ := since
  rcases write.server with same | ⟨held, replaced, now, recorded⟩
  · exact ⟨current, last, same.trans stored, stamped, order⟩
  · cases Option.some.inj (stored.symm.trans held)
    obtain ⟨time, restamped, kept⟩ := scoredStatus_since whole past stamped order
    rw [← recorded] at restamped
    exact ⟨replaced, time, now, restamped, kept⟩

end Scored

namespace Punctual

variable {watcher : ThreatScoreWatcher} {key : NamespacedName} {r : ℚ} {due : Time}
  {state before after : Limited} {limiter : ReactorLimiter} {policy : TelecomSecurityPolicy}
  {fault : Fault} {event : ThreatScoreEvent} {written : Except Err Unit}

theorem key_eq (punctual : Punctual key r due state limiter policy) : policy.key = key :=
  PolicyIndex.lookup_key punctual.indexed

theorem around (punctual : Punctual key r due state limiter policy) (score : TimedScore) :
    Punctual key r due (score.around state) limiter policy := by
  have later : state.1.clock ≤ (score.around state).1.clock :=
    Int.le_add_of_nonneg_right (Int.natCast_nonneg _)
  exact { punctual with
    sound := punctual.sound.later later
    timed := fun mitigating => (punctual.timed mitigating).imp_right
      (fun settled => ⟨settled.1.trans later, settled.2⟩) }

theorem write (punctual : Punctual policy.key r due before limiter policy)
    (write : StatusWrite fault policy
      (watcher.scoredStatus policy event before.1.engaged before.1.clock) before written after)
    (spent : (due : ℚ) - second / r < before.1.clock → policy.status.phase = .mitigating →
      statusDecisionChanged policy (watcher.scored policy event before.1) = false →
      (ReactorLimiter.allow before.2 policy.key before.1.clock).1 = true →
      ¬ (event.score < watcher.threshold policy ∨ fault ≠ .none ∨
        before.1.server.persisted policy.key ≠ some policy)) :
    ∃ asked copy, Punctual policy.key r due after asked copy := by
  obtain ⟨asked, given, rate, sound, untouched⟩ := write.limits punctual.given punctual.sound
  have past : ∀ bucket, asked.limiters[policy.key]? = some bucket →
      (bucket.last : ℚ) ≤ before.1.clock := by
    intro bucket found
    rw [← write.clock]
    exact Int.cast_le.mpr (sound.last bucket found)
  have whole := whole_throttleFloor r due
  have settled : throttleFloor r due ≤ before.1.clock ∧
      StampedSince policy.key (throttleFloor r due) before.1.server →
      throttleFloor r due ≤ after.1.clock ∧
        StampedSince policy.key (throttleFloor r due) after.1.server := by
    intro held
    rw [write.clock]
    exact ⟨held.1, held.2.write whole held.1 write⟩
  -- A token that is taken and does not move the time is none of the window.
  have early : policy.status.phase = .mitigating →
      (event.score < watcher.threshold policy ∨ fault ≠ .none ∨
        before.1.server.persisted policy.key ≠ some policy) →
      (∀ bucket, limiter.limiters[policy.key]? = some bucket →
        (bucket.last : ℚ) ≤ due - second / r) →
      ∀ bucket, asked.limiters[policy.key]? = some bucket →
        (bucket.last : ℚ) ≤ due - second / r := by
    intro mitigating idle unspent bucket found
    by_cases soon : (before.1.clock : ℚ) ≤ due - second / r
    · exact (past bucket found).trans soon
    · have kept : statusDecisionChanged policy (watcher.scored policy event before.1) = true ∨
          (ReactorLimiter.allow before.2 policy.key before.1.clock).1 = false := by
        by_contra taken
        rw [not_or, Bool.not_eq_true, Bool.not_eq_false] at taken
        exact spent (not_le.mp soon) mitigating taken.1 taken.2 idle
      rw [untouched kept] at found
      exact unspent bucket found
  cases write.result with
  | withheld unchanged refused server index =>
      refine ⟨asked, policy, given, rate.trans punctual.rate, sound, index ▸ punctual.indexed,
        server ▸ punctual.known, fun mitigating => (punctual.timed mitigating).imp ?_ settled⟩
      rw [untouched (.inr refused)]
      exact id
  | stored updated synced recorded =>
      refine ⟨asked, updated, given, rate.trans punctual.rate, sound, synced.indexed,
        Server.mem_history_of_persisted synced.stored, fun mitigating => ?_⟩
      rw [recorded] at mitigating
      by_cases armed : watcher.Armed policy event before.1.engaged
      · by_cases reached : throttleFloor r due ≤ before.1.clock
        · refine .inr ⟨write.clock ▸ reached, updated, wholeSeconds before.1.clock, synced.stored,
            ?_, whole ▸ wholeSeconds_mono reached⟩
          rw [recorded, stored_lastMitigationTime, scoredStatus_armed armed]
          rfl
        · refine .inl (fun bucket found => (past bucket found).trans ?_)
          exact (Int.cast_le.mpr (not_le.mp reached).le).trans (throttleFloor_le_window r due)
      · obtain ⟨below, before'⟩ := below_of_mitigating armed mitigating
        exact (punctual.timed before').imp (early before' (.inl below)) settled
  | failed err index cause =>
      exact ⟨asked, policy, given, rate.trans punctual.rate, sound, index ▸ punctual.indexed,
        write.known policy punctual.known, fun mitigating =>
          (punctual.timed mitigating).imp (early mitigating (.inr cause)) settled⟩

/-- An armed policy that handles a score without an error has a time of at most one
window ago: the score's own, or one that the last token was spent on. -/
theorem stamped (punctual : Punctual policy.key r before.1.clock before limiter policy)
    (write : StatusWrite fault policy
      (watcher.scoredStatus policy event before.1.engaged before.1.clock) before (.ok ()) after)
    (armed : watcher.Armed policy event before.1.engaged) :
    StampedSince policy.key (throttleFloor r before.1.clock) after.1.server := by
  cases write.result with
  | withheld unchanged refused server index =>
      have mitigating : policy.status.phase = .mitigating := by
        rw [(statusDecisionChanged_false unchanged).1, ThreatScoreWatcher.scoredStatus_phase,
          if_pos armed]
      rw [punctual.given] at refused
      obtain ⟨bucket, found, -, recent⟩ := punctual.sound.refused refused
      rw [punctual.rate] at recent
      rcases punctual.timed mitigating with unspent | ⟨-, since⟩
      · exact absurd (unspent bucket found) (not_le.mpr recent)
      · exact server ▸ since
  | stored updated synced recorded =>
      refine ⟨updated, wholeSeconds before.1.clock, synced.stored, ?_,
        throttleFloor_le_now (punctual.rate ▸ punctual.sound.positive) _⟩
      rw [recorded, stored_lastMitigationTime, scoredStatus_armed armed]
      rfl

end Punctual

section Runs

variable {watcher : ThreatScoreWatcher} {key : NamespacedName} {r : ℚ} {state : Limited}
  {limiter : ReactorLimiter} {policy : TelecomSecurityPolicy} {due floor : Time}

theorem attend_write (indexed : state.1.index.lookup key = some policy)
    (known : some policy ∈ state.1.server.history key) (score : TimedScore) :
    ∃ written, ((watcher.attend key state score).1 = .ok () → written = .ok ()) ∧
      StatusWrite score.fault policy (watcher.scoredStatus policy score.event
        (score.around state).1.engaged (score.around state).1.clock) (score.around state) written
        (watcher.follow key state score) := by
  have found : (score.around state).1.index.lookup key = some policy := indexed
  have same : policy.key = key := PolicyIndex.lookup_key indexed
  simp only [ThreatScoreWatcher.follow, ThreatScoreWatcher.attend, found]
  exact (watcher.applyPolicy_limited score.event (same ▸ known)).run
    (permits_of_forall _ _ (fun _ _ => trivial))

theorem Punctual.follow (punctual : Punctual key r due state limiter policy) (score : TimedScore)
    (frugal : (due : ℚ) - second / r < (score.around state).1.clock →
      watcher.wastesToken key state score = false) :
    ∃ asked copy, Punctual key r due (watcher.follow key state score) asked copy := by
  cases punctual.key_eq
  obtain ⟨written, -, write⟩ := attend_write punctual.indexed punctual.known score
  refine (punctual.around score).write write (fun soon mitigating unchanged allowed wasted => ?_)
  have kept := frugal soon
  rw [ThreatScoreWatcher.wastesToken, punctual.indexed, Option.any_some] at kept
  exact of_decide_eq_false kept ⟨mitigating, unchanged, allowed, wasted⟩

theorem Punctual.run (punctual : Punctual key r due state limiter policy)
    (scores : List TimedScore)
    (frugal : AllMoves (watcher.follow key) (fun state score =>
      (due : ℚ) - second / r < (score.around state).1.clock →
        watcher.wastesToken key state score = false) state scores) :
    ∃ asked copy, Punctual key r due (runMoves (watcher.follow key) state scores) asked copy := by
  induction scores generalizing state limiter policy with
  | nil => exact ⟨limiter, policy, punctual⟩
  | cons score rest ih =>
      obtain ⟨asked, copy, next⟩ := punctual.follow score frugal.1
      exact ih next frugal.2

theorem Punctual.start (due : Time) {r : ℚ} {b : Int} {start : World} (positive : 0 < r)
    (bursts : 1 ≤ b) (synced : Synced key policy start) :
    ∃ limiter, Punctual key r due (start, newReactorLimiter r b) limiter policy := by
  have made : ¬ (r ≤ 0 ∨ b ≤ 0) := by
    rintro (none | none)
    · exact absurd positive (not_lt.mpr none)
    · omega
  have empty : ∀ bucket, (∅ : Std.ExtTreeMap NamespacedName TokenBucket NamespacedName.cmp)[key]? =
      some bucket → False := by
    intro bucket found
    simp at found
  have burst : 0 < b.toNat := by omega
  refine ⟨_, if_neg made, rfl, ⟨positive, burst, fun bucket found => (empty bucket found).elim,
    fun bucket found => (empty bucket found).elim⟩, synced.indexed,
    Server.mem_history_of_persisted synced.stored,
    fun _ => .inl (fun bucket found => (empty bucket found).elim)⟩

/-- The stored time never goes back behind a whole second it has reached. -/
theorem StampedSince.follow (since : StampedSince key floor state.1.server)
    (whole : wholeSeconds floor = floor) (past : floor ≤ state.1.clock)
    (indexed : state.1.index.lookup key = some policy)
    (known : some policy ∈ state.1.server.history key) (score : TimedScore) :
    StampedSince key floor (watcher.follow key state score).1.server := by
  cases PolicyIndex.lookup_key indexed
  obtain ⟨written, -, write⟩ := attend_write indexed known score
  have later : floor ≤ (score.around state).1.clock :=
    past.trans (Int.le_add_of_nonneg_right (Int.natCast_nonneg _))
  have found : StampedSince policy.key floor (score.around state).1.server := since
  exact found.write whole later write

structure Settled (key : NamespacedName) (floor : Time) (state : Limited) : Prop where
  since : StampedSince key floor state.1.server
  past : floor ≤ state.1.clock
  copy : ∃ policy, state.1.index.lookup key = some policy ∧
    some policy ∈ state.1.server.history key

theorem Settled.follow (settled : Settled key floor state) (whole : wholeSeconds floor = floor)
    (score : TimedScore) : Settled key floor (watcher.follow key state score) := by
  obtain ⟨policy, indexed, known⟩ := settled.copy
  obtain ⟨written, -, write⟩ : ∃ written, _ ∧ StatusWrite score.fault policy _ _ written
      (watcher.follow key state score) := attend_write indexed known score
  refine ⟨settled.since.follow whole settled.past indexed known score, ?_, ?_⟩
  · rw [write.clock]
    exact settled.past.trans (Int.le_add_of_nonneg_right (Int.natCast_nonneg _))
  · cases PolicyIndex.lookup_key indexed
    exact write.copy indexed known

theorem Settled.run (settled : Settled key floor state) (whole : wholeSeconds floor = floor)
    (scores : List TimedScore) : Settled key floor (runMoves (watcher.follow key) state scores) :=
  runMoves_invariant scores (fun _ score _ held => held.follow whole score) settled
    (allMoves_of_forall (fun _ _ _ => trivial) : AllMoves _ (fun _ _ => True) _ _)

end Runs

/-- `tryDeEscalate`, on the policy as it is stored, lifts no drop before `due`. -/
def LiftsFrom (reconciler : Reconciler) (key : NamespacedName) (due : Time) (world : World) :
    Prop :=
  ∀ current script drop, world.server.persisted key = some current → world.loader.Holds drop →
    ¬ ((reconciler.tryDeEscalate current).run exec script world).2.loader.Holds drop →
    due ≤ world.clock

theorem tryDeEscalate_waits {reconciler : Reconciler} {policy : TelecomSecurityPolicy} {last : Time}
    {world : World} (stamped : policy.status.lastMitigationTime = some last)
    (early : world.clock - last < reconciler.deEscalationDwell) (script : Nat → Choice) :
    ((reconciler.tryDeEscalate policy).run exec script world).2 = world := by
  have remaining : reconciler.deEscalationDwell - (world.clock - last) > 0 :=
    Int.sub_pos_of_lt early
  simp only [Reconciler.tryDeEscalate, stamped, perform_bind, Program.run, exec, remaining, if_true,
    pure_eq]

theorem StampedSince.lifts {reconciler : Reconciler} {key : NamespacedName} {floor : Time}
    {world : World} (since : StampedSince key floor world.server) :
    LiftsFrom reconciler key (floor + reconciler.deEscalationDwell) world := by
  intro current script drop stored holds lifted
  obtain ⟨persisted, last, found, stamped, order⟩ := since
  cases Option.some.inj (found.symm.trans stored)
  by_contra soon
  have early : world.clock - last < reconciler.deEscalationDwell :=
    calc world.clock - last
        ≤ world.clock - floor := Int.sub_le_sub_left order _
      _ < reconciler.deEscalationDwell := Int.sub_left_lt_of_lt_add (Int.not_le.mp soon)
  rw [tryDeEscalate_waits stamped early script] at lifted
  exact lifted holds

/-- Where no token of the last throttle window is wasted, the stored time lags by no
more than that window, down to the whole second; and so do the drops. -/
theorem throttled_time_lags (watcher : ThreatScoreWatcher) (reconciler : Reconciler)
    (policy : TelecomSecurityPolicy) (start : World) (synced : Synced policy.key policy start)
    (r : ℚ) (b : Int) (positive : 0 < r) (bursts : 1 ≤ b) (earlier : List TimedScore)
    (score : TimedScore) (reached : Limited)
    (ran : runMoves (watcher.follow policy.key) (start, newReactorLimiter r b) earlier = reached)
    (frugal : AllMoves (watcher.follow policy.key) (fun state before =>
        ((reached.1.clock + score.elapsed : Time) : ℚ) - second / r <
            (before.around state).1.clock →
          watcher.wastesToken policy.key state before = false)
      (start, newReactorLimiter r b) earlier)
    (armed : ∀ copy, reached.1.index.lookup policy.key = some copy →
      watcher.Armed copy score.event score.engaged)
    (success : (watcher.attend policy.key reached score).1 = .ok ()) :
    StampedSince policy.key (throttleFloor r (reached.1.clock + score.elapsed))
        (watcher.follow policy.key reached score).1.server ∧
      ∀ (later : List TimedScore) (wait : Nat), LiftsFrom reconciler policy.key
        (throttleFloor r (reached.1.clock + score.elapsed) + reconciler.deEscalationDwell)
        { (runMoves (watcher.follow policy.key)
            (watcher.follow policy.key reached score) later).1 with
          clock := (runMoves (watcher.follow policy.key)
            (watcher.follow policy.key reached score) later).1.clock + wait } := by
  obtain ⟨limiter, started⟩ :=
    Punctual.start (reached.1.clock + score.elapsed) positive bursts synced
  obtain ⟨asked, copy, punctual⟩ := started.run earlier frugal
  rw [ran] at punctual
  obtain ⟨written, succeeded, write⟩ := attend_write punctual.indexed punctual.known score
  rw [succeeded success] at write
  have same : copy.key = policy.key := punctual.key_eq
  have since : StampedSince policy.key (throttleFloor r (reached.1.clock + score.elapsed))
      (watcher.follow policy.key reached score).1.server := by
    have around := punctual.around score
    rw [← same] at around write ⊢
    exact around.stamped write (armed copy punctual.indexed)
  refine ⟨since, fun later wait => ?_⟩
  have settled : Settled policy.key (throttleFloor r (reached.1.clock + score.elapsed))
      (watcher.follow policy.key reached score) := by
    refine ⟨since, ?_, ?_⟩
    · rw [write.clock]
      exact (throttleFloor_le_now positive _).trans (wholeSeconds_le _)
    · have copied := write.copy
      rw [same] at copied
      exact copied punctual.indexed punctual.known
  have after : StampedSince policy.key _ (runMoves (watcher.follow policy.key)
      (watcher.follow policy.key reached score) later).1.server :=
    (settled.run (whole_throttleFloor r _) later).since
  exact StampedSince.lifts after

def scoreAfter (elapsed : Nat) (score : ℚ) : TimedScore :=
  ⟨tunnelScore "10.0.0.1" score, elapsed, false, .none, quietly⟩

/-- The tokens of the first two seconds go to scores below the threshold, and the next
one to the refresh at 2.5 s. -/
def mixedScores : List TimedScore :=
  [scoreAfter 0 1, scoreAfter 0 0, scoreAfter 1000000000 0, scoreAfter 1500000000 1]

theorem throttled_time_lags_at_refusal :
    ∃ policy, Synced upfGuard policy reconciled ∧
      StampedSince upfGuard (throttleFloor 1 2900000000) (plainOperator.watcher.follow upfGuard
        (runMoves (plainOperator.watcher.follow upfGuard) (reconciled, newReactorLimiter 1 1)
          mixedScores) (scoreAfter 400000000 1)).1.server := by
  obtain ⟨policy, named, synced⟩ := reconciled_synced
  refine ⟨policy, synced, ?_⟩
  have time : (runMoves (plainOperator.watcher.follow upfGuard)
      (reconciled, newReactorLimiter 1 1) mixedScores).1.clock = 2500000000 := by
    decide +kernel
  have frugal : AllMoves (plainOperator.watcher.follow upfGuard) (fun state before =>
      ((2500000000 + (scoreAfter 400000000 1).elapsed : Time) : ℚ) - second / 1 <
          (before.around state).1.clock →
        plainOperator.watcher.wastesToken upfGuard state before = false)
      (reconciled, newReactorLimiter 1 1) mixedScores := by decide +kernel
  have armed : ((runMoves (plainOperator.watcher.follow upfGuard)
      (reconciled, newReactorLimiter 1 1) mixedScores).1.index.lookup upfGuard).all
      (fun copy => decide (plainOperator.watcher.Armed copy (scoreAfter 400000000 1).event false)) =
        true := by decide +kernel
  have success : (plainOperator.watcher.attend upfGuard (runMoves
      (plainOperator.watcher.follow upfGuard) (reconciled, newReactorLimiter 1 1) mixedScores)
      (scoreAfter 400000000 1)).1 = .ok () := by decide +kernel
  rw [← named] at synced frugal armed success time ⊢
  rw [← time] at frugal
  have lags := throttled_time_lags plainOperator.watcher plainOperator.reconciler policy reconciled
    synced 1 1 one_pos le_rfl mixedScores (scoreAfter 400000000 1) _ rfl frugal
    (fun copy found => by
      rw [found, Option.all_some] at armed
      exact of_decide_eq_true armed) success
  rw [time] at lags
  exact lags.1

/-- An armed policy handles a score without an error, and the stored time is more
than one throttle window behind. -/
structure FallsBehind (watcher : ThreatScoreWatcher) (key : NamespacedName) (r : ℚ)
    (reached : Limited) (score : TimedScore) : Prop where
  armed : ∃ copy, reached.1.index.lookup key = some copy ∧
    watcher.Armed copy score.event score.engaged
  success : (watcher.attend key reached score).1 = .ok ()
  behind : ∃ current last,
    (watcher.follow key reached score).1.server.persisted key = some current ∧
    current.status.lastMitigationTime = some last ∧
    (last : ℚ) < ((reached.1.clock + score.elapsed : Time) : ℚ) - second / r

theorem fallsBehind_of {watcher : ThreatScoreWatcher} {key : NamespacedName} {r : ℚ}
    {reached : Limited} {score : TimedScore}
    (armed : (reached.1.index.lookup key).any (fun copy =>
      decide (watcher.Armed copy score.event score.engaged)) = true)
    (success : (watcher.attend key reached score).1 = .ok ())
    (behind : ((watcher.follow key reached score).1.server.persisted key).any (fun current =>
      current.status.lastMitigationTime.any (fun last : Time =>
        decide ((last : ℚ) < ((reached.1.clock + score.elapsed : Time) : ℚ) - second / r))) =
          true) :
    FallsBehind watcher key r reached score := by
  obtain ⟨copy, found, acts⟩ := Option.any_eq_true _ _ |>.mp armed
  obtain ⟨current, stored, held⟩ := Option.any_eq_true _ _ |>.mp behind
  obtain ⟨last, stamped, late⟩ := Option.any_eq_true _ _ |>.mp held
  exact ⟨⟨copy, found, of_decide_eq_true acts⟩, success, current, last, stored, stamped,
    of_decide_eq_true late⟩

/-- The token of the first second and those of the next two go to scores below the
threshold. -/
def drainingScores : List TimedScore :=
  [scoreAfter 0 1, scoreAfter 0 0, scoreAfter 1000000000 0, scoreAfter 1000000000 0]

theorem throttled_time_falls_behind :
    (∃ policy, Synced upfGuard policy reconciled) ∧
      FallsBehind plainOperator.watcher upfGuard 10 (reconciled, newReactorLimiter 10 20)
        (scoreAfter 900000000 1) ∧
      FallsBehind plainOperator.watcher upfGuard 1 (runMoves (plainOperator.watcher.follow upfGuard)
        (reconciled, newReactorLimiter 1 1) drainingScores) (scoreAfter 0 1) := by
  obtain ⟨policy, -, synced⟩ := reconciled_synced
  refine ⟨⟨policy, synced⟩, fallsBehind_of ?_ ?_ ?_, fallsBehind_of ?_ ?_ ?_⟩
  all_goals decide +kernel

end Sentinel5G.Controller
