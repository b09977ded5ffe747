import Sentinel5G.Base.TokenBucket
import Sentinel5G.Controller.Decisions
import Sentinel5G.Controller.UndoCompletion

namespace Sentinel5G.Controller

open Base Api Ebpf Program

structure ReactorLimiter where
  /-- Writes per second. -/
  rate : ℚ
  burst : Nat
  limiters : Std.ExtTreeMap NamespacedName TokenBucket NamespacedName.cmp

/-- No limiter at all unless both bounds are positive. -/
def newReactorLimiter (r : ℚ) (b : Int) : Option ReactorLimiter :=
  if r ≤ 0 ∨ b ≤ 0 then none else some ⟨r, b.toNat, ∅⟩

namespace ReactorLimiter

def bucket (limiter : ReactorLimiter) (key : NamespacedName) (now : Time) : TokenBucket :=
  limiter.limiters[key]?.getD (.full limiter.burst now)

def drawn (limiter : ReactorLimiter) (key : NamespacedName) (now : Time) : Bool × TokenBucket :=
  (limiter.bucket key now).draw (limiter.rate / second) limiter.burst now

def allow (limiter : Option ReactorLimiter) (key : NamespacedName) (now : Time) :
    Bool × Option ReactorLimiter :=
  match limiter with
  | none => (true, none)
  | some limiter => ((limiter.drawn key now).1, some { limiter with
      limiters := limiter.limiters.insert key (limiter.drawn key now).2 })

structure Sound (limiter : ReactorLimiter) (key : NamespacedName) (now : Time) : Prop where
  positive : 0 < limiter.rate
  burst : 0 < limiter.burst
  tokens : ∀ bucket, limiter.limiters[key]? = some bucket → 0 ≤ bucket.tokens
  last : ∀ bucket, limiter.limiters[key]? = some bucket → bucket.last ≤ now

section Sound

variable {limiter : ReactorLimiter} {key : NamespacedName} {now after : Time}

theorem Sound.later (sound : limiter.Sound key now) (order : now ≤ after) :
    limiter.Sound key after :=
  ⟨sound.positive, sound.burst, sound.tokens,
    fun bucket found => (sound.last bucket found).trans order⟩

/-- A bucket that has no token for the policy was there, and was drawn from less
than the time of one token ago. -/
theorem Sound.refused (sound : limiter.Sound key now)
    (refused : (limiter.drawn key now).1 = false) :
    ∃ bucket, limiter.limiters[key]? = some bucket ∧ (limiter.drawn key now).2 = bucket ∧
      (now : ℚ) - second / limiter.rate < bucket.last := by
  cases found : limiter.limiters[key]? with
  | none =>
      rw [drawn, bucket, found, Option.getD_none, TokenBucket.draw_full sound.burst] at refused
      cases refused
  | some bucket =>
      rw [drawn, ReactorLimiter.bucket, found, Option.getD_some] at refused ⊢
      have whole : (0 : ℚ) < (second : ℤ) := by
        norm_num [second]
      have recent := TokenBucket.refused_recently (div_pos sound.positive whole) sound.burst
        (sound.tokens bucket found) refused
      rw [one_div_div] at recent
      exact ⟨bucket, rfl, (TokenBucket.draw_refused refused).1, recent⟩

theorem Sound.drawn (sound : limiter.Sound key now) :
    ({ limiter with limiters := limiter.limiters.insert key (limiter.drawn key now).2 } :
      ReactorLimiter).Sound key now := by
  have fine : 0 ≤ (limiter.drawn key now).2.tokens ∧ (limiter.drawn key now).2.last ≤ now := by
    cases answer : (limiter.drawn key now).1 with
    | true =>
        obtain ⟨last, tokens⟩ := TokenBucket.draw_granted answer
        exact ⟨tokens, last.le⟩
    | false =>
        obtain ⟨bucket, found, same, -⟩ := sound.refused answer
        rw [same]
        exact ⟨sound.tokens bucket found, sound.last bucket found⟩
  refine ⟨sound.positive, sound.burst, fun bucket found => ?_, fun bucket found => ?_⟩
  all_goals
    rw [Std.ExtTreeMap.getElem?_insert_self, Option.some.injEq] at found
    subst found
  · exact fine.1
  · exact fine.2

end Sound

end ReactorLimiter

abbrev Limited := World × Option ReactorLimiter

/-- The calls of the watcher when `fault` is how the API server treats its status
write and the limiter answers for itself. -/
def limited (fault : Fault) (choice : Choice) (op : Op) (state : Limited) : op.Answer × Limited :=
  match op with
  | .allow key => ((ReactorLimiter.allow state.2 key state.1.clock).1, state.1,
      (ReactorLimiter.allow state.2 key state.1.clock).2)
  | .updateStatus policy =>
      ((exec { choice with fault := fault } (.updateStatus policy) state.1).1,
        (exec { choice with fault := fault } (.updateStatus policy) state.1).2, state.2)
  | op => ((exec choice op state.1).1, (exec choice op state.1).2, state.2)

inductive WriteResult (fault : Fault) (policy : TelecomSecurityPolicy) (status : PolicyStatus)
    (before after : Limited) : Except Err Unit → Prop
  | withheld (unchanged : statusDecisionChanged policy { policy with status := status } = false)
      (refused : (ReactorLimiter.allow before.2 policy.key before.1.clock).1 = false)
      (server : after.1.server = before.1.server) (index : after.1.index = before.1.index) :
      WriteResult fault policy status before after (.ok ())
  | stored (updated : TelecomSecurityPolicy) (synced : Synced policy.key updated after.1)
      (recorded : updated.status = status.stored) :
      WriteResult fault policy status before after (.ok ())
  | failed (err : Err) (index : after.1.index = before.1.index)
      (cause : fault ≠ .none ∨ before.1.server.persisted policy.key ≠ some policy) :
      WriteResult fault policy status before after (.error err)

structure StatusWrite (fault : Fault) (policy : TelecomSecurityPolicy) (status : PolicyStatus)
    (before : Limited) (outcome : Except Err Unit) (after : Limited) : Prop where
  clock : after.1.clock = before.1.clock
  known : ∀ version, some version ∈ before.1.server.history policy.key →
    some version ∈ after.1.server.history policy.key
  limiter : after.2 = if statusDecisionChanged policy { policy with status := status } = true
    then before.2 else (ReactorLimiter.allow before.2 policy.key before.1.clock).2
  server : after.1.server.persisted policy.key = before.1.server.persisted policy.key ∨
    before.1.server.persisted policy.key = some policy ∧
      ∃ current, after.1.server.persisted policy.key = some current ∧
        current.status = status.stored
  result : WriteResult fault policy status before after outcome

section Write

variable {fault : Fault} {policy : TelecomSecurityPolicy} {status : PolicyStatus}

theorem exec_updateStatus_persisted (choice : Choice) {world : World}
    (known : some policy ∈ world.server.history policy.key) (status : PolicyStatus) :
    (exec choice (.updateStatus { policy with status := status }) world).2.server.persisted
        policy.key = world.server.persisted policy.key ∨
      world.server.persisted policy.key = some policy ∧
        ∃ current, (exec choice (.updateStatus { policy with status := status })
          world).2.server.persisted policy.key = some current ∧ current.status = status.stored := by
  rcases write_state choice world ((world.server.updateStatus { policy with status := status }).1,
    { world with server := (world.server.updateStatus { policy with status := status }).2 })
    with unchanged | applied
  · rw [exec, unchanged]
    exact .inl rfl
  · rw [exec, applied]
    rcases Server.persisted_updateStatus_cases world.server { policy with status := status }
      policy.key with same | ⟨current, -, stored, version, replaced⟩
    · exact .inl same
    · cases Server.persisted_unique known stored version
      exact .inr ⟨stored, _, replaced, rfl⟩

theorem exec_updateStatus_cause (choice : Choice) (policy : TelecomSecurityPolicy)
    (status : PolicyStatus) (world : World) (err : Err)
    (failed : (exec choice (.updateStatus { policy with status := status }) world).1 = .error err) :
    choice.fault ≠ .none ∨ world.server.persisted policy.key ≠ some policy := by
  by_contra fine
  rw [not_or, not_not, not_not] at fine
  obtain ⟨updated, accepted⟩ : ∃ updated,
      (exec choice (.updateStatus { policy with status := status }) world).1 = .ok updated :=
    exec_updateStatus_faultless fine.1 fine.2 rfl
  rw [accepted] at failed
  cases failed

theorem updateStatus_limited {before : Limited}
    (known : some policy ∈ before.1.server.history policy.key) {limiter : Option ReactorLimiter}
    (asked : limiter = if statusDecisionChanged policy { policy with status := status } = true
      then before.2 else (ReactorLimiter.allow before.2 policy.key before.1.clock).2) :
    (updateStatus { policy with status := status }).Ends (limited fault) (fun _ _ => True)
      (StatusWrite fault policy status before) (before.1, limiter) := by
  intro choice _
  have step : limited fault choice (.updateStatus { policy with status := status })
      (before.1, limiter) = ((exec { choice with fault := fault }
        (.updateStatus { policy with status := status }) before.1).1,
          (exec { choice with fault := fault }
            (.updateStatus { policy with status := status }) before.1).2, limiter) := rfl
  have clock := exec_clock { choice with fault := fault }
    (.updateStatus { policy with status := status }) before.1
  have index := exec_index { choice with fault := fault }
    (.updateStatus { policy with status := status }) before.1 id
  have kept := (exec_evolves { choice with fault := fault }
    (.updateStatus { policy with status := status }) before.1).versions policy.key
  have server := exec_updateStatus_persisted { choice with fault := fault } known status
  have refused := fun err => exec_updateStatus_cause { choice with fault := fault } policy status
    before.1 err
  have accepted := fun updated => @exec_updateStatus_ok { choice with fault := fault }
    { policy with status := status } updated before.1
  rw [step]
  generalize exec { choice with fault := fault } (.updateStatus { policy with status := status })
    before.1 = reply at *
  obtain ⟨result, middle⟩ := reply
  cases result with
  | error err => exact ⟨clock, kept, asked, server, .failed _ index (refused err rfl)⟩
  | ok updated =>
      intro _ _
      obtain ⟨stored, recorded⟩ := accepted updated rfl
      have named : updated.key = policy.key := Server.persisted_key stored
      refine ⟨clock, kept, asked, server, .stored updated ⟨?_, stored⟩ recorded⟩
      rw [← named]
      exact PolicyIndex.lookup_put_self _ _

theorem writeStatus_limited {before : Limited}
    (known : some policy ∈ before.1.server.history policy.key) :
    (writeStatus policy { policy with status := status }).Ends (limited fault) (fun _ _ => True)
      (StatusWrite fault policy status before) before := by
  have skips := fun (unchanged : statusDecisionChanged policy { policy with status := status } =
    false) => Bool.eq_false_iff.mp unchanged
  exact ends_writeStatus (fun changed => updateStatus_limited known (if_pos changed).symm)
    (fun unchanged _ _ _ => updateStatus_limited known (if_neg (skips unchanged)).symm)
    (fun unchanged _ _ refused => ⟨rfl, fun _ => id, (if_neg (skips unchanged)).symm, .inl rfl,
      .withheld unchanged refused rfl rfl⟩)

theorem StatusWrite.acted {before after final : Limited} {outcome : Except Err Unit}
    (write : StatusWrite fault policy status before outcome after)
    (server : final.1.server = after.1.server) (index : final.1.index = after.1.index)
    (clock : final.1.clock = after.1.clock) (limiter : final.2 = after.2) :
    StatusWrite fault policy status before outcome final := by
  refine ⟨clock.trans write.clock, server ▸ write.known, limiter.trans write.limiter,
    server ▸ write.server, ?_⟩
  cases write.result with
  | withheld unchanged refused server' index' =>
      exact .withheld unchanged refused (server.trans server') (index.trans index')
  | stored updated synced recorded =>
      exact .stored updated ⟨index ▸ synced.indexed, server ▸ synced.stored⟩ recorded
  | failed err index' cause => exact .failed err (index.trans index') cause

theorem executes_limited {wanted : Intent} {event : ThreatScoreEvent} {op : Op}
    (executes : ThreatScoreWatcher.Executes wanted event op) (choice : Choice) (state : Limited) :
    limited fault choice op state =
      ((exec choice op state.1).1, (exec choice op state.1).2, state.2) := by
  cases op <;> first | rfl | exact executes.elim

theorem ThreatScoreWatcher.applyPolicy_limited (watcher : ThreatScoreWatcher)
    (event : ThreatScoreEvent) {before : Limited}
    (known : some policy ∈ before.1.server.history policy.key) :
    (watcher.applyPolicy policy event).Ends (limited fault) (fun _ _ => True)
      (fun outcome final => ∃ written, (outcome = .ok () → written = .ok ()) ∧
        StatusWrite fault policy
          (watcher.scoredStatus policy event before.1.engaged before.1.clock) before written final)
      before := by
  have reads : Reads (limited fault) before (watcher.applyPolicy policy event)
      (watcher.staged policy event before.1) :=
    watcher.applyPolicy_reads_by policy event before.1 (fun _ => rfl) (fun _ => rfl)
  refine reads.ends (Ends.bind ?_)
  refine (writeStatus_limited known).mono (fun written after write => ?_)
  have acted : (watcher.afterWrite policy event before.1.engaged written).Ends (limited fault)
      (fun _ _ => True) (fun _ final => StatusWrite fault policy
        (watcher.scoredStatus policy event before.1.engaged before.1.clock) before written final)
      after := by
    refine Ends.of_asksOnly (watcher.afterWrite_asks policy event before.1.engaged written)
      (fun choice op current _ executes held => ?_) write
    rw [executes_limited executes]
    exact held.acted (exec_server _ _ _ (executes_frame op executes)) (exec_index _ _ _
      (by cases op <;> first | exact id | exact executes.elim)) (exec_clock _ _ _) rfl
  cases written with
  | error err => exact ⟨.error err, id, write⟩
  | ok done => exact acted.mono (fun _ _ held => ⟨.ok (), fun _ => rfl, held⟩)

end Write

end Sentinel5G.Controller
