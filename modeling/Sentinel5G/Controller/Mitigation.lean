import Sentinel5G.Controller.Versions

namespace Sentinel5G.Controller

open Base Api Ebpf Program

def Wants (policy : TelecomSecurityPolicy) (event : ThreatScoreEvent) : Drop → Prop
  | .source address =>
      (intent policy event).blockSource = true ∧ parseIP event.sourceIP = some address.val
  | .tunnel address teid =>
      (intent policy event).blockTunnel = true ∧ parseIP event.sourceIP = some address.val ∧
        teid = event.teid

section Record

variable {policy : TelecomSecurityPolicy} {event : ThreatScoreEvent} {now : Time} {drop : Drop}

theorem mem_appendUnique {ips : List String} {ip other : String} :
    other ∈ appendUnique ips ip ↔ other ∈ ips ∨ other = ip := by
  rw [appendUnique]
  split
  · rename_i present
    exact ⟨.inl, fun member => member.elim id (fun same => same ▸ present)⟩
  · simp

theorem claims_stored {status : PolicyStatus} : Claims status.stored drop ↔ Claims status drop :=
  ⟨fun claims => claims.mono (fun _ => id) (fun _ => id),
    fun claims => claims.mono (fun _ => id) (fun _ => id)⟩

theorem mitigatingStatus_claims (wants : Wants policy event drop) :
    Claims (mitigatingStatus policy.status (intent policy event) event now) drop := by
  cases drop with
  | source address =>
      refine .source event.sourceIP address ?_ wants.2
      simp only [mitigatingStatus, wants.1, if_true]
      exact mem_appendUnique.mpr (.inr rfl)
  | tunnel address teid =>
      obtain ⟨blocks, parsed, rfl⟩ := wants
      refine .tunnel (formatTunnel event.sourceIP event.teid) address _ ?_
        (parseTunnel_formatTunnel _ _ _ parsed)
      simp only [mitigatingStatus, blocks, if_true]
      exact mem_appendUnique.mpr (.inr rfl)

theorem mem_of_equalStringSet {ips : List String} {ip : String}
    (same : equalStringSet ips (appendUnique ips ip) = true) : ip ∈ ips := by
  by_contra absent
  rw [appendUnique, if_neg absent, equalStringSet, if_pos (by simp)] at same
  cases same

theorem statusDecisionChanged_false {prev next : TelecomSecurityPolicy}
    (unchanged : statusDecisionChanged prev next = false) :
    prev.status.phase = next.status.phase ∧
    equalStringSet prev.status.blockedSourceIPs next.status.blockedSourceIPs = true ∧
    equalStringSet prev.status.blockedTunnels next.status.blockedTunnels = true := by
  rw [statusDecisionChanged] at unchanged
  by_cases phase : prev.status.phase = next.status.phase
  · rw [if_neg (not_not.mpr phase)] at unchanged
    cases sources : equalStringSet prev.status.blockedSourceIPs next.status.blockedSourceIPs with
    | false => simp [sources] at unchanged
    | true =>
        rw [sources, if_neg (by decide), Bool.not_eq_false'] at unchanged
        exact ⟨phase, rfl, unchanged⟩
  · rw [if_pos phase] at unchanged
    cases unchanged

/-- When the decision does not change, the copy claims the drops already. -/
theorem unchanged_claims (wants : Wants policy event drop)
    (unchanged : statusDecisionChanged policy { policy with
      status := mitigatingStatus policy.status (intent policy event) event now } = false) :
    Claims policy.status drop := by
  obtain ⟨-, sources, tunnels⟩ := statusDecisionChanged_false unchanged
  cases drop with
  | source address =>
      simp only [mitigatingStatus, wants.1, if_true] at sources
      exact .source event.sourceIP address (mem_of_equalStringSet sources) wants.2
  | tunnel address teid =>
      obtain ⟨blocks, parsed, rfl⟩ := wants
      simp only [mitigatingStatus, blocks, if_true] at tunnels
      exact .tunnel _ address _ (mem_of_equalStringSet tunnels)
        (parseTunnel_formatTunnel _ _ _ parsed)

end Record

structure Ambient (before after : World) : Prop where
  engaged : after.engaged = before.engaged
  clock : after.clock = before.clock
  allows : after.allows = before.allows

theorem Ambient.refl (world : World) : Ambient world world := ⟨rfl, rfl, rfl⟩

theorem Ambient.trans {first second third : World} (earlier : Ambient first second)
    (later : Ambient second third) : Ambient first third :=
  ⟨later.engaged.trans earlier.engaged, later.clock.trans earlier.clock,
    later.allows.trans earlier.allows⟩

theorem exec_ambient (choice : Choice) (op : Op) (world : World) :
    Ambient world (exec choice op world).2 :=
  ⟨exec_engaged choice op world, exec_clock choice op world, exec_allows choice op world⟩

theorem ends_ambient {α : Type} (program : Action α) (world : World) :
    program.Ends exec anyChoice (fun _ final => Ambient world final) world :=
  Ends.of_step program (fun choice op current _ held => held.trans (exec_ambient choice op current))
    (.refl world)

/-- The limiter withholds a write that would change no decision. -/
def Skips (prev next : TelecomSecurityPolicy) (world : World) : Prop :=
  statusDecisionChanged prev next = false ∧ world.allows next.key = false

instance (prev next : TelecomSecurityPolicy) (world : World) : Decidable (Skips prev next world) :=
  inferInstanceAs (Decidable (_ ∧ _))

structure WriteFrame (key : NamespacedName) (before after : World) : Prop where
  loader : after.loader = before.loader
  mesh : after.mesh = before.mesh
  others : ∀ other ≠ key, after.server.persisted other = before.server.persisted other

theorem exec_updateStatus_frame (choice : Choice) (sent : TelecomSecurityPolicy) (world : World) :
    WriteFrame sent.key world (exec choice (.updateStatus sent) world).2 := by
  refine ⟨exec_loader choice _ world id, exec_mesh choice _ world id, fun other different => ?_⟩
  rcases write_state choice world ((world.server.updateStatus sent).1,
    { world with server := (world.server.updateStatus sent).2 }) with unchanged | applied
  · rw [exec, unchanged]
  · rw [exec, applied]
    exact Server.persisted_replace_of_ne different

theorem exec_updateStatus_ok {choice : Choice} {sent updated : TelecomSecurityPolicy}
    {world : World} (accepted : (exec choice (.updateStatus sent) world).1 = .ok updated) :
    (exec choice (.updateStatus sent) world).2.server.persisted sent.key = some updated ∧
      updated.status = sent.status.stored := by
  have effect := write_ok choice world _ accepted
  rw [exec, effect] at accepted ⊢
  exact Server.updateStatus_ok accepted

theorem updateStatus_ends (next : TelecomSecurityPolicy) (world : World) :
    (updateStatus next).Ends exec anyChoice
      (fun outcome final => WriteFrame next.key world final ∧ (outcome = .ok () →
        ∃ current, final.server.persisted next.key = some current ∧
          current.status = next.status.stored)) world := by
  intro choice _
  have frame := exec_updateStatus_frame choice next world
  cases answer : (exec choice (.updateStatus next) world).1 with
  | error err => exact ⟨frame, fun impossible => by cases impossible⟩
  | ok updated =>
      intro _ _
      exact ⟨⟨frame.loader, frame.mesh, frame.others⟩,
        fun _ => ⟨updated, exec_updateStatus_ok answer⟩⟩

theorem writeStatus_ends (prev next : TelecomSecurityPolicy) (world : World) :
    (writeStatus prev next).Ends exec anyChoice
      (fun outcome final => WriteFrame next.key world final ∧
        (Skips prev next world → outcome = .ok () ∧ final = world) ∧
        (outcome = .ok () → ¬ Skips prev next world →
          ∃ current, final.server.persisted next.key = some current ∧
            current.status = next.status.stored)) world := by
  have writes : (¬ Skips prev next world) → (updateStatus next).Ends exec anyChoice
      (fun outcome final => WriteFrame next.key world final ∧
        (Skips prev next world → outcome = .ok () ∧ final = world) ∧
        (outcome = .ok () → ¬ Skips prev next world →
          ∃ current, final.server.persisted next.key = some current ∧
            current.status = next.status.stored)) world :=
    fun sent => (updateStatus_ends next world).mono (fun _ _ held =>
      ⟨held.1, fun skips => absurd skips sent, fun success _ => held.2 success⟩)
  refine ends_writeStatus (fun changed => writes ?_) (fun _ _ _ allowed => writes ?_)
    (fun unchanged _ _ withheld => ?_)
  · rintro ⟨unchanged, -⟩
    rw [changed] at unchanged
    cases unchanged
  · rintro ⟨-, withheld⟩
    cases allowed.symm.trans withheld
  · have skips : Skips prev next world := ⟨unchanged, withheld⟩
    exact ⟨⟨rfl, rfl, fun _ _ => rfl⟩, fun _ => ⟨rfl, rfl⟩, fun _ writes => absurd skips writes⟩

/-- Nothing is lost, and what is new is one of `fresh`. -/
structure GrowsBy (fresh : Drop → Prop) (before after : Loader) : Prop where
  kept : ∀ drop, before.Holds drop → after.Holds drop
  added : ∀ drop, after.Holds drop → before.Holds drop ∨ fresh drop

namespace GrowsBy

variable {fresh : Drop → Prop} {before middle after : Loader}

theorem of_eq (same : after = before) : GrowsBy fresh before after :=
  ⟨fun _ held => same ▸ held, fun _ held => .inl (same ▸ held)⟩

theorem mono {wider : Drop → Prop} (grows : GrowsBy fresh before after)
    (within : ∀ drop, fresh drop → wider drop) : GrowsBy wider before after :=
  ⟨grows.kept, fun drop held => (grows.added drop held).imp_right (within drop)⟩

theorem trans (earlier : GrowsBy fresh before middle) (later : GrowsBy fresh middle after) :
    GrowsBy fresh before after :=
  ⟨fun drop held => later.kept drop (earlier.kept drop held),
    fun drop held => (later.added drop held).elim (earlier.added drop) .inr⟩

theorem of_adds {drop : Drop} (adds : Loader.Adds before after drop) (wanted : fresh drop) :
    GrowsBy fresh before after where
  kept := fun other held => (adds.holds other).mpr (.inr held)
  added := by
    intro other held
    rcases (adds.holds other).mp held with rfl | earlier
    · exact .inr wanted
    · exact .inl earlier

end GrowsBy

section Execute

variable (watcher : ThreatScoreWatcher) (policy : TelecomSecurityPolicy) (event : ThreatScoreEvent)

theorem exec_executes_grows {policy : TelecomSecurityPolicy} {event : ThreatScoreEvent} {op : Op}
    (executes : ThreatScoreWatcher.Executes (intent policy event) event op) (choice : Choice)
    (world : World) :
    GrowsBy (Wants policy event) world.loader (exec choice op world).2.loader := by
  cases op with
  | block ip =>
      obtain ⟨blocks, parsed⟩ := executes
      change parseIP event.sourceIP = some ip at parsed
      rcases exec_block choice ip world with ⟨err, failed⟩ | ⟨after, address, long, adds, done⟩
      · rw [failed]
        exact .of_eq rfl
      · rw [done]
        have same := address_of_parse (parseIP_length _ _ parsed) long
        exact .of_adds adds ⟨blocks, same ▸ parsed⟩
  | blockTunnel ip teid =>
      obtain ⟨blocks, parsed, rfl⟩ := executes
      change parseIP event.sourceIP = some ip at parsed
      rcases exec_blockTunnel choice ip event.teid world with
        ⟨err, failed⟩ | ⟨after, address, long, -, adds, done⟩
      · rw [failed]
        exact .of_eq rfl
      · rw [done]
        have same := address_of_parse (parseIP_length _ _ parsed) long
        exact .of_adds adds ⟨blocks, same ▸ parsed, rfl⟩
  | _ => exact .of_eq (exec_loader choice _ world (by first | exact id | exact executes.elim))

theorem executes_grow {α : Type} {program : Action α}
    (asks : program.AsksOnly (ThreatScoreWatcher.Executes (intent policy event) event))
    (world : World) :
    program.Ends exec anyChoice
      (fun _ final => GrowsBy (Wants policy event) world.loader final.loader) world :=
  Ends.of_asksOnly asks (fun choice _ current _ executes held =>
    held.trans (exec_executes_grows executes choice current)) (.of_eq rfl)

theorem executeBlockTunnel_ends (world : World) :
    (executeBlockTunnel (intent policy event) event).Ends exec anyChoice
      (fun outcome final => outcome = .ok () → ∀ address teid,
        Wants policy event (.tunnel address teid) → final.loader.Holds (.tunnel address teid))
      world := by
  rw [executeBlockTunnel]
  split
  · rename_i ip blocks parsed
    intro choice _
    rcases exec_blockTunnel choice ip event.teid world with
      ⟨err, failed⟩ | ⟨after, address, long, -, adds, done⟩
    · rw [failed]
      exact fun impossible => by cases impossible
    · rw [done]
      rintro - other teid ⟨-, known, rfl⟩
      change parseIP event.sourceIP = some ip at parsed
      have same := address_of_parse (parseIP_length _ _ parsed) long
      rw [parsed, Option.some.injEq, same] at known
      exact (adds.holds _).mpr (.inl (by rw [Subtype.ext known]))
  · rename_i idle
    rintro - address teid ⟨blocks, known, -⟩
    exact (idle address.val blocks known).elim

theorem executeBlock_ends (world : World) :
    (executeBlock (intent policy event) event).Ends exec anyChoice
      (fun outcome final => outcome = .ok () → ∀ address,
        Wants policy event (.source address) → final.loader.Holds (.source address)) world := by
  rw [executeBlock]
  split
  · rename_i ip blocks parsed
    intro choice _
    rcases exec_block choice ip world with ⟨err, failed⟩ | ⟨after, address, long, adds, done⟩
    · rw [failed]
      exact fun impossible => by cases impossible
    · rw [done]
      rintro - other ⟨-, known⟩
      change parseIP event.sourceIP = some ip at parsed
      have same := address_of_parse (parseIP_length _ _ parsed) long
      rw [parsed, Option.some.injEq, same] at known
      exact (adds.holds _).mpr (.inl (by rw [Subtype.ext known]))
  · rename_i idle
    rintro - address ⟨blocks, known⟩
    exact (idle address.val blocks known).elim

/-- Success means that the kernel holds every drop that was asked for. -/
theorem execute_ends (world : World) :
    (watcher.execute policy (intent policy event) event).Ends exec anyChoice
      (fun outcome final => outcome = .ok () → ∀ drop, Wants policy event drop →
        final.loader.Holds drop) world := by
  refine Ends.bind ((executeBlockTunnel_ends policy event world).mono
    (fun outcome tunnels blocked => ?_))
  cases outcome with
  | error err => exact fun impossible => by cases impossible
  | ok done =>
      refine Ends.bind ((Ends.and (executeBlock_ends policy event tunnels)
        (executes_grow policy event (ThreatScoreWatcher.executeBlock_asks _ event) tunnels)).mono
          (fun outcome sources placed => ?_))
      cases outcome with
      | error err => exact fun impossible => by cases impossible
      | ok done =>
          refine (executes_grow policy event ((ThreatScoreWatcher.executeQuarantine_asks _ _ _).mono
            ThreatScoreWatcher.executes_of_onMesh) sources).mono
              (fun outcome final grows _ drop wants => grows.kept drop ?_)
          cases drop with
          | source address => exact placed.1 rfl address wants
          | tunnel address teid => exact placed.2.kept _ (blocked rfl address teid wants)

end Execute

namespace ThreatScoreWatcher

variable (watcher : ThreatScoreWatcher) (policy : TelecomSecurityPolicy) (event : ThreatScoreEvent)

def SkipsWrite (world : World) : Prop := Skips policy (watcher.scored policy event world) world

structure Applied (before : World) (outcome : Except Err Unit) (after : World) : Prop where
  ambient : Ambient before after
  others : ∀ other ≠ policy.key, after.server.persisted other = before.server.persisted other
  grows : GrowsBy (fun drop => watcher.Armed policy event before.engaged ∧ Wants policy event drop)
    before.loader after.loader
  skipped : watcher.SkipsWrite policy event before → after.server = before.server
  landed : outcome = .ok () → watcher.Armed policy event before.engaged →
    ∀ drop, Wants policy event drop → after.loader.Holds drop ∧
      (¬ watcher.SkipsWrite policy event before →
        ∃ current, after.server.persisted policy.key = some current ∧ Claims current.status drop)

theorem afterWrite_server (engaged : Bool) (outcome : Except Err Unit) (world : World) :
    (watcher.afterWrite policy event engaged outcome).Ends exec anyChoice
      (fun _ final => final.server = world.server) world :=
  Ends.of_asksOnly (watcher.afterWrite_asks policy event engaged outcome)
    (fun choice op current _ executes held =>
      (exec_server choice op current (executes_frame op executes)).trans held) rfl

theorem afterWrite_grows (engaged : Bool) (outcome : Except Err Unit) (world : World) :
    (watcher.afterWrite policy event engaged outcome).Ends exec anyChoice
      (fun _ final => GrowsBy (fun drop => watcher.Armed policy event engaged ∧
        Wants policy event drop) world.loader final.loader) world := by
  cases outcome with
  | error err => exact .of_eq rfl
  | ok done =>
      rw [afterWrite]
      split
      · rename_i armed
        exact (executes_grow policy event (watcher.execute_asks policy _ event) world).mono
          (fun _ final grows => grows.mono fun drop wants => ⟨armed, wants⟩)
      · exact .of_eq rfl

theorem afterWrite_lands (engaged : Bool) (outcome : Except Err Unit) (world : World) :
    (watcher.afterWrite policy event engaged outcome).Ends exec anyChoice
      (fun result final => result = .ok () → watcher.Armed policy event engaged →
        outcome = .ok () ∧ ∀ drop, Wants policy event drop → final.loader.Holds drop) world := by
  cases outcome with
  | error err => exact fun impossible => by cases impossible
  | ok done =>
      rw [afterWrite]
      split
      · exact (execute_ends watcher policy event world).mono
          (fun _ _ held success _ => ⟨rfl, held success⟩)
      · rename_i idle
        exact fun _ armed => absurd armed idle

theorem applyPolicy_ends (world : World) :
    (watcher.applyPolicy policy event).Ends exec anyChoice
      (watcher.Applied policy event world) world := by
  refine (watcher.applyPolicy_reads policy event world).ends (Ends.bind ?_)
  refine (Ends.and (ends_ambient _ world) (writeStatus_ends policy _ world)).mono
    (fun written middle after => ?_)
  obtain ⟨ambient, frame, skip, wrote⟩ := after
  have kernel := watcher.afterWrite_grows policy event world.engaged written middle
  have lands := watcher.afterWrite_lands policy event world.engaged written middle
  have server := watcher.afterWrite_server policy event world.engaged written middle
  refine (Ends.and (ends_ambient _ middle) (Ends.and kernel (Ends.and lands server))).mono
    (fun outcome final ended => ?_)
  obtain ⟨later, grows, landed, same⟩ := ended
  rw [frame.loader] at grows
  refine ⟨ambient.trans later, fun other different => ?_, grows, fun skips => ?_,
    fun success armed drop wants => ⟨(landed success armed).2 drop wants, fun writes => ?_⟩⟩
  · rw [same]
    exact frame.others other different
  · rw [same, (skip skips).2]
  · obtain ⟨current, stored, status⟩ := wrote (landed success armed).1 writes
    refine ⟨current, by rw [same]; exact stored, ?_⟩
    rw [status, claims_stored, scored, scoredStatus, if_pos armed]
    exact mitigatingStatus_claims wants

end ThreatScoreWatcher

end Sentinel5G.Controller
