import Sentinel5G.Api.Policy

/-! The API server's side of the policies and Pods: optimistic concurrency on
`resourceVersion`, the status subresource, finalizers, and the earlier versions
a lagging cache may still return. -/

namespace Sentinel5G.Api

open Base

def Alive (policy : TelecomSecurityPolicy) : Prop :=
  policy.deletionTimestamp.isSome → policy.finalizers ≠ []

structure Server where
  revision : Nat
  /-- Every version of each object, newest first; `none` where it did not exist. -/
  policies : Std.ExtTreeMap NamespacedName (List (Option TelecomSecurityPolicy)) NamespacedName.cmp
  keyed : ∀ (key : NamespacedName) (policy : TelecomSecurityPolicy), some policy ∈
    policies[key]?.getD [] →
    policy.key = key
  bounded : ∀ (key : NamespacedName) (policy : TelecomSecurityPolicy),
    some policy ∈ policies[key]?.getD [] →
    policy.resourceVersion ≤ revision
  distinct : ∀ (key : NamespacedName) (first second : TelecomSecurityPolicy),
    some first ∈ policies[key]?.getD [] →
    some second ∈ policies[key]?.getD [] → first.resourceVersion = second.resourceVersion →
    first = second
  alive : ∀ (key : NamespacedName) (policy : TelecomSecurityPolicy),
    some policy ∈ policies[key]?.getD [] → Alive policy

def notFoundErr (resource : String) (key : NamespacedName) : Err :=
  ⟨.notFound, resource ++ " " ++ quoted key.name ++ " not found"⟩

def conflictErr (resource : String) (key : NamespacedName) : Err :=
  ⟨.conflict, "Operation cannot be fulfilled on " ++ resource ++ " " ++ quoted key.name ++
    ": the object has been modified; please apply your changes to the latest version and try again"⟩

def policyResource : String := "telecomsecuritypolicies.security.sentinel5g.io"

namespace Server

def empty : Server where
  revision := 0
  policies := ∅
  keyed := by simp
  bounded := by simp
  distinct := by simp
  alive := by simp

def history (server : Server) (key : NamespacedName) : List (Option TelecomSecurityPolicy) :=
  server.policies[key]?.getD []

def persisted (server : Server) (key : NamespacedName) : Option TelecomSecurityPolicy :=
  (server.history key).head?.join

/-- What a cache that lags `lag` versions behind returns. -/
def cached (server : Server) (key : NamespacedName) (lag : Nat) : Option TelecomSecurityPolicy :=
  (server.history key)[lag]?.join

theorem cached_zero (server : Server) (key : NamespacedName) :
    server.cached key 0 = server.persisted key := by
  rw [cached, persisted, List.head?_eq_getElem?]

theorem mem_insert_history (server : Server) (key other : NamespacedName)
    (version : Option TelecomSecurityPolicy) (policy : TelecomSecurityPolicy)
    (member : some policy ∈
      (server.policies.insert key (version :: server.history key))[other]?.getD []) :
    (other = key ∧ version = some policy) ∨ some policy ∈ server.history other := by
  simp only [Std.ExtTreeMap.getElem?_insert, Std.LawfulEqCmp.compare_eq_iff_eq] at member
  split at member
  · rename_i same
    subst same
    rw [Option.getD_some, List.mem_cons] at member
    exact member.imp (fun newest => ⟨rfl, newest.symm⟩) id
  · exact .inr member

def Fresh (server : Server) (key : NamespacedName) (version : Option TelecomSecurityPolicy) :
    Prop :=
  ∀ policy, version = some policy →
    policy.key = key ∧ policy.resourceVersion = server.revision + 1 ∧ Alive policy

def record (server : Server) (key : NamespacedName) (version : Option TelecomSecurityPolicy)
    (fresh : server.Fresh key version) : Server where
  revision := server.revision + 1
  policies := server.policies.insert key (version :: server.history key)
  keyed := by
    intro other policy member
    rcases mem_insert_history server key other version policy member with ⟨rfl, newest⟩ | older
    · exact (fresh policy newest).1
    · exact server.keyed other policy older
  bounded := by
    intro other policy member
    rcases mem_insert_history server key other version policy member with ⟨rfl, newest⟩ | older
    · exact (fresh policy newest).2.1.le
    · exact Nat.le_succ_of_le (server.bounded other policy older)
  distinct := by
    intro other first second memberFirst memberSecond same
    rcases mem_insert_history server key other version first memberFirst with
      ⟨rfl, newestFirst⟩ | olderFirst <;>
    rcases mem_insert_history server _ _ version second memberSecond with
      ⟨sameKey, newestSecond⟩ | olderSecond
    · exact Option.some.inj (newestFirst.symm.trans newestSecond)
    · have bound := server.bounded _ second olderSecond
      have version := (fresh first newestFirst).2.1
      omega
    · have bound := server.bounded _ first olderFirst
      have version := (fresh second newestSecond).2.1
      omega
    · exact server.distinct other first second olderFirst olderSecond same
  alive := by
    intro other policy member
    rcases mem_insert_history server key other version policy member with ⟨rfl, newest⟩ | older
    · exact (fresh policy newest).2.2
    · exact server.alive other policy older

def written (server : Server) (key : NamespacedName) (policy : TelecomSecurityPolicy) :
    TelecomSecurityPolicy :=
  { policy with key := key, resourceVersion := server.revision + 1 }

theorem written_fresh (server : Server) (key : NamespacedName) (policy : TelecomSecurityPolicy)
    (alive : Alive policy) : server.Fresh key (some (server.written key policy)) := by
  intro stored same
  cases same
  exact ⟨rfl, rfl, alive⟩

theorem none_fresh (server : Server) (key : NamespacedName) : server.Fresh key none :=
  fun _ impossible => by cases impossible

def store (server : Server) (key : NamespacedName) (policy : TelecomSecurityPolicy)
    (alive : Alive policy) : Server :=
  server.record key (some (server.written key policy)) (server.written_fresh key policy alive)

def discard (server : Server) (key : NamespacedName) : Server :=
  server.record key none (server.none_fresh key)

theorem mem_history_of_persisted {server : Server} {key : NamespacedName}
    {policy : TelecomSecurityPolicy} (stored : server.persisted key = some policy) :
    some policy ∈ server.history key := by
  rw [persisted] at stored
  cases shape : server.history key with
  | nil => simp [shape] at stored
  | cons newest older =>
      rw [shape, List.head?_cons, Option.join_some] at stored
      rw [stored]
      exact List.mem_cons_self

theorem alive_of_persisted {server : Server} {key : NamespacedName}
    {policy : TelecomSecurityPolicy} (stored : server.persisted key = some policy) : Alive policy :=
  server.alive key policy (mem_history_of_persisted stored)

/-- An update of the stored object to `next`, refused when the sender's copy is
not the stored version. An update that changes nothing writes nothing, and one
that leaves a deleted object without finalizers removes it. -/
def replace (server : Server) (sent : TelecomSecurityPolicy)
    (next : TelecomSecurityPolicy → TelecomSecurityPolicy) :
    Except Err TelecomSecurityPolicy × Server :=
  match server.persisted sent.key with
  | none => (.error (notFoundErr policyResource sent.key), server)
  | some current =>
      if sent.resourceVersion ≠ current.resourceVersion then
        (.error (conflictErr policyResource sent.key), server)
      else if next current = current then (.ok current, server)
      else if gone : (next current).deletionTimestamp.isSome ∧ (next current).finalizers = [] then
        (.ok (next current), server.discard sent.key)
      else
        (.ok (server.written sent.key (next current)),
          server.store sent.key (next current) (fun deleting free => gone ⟨deleting, free⟩))

def withStatus (sent current : TelecomSecurityPolicy) : TelecomSecurityPolicy :=
  { current with status := sent.status.stored }

def withObject (sent current : TelecomSecurityPolicy) : TelecomSecurityPolicy :=
  { current with
    finalizers := sent.finalizers
    spec := sent.spec
    generation := if sent.spec = current.spec then current.generation else current.generation + 1 }

/-- `Status().Update`: only the status of the sent object is taken over. -/
def updateStatus (server : Server) (sent : TelecomSecurityPolicy) :
    Except Err TelecomSecurityPolicy × Server :=
  server.replace sent (withStatus sent)

/-- `Update`: everything but the status is taken over. -/
def update (server : Server) (sent : TelecomSecurityPolicy) :
    Except Err TelecomSecurityPolicy × Server :=
  server.replace sent (withObject sent)

def create (server : Server) (key : NamespacedName) (spec : PolicySpec) : Server :=
  match server.persisted key with
  | some _ => server
  | none =>
      server.store key {
        key := key
        resourceVersion := 0
        generation := 1
        deletionTimestamp := none
        finalizers := []
        spec := spec
        status := .initial } (fun deleting => nomatch deleting)

def editSpec (server : Server) (key : NamespacedName) (spec : PolicySpec) : Server :=
  match stored : server.persisted key with
  | none => server
  | some current =>
      if spec = current.spec then server
      else server.store key { current with spec := spec, generation := current.generation + 1 }
        (show Alive current from alive_of_persisted stored)

/-- A user deletes the object: it is marked while finalizers remain. -/
def requestDelete (server : Server) (key : NamespacedName) (now : Time) : Server :=
  match server.persisted key with
  | none => server
  | some current =>
      if current.deletionTimestamp.isSome then server
      else if held : current.finalizers = [] then server.discard key
      else server.store key { current with deletionTimestamp := some (wholeSeconds now) }
        (fun _ => held)

def listCached (server : Server) (lag : NamespacedName → Nat) : List TelecomSecurityPolicy :=
  server.policies.keys.filterMap (fun key => server.cached key (lag key))

section Record

variable (server : Server) {key other : NamespacedName} {version : Option TelecomSecurityPolicy}
  (fresh : server.Fresh key version)

theorem history_record_self :
    (server.record key version fresh).history key = version :: server.history key := by
  simp only [record, history, Std.ExtTreeMap.getElem?_insert_self, Option.getD_some]

theorem history_record_of_ne (different : other ≠ key) :
    (server.record key version fresh).history other = server.history other := by
  have compared : NamespacedName.cmp key other ≠ .eq := by
    rw [ne_eq, Std.LawfulEqCmp.compare_eq_iff_eq]
    exact fun same => different same.symm
  simp only [record, history, Std.ExtTreeMap.getElem?_insert, compared, if_false]

theorem persisted_record_self : (server.record key version fresh).persisted key = version := by
  rw [persisted, history_record_self, List.head?_cons]
  rfl

theorem persisted_record_of_ne (different : other ≠ key) :
    (server.record key version fresh).persisted other = server.persisted other := by
  rw [persisted, persisted, history_record_of_ne server fresh different]

end Record

theorem mem_history_of_cached {server : Server} {key : NamespacedName} {lag : Nat}
    {policy : TelecomSecurityPolicy} (found : server.cached key lag = some policy) :
    some policy ∈ server.history key := by
  rw [cached, Option.join_eq_some_iff] at found
  exact List.mem_of_getElem? found

/-- What an update can do: fail and change nothing, find nothing to change,
remove the object, or store a new version. -/
theorem replace_cases (server : Server) (sent : TelecomSecurityPolicy)
    (next : TelecomSecurityPolicy → TelecomSecurityPolicy) :
    (∃ err, server.replace sent next = (.error err, server)) ∨
    ∃ current, server.persisted sent.key = some current ∧
      sent.resourceVersion = current.resourceVersion ∧
      ((next current = current ∧ server.replace sent next = (.ok current, server)) ∨
        ((next current).deletionTimestamp.isSome ∧ (next current).finalizers = [] ∧
          server.replace sent next = (.ok (next current), server.discard sent.key)) ∨
        ∃ alive, server.replace sent next =
          (.ok (server.written sent.key (next current)),
            server.store sent.key (next current) alive)) := by
  cases stored : server.persisted sent.key with
  | none => exact .inl ⟨_, by rw [replace, stored]⟩
  | some current =>
      by_cases stale : sent.resourceVersion = current.resourceVersion
      · refine .inr ⟨current, rfl, stale, ?_⟩
        by_cases idle : next current = current
        · exact .inl ⟨idle, by simp only [replace, stored, stale, idle, ne_eq, not_true_eq_false,
            if_false, if_true]⟩
        · by_cases gone : (next current).deletionTimestamp.isSome ∧ (next current).finalizers = []
          · exact .inr (.inl ⟨gone.1, gone.2, by simp only [replace, stored, stale, idle, gone,
              ne_eq, not_true_eq_false, if_false, and_self, dif_pos]⟩)
          · exact .inr (.inr ⟨fun deleting free => gone ⟨deleting, free⟩, by
              simp only [replace, stored, stale, idle, gone, ne_eq, not_true_eq_false, if_false,
                dif_neg, not_false_eq_true]⟩)
      · refine .inl ⟨conflictErr policyResource sent.key, ?_⟩
        simp only [replace, stored, stale, ne_eq, not_false_eq_true, if_true]

theorem mem_history_record {server : Server} {key other : NamespacedName}
    {version : Option TelecomSecurityPolicy} {policy : TelecomSecurityPolicy}
    (fresh : server.Fresh key version)
    (member : some policy ∈ (server.record key version fresh).history other) :
    (other = key ∧ version = some policy) ∨ some policy ∈ server.history other :=
  mem_insert_history server key other version policy member

theorem mem_history_replace {server : Server} {sent policy : TelecomSecurityPolicy}
    {next : TelecomSecurityPolicy → TelecomSecurityPolicy} {key : NamespacedName}
    (member : some policy ∈ (server.replace sent next).2.history key) :
    some policy ∈ server.history key ∨
    ∃ current, key = sent.key ∧ server.persisted sent.key = some current ∧
      sent.resourceVersion = current.resourceVersion ∧
      policy = server.written sent.key (next current) := by
  rcases replace_cases server sent next with ⟨err, failed⟩ | ⟨current, stored, sameVersion,
    ⟨-, idle⟩ | ⟨-, -, gone⟩ | ⟨alive, replaced⟩⟩
  · rw [failed] at member
    exact .inl member
  · rw [idle] at member
    exact .inl member
  · rw [gone] at member
    rcases mem_history_record (server.none_fresh sent.key) member with ⟨-, impossible⟩ | older
    · cases impossible
    · exact .inl older
  · rw [replaced] at member
    rcases mem_history_record (server.written_fresh sent.key _ alive) member with ⟨sameKey, newest⟩
      | older
    · exact .inr ⟨current, sameKey, stored, sameVersion, (Option.some.inj newest).symm⟩
    · exact .inl older

theorem history_record_mono {server : Server} {key other : NamespacedName}
    {version : Option TelecomSecurityPolicy} {policy : TelecomSecurityPolicy}
    (fresh : server.Fresh key version) (member : some policy ∈ server.history other) :
    some policy ∈ (server.record key version fresh).history other := by
  by_cases same : other = key
  · subst same
    rw [history_record_self]
    exact List.mem_cons_of_mem _ member
  · rw [history_record_of_ne server fresh same]
    exact member

theorem history_replace_mono {server : Server} {sent policy : TelecomSecurityPolicy}
    {next : TelecomSecurityPolicy → TelecomSecurityPolicy} {key : NamespacedName}
    (member : some policy ∈ server.history key) :
    some policy ∈ (server.replace sent next).2.history key := by
  rcases replace_cases server sent next with ⟨err, failed⟩ | ⟨current, -, -,
    ⟨-, idle⟩ | ⟨-, -, gone⟩ | ⟨alive, replaced⟩⟩
  · rw [failed]
    exact member
  · rw [idle]
    exact member
  · rw [gone]
    exact history_record_mono (server.none_fresh sent.key) member
  · rw [replaced]
    exact history_record_mono (server.written_fresh sent.key _ alive) member

theorem replace_accepts {server : Server} {sent current : TelecomSecurityPolicy}
    (next : TelecomSecurityPolicy → TelecomSecurityPolicy)
    (stored : server.persisted sent.key = some current)
    (sameVersion : sent.resourceVersion = current.resourceVersion) :
    ∃ updated, (server.replace sent next).1 = .ok updated := by
  rw [replace, stored]
  simp only [sameVersion, ne_eq, not_true_eq_false, if_false]
  split
  · exact ⟨_, rfl⟩
  · split
    · exact ⟨_, rfl⟩
    · exact ⟨_, rfl⟩

theorem replace_ok {server : Server} {sent policy : TelecomSecurityPolicy}
    {next : TelecomSecurityPolicy → TelecomSecurityPolicy}
    (accepted : (server.replace sent next).1 = .ok policy) :
    ∃ current, server.persisted sent.key = some current ∧
      sent.resourceVersion = current.resourceVersion ∧
      policy.status = (next current).status ∧ policy.spec = (next current).spec ∧
      ((server.replace sent next).2.persisted sent.key = some policy ∨
        ((next current).deletionTimestamp.isSome ∧ (next current).finalizers = [] ∧
          (server.replace sent next).2.persisted sent.key = none)) := by
  rcases replace_cases server sent next with ⟨err, failed⟩ | ⟨current, stored, sameVersion,
    ⟨same, idle⟩ | ⟨deleting, free, gone⟩ | ⟨alive, replaced⟩⟩
  · rw [failed] at accepted
    cases accepted
  · rw [idle] at accepted
    cases accepted
    refine ⟨policy, stored, sameVersion, by rw [same], by rw [same], .inl ?_⟩
    rw [idle]
    exact stored
  · rw [gone] at accepted
    cases accepted
    refine ⟨current, stored, sameVersion, rfl, rfl, .inr ⟨deleting, free, ?_⟩⟩
    rw [gone]
    exact persisted_record_self _ (server.none_fresh sent.key)
  · rw [replaced] at accepted
    cases accepted
    refine ⟨current, stored, sameVersion, rfl, rfl, .inl ?_⟩
    rw [replaced]
    exact persisted_record_self _ (server.written_fresh sent.key _ alive)

theorem replace_ok_finalizers {server : Server} {sent policy : TelecomSecurityPolicy}
    {next : TelecomSecurityPolicy → TelecomSecurityPolicy}
    (accepted : (server.replace sent next).1 = .ok policy) :
    ∃ current, server.persisted sent.key = some current ∧
      sent.resourceVersion = current.resourceVersion ∧
      policy.finalizers = (next current).finalizers := by
  rcases replace_cases server sent next with ⟨err, failed⟩ | ⟨current, stored, sameVersion,
    ⟨same, idle⟩ | ⟨-, -, gone⟩ | ⟨alive, replaced⟩⟩
  · rw [failed] at accepted
    cases accepted
  · rw [idle] at accepted
    cases accepted
    exact ⟨policy, stored, sameVersion, by rw [same]⟩
  · rw [gone] at accepted
    cases accepted
    exact ⟨current, stored, sameVersion, rfl⟩
  · rw [replaced] at accepted
    cases accepted
    exact ⟨current, stored, sameVersion, rfl⟩

theorem persisted_replace_of_ne {server : Server} {sent : TelecomSecurityPolicy}
    {next : TelecomSecurityPolicy → TelecomSecurityPolicy} {key : NamespacedName}
    (different : key ≠ sent.key) :
    (server.replace sent next).2.persisted key = server.persisted key := by
  rcases replace_cases server sent next with ⟨err, failed⟩ | ⟨current, -, -,
    ⟨-, idle⟩ | ⟨-, -, gone⟩ | ⟨alive, replaced⟩⟩
  · rw [failed]
  · rw [idle]
  · rw [gone]
    exact persisted_record_of_ne server (server.none_fresh sent.key) different
  · rw [replaced]
    exact persisted_record_of_ne server (server.written_fresh sent.key _ alive) different

theorem persisted_key {server : Server} {key : NamespacedName} {policy : TelecomSecurityPolicy}
    (stored : server.persisted key = some policy) : policy.key = key :=
  server.keyed key policy (mem_history_of_persisted stored)

theorem replace_ok_key {server : Server} {sent policy : TelecomSecurityPolicy}
    (next : TelecomSecurityPolicy → TelecomSecurityPolicy)
    (sameKey : ∀ current, (next current).key = current.key)
    (accepted : (server.replace sent next).1 = .ok policy) : policy.key = sent.key := by
  rcases replace_cases server sent next with ⟨err, failed⟩ | ⟨current, stored, -,
    ⟨-, idle⟩ | ⟨-, -, gone⟩ | ⟨alive, replaced⟩⟩
  · rw [failed] at accepted
    cases accepted
  · rw [idle] at accepted
    cases accepted
    exact persisted_key stored
  · rw [gone] at accepted
    cases accepted
    rw [sameKey, persisted_key stored]
  · rw [replaced] at accepted
    cases accepted
    rfl

/-- A copy whose version is the stored one is the stored object. -/
theorem persisted_unique {server : Server} {key : NamespacedName}
    {copy current : TelecomSecurityPolicy} (known : some copy ∈ server.history key)
    (stored : server.persisted key = some current)
    (sameVersion : copy.resourceVersion = current.resourceVersion) : copy = current :=
  server.distinct key copy current known (mem_history_of_persisted stored) sameVersion

/-- What an update can do to the stored objects: leave them, replace the one it
was sent to, or remove that one. -/
theorem persisted_replace_cases (server : Server) (sent : TelecomSecurityPolicy)
    (next : TelecomSecurityPolicy → TelecomSecurityPolicy) (key : NamespacedName) :
    (server.replace sent next).2.persisted key = server.persisted key ∨
    ∃ current, key = sent.key ∧ server.persisted key = some current ∧
      sent.resourceVersion = current.resourceVersion ∧
      ((server.replace sent next).2.persisted key = some (server.written key (next current)) ∨
        ((next current).deletionTimestamp.isSome ∧ (next current).finalizers = [] ∧
          (server.replace sent next).2.persisted key = none)) := by
  by_cases same : key = sent.key
  · subst same
    rcases replace_cases server sent next with ⟨err, failed⟩ | ⟨current, stored, sameVersion,
      ⟨-, idle⟩ | ⟨deleting, free, gone⟩ | ⟨alive, replaced⟩⟩
    · exact .inl (by rw [failed])
    · exact .inl (by rw [idle])
    · refine .inr ⟨current, rfl, stored, sameVersion, .inr ⟨deleting, free, ?_⟩⟩
      rw [gone]
      exact persisted_record_self _ (server.none_fresh sent.key)
    · refine .inr ⟨current, rfl, stored, sameVersion, .inl ?_⟩
      rw [replaced]
      exact persisted_record_self _ (server.written_fresh sent.key _ alive)
  · exact .inl (persisted_replace_of_ne same)

theorem persisted_updateStatus_cases (server : Server) (sent : TelecomSecurityPolicy)
    (key : NamespacedName) :
    (server.updateStatus sent).2.persisted key = server.persisted key ∨
    ∃ current, key = sent.key ∧ server.persisted key = some current ∧
      sent.resourceVersion = current.resourceVersion ∧
      (server.updateStatus sent).2.persisted key =
        some (server.written key (withStatus sent current)) := by
  rcases persisted_replace_cases server sent (withStatus sent) key with same |
    ⟨current, sameKey, stored, sameVersion, replaced | ⟨deleting, free, -⟩⟩
  · exact .inl same
  · exact .inr ⟨current, sameKey, stored, sameVersion, replaced⟩
  · have alive : Alive current := alive_of_persisted stored
    exact absurd free (alive deleting)

theorem updateStatus_ok {server : Server} {sent policy : TelecomSecurityPolicy}
    (accepted : (server.updateStatus sent).1 = .ok policy) :
    (server.updateStatus sent).2.persisted sent.key = some policy ∧
      policy.status = sent.status.stored := by
  obtain ⟨current, stored, -, status, -, kept | ⟨deleting, free, -⟩⟩ := replace_ok accepted
  · exact ⟨kept, status⟩
  · have alive : Alive current := alive_of_persisted stored
    exact absurd free (alive deleting)

def Advances (before after : Server) : Prop :=
  after = before ∨ ∃ key version fresh, after = before.record key version fresh

theorem replace_advances (server : Server) (sent : TelecomSecurityPolicy)
    (next : TelecomSecurityPolicy → TelecomSecurityPolicy) :
    server.Advances (server.replace sent next).2 := by
  rcases replace_cases server sent next with ⟨err, failed⟩ | ⟨current, -, -,
    ⟨-, idle⟩ | ⟨-, -, gone⟩ | ⟨alive, replaced⟩⟩
  · exact .inl (by rw [failed])
  · exact .inl (by rw [idle])
  · rw [gone]
    exact .inr ⟨_, _, server.none_fresh sent.key, rfl⟩
  · rw [replaced]
    exact .inr ⟨_, _, server.written_fresh sent.key _ alive, rfl⟩

theorem create_advances (server : Server) (key : NamespacedName) (spec : PolicySpec) :
    server.Advances (server.create key spec) := by
  rw [create]
  split
  · exact .inl rfl
  · exact .inr ⟨_, _, _, rfl⟩

theorem editSpec_advances (server : Server) (key : NamespacedName) (spec : PolicySpec) :
    server.Advances (server.editSpec key spec) := by
  rw [editSpec]
  split
  · exact .inl rfl
  · split
    · exact .inl rfl
    · exact .inr ⟨_, _, _, rfl⟩

theorem requestDelete_advances (server : Server) (key : NamespacedName) (now : Time) :
    server.Advances (server.requestDelete key now) := by
  rw [requestDelete]
  split
  · exact .inl rfl
  · split
    · exact .inl rfl
    · split
      · exact .inr ⟨_, _, _, rfl⟩
      · exact .inr ⟨_, _, _, rfl⟩

namespace Advances

variable {before after : Server} {key : NamespacedName}

theorem revision (advances : before.Advances after) : before.revision ≤ after.revision := by
  rcases advances with rfl | ⟨written, version, fresh, rfl⟩
  · exact le_rfl
  · exact Nat.le_succ _

/-- What is stored afterwards was stored before, or is newer than everything was. -/
theorem persisted (advances : before.Advances after) {current : TelecomSecurityPolicy}
    (stored : after.persisted key = some current) :
    before.persisted key = some current ∨ before.revision < current.resourceVersion := by
  rcases advances with rfl | ⟨written, version, fresh, rfl⟩
  · exact .inl stored
  · by_cases same : key = written
    · subst same
      rw [persisted_record_self] at stored
      refine .inr ?_
      rw [(fresh current stored).2.1]
      exact Nat.lt_succ_self _
    · rw [persisted_record_of_ne before fresh same] at stored
      exact .inl stored

theorem keeps (advances : before.Advances after) {policy : TelecomSecurityPolicy}
    (known : some policy ∈ before.history key) : some policy ∈ after.history key := by
  rcases advances with rfl | ⟨written, version, fresh, rfl⟩
  · exact known
  · exact history_record_mono fresh known

theorem history (advances : before.Advances after) {policy : TelecomSecurityPolicy}
    (known : some policy ∈ after.history key) :
    some policy ∈ before.history key ∨ after.persisted key = some policy := by
  rcases advances with rfl | ⟨written, version, fresh, rfl⟩
  · exact .inl known
  · rcases mem_history_record fresh known with ⟨rfl, newest⟩ | older
    · exact .inr ((persisted_record_self before fresh).trans newest)
    · exact .inl older

end Advances

def NewestStored (server : Server) : Prop :=
  ∀ key current known, server.persisted key = some current → some known ∈ server.history key →
    known.resourceVersion ≤ current.resourceVersion

/-- The object has had `version`, and is not behind it now. -/
def Reached (server : Server) (key : NamespacedName) (version : Nat) : Prop :=
  version ≤ server.revision ∧
    ∀ current, server.persisted key = some current → version ≤ current.resourceVersion

def Outdated (server : Server) (key : NamespacedName) (version : Nat) : Prop :=
  version ≤ server.revision ∧
    ∀ current, server.persisted key = some current → version < current.resourceVersion

section Versions

variable {before after server : Server} {key : NamespacedName} {version : Nat}

theorem NewestStored.advances (newest : before.NewestStored) (advances : before.Advances after) :
    after.NewestStored := by
  intro key current known stored member
  rcases advances.history member with older | same
  · rcases advances.persisted stored with kept | later
    · exact newest key current known kept older
    · exact (before.bounded key known older).trans later.le
  · rw [Option.some.inj (stored.symm.trans same)]

theorem NewestStored.reached (newest : server.NewestStored) {known : TelecomSecurityPolicy}
    (member : some known ∈ server.history key) : server.Reached key known.resourceVersion :=
  ⟨server.bounded key known member, fun current stored => newest key current known stored member⟩

theorem Reached.advances (reached : before.Reached key version) (advances : before.Advances after) :
    after.Reached key version := by
  refine ⟨reached.1.trans advances.revision, fun current stored => ?_⟩
  rcases advances.persisted stored with kept | later
  · exact reached.2 current kept
  · exact (reached.1.trans_lt later).le

theorem Outdated.advances (outdated : before.Outdated key version)
    (advances : before.Advances after) : after.Outdated key version := by
  refine ⟨outdated.1.trans advances.revision, fun current stored => ?_⟩
  rcases advances.persisted stored with kept | later
  · exact outdated.2 current kept
  · exact outdated.1.trans_lt later

theorem Outdated.mono {older : Nat} (outdated : server.Outdated key version)
    (le : older ≤ version) : server.Outdated key older :=
  ⟨le.trans outdated.1, fun current stored => le.trans_lt (outdated.2 current stored)⟩

/-- An accepted update is what is stored then, or has removed it. -/
theorem replace_reached {sent policy : TelecomSecurityPolicy}
    {next : TelecomSecurityPolicy → TelecomSecurityPolicy}
    (keeps : ∀ current, (next current).resourceVersion = current.resourceVersion)
    (accepted : (server.replace sent next).1 = .ok policy)
    (reached : server.Reached sent.key version) :
    version ≤ policy.resourceVersion ∧
      (server.replace sent next).2.Reached sent.key policy.resourceVersion := by
  rcases replace_cases server sent next with ⟨err, failed⟩ | ⟨current, stored, -,
    ⟨-, idle⟩ | ⟨-, -, gone⟩ | ⟨alive, replaced⟩⟩
  · rw [failed] at accepted
    cases accepted
  · rw [idle] at accepted ⊢
    cases accepted
    refine ⟨reached.2 policy stored, server.bounded _ _ (mem_history_of_persisted stored),
      fun current found => ?_⟩
    rw [Option.some.inj (stored.symm.trans found)]
  · rw [gone] at accepted ⊢
    cases accepted
    rw [keeps]
    have bounded := server.bounded _ _ (mem_history_of_persisted stored)
    refine ⟨reached.2 current stored, Nat.le_succ_of_le bounded, fun found stands => ?_⟩
    rw [discard, persisted_record_self] at stands
    cases stands
  · rw [replaced] at accepted ⊢
    cases accepted
    refine ⟨Nat.le_succ_of_le reached.1, le_rfl, fun found stands => ?_⟩
    rw [store, persisted_record_self] at stands
    rw [← Option.some.inj stands]

theorem replace_outdates {sent policy current : TelecomSecurityPolicy}
    {next : TelecomSecurityPolicy → TelecomSecurityPolicy}
    (accepted : (server.replace sent next).1 = .ok policy)
    (stored : server.persisted sent.key = some current) (changes : next current ≠ current)
    (bounded : version ≤ server.revision) :
    (server.replace sent next).2.Outdated sent.key version := by
  rcases replace_cases server sent next with ⟨err, failed⟩ | ⟨found, same, -,
    ⟨unchanged, -⟩ | ⟨-, -, gone⟩ | ⟨alive, replaced⟩⟩
  · rw [failed] at accepted
    cases accepted
  · cases stored.symm.trans same
    exact absurd unchanged changes
  · rw [gone]
    refine ⟨Nat.le_succ_of_le bounded, fun found stands => ?_⟩
    rw [discard, persisted_record_self] at stands
    cases stands
  · rw [replaced]
    refine ⟨Nat.le_succ_of_le bounded, fun found stands => ?_⟩
    rw [store, persisted_record_self] at stands
    rw [← Option.some.inj stands]
    exact Nat.lt_succ_of_le bounded

end Versions

end Server

end Sentinel5G.Api
