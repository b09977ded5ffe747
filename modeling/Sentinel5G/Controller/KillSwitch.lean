import Sentinel5G.Api.Policy
import Sentinel5G.Base.Trace

/-! The kill switch: a ConfigMap that is read at most once per TTL, and what the
reads of a whole run come to. -/

namespace Sentinel5G.Controller

open Base Api

def killSwitchEngagedKey : String := "engaged"

def defaultKillSwitchTTL : Duration := 2 * second

structure KillSwitch where
  /-- Whether `Reader` is set. -/
  reader : Bool
  ttlConfigured : Duration
  lastChecked : Time
  engaged : Bool
  everRead : Bool
  deriving DecidableEq, Repr

/-- What one call of `Engaged` gets from its surroundings: the time when it looks at
the cached value, the answer to the `Get`, and the time when the answer is there. -/
structure Inquiry where
  asked : Time
  result : Except Err Labels
  answered : Time

/-- What a `Get` says about the switch; nothing if it fails. -/
def meaning : Except Err Labels → Option Bool
  | .ok data => some (decide (label data killSwitchEngagedKey = "true"))
  | .error err => if err.kind = .notFound then some false else none

namespace KillSwitch

def ttl (switch : KillSwitch) : Duration :=
  if switch.ttlConfigured > 0 then switch.ttlConfigured else defaultKillSwitchTTL

def trusted (switch : KillSwitch) (now : Time) : Bool :=
  switch.everRead && decide (now - switch.lastChecked < switch.ttl)

def store (switch : KillSwitch) (inquiry : Inquiry) : KillSwitch :=
  match inquiry.result with
  | .ok data =>
      { switch with
        lastChecked := inquiry.answered
        engaged := decide (label data killSwitchEngagedKey = "true")
        everRead := true }
  | .error err =>
      if err.kind = .notFound then
        { switch with lastChecked := inquiry.answered, engaged := false, everRead := true }
      else
        { switch with
          lastChecked := inquiry.answered
          engaged := if switch.everRead then switch.engaged else false }

def next (switch : KillSwitch) (inquiry : Inquiry) : KillSwitch :=
  if switch.trusted inquiry.asked then switch else switch.store inquiry

def reportEngaged (switch : Option KillSwitch) (inquiry : Inquiry) : Bool × Option KillSwitch :=
  match switch with
  | none => (false, none)
  | some switch =>
      if switch.reader then ((switch.next inquiry).engaged, some (switch.next inquiry))
      else (false, some switch)

def new (ttlConfigured : Duration) : KillSwitch := ⟨true, ttlConfigured, 0, false, false⟩

def reads : KillSwitch → List Inquiry → List Inquiry
  | _, [] => []
  | switch, inquiry :: rest =>
      if switch.trusted inquiry.asked then reads switch rest
      else inquiry :: reads (switch.store inquiry) rest

theorem meaning_store (switch : KillSwitch) (inquiry : Inquiry) :
    switch.store inquiry = { switch with
      lastChecked := inquiry.answered
      engaged := (meaning inquiry.result).getD (switch.everRead && switch.engaged)
      everRead := (meaning inquiry.result).isSome || switch.everRead } := by
  rw [store, meaning.eq_def]
  cases inquiry.result with
  | ok data => rfl
  | error err =>
      dsimp only
      split
      · rfl
      · cases switch.everRead <;> rfl

theorem reads_concat (switch : KillSwitch) (history : List Inquiry) (inquiry : Inquiry) :
    switch.reads (history ++ [inquiry]) = switch.reads history ++
      if (runMoves next switch history).trusted inquiry.asked then [] else [inquiry] := by
  induction history generalizing switch with
  | nil =>
      rw [List.nil_append, reads, reads, runMoves, List.foldl_nil]
      split <;> rfl
  | cons first rest ih =>
      rw [List.cons_append, reads, reads, runMoves, List.foldl_cons, next, ← runMoves]
      split
      · exact ih switch
      · rw [ih, List.cons_append]

def known (reads : List Inquiry) : Option Bool :=
  (reads.filterMap (fun read => meaning read.result)).getLast?

theorem known_concat (reads : List Inquiry) (read : Inquiry) :
    known (reads ++ [read]) = (meaning read.result).or (known reads) := by
  rw [known, filterMap_concat, known]
  cases meaning read.result with
  | none => simp
  | some value => simp

structure Reflects (switch : KillSwitch) (reads : List Inquiry) : Prop where
  value : switch.engaged = (known reads).getD false
  ever : switch.everRead = (known reads).isSome
  last : ∀ read ∈ reads.getLast?, switch.lastChecked = read.answered

theorem Reflects.store {switch : KillSwitch} {reads : List Inquiry}
    (reflects : switch.Reflects reads) (inquiry : Inquiry) :
    (switch.store inquiry).Reflects (reads ++ [inquiry]) := by
  rw [meaning_store]
  refine ⟨?_, ?_, ?_⟩
  · rw [known_concat, reflects.value, reflects.ever]
    cases meaning inquiry.result with
    | none => cases known reads <;> rfl
    | some value => rfl
  · rw [known_concat, reflects.ever]
    cases meaning inquiry.result with
    | none => rfl
    | some value => rfl
  · intro read latest
    rw [List.getLast?_concat, Option.mem_some_iff] at latest
    rw [latest]

theorem reflects_run (ttlConfigured : Duration) (history : List Inquiry) :
    (runMoves next (new ttlConfigured) history).Reflects ((new ttlConfigured).reads history) := by
  induction history using List.reverseRecOn with
  | nil => exact ⟨rfl, rfl, fun read latest => by cases latest⟩
  | append_singleton history inquiry ih =>
      rw [runMoves_concat, reads_concat, next]
      split
      · rw [List.append_nil]
        exact ih
      · exact ih.store inquiry

theorem next_config (switch : KillSwitch) (inquiry : Inquiry) :
    (switch.next inquiry).reader = switch.reader ∧ (switch.next inquiry).ttl = switch.ttl := by
  rw [next]
  split
  · exact ⟨rfl, rfl⟩
  · rw [meaning_store]
    exact ⟨rfl, rfl⟩

theorem run_config (switch : KillSwitch) (history : List Inquiry) :
    (runMoves next switch history).reader = switch.reader ∧
      (runMoves next switch history).ttl = switch.ttl := by
  induction history using List.reverseRecOn with
  | nil => exact ⟨rfl, rfl⟩
  | append_singleton history inquiry ih =>
      have step := next_config (runMoves next switch history) inquiry
      rw [runMoves_concat]
      exact ⟨step.1.trans ih.1, step.2.trans ih.2⟩

theorem ttl_pos (switch : KillSwitch) : 0 < switch.ttl := by
  rw [ttl]
  split
  · assumption
  · decide

def answer (ttlConfigured : Duration) (history : List Inquiry) (inquiry : Inquiry) : Bool :=
  (reportEngaged (some (runMoves next (new ttlConfigured) history)) inquiry).1

theorem answer_eq (ttlConfigured : Duration) (history : List Inquiry) (inquiry : Inquiry) :
    answer ttlConfigured history inquiry =
      (runMoves next (new ttlConfigured) (history ++ [inquiry])).engaged := by
  rw [answer, reportEngaged, (run_config _ history).1, runMoves_concat]
  rfl

structure FollowsReads (ttlConfigured : Duration) (history : List Inquiry) (inquiry : Inquiry) :
    Prop where
  /-- The answer is what the last read that did not fail says. -/
  value : answer ttlConfigured history inquiry =
    (known ((new ttlConfigured).reads (history ++ [inquiry]))).getD false
  /-- A call that comes a TTL after the last attempt makes a read. -/
  due : (∀ read ∈ ((new ttlConfigured).reads history).getLast?,
      read.asked + (new ttlConfigured).ttl ≤ inquiry.asked) →
    (new ttlConfigured).reads (history ++ [inquiry]) =
      (new ttlConfigured).reads history ++ [inquiry]
  /-- A call that comes a TTL after a flip sees it, if the API has worked since. -/
  seen : ∀ flip value, (∀ later ∈ history ++ [inquiry], flip < later.asked →
      meaning later.result = some value) → flip + (new ttlConfigured).ttl ≤ inquiry.asked →
    answer ttlConfigured history inquiry = value
  /-- A call whose read fails is answered like the one before it. -/
  steady : meaning inquiry.result = none →
    (history = [] → answer ttlConfigured history inquiry = false) ∧
      ∀ earlier previous, history = earlier ++ [previous] →
        answer ttlConfigured history inquiry = answer ttlConfigured earlier previous

theorem reads_subset (switch : KillSwitch) (history : List Inquiry) :
    switch.reads history ⊆ history := by
  induction history generalizing switch with
  | nil => exact List.Subset.refl _
  | cons inquiry rest ih =>
      rw [reads]
      split
      · exact List.subset_cons_of_subset _ (ih switch)
      · exact List.cons_subset_cons _ (ih _)

theorem exists_read_of_trusted (ttlConfigured : Duration) {history : List Inquiry} {now : Time}
    (instant : ∀ call ∈ history, call.answered = call.asked)
    (trusts : (runMoves next (new ttlConfigured) history).trusted now = true) :
    ∃ front read, (new ttlConfigured).reads history = front ++ [read] ∧ read ∈ history ∧
      now < read.asked + (new ttlConfigured).ttl := by
  have state := reflects_run ttlConfigured history
  rw [trusted, Bool.and_eq_true, decide_eq_true_iff, state.ever,
    (run_config (new ttlConfigured) history).2] at trusts
  obtain ⟨ever, young⟩ := trusts
  rcases List.eq_nil_or_concat ((new ttlConfigured).reads history) with none | ⟨front, read, split⟩
  · rw [none] at ever
    cases ever
  · rw [List.concat_eq_append] at split
    have member : read ∈ history := reads_subset (new ttlConfigured) history (by simp [split])
    rw [state.last read (by simp [split]), instant read member] at young
    exact ⟨front, read, split, member, sub_lt_iff_lt_add'.mp young⟩

/-- The last read before an answer is less than a TTL old. -/
theorem exists_recent_read (ttlConfigured : Duration) (history : List Inquiry) (inquiry : Inquiry)
    (instant : ∀ call ∈ history ++ [inquiry], call.answered = call.asked) :
    ∃ front read, (new ttlConfigured).reads (history ++ [inquiry]) = front ++ [read] ∧
      read ∈ history ++ [inquiry] ∧ inquiry.asked < read.asked + (new ttlConfigured).ttl := by
  rw [reads_concat]
  cases trusts : (runMoves next (new ttlConfigured) history).trusted inquiry.asked with
  | false => exact ⟨_, inquiry, rfl, by simp, Int.lt_add_of_pos_right _ (ttl_pos _)⟩
  | true =>
      obtain ⟨front, read, split, member, young⟩ := exists_read_of_trusted ttlConfigured
        (fun call earlier => instant call (by simp [earlier])) trusts
      exact ⟨front, read, by simp [split], by simp [member], young⟩

theorem known_reads {ttlConfigured : Duration} {history : List Inquiry} {inquiry : Inquiry} :
    answer ttlConfigured history inquiry =
      (known ((new ttlConfigured).reads (history ++ [inquiry]))).getD false :=
  (answer_eq _ _ _).trans (reflects_run ttlConfigured (history ++ [inquiry])).value

theorem engaged_follows_reads (ttlConfigured : Duration) (history : List Inquiry)
    (inquiry : Inquiry) (instant : ∀ call ∈ history ++ [inquiry], call.answered = call.asked) :
    FollowsReads ttlConfigured history inquiry where
  value := known_reads
  due := by
    intro passed
    rw [reads_concat, if_neg]
    intro trusts
    obtain ⟨front, read, split, -, young⟩ := exists_read_of_trusted ttlConfigured
      (fun call earlier => instant call (by simp [earlier])) trusts
    exact absurd (passed read (by simp [split])) (not_le.mpr young)
  seen := by
    intro flip value works late
    obtain ⟨front, read, split, member, recent⟩ :=
      exists_recent_read ttlConfigured history inquiry instant
    have since : flip < read.asked := lt_of_add_lt_add_right (late.trans_lt recent)
    rw [known_reads, split, known_concat, works read member since]
    rfl
  steady := by
    intro failed
    have state := reflects_run ttlConfigured history
    have kept : answer ttlConfigured history inquiry =
        (runMoves next (new ttlConfigured) history).engaged := by
      rw [answer_eq, runMoves_concat, next]
      split
      · rfl
      · rw [meaning_store, failed, state.value, state.ever]
        cases known ((new ttlConfigured).reads history) <;> rfl
    constructor
    · rintro rfl
      exact kept
    · rintro earlier previous rfl
      rw [kept, answer_eq]

def readAt (now : Time) (value : String) : Inquiry :=
  ⟨now, .ok ((∅ : Labels).insert killSwitchEngagedKey value), now⟩

def failedAt (now : Time) : Inquiry := ⟨now, .error (errorf "apiserver unavailable"), now⟩

theorem engaged_survives_failure :
    FollowsReads second [readAt 0 "true"] (failedAt (2 * second)) ∧
      answer second [readAt 0 "true"] (failedAt (2 * second)) = true :=
  ⟨engaged_follows_reads second [readAt 0 "true"] (failedAt (2 * second))
    (by simp [readAt, failedAt]), by decide +kernel⟩

structure InTurn (calls : List Inquiry) : Prop where
  forward : ∀ call ∈ calls, call.asked ≤ call.answered
  apart : calls.Pairwise (fun first later => first.answered ≤ later.asked)

theorem InTurn.tail {first : Inquiry} {rest : List Inquiry} (turns : InTurn (first :: rest)) :
    InTurn rest :=
  ⟨fun call member => turns.forward call (List.mem_cons_of_mem _ member), turns.apart.tail⟩

theorem InTurn.skip {first second : Inquiry} {rest : List Inquiry}
    (turns : InTurn (first :: second :: rest)) : InTurn (first :: rest) := by
  refine ⟨fun call member => turns.forward call ?_, turns.apart.sublist ?_⟩
  · rcases List.mem_cons.mp member with rfl | later
    · exact List.mem_cons_self
    · exact List.mem_cons_of_mem _ (List.mem_cons_of_mem _ later)
  · exact List.Sublist.cons_cons _ (List.sublist_cons_self _ _)

section Load

variable (moment : Inquiry → Time)

def ApartBy (ttl : Duration) (first second : Inquiry) : Prop := moment first + ttl ≤ moment second

/-- Until a read does not fail, every call comes a TTL after the one before it. -/
def Paced (ttl : Duration) : List Inquiry → Prop
  | first :: next :: rest =>
      meaning first.result = none → ApartBy moment ttl first next ∧ Paced ttl (next :: rest)
  | _ => True

variable {moment} {switch : KillSwitch}

theorem reads_apart {last : Inquiry} {calls : List Inquiry} (turns : InTurn (last :: calls))
    (within : ∀ call ∈ last :: calls, call.asked ≤ moment call ∧ moment call ≤ call.answered)
    (ever : switch.everRead = true) (checked : switch.lastChecked = last.answered) :
    (last :: switch.reads calls).IsChain (ApartBy moment switch.ttl) := by
  induction calls generalizing last switch with
  | nil => exact List.isChain_singleton _
  | cons call rest ih =>
      rw [reads]
      split
      · refine ih turns.skip (fun other member => within other ?_) ever checked
        rcases List.mem_cons.mp member with rfl | later
        · exact List.mem_cons_self
        · exact List.mem_cons_of_mem _ (List.mem_cons_of_mem _ later)
      · rename_i stale
        have stored := meaning_store switch call
        have due : last.answered + switch.ttl ≤ call.asked := by
          rw [trusted, ever, Bool.true_and, decide_eq_true_iff, checked, not_lt] at stale
          exact le_sub_iff_add_le'.mp stale
        have ahead := ih turns.tail
          (fun other member => within other (List.mem_cons_of_mem _ member))
          (by rw [stored, ever, Bool.or_true] : (switch.store call).everRead = true)
          (by rw [stored] : (switch.store call).lastChecked = call.answered)
        rw [(by rw [stored]; rfl : (switch.store call).ttl = switch.ttl)] at ahead
        refine List.isChain_cons_cons.mpr ⟨?_, ahead⟩
        calc moment last + switch.ttl
            ≤ last.answered + switch.ttl := by
              exact Int.add_le_add_right (within last List.mem_cons_self).2 _
          _ ≤ call.asked := due
          _ ≤ moment call := (within call (by simp)).1

theorem reads_unread (unread : switch.everRead = false) (call : Inquiry) (rest : List Inquiry) :
    switch.reads (call :: rest) = call :: (switch.store call).reads rest := by
  have stale : ¬ switch.trusted call.asked = true := by
    rw [trusted, unread, Bool.false_and]
    exact Bool.false_ne_true
  rw [reads, if_neg stale]

theorem unread_apart_iff {calls : List Inquiry} (turns : InTurn calls)
    (within : ∀ call ∈ calls, call.asked ≤ moment call ∧ moment call ≤ call.answered)
    (unread : switch.everRead = false) :
    (switch.reads calls).IsChain (ApartBy moment switch.ttl) ↔ Paced moment switch.ttl calls := by
  induction calls generalizing switch with
  | nil => exact iff_of_true List.isChain_nil trivial
  | cons call rest ih =>
      have stored := meaning_store switch call
      have ttl : (switch.store call).ttl = switch.ttl := by
        rw [stored]
        rfl
      rw [reads_unread unread]
      cases outcome : meaning call.result with
      | some value =>
          -- The value is cached, and every later read keeps its distance.
          have chain := reads_apart turns within
            (by rw [stored, outcome]; rfl : (switch.store call).everRead = true)
            (by rw [stored] : (switch.store call).lastChecked = call.answered)
          rw [ttl] at chain
          refine iff_of_true chain ?_
          cases rest with
          | nil => trivial
          | cons next rest =>
              intro failed
              cases outcome.symm.trans failed
      | none =>
          have still : (switch.store call).everRead = false := by
            rw [stored, outcome, unread]
            rfl
          have ahead := ih turns.tail
            (fun other member => within other (List.mem_cons_of_mem _ member)) still
          rw [ttl] at ahead
          cases rest with
          | nil => exact iff_of_true (List.isChain_singleton _) trivial
          | cons next rest =>
              rw [reads_unread still] at ahead ⊢
              rw [List.isChain_cons_cons, ahead, Paced, outcome]
              exact ⟨fun both _ => both, fun both => both rfl⟩

/-- Whichever moment of a read one goes by. -/
theorem reads_apart_iff_paced (ttlConfigured : Duration) (moment : Inquiry → Time)
    {calls : List Inquiry} (turns : InTurn calls)
    (within : ∀ call ∈ calls, call.asked ≤ moment call ∧ moment call ≤ call.answered) :
    ((new ttlConfigured).reads calls).IsChain (ApartBy moment (new ttlConfigured).ttl) ↔
      Paced moment (new ttlConfigured).ttl calls :=
  unread_apart_iff turns within rfl

/-- A read that fails, one that does not, and a storm of calls after it. -/
def pacedStorm : List Inquiry :=
  [failedAt 0, readAt second "false", failedAt (second + 1), failedAt (second + 2)]

theorem storm_is_paced :
    InTurn pacedStorm ∧ Paced Inquiry.asked (new second).ttl pacedStorm ∧
      ((new second).reads pacedStorm).IsChain (ApartBy Inquiry.asked (new second).ttl) := by
  have turns : InTurn pacedStorm :=
    ⟨by simp [pacedStorm, readAt, failedAt], by simp [pacedStorm, readAt, failedAt, second]⟩
  have paced : Paced Inquiry.asked (new second).ttl pacedStorm := by
    have apart : ApartBy Inquiry.asked (new second).ttl (failedAt 0) (readAt second "false") := by
      rw [ApartBy]
      decide +kernel
    refine fun _ => ⟨apart, fun failed => ?_⟩
    have read : meaning (readAt second "false").result = some false := by decide +kernel
    rw [read] at failed
    cases failed
  exact ⟨turns, paced, (reads_apart_iff_paced second Inquiry.asked turns
    (by simp [pacedStorm, readAt, failedAt])).mpr paced⟩

/-- As long as the API server fails, every call reads. -/
theorem failing_server_is_stormed :
    InTurn [failedAt 0, failedAt 1] ∧
      ¬ ((new second).reads [failedAt 0, failedAt 1]).IsChain
        (ApartBy Inquiry.asked (new second).ttl) := by
  refine ⟨⟨by simp [failedAt], by simp [failedAt]⟩, ?_⟩
  have both : (new second).reads [failedAt 0, failedAt 1] = [failedAt 0, failedAt 1] := rfl
  rw [both, List.isChain_cons_cons, ApartBy]
  exact fun chain => absurd chain.1 (by decide)

end Load

end KillSwitch

end Sentinel5G.Controller
