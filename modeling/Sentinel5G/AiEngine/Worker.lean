import Sentinel5G.AiEngine.Features
import Sentinel5G.Events.Bus

/-! The scoring worker: a message of one event or of a batch, scored event by event
and settled as a whole. -/

namespace Sentinel5G.AiEngine

open Base Program Api Events

def maxEventDeliveries : Nat := 5

structure ThreatResult where
  sourceEventId : Json
  ns : Json
  podName : Json
  sourceIp : Json
  teid : Json
  score : ℚ
  model : String
  detectedAt : String

structure ScoringEngine where
  scoreFeatures : List ℚ → Except Raised ℚ

def ScoringEngine.scoreEvent (engine : ScoringEngine) (event : NormalizedEvent) :
    Except Raised ℚ := do
  let features ← extractFeatures event
  engine.scoreFeatures features

/-- What the worker asks of its surroundings. A publish is told apart by the place
its event has in the message. -/
inductive Call
  | now
  | uuid4
  | strftime
  | publish (position : Nat) (result : ThreatResult)

@[reducible] def Call.Answer : Call → Type
  | .now => Time
  | .uuid4 => String
  | .strftime => String
  | .publish _ _ => Except Raised Unit

abbrev Work := Program Call.Answer

section Worker

variable (builtins : Builtins) (engine : ScoringEngine)

def buildThreatResult (payload : Dict) : Work (Except Raised ThreatResult) := do
  let now ← perform Call.now
  match NormalizedEvent.fromDict builtins now payload >>= engine.scoreEvent with
  | .error raised => return .error raised
  | .ok score =>
      let fresh ← perform Call.uuid4
      let detectedAt ← perform Call.strftime
      return .ok {
        sourceEventId := (payload.get "eventId").getD (.text fresh)
        ns := (payload.get "namespace").getD (.text "")
        podName := (payload.get "podName").getD (.text "")
        sourceIp := (payload.get "sourceIp").getD (.text "")
        teid := (payload.get "teid").getD (.int 0)
        score := score
        model := "autoencoder-v1"
        detectedAt := detectedAt }

def asObject : Json → Except Raised Dict
  | .object fields => .ok fields
  | _ => .error .valueError

def parseEventBatch (loaded : Except Raised Json) : Except Raised (List Dict) :=
  match loaded with
  | .error raised => .error raised
  | .ok (.array items) => items.mapM asObject
  | .ok (.object fields) => .ok [fields]
  | .ok _ => .error .valueError

def scoreAll : Nat → List Dict → Work (Except Raised Unit)
  | _, [] => return .ok ()
  | position, payload :: rest => do
      match ← buildThreatResult builtins engine payload with
      | .error raised => return .error raised
      | .ok result =>
          match ← perform (Call.publish position result) with
          | .error raised => return .error raised
          | .ok () => scoreAll (position + 1) rest

/-- The callback; an exception of another kind from `json.loads` leaves the message
unsettled. -/
def handler (loaded : Except Raised Json) : Work (Option Verdict) := do
  match parseEventBatch loaded with
  | .error raised =>
      return if raised = .valueError ∨ raised = .typeError then some .term else none
  | .ok payloads =>
      match ← scoreAll builtins engine 0 payloads with
      | .error _ => return some .nak
      | .ok () => return some .ack

/-- What is left unsettled is delivered again like what is refused. -/
def callback (loaded : Except Raised Json) : Work Verdict := do
  let settled ← handler builtins engine loaded
  return settled.getD .nak

def consume (limit : Nat) (loaded : Except Raised Json) : Work (List Verdict) :=
  deliver limit (callback builtins engine loaded)

end Worker

structure Surroundings where
  now : Time
  uuid : String
  time : String
  publish : Except Raised Unit

abbrev Published := List (Nat × ThreatResult)

def onBus (choice : Surroundings) (call : Call) (sent : Published) : call.Answer × Published :=
  match call with
  | .now => (choice.now, sent)
  | .uuid4 => (choice.uuid, sent)
  | .strftime => (choice.time, sent)
  | .publish position result =>
      match choice.publish with
      | .error raised => (.error raised, sent)
      | .ok () => (.ok (), sent ++ [(position, result)])

def publishes : Published → Surroundings → Prop := fun _ choice => choice.publish = .ok ()

section Scores

variable (builtins : Builtins) (engine : ScoringEngine)

def scored (payload : Dict) : Except Raised ℚ :=
  NormalizedEvent.fromDict builtins 0 payload >>= engine.scoreEvent

def Raises (payload : Dict) : Prop := ∃ raised, scored builtins engine payload = .error raised

structure ScoreOf (payload : Dict) (result : ThreatResult) : Prop where
  score : scored builtins engine payload = .ok result.score
  ns : result.ns = (payload.get "namespace").getD (.text "")
  podName : result.podName = (payload.get "podName").getD (.text "")
  sourceIp : result.sourceIp = (payload.get "sourceIp").getD (.text "")
  teid : result.teid = (payload.get "teid").getD (.int 0)
  named : ∀ eventId, payload.get "eventId" = some eventId → result.sourceEventId = eventId

theorem scored_eq (now : Time) (payload : Dict) :
    NormalizedEvent.fromDict builtins now payload >>= engine.scoreEvent =
      scored builtins engine payload := by
  have timeless : ∀ time, readFields builtins payload time >>= engine.scoreEvent =
      readFields builtins payload 0 >>= engine.scoreEvent := by
    intro time
    simp only [readFields, bind_assoc, pure_bind]
    rfl
  rw [scored, NormalizedEvent.fromDict, NormalizedEvent.fromDict, bind_assoc, bind_assoc,
    parseObservedAt, parseObservedAt]
  split
  · rfl
  · exact timeless now

theorem buildThreatResult_ends (payload : Dict) (sent : Published) :
    (buildThreatResult builtins engine payload).Ends onBus publishes
      (fun outcome final => final = sent ∧
        ((∃ raised, outcome = .error raised) ∧ Raises builtins engine payload ∨
          ∃ result, outcome = .ok result ∧ ScoreOf builtins engine payload result)) sent := by
  intro choice _
  dsimp only [onBus, Program.bind]
  rw [scored_eq]
  cases outcome : scored builtins engine payload with
  | error raised => exact ⟨rfl, .inl ⟨⟨raised, rfl⟩, raised, outcome⟩⟩
  | ok score =>
      intro _ _ _ _
      refine ⟨rfl, .inr ⟨_, rfl, outcome, rfl, rfl, rfl, rfl, fun eventId given => ?_⟩⟩
      rw [given, Option.getD_some]

def Unhindered (payloads : List Dict) (position : Nat) : Prop :=
  ∀ earlier payload, earlier ≤ position → payloads[earlier]? = some payload →
    ¬ Raises builtins engine payload

def Sound (payloads : List Dict) (sent : Published) : Prop :=
  ∀ position result, (position, result) ∈ sent → ∃ payload, payloads[position]? = some payload ∧
    ScoreOf builtins engine payload result ∧ Unhindered builtins engine payloads position

def ScoredAt (position : Nat) (payload : Dict) (sent : Published) : Prop :=
  ∃ result, ScoreOf builtins engine payload result ∧ (position, result) ∈ sent

variable {builtins engine} in
/-- A place is reached if none before it raises, and is passed if it does not raise
either. -/
theorem unhindered_of_scored {payloads : List Dict} {position : Nat} {payload : Dict}
    {result : ThreatResult}
    (reached : ∀ earlier other, earlier < position → payloads[earlier]? = some other →
      ¬ Raises builtins engine other)
    (here : payloads[position]? = some payload) (score : ScoreOf builtins engine payload result) :
    Unhindered builtins engine payloads position := by
  intro earlier other order found
  rcases Nat.lt_or_eq_of_le order with before | rfl
  · exact reached earlier other before found
  · cases Option.some.inj (here.symm.trans found)
    rintro ⟨raised, failed⟩
    rw [score.score] at failed
    cases failed

variable {builtins engine} in
theorem Sound.concat {payloads : List Dict} {sent : Published}
    (sound : Sound builtins engine payloads sent) {position : Nat} {payload : Dict}
    {result : ThreatResult} (here : payloads[position]? = some payload)
    (score : ScoreOf builtins engine payload result)
    (clear : Unhindered builtins engine payloads position) :
    Sound builtins engine payloads (sent ++ [(position, result)]) := by
  intro place found member
  rcases List.mem_append.mp member with old | new
  · exact sound place found old
  · cases List.mem_singleton.mp new
    exact ⟨payload, here, score, clear⟩

theorem scoreAll_ends {payloads : List Dict} {sent : Published}
    (sound : Sound builtins engine payloads sent) (rest : List Dict) (position : Nat)
    (place : payloads.drop position = rest)
    (unhindered : ∀ earlier payload, earlier < position → payloads[earlier]? = some payload →
      ¬ Raises builtins engine payload) :
    (scoreAll builtins engine position rest).Ends onBus publishes
      (fun _ final => Sound builtins engine payloads final ∧ sent ⊆ final ∧
        ∀ place payload, position ≤ place → payloads[place]? = some payload →
          Unhindered builtins engine payloads place →
          ScoredAt builtins engine place payload final) sent := by
  induction rest generalizing position sent with
  | nil =>
      refine ⟨sound, List.Subset.refl _, fun later payload order found _ => ?_⟩
      have long : payloads.length ≤ position := List.drop_eq_nil_iff.mp place
      rw [List.getElem?_eq_none (long.trans order)] at found
      cases found
  | cons payload rest ih =>
      have here : payloads[position]? = some payload := by
        rw [← Nat.add_zero position, ← List.getElem?_drop, place]
        rfl
      refine Ends.bind ((buildThreatResult_ends builtins engine payload sent).mono
        (fun outcome final built => ?_))
      obtain ⟨rfl, ⟨⟨raised, rfl⟩, raises⟩ | ⟨result, rfl, score⟩⟩ := built
      · -- The exception ends the loop, so nothing behind this event is scored.
        exact ⟨sound, List.Subset.refl _, fun later other order _ clear =>
          absurd raises (clear position payload order here)⟩
      · intro choice succeeds
        have clear := unhindered_of_scored unhindered here score
        have next : payloads.drop (position + 1) = rest := by
          rw [← List.drop_drop, place]
          rfl
        have step : onBus choice (.publish position result) final =
            (.ok (), final ++ [(position, result)]) := by
          rw [onBus, succeeds]
        rw [step]
        refine (ih (sound.concat here score clear) (position + 1) next
          (fun earlier other order => clear earlier other (Nat.le_of_lt_succ order))).mono
          (fun _ ended held => ?_)
        obtain ⟨kept, includes, later⟩ := held
        refine ⟨kept, fun entry member => includes (List.mem_append_left _ member),
          fun place other order found passable => ?_⟩
        rcases Nat.eq_or_lt_of_le order with rfl | behind
        · cases Option.some.inj (here.symm.trans found)
          exact ⟨result, score, includes (List.mem_append_right _ List.mem_cons_self)⟩
        · exact later place other behind found passable

def Complete (payloads : List Dict) (sent : Published) : Prop :=
  ∀ position payload, payloads[position]? = some payload →
    Unhindered builtins engine payloads position → ScoredAt builtins engine position payload sent

variable {builtins engine}

/-- One delivery of a message. -/
theorem callback_ends {loaded : Except Raised Json} {payloads : List Dict} {sent : Published}
    (parsed : parseEventBatch loaded = .ok payloads)
    (sound : Sound builtins engine payloads sent) :
    (callback builtins engine loaded).Ends onBus publishes
      (fun _ final => Sound builtins engine payloads final ∧
        Complete builtins engine payloads final) sent := by
  rw [callback, handler, parsed]
  refine Ends.bind (Ends.bind ((scoreAll_ends builtins engine sound payloads 0 rfl
    (fun _ _ order => absurd order (Nat.not_lt_zero _))).mono (fun outcome final held => ?_)))
  have complete : Complete builtins engine payloads final :=
    fun position payload => held.2.2 position payload (Nat.zero_le _)
  cases outcome with
  | error raised => exact ⟨held.1, complete⟩
  | ok done => exact ⟨held.1, complete⟩

/-- However often a message is delivered, it is scored up to the first event that
raises, and no further. -/
theorem consume_ends {loaded : Except Raised Json} {payloads : List Dict}
    (parsed : parseEventBatch loaded = .ok payloads) {limit : Nat} (delivered : 0 < limit) :
    (consume builtins engine limit loaded).Ends onBus publishes
      (fun _ final => Sound builtins engine payloads final ∧
        Complete builtins engine payloads final) [] := by
  have empty : Sound builtins engine payloads [] := fun _ _ member => by cases member
  obtain ⟨more, rfl⟩ := Nat.exists_eq_add_of_lt delivered
  rw [Nat.zero_add, consume, deliver]
  refine Ends.bind ((callback_ends parsed empty).mono (fun verdict final held => ?_))
  have later : (deliver more (callback builtins engine loaded)).Ends onBus publishes
      (fun _ final => Sound builtins engine payloads final ∧
        Complete builtins engine payloads final) final :=
    deliver_ends onBus (fun current kept => callback_ends parsed kept.1) more held
  cases verdict with
  | ack => exact held
  | term => exact held
  | nak => exact Ends.bind (later.mono (fun _ _ kept => kept))

def published (builtins : Builtins) (engine : ScoringEngine) (limit : Nat)
    (script : Nat → Surroundings) (loaded : Except Raised Json) : Published :=
  ((consume builtins engine limit loaded).run onBus script []).2

theorem scoredAt_iff {loaded : Except Raised Json} {payloads : List Dict}
    (parsed : parseEventBatch loaded = .ok payloads) {limit : Nat} (delivered : 0 < limit)
    {script : Nat → Surroundings} (succeeds : ∀ n, (script n).publish = .ok ()) {position : Nat}
    {payload : Dict} (found : payloads[position]? = some payload) :
    ScoredAt builtins engine position payload (published builtins engine limit script loaded) ↔
      Unhindered builtins engine payloads position := by
  obtain ⟨sound, complete⟩ := (consume_ends parsed delivered : (consume builtins engine limit
    loaded).Ends onBus publishes _ []).run (permits_of_forall _ _ (fun _ => succeeds))
  constructor
  · rintro ⟨result, -, member⟩
    obtain ⟨-, -, -, clear⟩ := sound position result member
    exact clear
  · exact complete position payload found

theorem parseEventBatch_array (payloads : List Dict) :
    parseEventBatch (.ok (.array (payloads.map .object))) = .ok payloads := by
  change (payloads.map Json.object).mapM asObject = .ok payloads
  induction payloads with
  | nil => rfl
  | cons payload rest ih =>
      rw [List.map_cons, List.mapM_cons, ih]
      rfl

end Scores

def RaisesLast (builtins : Builtins) (engine : ScoringEngine) (payloads : List Dict) : Prop :=
  ∀ (first second : Nat) (earlier later : Dict), first < second →
    payloads[first]? = some earlier → payloads[second]? = some later →
    Raises builtins engine earlier → Raises builtins engine later

/-- The events of a batch are scored as each would be in a message of its own. -/
structure Isolated (builtins : Builtins) (engine : ScoringEngine) (limit : Nat)
    (payloads : List Dict) (script : Nat → Surroundings) (own : Nat → Nat → Surroundings) :
    Prop where
  scored : ∀ position payload, payloads[position]? = some payload →
    ¬ Raises builtins engine payload → ScoredAt builtins engine position payload
      (published builtins engine limit script (.ok (.array (payloads.map .object))))
  alike : ∀ position payload, payloads[position]? = some payload →
    (ScoredAt builtins engine position payload
        (published builtins engine limit script (.ok (.array (payloads.map .object)))) ↔
      ScoredAt builtins engine 0 payload
        (published builtins engine limit (own position) (.ok (.object payload))))

section Isolation

variable {builtins : Builtins} {engine : ScoringEngine} {payloads : List Dict} {position : Nat}
  {payload : Dict}

theorem Unhindered.fine (clear : Unhindered builtins engine payloads position)
    (found : payloads[position]? = some payload) : ¬ Raises builtins engine payload :=
  clear position payload le_rfl found

theorem unhindered_single :
    Unhindered builtins engine [payload] 0 ↔ ¬ Raises builtins engine payload := by
  refine ⟨fun clear => clear.fine rfl, fun fine earlier other order found => ?_⟩
  cases Nat.le_zero.mp order
  cases Option.some.inj found
  exact fine

theorem RaisesLast.unhindered (last : RaisesLast builtins engine payloads)
    (found : payloads[position]? = some payload) (fine : ¬ Raises builtins engine payload) :
    Unhindered builtins engine payloads position := by
  intro earlier other order known raises
  rcases Nat.eq_or_lt_of_le order with rfl | before
  · cases Option.some.inj (known.symm.trans found)
    exact fine raises
  · exact fine (last earlier position other payload before known found raises)

end Isolation

/-- A batch of events is scored like its events one by one, however often it is
delivered, exactly if those that raise come last. -/
theorem batch_isolated_iff (builtins : Builtins) (engine : ScoringEngine) (payloads : List Dict)
    (limit : Nat) (delivered : 0 < limit) (script : Nat → Surroundings)
    (own : Nat → Nat → Surroundings) (succeeds : ∀ n, (script n).publish = .ok ())
    (ownSucceeds : ∀ position n, (own position n).publish = .ok ()) :
    Isolated builtins engine limit payloads script own ↔ RaisesLast builtins engine payloads := by
  have batch : ∀ position payload, payloads[position]? = some payload →
      (ScoredAt builtins engine position payload (published builtins engine limit script
        (.ok (.array (payloads.map .object)))) ↔ Unhindered builtins engine payloads position) :=
    fun position payload found =>
      scoredAt_iff (parseEventBatch_array payloads) delivered succeeds found
  constructor
  · intro isolated first second earlier later order before behind raises
    by_contra fine
    have clear := (batch second later behind).mp (isolated.scored second later behind fine)
    exact clear first earlier order.le before raises
  · intro last
    refine ⟨fun position payload found fine => ?_, fun position payload found => ?_⟩
    · exact (batch position payload found).mpr (last.unhindered found fine)
    · calc ScoredAt builtins engine position payload _
          ↔ Unhindered builtins engine payloads position := batch position payload found
        _ ↔ ¬ Raises builtins engine payload :=
          ⟨fun clear => clear.fine found, last.unhindered found⟩
        _ ↔ Unhindered builtins engine [payload] 0 := unhindered_single.symm
        _ ↔ ScoredAt builtins engine 0 payload _ :=
          (scoredAt_iff rfl delivered (ownSucceeds position) rfl).symm

def certainEngine : ScoringEngine := ⟨fun _ => .ok 1⟩

def promptly : Nat → Surroundings := fun _ => ⟨0, "", "", .ok ()⟩

def plainEvent : Dict := [("teid", .int 7)]

def brokenEvent : Dict := [("destPort", .text "gtp")]

theorem brokenEvent_raises : Raises lenientBuiltins certainEngine brokenEvent := ⟨.valueError, rfl⟩

theorem plainEvent_fine : ¬ Raises lenientBuiltins certainEngine plainEvent := by
  rintro ⟨raised, failed⟩
  have scores : scored lenientBuiltins certainEngine plainEvent = .ok 1 := rfl
  rw [scores] at failed
  cases failed

theorem broken_last_is_isolated :
    RaisesLast lenientBuiltins certainEngine [plainEvent, brokenEvent] ∧
      Isolated lenientBuiltins certainEngine maxEventDeliveries [plainEvent, brokenEvent] promptly
        (fun _ => promptly) := by
  have last : RaisesLast lenientBuiltins certainEngine [plainEvent, brokenEvent] := by
    intro first second earlier later order before behind raises
    rcases second with _ | _ | more
    · exact absurd order (Nat.not_lt_zero _)
    · cases Option.some.inj behind
      exact brokenEvent_raises
    · cases behind
  exact ⟨last, (batch_isolated_iff lenientBuiltins certainEngine [plainEvent, brokenEvent]
    maxEventDeliveries (by decide) promptly (fun _ => promptly) (fun _ => rfl)
    (fun _ _ => rfl)).mpr last⟩

/-- The event behind the broken one is not scored in any of its deliveries. -/
theorem broken_first_hides_the_rest :
    ¬ Raises lenientBuiltins certainEngine plainEvent ∧
      published lenientBuiltins certainEngine maxEventDeliveries promptly
        (.ok (.array ([brokenEvent, plainEvent].map .object))) = [] ∧
      ¬ Isolated lenientBuiltins certainEngine maxEventDeliveries [brokenEvent, plainEvent] promptly
        (fun _ => promptly) := by
  have nothing : published lenientBuiltins certainEngine maxEventDeliveries promptly
      (.ok (.array ([brokenEvent, plainEvent].map .object))) = [] := rfl
  refine ⟨plainEvent_fine, nothing, fun isolated => ?_⟩
  obtain ⟨result, -, member⟩ := isolated.scored 1 plainEvent rfl plainEvent_fine
  rw [nothing] at member
  cases member

end Sentinel5G.AiEngine
