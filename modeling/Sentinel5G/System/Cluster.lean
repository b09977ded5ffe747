import Sentinel5G.AiEngine.Threats
import Sentinel5G.Ebpf.DropSets
import Sentinel5G.System.ControlPlane
import Sentinel5G.System.Telemetry

/-! The whole system. On every node packets are filtered, counted and judged; what is
found goes over the stream to the scoring side and to the operator; what the operator
decides is enforced on the packets that follow. -/

namespace Sentinel5G.System

open Base Api Ebpf Controller

/-- A deployment whose events come from the packet filter alone, not from Hubble or
Falco. -/
structure Deployment (N : Type) where
  operator : Operator
  sensors : N → SensorConfig
  worker : AiEngine.Worker

structure Cluster (N : Type) where
  plane : ControlPlane N
  sensors : N → Sensor
  /-- The messages on the stream, but for the scores. -/
  telemetry : List Ingestion.Payload

/-- What happens to the capture side of a node while its process runs. -/
inductive Signal
  | frame (env : Bpf.Env) (bytes : Bytes)
  | evict (eviction : Bpf.Eviction)
  | read (family : Bpf.Family) (reading : Reading)
  | tick (link : Ingestion.Link)

def Signal.move (loader : Loader) : Signal → Sensor.Move
  | .frame env bytes => .frame ⟨env, loader, bytes⟩
  | .evict eviction => .evict eviction
  | .read family reading => .read family reading
  | .tick link => .tick link

namespace Cluster

inductive Move (N : Type)
  /-- A step of the operator, of a user or of the surroundings. -/
  | control (act : ControlPlane.Move N)
  | sense (node : N) (signal : Signal)
  /-- The scoring side is delivered a message. -/
  | assess (place : Nat) (script : Nat → AiEngine.Surroundings)

variable {N : Type} [DecidableEq N] (deployment : Deployment N)

def sent (cluster : Cluster N) (node : N) (signal : Signal) : List Ingestion.Message :=
  Sensor.sent (deployment.sensors node)
    (cluster.sensors node, signal.move (cluster.plane.replicas node).loader)

/-- What a move means to the operator; only the sensors and the scoring side publish. -/
def commands (turn : Cluster N × Move N) : List (ControlPlane.Move N) :=
  match turn.2 with
  | .control (.publish _) => []
  | .control act => [act]
  | .sense node signal =>
      (Ingestion.scoresOf (turn.1.sent deployment node signal)).map .publish
  | .assess place script =>
      (turn.1.telemetry[place]?.elim [] (deployment.worker.threats script)).map .publish

def sensed (node : N) (turn : Cluster N × Move N) : List Sensor.Move :=
  match turn.2 with
  | .control (.restart other _) => if other = node then [.restart] else []
  | .control _ => []
  | .sense other signal =>
      if other = node then [signal.move (turn.1.plane.replicas node).loader] else []
  | .assess _ _ => []

def recorded (turn : Cluster N × Move N) : List Ingestion.Payload :=
  match turn.2 with
  | .control _ => []
  | .sense node signal => (turn.1.sent deployment node signal).map (fun message => message.payload)
  | .assess _ _ => []

def next (cluster : Cluster N) (move : Move N) : Cluster N where
  plane := runMoves (ControlPlane.next deployment.operator) cluster.plane
    (commands deployment (cluster, move))
  sensors := fun node => runMoves (Sensor.next (deployment.sensors node)) (cluster.sensors node)
    (sensed node (cluster, move))
  telemetry := cluster.telemetry ++ recorded deployment (cluster, move)

def run (start : Cluster N) (moves : List (Move N)) : Cluster N :=
  runMoves (next deployment) start moves

def controlled (start : Cluster N) (moves : List (Move N)) : List (ControlPlane.Move N) :=
  (turns (next deployment) start moves).flatMap (commands deployment)

def signals (start : Cluster N) (moves : List (Move N)) (node : N) : List Sensor.Move :=
  (turns (next deployment) start moves).flatMap (sensed node)

/-- Nothing is under way, and only drops among `standing` are in force or claimed. -/
structure AtRest (standing : Drop → Prop) (cluster : Cluster N) : Prop where
  plane : cluster.plane.AtRest standing
  sensors : ∀ node, cluster.sensors node = .started (deployment.sensors node)
  telemetry : cluster.telemetry = []

section Parts

variable {deployment} {start : Cluster N} {standing : Drop → Prop}

theorem plane_run (start : Cluster N) (moves : List (Move N)) :
    (run deployment start moves).plane =
      runMoves (ControlPlane.next deployment.operator) start.plane
        (controlled deployment start moves) :=
  runMoves_flatMap Cluster.plane (fun _ _ => rfl) start moves

theorem sensor_run (rest : start.AtRest deployment standing) (moves : List (Move N)) (node : N) :
    (run deployment start moves).sensors node =
      .after (deployment.sensors node) (signals deployment start moves node) := by
  have part : ∀ (cluster : Cluster N) (move : Move N), (cluster.next deployment move).sensors node =
      runMoves (Sensor.next (deployment.sensors node)) (cluster.sensors node)
        (sensed node (cluster, move)) := fun _ _ => rfl
  rw [Sensor.after, ← rest.sensors node]
  exact runMoves_flatMap (fun cluster => cluster.sensors node) part start moves

theorem signals_append (moves more : List (Move N)) (node : N) :
    signals deployment start (moves ++ more) node =
      signals deployment start moves node ++
        signals deployment (run deployment start moves) more node := by
  rw [signals, turns_append, List.flatMap_append]
  rfl

variable (deployment start) in
theorem signals_grow (past rest : List (Move N)) (last : Move N) (node : N) :
    signals deployment start past node ++ sensed node (run deployment start past, last) <+:
      signals deployment start (past ++ last :: rest) node := by
  rw [signals, signals, turns_append, List.flatMap_append, turns, List.flatMap_cons,
    ← List.append_assoc]
  exact List.prefix_append _ _

end Parts

end Cluster

namespace Sensor

/-- Some frame that came to the node has the source of the drop, and is of its tunnel. -/
def Carried (moves : List Move) (drop : Drop) : Prop :=
  ∃ arrival ∈ frames moves, ∃ seen, Bpf.sight arrival.frame = some seen ∧
    match drop with
    | .source address => IP.string seen.saddr = address.text
    | .tunnel address teid => IP.string seen.saddr = address.text ∧ seen.tunnel = some teid

variable {moves : List Move} {cfg : SensorConfig}

theorem text_of_parse {seen : Bpf.Sighting} {address : Address}
    (parsed : parseIP (IP.string seen.saddr) = some address.val) :
    IP.string seen.saddr = address.text := by
  have valid : seen.saddr.length = 4 ∨ seen.saddr.length = 16 := by
    rw [seen.saddrWidth]
    cases seen.family with
    | ipv4 => exact .inl rfl
    | ipv6 => exact .inr rfl
  obtain ⟨long, expands⟩ := Loader.to16_of_valid valid
  rw [parseIP_string _ long.val expands] at parsed
  exact string_eq_text _ address (expands.trans parsed)

theorem Witnessed.text {source : String} {teid : UInt32} {address : Address}
    (witnessed : Witnessed moves source teid) (parsed : parseIP source = some address.val) :
    source = address.text := by
  obtain ⟨arrival, -, seen, -, rfl, -⟩ := witnessed
  exact text_of_parse parsed

theorem carried_of_witnessed {score : ThreatScoreEvent} {drop : Drop}
    (witnessed : Witnessed moves score.sourceIP score.teid) (accuses : Accuses score drop) :
    Carried moves drop := by
  cases drop with
  | source address =>
      have text := witnessed.text accuses
      obtain ⟨arrival, inside, seen, found, source, -⟩ := witnessed
      exact ⟨arrival, inside, seen, found, source.trans text⟩
  | tunnel address teid =>
      obtain ⟨parsed, rfl, set⟩ := accuses
      have text := witnessed.text parsed
      obtain ⟨arrival, inside, seen, found, source, tunnel⟩ := witnessed
      exact ⟨arrival, inside, seen, found, source.trans text, tunnel set⟩

theorem frames_grow {past moves : List Move} (longer : past <+: moves) :
    frames past <+: frames moves := by
  obtain ⟨more, rfl⟩ := longer
  rw [frames_append]
  exact List.prefix_append _ _

theorem TunnelFlooded.longer {past moves : List Move} {source : String} {teid : UInt32}
    (longer : past <+: moves) (flooded : TunnelFlooded cfg past source teid) :
    TunnelFlooded cfg moves source teid := by
  obtain ⟨family, ip, packets, named, inside, within, set, enough⟩ := flooded
  exact ⟨family, ip, packets, named, inside.trans ((frames_grow longer).filter _).isInfix,
    within, set, enough⟩

theorem Witnessed.longer {past moves : List Move} {source : String} {teid : UInt32}
    (longer : past <+: moves) (witnessed : Witnessed past source teid) :
    Witnessed moves source teid := by
  obtain ⟨more, rfl⟩ := longer
  exact witnessed.append more

end Sensor

namespace Cluster

variable {N : Type} [DecidableEq N] {deployment : Deployment N} {start : Cluster N}
  {standing : Drop → Prop} (rest : start.AtRest deployment standing) {moves : List (Move N)}

section Sources

include rest

theorem of_mem_sent {past more : List (Move N)} {node : N} {signal : Signal}
    (split : moves = past ++ .sense node signal :: more) {message : Ingestion.Message}
    (member : message ∈ (run deployment start past).sent deployment node signal) :
    ∃ before last, before ++ [last] <+: signals deployment start moves node ∧
      message ∈ Sensor.sent (deployment.sensors node)
        (.after (deployment.sensors node) before, last) := by
  rw [sent, sensor_run rest past node] at member
  refine ⟨signals deployment start past node, _, ?_, member⟩
  rw [split]
  have here := signals_grow deployment start past more (.sense node signal) node
  rw [sensed] at here
  dsimp only at here
  rwa [if_pos rfl] at here

/-- Everything on the stream is about frames that came to some node. -/
theorem telemetry_witnessed (moves : List (Move N)) :
    ∀ payload ∈ (run deployment start moves).telemetry, ∀ event ∈ payload.events,
      ∃ node, Sensor.Witnessed (signals deployment start moves node) event.sourceIP event.teid := by
  induction moves using List.reverseRecOn with
  | nil =>
      intro payload member
      rw [run, runMoves, List.foldl_nil, rest.telemetry] at member
      cases member
  | append_singleton moves last ih =>
      intro payload member event inside
      rw [run, runMoves_concat, next, List.mem_append] at member
      rcases member with old | new
      · obtain ⟨node, seen⟩ := ih payload old event inside
        refine ⟨node, seen.longer ?_⟩
        rw [signals_append]
        exact List.prefix_append _ _
      · cases last with
        | control act => cases new
        | assess place script => cases new
        | sense node signal =>
            obtain ⟨message, sends, rfl⟩ := List.mem_map.mp new
            obtain ⟨before, last, upTo, member⟩ := of_mem_sent rest rfl sends
            exact ⟨node, (Sensor.sent_witnessed member inside).longer upTo⟩

theorem of_mem_controlled {score : ThreatScoreEvent}
    (member : .publish score ∈ controlled deployment start moves) :
    (∃ node before last message, before ++ [last] <+: signals deployment start moves node ∧
      message ∈ Sensor.sent (deployment.sensors node)
        (.after (deployment.sensors node) before, last) ∧ message.payload = .score score) ∨
    ∃ place script, .assess place script ∈ moves ∧
      ∃ node, Sensor.Witnessed (signals deployment start moves node) score.sourceIP score.teid := by
  obtain ⟨turn, inside, commanded⟩ := List.mem_flatMap.mp member
  obtain ⟨front, back, split⟩ := List.append_of_mem inside
  obtain ⟨past, more, whole, -, state, -⟩ := turns_split split
  obtain ⟨cluster, move⟩ := turn
  dsimp only at whole state
  subst state
  cases move with
  | control act => cases act <;> simp [commands] at commanded
  | sense node signal =>
      obtain ⟨found, scored, same⟩ := List.mem_map.mp commanded
      cases same
      obtain ⟨message, sends, payload⟩ := List.mem_flatMap.mp scored
      obtain ⟨before, last, upTo, published⟩ := of_mem_sent rest whole sends
      refine .inl ⟨node, before, last, message, upTo, published, ?_⟩
      cases content : message.payload with
      | event event =>
          rw [content] at payload
          cases payload
      | batch events =>
          rw [content] at payload
          cases payload
      | score other =>
          rw [content] at payload
          rw [List.mem_singleton.mp payload]
  | assess place script =>
      obtain ⟨found, scored, same⟩ := List.mem_map.mp commanded
      cases same
      refine .inr ⟨place, script, by simp [whole], ?_⟩
      cases read : (runMoves (next deployment) start past).telemetry[place]? with
      | none =>
          rw [read] at scored
          cases scored
      | some payload =>
          rw [read] at scored
          obtain ⟨event, listed, speaks⟩ := deployment.worker.speaks_of_mem script scored
          obtain ⟨node, seen⟩ :=
            telemetry_witnessed rest past payload (List.mem_of_getElem? read) event listed
          rw [speaks.sourceIP, speaks.teid]
          refine ⟨node, seen.longer ?_⟩
          rw [whole, signals_append]
          exact List.prefix_append _ _

end Sources

/-- Whatever the packets are, whatever the model of the scoring side makes of them, and
however everything is interleaved, lost, delayed and repeated: nothing is dropped on any
node, or claimed by a policy, that no packet of the cluster has carried. -/
theorem every_drop_was_carried (rest : start.AtRest deployment standing) (moves : List (Move N)) :
    (∀ node drop, ((run deployment start moves).plane.replicas node).loader.Holds drop →
      standing drop ∨ ∃ other, Sensor.Carried (signals deployment start moves other) drop) ∧
    ∀ key policy drop,
      some policy ∈ (run deployment start moves).plane.shared.server.history key →
      Claims policy.status drop →
      standing drop ∨ ∃ other, Sensor.Carried (signals deployment start moves other) drop := by
  have sound : ControlPlane.Sound
      (fun drop => standing drop ∨ ∃ other, Sensor.Carried (signals deployment start moves other)
        drop)
      (run deployment start moves).plane := by
    rw [plane_run]
    refine ControlPlane.run_sound deployment.operator (rest.plane.sound fun _ => .inl) _
      fun score published drop accuses => .inr ?_
    rcases of_mem_controlled rest published with
      ⟨node, before, last, message, upTo, sends, payload⟩ | ⟨-, -, -, node, seen⟩
    · have seen := Sensor.score_witnessed sends payload
      exact ⟨node, Sensor.carried_of_witnessed (seen.longer upTo) accuses⟩
    · exact ⟨node, Sensor.carried_of_witnessed seen accuses⟩
  exact ⟨fun node => (sound.replicas node).enforced, fun key policy drop member =>
    sound.versions key policy member drop⟩

/-- Where the rules alone judge, no tunnel is dropped that has not flooded some node. -/
theorem rules_drop_only_floods (rest : start.AtRest deployment standing) (moves : List (Move N))
    (unscored : ∀ place script, .assess place script ∉ moves)
    (kernelTime : ∀ node, Bpf.InOrder (Sensor.frames (signals deployment start moves node)))
    (node : N) (address : Address) (teid : UInt32)
    (held : ((run deployment start moves).plane.replicas node).loader.Holds
      (.tunnel address teid)) :
    standing (.tunnel address teid) ∨ ∃ other, Sensor.TunnelFlooded (deployment.sensors other)
      (signals deployment start moves other) address.text teid := by
  have sound : ControlPlane.Sound (fun drop => standing drop ∨ ∀ address teid,
      drop = .tunnel address teid → ∃ other, Sensor.TunnelFlooded (deployment.sensors other)
        (signals deployment start moves other) address.text teid)
      (run deployment start moves).plane := by
    rw [plane_run]
    refine ControlPlane.run_sound deployment.operator (rest.plane.sound fun _ => .inl) _
      fun score published drop accuses => .inr fun address teid same => ?_
    subst same
    obtain ⟨parsed, rfl, tunneled⟩ := accuses
    rcases of_mem_controlled rest published with
      ⟨node, before, last, message, upTo, sends, payload⟩ | ⟨place, script, scored, -⟩
    · have flooded := Sensor.sent_backed
        (List.Pairwise.sublist (Sensor.frames_grow upTo).sublist (kernelTime node)) sends payload
        tunneled
      rw [(Sensor.score_witnessed sends payload).text parsed] at flooded
      exact ⟨node, flooded.longer upTo⟩
    · exact absurd scored (unscored place script)
  exact ((sound.replicas node).enforced _ held).imp_right fun floods => floods address teid rfl

def watchfulSensor : SensorConfig :=
  ⟨⟨"node-1", "events", "threats", 0⟩, 0, ⟨true, 2, 0, 0⟩, ⟨false, 0, 0, 0, 0, 0, 0⟩⟩

def watchful : Deployment Bool :=
  ⟨plainOperator, fun _ => watchfulSensor, AiEngine.Worker.certainWorker⟩

def twoQuietNodes : Cluster Bool :=
  ⟨ControlPlane.twoNodes, fun _ => .started watchfulSensor, []⟩

theorem twoQuietNodes_atRest : twoQuietNodes.AtRest watchful (fun _ => False) := by
  refine ⟨⟨fun key policy member => ?_, fun node drop => ?_, fun node => ⟨_, _, rfl⟩, rfl⟩,
    fun _ => rfl, rfl⟩
  · cases member
  · exact Std.ExtTreeMap.not_mem_empty

def tunnelPacket : List (Move Bool) :=
  [.sense true (.frame Bpf.plainEnv Bpf.ipv4Frame),
    .sense true (.read .ipv4 ⟨PodIPIndex.new.put "10.0.0.1" ⟨"core", "upf-0"⟩, fun _ _ => none,
      "event", 0, Ingestion.openLink⟩)]

def guardedFirst : List (Move Bool) :=
  [.control (.create upfGuard upfGuardSpec), .control (.reconcile true upfGuard)] ++
    List.replicate 8 (.control (.answer true 0 .quiet))

def mitigatedThen : List (Move Bool) :=
  .control (.deliver true 0) :: List.replicate 12 (.control (.answer true 1 .quiet)) ++
    .control (.startPass false) :: List.replicate 6 (.control (.answerPass false .quiet))

def judgedByModel : List (Move Bool) :=
  guardedFirst ++ tunnelPacket ++ [.assess 0 AiEngine.promptly] ++ mitigatedThen

theorem judged_packet_was_carried :
    (∀ node, ((run watchful twoQuietNodes judgedByModel).plane.replicas node).loader.Holds
        (.tunnel attacker 7)) ∧
      ∃ other, Sensor.Carried (signals watchful twoQuietNodes judgedByModel other)
        (.tunnel attacker 7) := by
  have held : ∀ node, ((run watchful twoQuietNodes judgedByModel).plane.replicas
      node).loader.Holds (.tunnel attacker 7) := by decide +kernel
  exact ⟨held, ((every_drop_was_carried twoQuietNodes_atRest judgedByModel).1 false _
    (held false)).resolve_left id⟩

def judgedByRule : List (Move Bool) :=
  guardedFirst ++ tunnelPacket ++ tunnelPacket ++ mitigatedThen

theorem judged_flood_is_dropped :
    (∀ node, ((run watchful twoQuietNodes judgedByRule).plane.replicas node).loader.Holds
        (.tunnel attacker 7)) ∧
      ∃ other, Sensor.TunnelFlooded (watchful.sensors other)
        (signals watchful twoQuietNodes judgedByRule other) "10.0.0.1" 7 := by
  have held : ∀ node, ((run watchful twoQuietNodes judgedByRule).plane.replicas
      node).loader.Holds (.tunnel attacker 7) := by decide +kernel
  have unscored : ∀ place script, .assess place script ∉ judgedByRule := by
    intro place script
    simp [judgedByRule, guardedFirst, tunnelPacket, mitigatedThen]
  have kernelTime : ∀ node, Bpf.InOrder (Sensor.frames
      (signals watchful twoQuietNodes judgedByRule node)) := by
    simp only [Bpf.InOrder]
    decide +kernel
  have text : attacker.text = "10.0.0.1" := by decide +kernel
  rw [← text]
  exact ⟨held, (rules_drop_only_floods twoQuietNodes_atRest judgedByRule unscored kernelTime
    false attacker 7 (held false)).resolve_left id⟩

end Cluster

end Sentinel5G.System
