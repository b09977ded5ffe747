import Mathlib.Logic.Relation

/-! Programs that ask their surroundings for every effect, and the rules by
which they are reasoned about. The surroundings answer one operation at a time
and may choose among several answers. -/

namespace Sentinel5G.Base

inductive Program {Op : Type} (Answer : Op → Type) (α : Type) : Type
  | done (value : α)
  | ask (op : Op) (next : Answer op → Program Answer α)

structure Exchange {Op : Type} (Answer : Op → Type) where
  op : Op
  answer : Answer op

variable {Op : Type} {Answer : Op → Type} {α β : Type}

namespace Program

def bind : Program Answer α → (α → Program Answer β) → Program Answer β
  | .done value, rest => rest value
  | .ask op next, rest => .ask op (fun answer => (next answer).bind rest)

instance : Monad (Program Answer) where
  pure := .done
  bind := .bind

def perform (op : Op) : Program Answer (Answer op) := .ask op .done

@[simp] theorem pure_eq (value : α) : (pure value : Program Answer α) = .done value := rfl

@[simp] theorem done_bind (value : α) (rest : α → Program Answer β) :
    (Program.done value >>= rest) = rest value := rfl

@[simp] theorem ask_bind (op : Op) (next : Answer op → Program Answer α)
    (rest : α → Program Answer β) :
    (Program.ask op next >>= rest) = .ask op (fun answer => next answer >>= rest) := rfl

@[simp] theorem perform_bind (op : Op) (rest : Answer op → Program Answer β) :
    (perform op >>= rest) = .ask op rest := rfl

theorem bind_done (program : Program Answer α) : (program >>= Program.done) = program := by
  induction program with
  | done value => rfl
  | ask op next ih => rw [ask_bind, funext ih]

def AsksOnly (allowed : Op → Prop) : Program Answer α → Prop
  | .done _ => True
  | .ask op next => allowed op ∧ ∀ answer, (next answer).AsksOnly allowed

theorem asksOnly_any (program : Program Answer α) : program.AsksOnly (fun _ => True) := by
  induction program with
  | done value => trivial
  | ask op next ih => exact ⟨trivial, ih⟩

theorem AsksOnly.bind {allowed : Op → Prop} {program : Program Answer α}
    {rest : α → Program Answer β} (first : program.AsksOnly allowed)
    (later : ∀ value, (rest value).AsksOnly allowed) : (program >>= rest).AsksOnly allowed := by
  induction program with
  | done value => exact later value
  | ask op next ih => exact ⟨first.1, fun answer => ih answer (first.2 answer)⟩

theorem AsksOnly.mono {allowed wider : Op → Prop} {program : Program Answer α}
    (asks : program.AsksOnly allowed) (implies : ∀ op, allowed op → wider op) :
    program.AsksOnly wider := by
  induction program with
  | done value => trivial
  | ask op next ih => exact ⟨implies op asks.1, fun answer => ih answer (asks.2 answer)⟩

/-- As long as every answer is `trusted`, every operation the program asks for is
`sound`, and the value it ends with is `good`. -/
def Vouches (trusted : (op : Op) → Answer op → Prop) (sound : Op → Prop) :
    Program Answer α → (α → Prop) → Prop
  | .done value, good => good value
  | .ask op next, good =>
      sound op ∧ ∀ answer, trusted op answer → (next answer).Vouches trusted sound good

section Vouches

variable {trusted : (op : Op) → Answer op → Prop} {sound : Op → Prop}
  {program : Program Answer α} {rest : α → Program Answer β}

theorem Vouches.mono {good better : α → Prop} (vouches : program.Vouches trusted sound good)
    (implies : ∀ value, good value → better value) : program.Vouches trusted sound better := by
  induction program with
  | done value => exact implies value vouches
  | ask op next ih =>
      exact ⟨vouches.1, fun answer trust => ih answer (vouches.2 answer trust)⟩

theorem Vouches.bind {good : β → Prop}
    (vouches : program.Vouches trusted sound
      (fun value => (rest value).Vouches trusted sound good)) :
    (program >>= rest).Vouches trusted sound good := by
  induction program with
  | done value => exact vouches
  | ask op next ih =>
      exact ⟨vouches.1, fun answer trust => ih answer (vouches.2 answer trust)⟩

theorem AsksOnly.vouches (asks : program.AsksOnly sound) :
    program.Vouches trusted sound (fun _ => True) := by
  induction program with
  | done value => trivial
  | ask op next ih => exact ⟨asks.1, fun answer _ => ih answer (asks.2 answer)⟩

end Vouches

def Returns (good : α → Prop) : Program Answer α → Prop
  | .done value => good value
  | .ask _ next => ∀ answer, (next answer).Returns good

theorem returns_any (program : Program Answer α) : program.Returns (fun _ => True) := by
  induction program with
  | done value => trivial
  | ask op next ih => exact fun answer => ih answer

theorem Returns.bind {good : α → Prop} {better : β → Prop} {program : Program Answer α}
    {rest : α → Program Answer β} (first : program.Returns good)
    (later : ∀ value, good value → (rest value).Returns better) :
    (program >>= rest).Returns better := by
  induction program with
  | done value => exact later value first
  | ask op next ih => exact fun answer => ih answer (first answer)

end Program

abbrev Handler {Op : Type} (Answer : Op → Type) (Choice σ : Type) :=
  Choice → (op : Op) → σ → Answer op × σ

variable {Choice σ : Type} (exec : Handler Answer Choice σ)

namespace Program

/-- The result and the final state when the `n`th operation is answered by the
`n`th choice of the script. -/
def run : (Nat → Choice) → Program Answer α → σ → α × σ
  | _, .done value, state => (value, state)
  | script, .ask op next, state =>
      let reply := exec (script 0) op state
      run (fun n => script (n + 1)) (next reply.1) reply.2

def exchanges : (Nat → Choice) → Program Answer α → σ → List (Exchange Answer)
  | _, .done _, _ => []
  | script, .ask op next, state =>
      let reply := exec (script 0) op state
      ⟨op, reply.1⟩ :: exchanges (fun n => script (n + 1)) (next reply.1) reply.2

/-- What is left of a program, and the state, after at most `limit` operations:
the configurations a crash can leave behind. -/
def runFor : Nat → (Nat → Choice) → Program Answer α → σ → Program Answer α × σ
  | 0, _, program, state => (program, state)
  | _ + 1, _, .done value, state => (.done value, state)
  | limit + 1, script, .ask op next, state =>
      let reply := exec (script 0) op state
      runFor limit (fun n => script (n + 1)) (next reply.1) reply.2

def Permits (permitted : σ → Choice → Prop) : (Nat → Choice) → Program Answer α → σ → Prop
  | _, .done _, _ => True
  | script, .ask op next, state =>
      permitted state (script 0) ∧
        Permits permitted (fun n => script (n + 1)) (next (exec (script 0) op state).1)
          (exec (script 0) op state).2

/-- Whatever permitted choices answer it, the program ends in `post`. -/
def Ends (permitted : σ → Choice → Prop) : Program Answer α → (α → σ → Prop) → σ → Prop
  | .done value, post, state => post value state
  | .ask op next, post, state =>
      ∀ choice, permitted state choice →
        Ends permitted (next (exec choice op state).1) post (exec choice op state).2

/-- Whatever permitted choices answer it, `always` holds in every state the
program passes through, the first and the last included. -/
def Keeps (permitted : σ → Choice → Prop) (always : σ → Prop) : Program Answer α → σ → Prop
  | .done _, state => always state
  | .ask op next, state =>
      always state ∧ ∀ choice, permitted state choice →
        Keeps permitted always (next (exec choice op state).1) (exec choice op state).2

section Rules

variable {exec} {permitted : σ → Choice → Prop} {program : Program Answer α}
  {rest : α → Program Answer β}

theorem Ends.mono {post wider : α → σ → Prop} {state : σ}
    (ends : program.Ends exec permitted post state)
    (implies : ∀ value final, post value final → wider value final) :
    program.Ends exec permitted wider state := by
  induction program generalizing state with
  | done value => exact implies value state ends
  | ask op next ih => exact fun choice allowed => ih _ (ends choice allowed)

theorem Ends.bind {post : β → σ → Prop} {state : σ}
    (ends : program.Ends exec permitted
      (fun value middle => (rest value).Ends exec permitted post middle) state) :
    (program >>= rest).Ends exec permitted post state := by
  induction program generalizing state with
  | done value => exact ends
  | ask op next ih => exact fun choice allowed => ih _ (ends choice allowed)

theorem Ends.and {first second : α → σ → Prop} {state : σ}
    (left : program.Ends exec permitted first state)
    (right : program.Ends exec permitted second state) :
    program.Ends exec permitted (fun value final => first value final ∧ second value final)
      state := by
  induction program generalizing state with
  | done value => exact ⟨left, right⟩
  | ask op next ih => exact fun choice allowed => ih _ (left choice allowed) (right choice allowed)

theorem permits_of_forall {script : Nat → Choice} (program : Program Answer α) (state : σ)
    (allowed : ∀ current n, permitted current (script n)) :
    program.Permits exec permitted script state := by
  induction program generalizing state script with
  | done value => trivial
  | ask op next ih =>
      exact ⟨allowed state 0, ih _ _ (fun current n => allowed current (n + 1))⟩

theorem Permits.and {permitted stricter : σ → Choice → Prop} {script : Nat → Choice}
    {program : Program Answer α} {state : σ}
    (first : program.Permits exec permitted script state)
    (second : program.Permits exec stricter script state) :
    program.Permits exec (fun current choice => permitted current choice ∧ stricter current choice)
      script state := by
  induction program generalizing state script with
  | done value => trivial
  | ask op next ih => exact ⟨⟨first.1, second.1⟩, ih _ first.2 second.2⟩

/-- An invariant of the run's states under which every choice is permitted. -/
theorem permits_of_asksOnly {allowed : Op → Prop} {invariant : σ → Prop} {script : Nat → Choice}
    {state : σ} (asks : program.AsksOnly allowed)
    (step : ∀ choice op current, allowed op → invariant current →
      invariant (exec choice op current).2)
    (chosen : ∀ current n, invariant current → permitted current (script n))
    (holds : invariant state) : program.Permits exec permitted script state := by
  induction program generalizing state script with
  | done value => trivial
  | ask op next ih =>
      exact ⟨chosen state 0 holds, ih _ (asks.2 _) (fun current n => chosen current (n + 1))
        (step _ op state asks.1 holds)⟩

theorem Ends.run {post : α → σ → Prop} {state : σ} {script : Nat → Choice}
    (ends : program.Ends exec permitted post state)
    (permits : program.Permits exec permitted script state) :
    post (program.run exec script state).1 (program.run exec script state).2 := by
  induction program generalizing state script with
  | done value => exact ends
  | ask op next ih => exact ih _ (ends (script 0) permits.1) permits.2

/-- What every allowed operation preserves, the whole program preserves. -/
theorem Ends.of_asksOnly {allowed : Op → Prop} {invariant : σ → Prop} {state : σ}
    (asks : program.AsksOnly allowed)
    (step : ∀ choice op current, permitted current choice → allowed op → invariant current →
      invariant (exec choice op current).2)
    (holds : invariant state) :
    program.Ends exec permitted (fun _ final => invariant final) state := by
  induction program generalizing state with
  | done value => exact holds
  | ask op next ih =>
      intro choice chosen
      exact ih _ (asks.2 _) (step choice op state chosen asks.1 holds)

theorem Returns.ends {good : α → Prop} (returns : program.Returns good) (state : σ) :
    program.Ends exec permitted (fun value _ => good value) state := by
  induction program generalizing state with
  | done value => exact returns
  | ask op next ih => exact fun choice _ => ih _ (returns _) _

/-- Where sound operations keep an invariant and are answered as the program
trusts, it ends as it vouches. -/
theorem Vouches.ends {trusted : (op : Op) → Answer op → Prop} {sound : Op → Prop}
    {good : α → Prop} {invariant : σ → Prop} {state : σ}
    (vouches : program.Vouches trusted sound good)
    (step : ∀ choice op current, permitted current choice → sound op → invariant current →
      trusted op (exec choice op current).1 ∧ invariant (exec choice op current).2)
    (holds : invariant state) :
    program.Ends exec permitted (fun value final => good value ∧ invariant final) state := by
  induction program generalizing state with
  | done value => exact ⟨vouches, holds⟩
  | ask op next ih =>
      intro choice chosen
      obtain ⟨trust, held⟩ := step choice op state chosen vouches.1 holds
      exact ih _ (vouches.2 _ trust) held

theorem Ends.of_step {invariant : σ → Prop} {state : σ} (program : Program Answer α)
    (step : ∀ choice op current, permitted current choice → invariant current →
      invariant (exec choice op current).2)
    (holds : invariant state) :
    program.Ends exec permitted (fun _ final => invariant final) state :=
  Ends.of_asksOnly (asksOnly_any program)
    (fun choice op current chosen _ => step choice op current chosen) holds

theorem Keeps.mono {always wider : σ → Prop} {state : σ}
    (keeps : program.Keeps exec permitted always state)
    (implies : ∀ current, always current → wider current) :
    program.Keeps exec permitted wider state := by
  induction program generalizing state with
  | done value => exact implies state keeps
  | ask op next ih =>
      exact ⟨implies state keeps.1, fun choice allowed => ih _ (keeps.2 choice allowed)⟩

theorem Keeps.bind {always : σ → Prop} {state : σ}
    (keeps : program.Keeps exec permitted always state)
    (later : program.Ends exec permitted
      (fun value middle => (rest value).Keeps exec permitted always middle) state) :
    (program >>= rest).Keeps exec permitted always state := by
  induction program generalizing state with
  | done value => exact later
  | ask op next ih =>
      exact ⟨keeps.1, fun choice allowed => ih _ (keeps.2 choice allowed) (later choice allowed)⟩

theorem Keeps.of_asksOnly {allowed : Op → Prop} {invariant : σ → Prop} {state : σ}
    (asks : program.AsksOnly allowed)
    (step : ∀ choice op current, permitted current choice → allowed op → invariant current →
      invariant (exec choice op current).2)
    (holds : invariant state) : program.Keeps exec permitted invariant state := by
  induction program generalizing state with
  | done value => exact holds
  | ask op next ih =>
      exact ⟨holds, fun choice chosen =>
        ih _ (asks.2 _) (step choice op state chosen asks.1 holds)⟩

theorem Keeps.runFor {always : σ → Prop} {state : σ}
    {script : Nat → Choice} (keeps : program.Keeps exec permitted always state) (limit : Nat)
    (permits : program.Permits exec permitted script state) :
    always (program.runFor exec limit script state).2 := by
  induction limit generalizing program state script with
  | zero =>
      cases program with
      | done value => exact keeps
      | ask op next => exact keeps.1
  | succ limit ih =>
      cases program with
      | done value => exact keeps
      | ask op next =>
          exact ih (keeps.2 (script 0) permits.1) permits.2

end Rules

theorem run_bind (script : Nat → Choice) (program : Program Answer α)
    (rest : α → Program Answer β) (state : σ) :
    (program >>= rest).run exec script state =
      (rest (program.run exec script state).1).run exec
        (fun n => script (n + (program.exchanges exec script state).length))
        (program.run exec script state).2 := by
  induction program generalizing state script with
  | done value => rfl
  | ask op next ih =>
      rw [ask_bind, run, ih]
      simp only [run, exchanges, List.length_cons, Nat.add_assoc]

theorem exchanges_bind (script : Nat → Choice) (program : Program Answer α)
    (rest : α → Program Answer β) (state : σ) :
    (program >>= rest).exchanges exec script state =
      program.exchanges exec script state ++
        (rest (program.run exec script state).1).exchanges exec
          (fun n => script (n + (program.exchanges exec script state).length))
          (program.run exec script state).2 := by
  induction program generalizing state script with
  | done value => rfl
  | ask op next ih =>
      rw [ask_bind, exchanges, ih]
      simp only [run, exchanges, List.length_cons, Nat.add_assoc, List.cons_append]

/-- A prefix of a sequence is a prefix of its first part, or all of the first part
and a prefix of the second. -/
theorem runFor_bind (limit : Nat) (script : Nat → Choice) (program : Program Answer α)
    (rest : α → Program Answer β) (state : σ) :
    ((program >>= rest).runFor exec limit script state).2 =
      (program.runFor exec limit script state).2 ∨
    ∃ later, ((program >>= rest).runFor exec limit script state).2 =
      ((rest (program.run exec script state).1).runFor exec later
        (fun n => script (n + (program.exchanges exec script state).length))
        (program.run exec script state).2).2 := by
  induction program generalizing state script limit with
  | done value => exact .inr ⟨limit, rfl⟩
  | ask op next ih =>
      cases limit with
      | zero => exact .inl rfl
      | succ limit =>
          rcases ih _ limit (fun n => script (n + 1)) (exec (script 0) op state).2 with
            first | ⟨later, second⟩
          · exact .inl first
          · refine .inr ⟨later, ?_⟩
            simp only [ask_bind, runFor, run, exchanges, List.length_cons]
            simp only [Nat.add_assoc] at second
            exact second

theorem AsksOnly.exchanges {allowed : Op → Prop} {program : Program Answer α}
    (asks : program.AsksOnly allowed) (script : Nat → Choice) (state : σ) :
    ∀ exchange ∈ program.exchanges exec script state, allowed exchange.op := by
  induction program generalizing state script with
  | done value => exact fun exchange member => (List.not_mem_nil member).elim
  | ask op next ih => exact List.forall_mem_cons.mpr ⟨asks.1, ih _ (asks.2 _) _ _⟩

/-- From `state`, the first program becomes the second after calls that only
read: whatever is chosen, their answers are the same and nothing changes. -/
inductive Reads (state : σ) : Program Answer α → Program Answer α → Prop
  | refl (program : Program Answer α) : Reads state program program
  | step (op : Op) (next : Answer op → Program Answer α) (answer : Answer op)
      (later : Program Answer α) (silent : ∀ choice, exec choice op state = (answer, state))
      (rest : Reads state (next answer) later) : Reads state (.ask op next) later

section Reads

variable {exec} {permitted : σ → Choice → Prop} {state : σ} {program later : Program Answer α}

theorem Reads.ends {post : α → σ → Prop} (reads : Reads exec state program later)
    (ends : later.Ends exec permitted post state) : program.Ends exec permitted post state := by
  induction reads with
  | refl program => exact ends
  | step op next answer later silent rest ih =>
      intro choice allowed
      rw [silent choice]
      exact ih ends

theorem Reads.run (reads : Reads exec state program later) (script : Nat → Choice) :
    ∃ asked, program.run exec script state =
      later.run exec (fun n => script (n + asked)) state := by
  induction reads generalizing script with
  | refl program => exact ⟨0, rfl⟩
  | step op next answer later silent rest ih =>
      obtain ⟨asked, same⟩ := ih (fun n => script (n + 1))
      refine ⟨asked + 1, ?_⟩
      rw [Program.run, silent (script 0), same]
      simp only [Nat.add_assoc]

theorem Reads.keeps {always : σ → Prop} (reads : Reads exec state program later)
    (keeps : later.Keeps exec permitted always state) (holds : always state) :
    program.Keeps exec permitted always state := by
  induction reads with
  | refl program => exact keeps
  | step op next answer later silent rest ih =>
      refine ⟨holds, fun choice allowed => ?_⟩
      rw [silent choice]
      exact ih keeps

theorem Reads.split (reads : Reads exec state program later) :
    ∃ front : List (Exchange Answer),
      (∀ exchange ∈ front, ∀ choice, exec choice exchange.op state = (exchange.answer, state)) ∧
      ∀ script : Nat → Choice,
        program.exchanges exec script state =
          front ++ later.exchanges exec (fun n => script (n + front.length)) state ∧
        ∀ limit, (program.runFor exec limit script state).2 =
          (later.runFor exec (limit - front.length)
            (fun n => script (n + front.length)) state).2 := by
  induction reads with
  | refl program => exact ⟨[], by simp, fun script => ⟨rfl, fun limit => rfl⟩⟩
  | step op next answer later silent rest ih =>
      obtain ⟨front, reading, same⟩ := ih
      refine ⟨⟨op, answer⟩ :: front, List.forall_mem_cons.mpr ⟨silent, reading⟩, fun script => ?_⟩
      obtain ⟨asked, prefixes⟩ := same (fun n => script (n + 1))
      simp only [List.length_cons, Nat.add_assoc] at asked prefixes ⊢
      constructor
      · rw [Program.exchanges, silent (script 0), List.cons_append, ← asked]
      · intro limit
        cases limit with
        | zero => rw [Nat.zero_sub, runFor, runFor]
        | succ limit => rw [runFor, silent (script 0), Nat.add_sub_add_right, ← prefixes limit]

end Reads

section Logs

def Logs : Program Answer α → (List (Exchange Answer) → α → Prop) → Prop
  | .done value, post => post [] value
  | .ask op next, post =>
      ∀ answer, (next answer).Logs (fun later value => post (⟨op, answer⟩ :: later) value)

variable {program : Program Answer α} {rest : α → Program Answer β}

theorem Logs.mono {post wider : List (Exchange Answer) → α → Prop} (logs : program.Logs post)
    (implies : ∀ log value, post log value → wider log value) : program.Logs wider := by
  induction program generalizing post wider with
  | done value => exact implies [] value logs
  | ask op next ih => exact fun answer => ih answer (logs answer) (fun log => implies _)

theorem Logs.bind {post : List (Exchange Answer) → β → Prop}
    (logs : program.Logs (fun front value =>
      (rest value).Logs (fun back result => post (front ++ back) result))) :
    (program >>= rest).Logs post := by
  induction program generalizing post with
  | done value => exact logs
  | ask op next ih => exact fun answer => ih answer (logs answer)

theorem Logs.map {post : List (Exchange Answer) → β → Prop} {result : α → β}
    (logs : program.Logs (fun log value => post log (result value))) :
    (program >>= fun value => pure (result value)).Logs post := by
  induction program generalizing post with
  | done value => exact logs
  | ask op next ih => exact fun answer => ih answer (logs answer)

theorem Logs.run {post : List (Exchange Answer) → α → Prop} (logs : program.Logs post)
    (script : Nat → Choice) (state : σ) :
    post (program.exchanges exec script state) (program.run exec script state).1 := by
  induction program generalizing post script state with
  | done value => exact logs
  | ask op next ih => exact ih _ (logs _) _ _

end Logs

section Reports

variable {ε : Type} (fails : (op : Op) → Answer op → Prop)

def Fatal : Program Answer (Except ε α) → Prop
  | .done value => ∃ err, value = .error err
  | .ask _ next => ∀ answer, (next answer).Fatal

/-- The program ends in an error exactly when some answer it got was a failure. -/
def Reports : Program Answer (Except ε α) → Prop
  | .done value => ∃ result, value = .ok result
  | .ask op next => ∀ answer,
      (fails op answer → (next answer).Fatal) ∧ (¬ fails op answer → (next answer).Reports)

variable {fails} {program : Program Answer (Except ε α)}

theorem Fatal.run (fatal : program.Fatal) (script : Nat → Choice) (state : σ) :
    ∃ err, (program.run exec script state).1 = .error err := by
  induction program generalizing script state with
  | done value => exact fatal
  | ask op next ih => exact ih _ (fatal _) _ _

theorem Fatal.bind {rest : Except ε α → Program Answer (Except ε β)} (fatal : program.Fatal)
    (passes : ∀ err, (rest (.error err)).Fatal) : (program >>= rest).Fatal := by
  induction program with
  | done value =>
      obtain ⟨err, same⟩ := fatal
      subst same
      exact passes err
  | ask op next ih => exact fun answer => ih answer (fatal answer)

theorem Reports.bind {rest : Except ε α → Program Answer (Except ε β)}
    (reports : program.Reports fails) (passes : ∀ err, (rest (.error err)).Fatal)
    (later : ∀ result, (rest (.ok result)).Reports fails) : (program >>= rest).Reports fails := by
  induction program with
  | done value =>
      obtain ⟨result, same⟩ := reports
      subst same
      exact later result
  | ask op next ih =>
      exact fun answer => ⟨fun failed => ((reports answer).1 failed).bind passes,
        fun passed => ih answer ((reports answer).2 passed)⟩

theorem Reports.run (reports : program.Reports fails) (script : Nat → Choice) (state : σ) :
    (∃ result, (program.run exec script state).1 = .ok result) ↔
      ∀ exchange ∈ program.exchanges exec script state, ¬ fails exchange.op exchange.answer := by
  induction program generalizing script state with
  | done value =>
      exact ⟨fun _ _ member => (List.not_mem_nil member).elim, fun _ => reports⟩
  | ask op next ih =>
      rw [exchanges, List.forall_mem_cons]
      have step := reports (exec (script 0) op state).1
      by_cases failed : fails op (exec (script 0) op state).1
      · obtain ⟨err, ended⟩ := (step.1 failed).run exec (fun n => script (n + 1))
          (exec (script 0) op state).2
        constructor
        · rintro ⟨result, success⟩
          rw [Program.run, ended] at success
          cases success
        · exact fun none => absurd failed none.1
      · rw [Program.run, ih _ (step.2 failed)]
        exact ⟨fun rest => ⟨failed, rest⟩, And.right⟩

end Reports

section Aborts

variable {ε : Type} (fails : (op : Op) → Answer op → Prop)

/-- A failure ends the program at once with an error, and without one it succeeds. -/
def Aborts : Program Answer (Except ε α) → Prop
  | .done value => ∃ result, value = .ok result
  | .ask op next => ∀ answer,
      (fails op answer → ∃ err, next answer = .done (.error err)) ∧
        (¬ fails op answer → (next answer).Aborts)

def AbortsFrom (starts : Op → Prop) : Program Answer (Except ε α) → Prop
  | .done _ => True
  | .ask op next => (starts op ∧ Aborts fails (.ask op next)) ∨
      (¬ starts op ∧ ∀ answer, (next answer).AbortsFrom starts)

variable {fails} {starts : Op → Prop}

theorem Aborts.bind {program : Program Answer (Except ε α)}
    {rest : Except ε α → Program Answer (Except ε β)} (aborts : program.Aborts fails)
    (passes : ∀ err, ∃ failure, rest (.error err) = .done (.error failure))
    (later : ∀ result, (rest (.ok result)).Aborts fails) : (program >>= rest).Aborts fails := by
  induction program with
  | done value =>
      obtain ⟨result, same⟩ := aborts
      subst same
      exact later result
  | ask op next ih =>
      refine fun answer => ⟨fun failed => ?_, fun passed => ih answer ((aborts answer).2 passed)⟩
      obtain ⟨err, stopped⟩ := (aborts answer).1 failed
      dsimp only
      rw [stopped]
      exact passes err

/-- Where no allowed call fails, the program succeeds. -/
theorem Aborts.succeeds {allowed : Op → Prop} {permitted : σ → Choice → Prop}
    {program : Program Answer (Except ε α)} (aborts : program.Aborts fails)
    (asks : program.AsksOnly allowed)
    (sound : ∀ choice op state, permitted state choice → allowed op →
      ¬ fails op (exec choice op state).1) (state : σ) :
    program.Ends exec permitted (fun outcome _ => ∃ result, outcome = .ok result) state := by
  induction program generalizing state with
  | done value => exact aborts
  | ask op next ih =>
      intro choice chosen
      exact ih _ ((aborts _).2 (sound choice op state chosen asks.1)) (asks.2 _) _

theorem Aborts.abortsFrom {program : Program Answer (Except ε α)} (aborts : program.Aborts fails) :
    program.AbortsFrom fails starts := by
  induction program with
  | done value => trivial
  | ask op next ih =>
      by_cases begun : starts op
      · exact .inl ⟨begun, aborts⟩
      · refine .inr ⟨begun, fun answer => ?_⟩
        by_cases failed : fails op answer
        · obtain ⟨err, stopped⟩ := (aborts answer).1 failed
          rw [stopped]
          trivial
        · exact ih answer ((aborts answer).2 failed)

theorem AbortsFrom.bind {program : Program Answer α} {rest : α → Program Answer (Except ε β)}
    (before : program.AsksOnly (fun op => ¬ starts op))
    (later : ∀ value, (rest value).AbortsFrom fails starts) :
    (program >>= rest).AbortsFrom fails starts := by
  induction program with
  | done value => exact later value
  | ask op next ih => exact .inr ⟨before.1, fun answer => ih answer (before.2 answer)⟩

/-- What follows is reached only without a failure. -/
theorem AbortsFrom.followed {program : Program Answer (Except ε α)}
    {rest : Except ε α → Program Answer (Except ε β)} (aborts : program.AbortsFrom fails starts)
    (passes : ∀ err, ∃ failure, rest (.error err) = .done (.error failure))
    (later : ∀ result, (rest (.ok result)).Aborts fails) :
    (program >>= rest).AbortsFrom fails starts := by
  induction program with
  | done value =>
      cases value with
      | error err =>
          obtain ⟨failure, stopped⟩ := passes err
          rw [done_bind, stopped]
          trivial
      | ok result => exact (later result).abortsFrom
  | ask op next ih =>
      rcases aborts with ⟨begun, aborts⟩ | ⟨early, continued⟩
      · exact .inl ⟨begun, aborts.bind passes later⟩
      · exact .inr ⟨early, fun answer => ih answer (continued answer)⟩

end Aborts

end Program

end Sentinel5G.Base
