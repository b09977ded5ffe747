import Sentinel5G.Base.Program

namespace Sentinel5G.Events

open Base Program

inductive Verdict
  | ack
  | nak
  | term
  deriving DecidableEq, Repr

def maxThreatScoreDeliveries : Nat := 5

variable {Op : Type} {Answer : Op → Type} {Choice σ ε Event : Type}

/-- The callback of `SubscribeThreatScores`. The payload is given by what it
decodes to; one that does not decode never will. -/
def settle (handler : Event → Program Answer (Except ε Unit)) (payload : Option Event) :
    Program Answer Verdict := do
  match payload with
  | none => return .term
  | some event =>
      match ← handler event with
      | .error _ => return .nak
      | .ok () => return .ack

/-- JetStream's side: after a `Nak` the message is delivered again, `limit`
times in all. -/
def deliver : Nat → Program Answer Verdict → Program Answer (List Verdict)
  | 0, _ => return []
  | limit + 1, callback => do
      match ← callback with
      | .nak =>
          let later ← deliver limit callback
          return .nak :: later
      | verdict => return [verdict]

section Run

variable (exec : Handler Answer Choice σ) (script : Nat → Choice) (state : σ)

theorem settle_verdict (handler : Event → Program Answer (Except ε Unit)) (event : Event) :
    ((settle handler (some event)).run exec script state).1 = .nak ↔
      ∃ err, ((handler event).run exec script state).1 = .error err := by
  rw [settle, run_bind]
  cases ((handler event).run exec script state).1 with
  | error err => exact ⟨fun _ => ⟨err, rfl⟩, fun _ => rfl⟩
  | ok done =>
      constructor
      · intro impossible
        cases impossible
      · rintro ⟨_, impossible⟩
        cases impossible

theorem deliver_again (limit : Nat) (callback : Program Answer Verdict) :
    1 < ((deliver (limit + 2) callback).run exec script state).1.length ↔
      (callback.run exec script state).1 = .nak := by
  rw [deliver, run_bind]
  cases (callback.run exec script state).1 with
  | ack => exact ⟨fun long => absurd long (Nat.lt_irrefl 1), fun impossible => by cases impossible⟩
  | term => exact ⟨fun long => absurd long (Nat.lt_irrefl 1), fun impossible => by cases impossible⟩
  | nak =>
      refine ⟨fun _ => rfl, fun _ => ?_⟩
      dsimp only
      rw [run_bind, deliver, run_bind]
      cases (callback.run exec _ _).1 with
      | ack => exact Nat.one_lt_two
      | term => exact Nat.one_lt_two
      | nak =>
          dsimp only
          rw [run_bind]
          exact Nat.succ_lt_succ (Nat.succ_pos _)

theorem deliver_ends {permitted : σ → Choice → Prop} {invariant : σ → Prop}
    {callback : Program Answer Verdict}
    (step : ∀ current, invariant current →
      callback.Ends exec permitted (fun _ final => invariant final) current)
    (limit : Nat) {state : σ} (holds : invariant state) :
    (deliver limit callback).Ends exec permitted (fun _ final => invariant final) state := by
  induction limit generalizing state with
  | zero => exact holds
  | succ limit ih =>
      refine Ends.bind ((step state holds).mono (fun verdict final held => ?_))
      cases verdict with
      | ack => exact held
      | term => exact held
      | nak => exact Ends.bind ((ih held).mono (fun _ _ kept => kept))

end Run

end Sentinel5G.Events
