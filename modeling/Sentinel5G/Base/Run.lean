namespace Sentinel5G.Base

variable {σ μ : Type} (next : σ → μ → σ)

def runMoves (start : σ) (moves : List μ) : σ := moves.foldl next start

def AllMoves (allowed : σ → μ → Prop) : σ → List μ → Prop
  | _, [] => True
  | state, move :: rest => allowed state move ∧ AllMoves allowed (next state move) rest

variable {next} {allowed : σ → μ → Prop}

/-- What every allowed move preserves holds after every run of allowed moves. -/
theorem runMoves_invariant {invariant : σ → Prop} {start : σ} (moves : List μ)
    (step : ∀ state move, allowed state move → invariant state → invariant (next state move))
    (initial : invariant start) (run : AllMoves next allowed start moves) :
    invariant (runMoves next start moves) := by
  induction moves generalizing start with
  | nil => exact initial
  | cons move rest ih => exact ih (step start move run.1 initial) run.2

theorem allMoves_of_forall {state : σ} {moves : List μ}
    (every : ∀ current, ∀ move ∈ moves, allowed current move) :
    AllMoves next allowed state moves := by
  induction moves generalizing state with
  | nil => trivial
  | cons move rest ih =>
      exact ⟨every state move List.mem_cons_self,
        ih (fun current other member => every current other (List.mem_cons_of_mem _ member))⟩

theorem AllMoves.mono {wider : σ → μ → Prop} {state : σ} {moves : List μ}
    (run : AllMoves next allowed state moves)
    (implies : ∀ current move, allowed current move → wider current move) :
    AllMoves next wider state moves := by
  induction moves generalizing state with
  | nil => trivial
  | cons move rest ih => exact ⟨implies state move run.1, ih run.2⟩

instance AllMoves.decidable [∀ state move, Decidable (allowed state move)] :
    (state : σ) → (moves : List μ) → Decidable (AllMoves next allowed state moves)
  | _, [] => isTrue trivial
  | state, move :: rest =>
      have := AllMoves.decidable (next state move) rest
      inferInstanceAs (Decidable (allowed state move ∧
        AllMoves next allowed (next state move) rest))

end Sentinel5G.Base
