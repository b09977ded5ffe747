import Sentinel5G.Base.Run
import Sentinel5G.Base.Window

namespace Sentinel5G.Base

variable {σ μ : Type} (next : σ → μ → σ)

def turns : σ → List μ → List (σ × μ)
  | _, [] => []
  | state, move :: rest => (state, move) :: turns (next state move) rest

variable {next}

theorem runMoves_concat (start : σ) (moves : List μ) (last : μ) :
    runMoves next start (moves ++ [last]) = next (runMoves next start moves) last := by
  rw [runMoves, List.foldl_append, List.foldl_cons, List.foldl_nil, runMoves]

theorem turns_append (start : σ) (moves more : List μ) :
    turns next start (moves ++ more) =
      turns next start moves ++ turns next (runMoves next start moves) more := by
  induction moves generalizing start with
  | nil => rfl
  | cons move rest ih =>
      rw [List.cons_append, turns, ih, turns, List.cons_append]
      rfl

theorem turns_concat (start : σ) (moves : List μ) (last : μ) :
    turns next start (moves ++ [last]) =
      turns next start moves ++ [(runMoves next start moves, last)] :=
  turns_append start moves [last]

@[simp] theorem map_snd_turns (start : σ) (moves : List μ) :
    (turns next start moves).map Prod.snd = moves := by
  induction moves generalizing start with
  | nil => rfl
  | cons move rest ih => rw [turns, List.map_cons, ih]

theorem turns_split {start : σ} {moves : List μ} {past rest : List (σ × μ)} {turn : σ × μ}
    (split : turns next start moves = past ++ turn :: rest) :
    ∃ before after, moves = before ++ turn.2 :: after ∧ past = turns next start before ∧
      turn.1 = runMoves next start before ∧ rest = turns next (next turn.1 turn.2) after := by
  have whole := congrArg (List.map Prod.snd) split
  rw [map_snd_turns, List.map_append, List.map_cons] at whole
  have length : (turns next start (past.map Prod.snd)).length = past.length := by
    rw [← List.length_map Prod.snd, map_snd_turns, List.length_map]
  rw [whole, turns_append] at split
  obtain ⟨same, tail⟩ := List.append_inj split length
  rw [turns, List.cons.injEq] at tail
  refine ⟨past.map Prod.snd, rest.map Prod.snd, whole, same.symm, ?_, ?_⟩
  · rw [← tail.1]
  · rw [← tail.2, ← tail.1, map_snd_turns]

theorem of_mem_turns {start : σ} {moves : List μ} {turn : σ × μ}
    (member : turn ∈ turns next start moves) :
    turn.2 ∈ moves ∧ ∃ before, turn.1 = runMoves next start before := by
  obtain ⟨past, rest, split⟩ := List.append_of_mem member
  obtain ⟨before, after, whole, -, state, -⟩ := turns_split split
  exact ⟨by simp [whole], before, state⟩

theorem filterMap_concat {α β : Type} (pick : α → Option β) (xs : List α) (x : α) :
    (xs ++ [x]).filterMap pick = xs.filterMap pick ++ (pick x).toList := by
  rw [List.filterMap_append]
  cases picked : pick x with
  | none => simp [picked]
  | some y => simp [picked]

theorem filter_concat {α : Type} (selects : α → Bool) (xs : List α) (x : α) :
    (xs ++ [x]).filter selects = xs.filter selects ++ if selects x then [x] else [] := by
  rw [List.filter_append, List.filter_singleton, Bool.cond_eq_ite]

theorem filter_turns_concat (selects : μ → Bool) (start : σ) (moves : List μ) (last : μ) :
    (turns next start (moves ++ [last])).filter (fun turn => selects turn.2) =
      (turns next start moves).filter (fun turn => selects turn.2) ++
        if selects last then [(runMoves next start moves, last)] else [] := by
  rw [turns_concat, filter_concat]

theorem throughout_filter_turns {selects : μ → Bool} {holds : List (σ × μ) → σ × μ → Prop}
    {start : σ} {moves : List μ} (step : ∀ past last rest, moves = past ++ last :: rest →
      selects last = true →
      holds ((turns next start past).filter (fun turn => selects turn.2))
        (runMoves next start past, last)) :
    Throughout holds ((turns next start moves).filter (fun turn => selects turn.2)) := by
  induction moves using List.reverseRecOn with
  | nil => exact throughout_nil holds
  | append_singleton moves final ih =>
      have inner := ih fun past last rest split =>
        step past last (rest ++ [final]) (by rw [split]; simp)
      rw [filter_turns_concat]
      cases chosen : selects final with
      | true =>
          rw [if_pos rfl]
          exact inner.concat (step moves final [] rfl chosen)
      | false =>
          rw [if_neg Bool.false_ne_true, List.append_nil]
          exact inner

theorem runMoves_flatMap {τ ν : Type} {step : τ → ν → τ} (held : σ → τ) {pick : σ × μ → List ν}
    (part : ∀ state move, held (next state move) = runMoves step (held state) (pick (state, move)))
    (start : σ) (moves : List μ) :
    held (runMoves next start moves) =
      runMoves step (held start) ((turns next start moves).flatMap pick) := by
  induction moves using List.reverseRecOn with
  | nil => rfl
  | append_singleton moves last ih =>
      rw [runMoves_concat, part, ih, turns_concat, List.flatMap_append, List.flatMap_singleton]
      exact (List.foldl_append ..).symm

section Component

variable {τ ν : Type} {step : τ → ν → τ} {pick : μ → Option ν} {held : σ → Option τ}

/-- A part of the state that some of the moves concern: they change it by `step`,
the others do not. -/
def Component (next : σ → μ → σ) (step : τ → ν → τ) (pick : μ → Option ν) (held : σ → Option τ) :
    Prop :=
  ∀ state move, held (next state move) =
    (pick move).elim (held state) (fun act => (held state).map (fun part => step part act))

/-- A run of the whole is one of the part. -/
theorem Component.runMoves_held (component : Component next step pick held) (start : σ)
    (moves : List μ) :
    held (runMoves next start moves) =
      (held start).map (fun part => runMoves step part (moves.filterMap pick)) := by
  induction moves using List.reverseRecOn with
  | nil =>
      change held start = (held start).map id
      rw [Option.map_id, id]
  | append_singleton moves last ih =>
      rw [runMoves_concat, component, ih, filterMap_concat]
      cases pick last with
      | none => simp
      | some act =>
          rw [Option.elim_some, Option.map_map, Option.toList_some]
          congr 1
          funext part
          exact (runMoves_concat _ _ _).symm

theorem Component.turns_held (component : Component next step pick held) (start : σ) {part : τ}
    (begun : held start = some part) {moves : List μ} {turn : τ × ν}
    (member : turn ∈ turns step part (moves.filterMap pick)) :
    ∃ outer ∈ turns next start moves, pick outer.2 = some turn.2 ∧ held outer.1 = some turn.1 := by
  induction moves using List.reverseRecOn with
  | nil => cases member
  | append_singleton moves last ih =>
      rw [filterMap_concat] at member
      rw [turns_concat]
      have earlier : turn ∈ turns step part (moves.filterMap pick) →
          ∃ outer ∈ turns next start moves ++ [(runMoves next start moves, last)],
            pick outer.2 = some turn.2 ∧ held outer.1 = some turn.1 := by
        intro old
        obtain ⟨outer, inside, same⟩ := ih old
        exact ⟨outer, List.mem_append_left _ inside, same⟩
      cases picked : pick last with
      | none =>
          rw [picked, Option.toList_none, List.append_nil] at member
          exact earlier member
      | some act =>
          rw [picked, Option.toList_some, turns_concat, List.mem_append,
            List.mem_singleton] at member
          rcases member with old | rfl
          · exact earlier old
          · refine ⟨_, List.mem_append_right _ (List.mem_singleton_self _), picked, ?_⟩
            rw [component.runMoves_held, begun]
            rfl

end Component

end Sentinel5G.Base
