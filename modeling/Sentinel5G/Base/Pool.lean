import Sentinel5G.Base.Program

namespace Sentinel5G.Base.Program

variable {Op : Type} {Answer : Op → Type} {Choice σ α : Type}

section Definitions

variable (exec : Handler Answer Choice σ) (choice : Choice) (state : σ)

def advance : Program Answer α → Program Answer α × σ
  | .done value => (.done value, state)
  | .ask op next => (next (exec choice op state).1, (exec choice op state).2)

def advanceAt (place : Nat) (pool : List (Program Answer α)) : List (Program Answer α) × σ :=
  match pool[place]? with
  | none => (pool, state)
  | some program =>
      (pool.set place (program.advance exec choice state).1, (program.advance exec choice state).2)

def forget (program : Program Answer α) : Program Answer Unit := program >>= fun _ => .done ()

end Definitions

section Vouches

variable {exec : Handler Answer Choice σ} {trusted : (op : Op) → Answer op → Prop}
  {sound : Op → Prop} {good : α → Prop}

theorem Vouches.weaken {program : Program Answer α} {trustedMore : (op : Op) → Answer op → Prop}
    {soundMore : Op → Prop} (vouches : program.Vouches trusted sound good)
    (stricter : ∀ op answer, trustedMore op answer → trusted op answer)
    (asks : program.AsksOnly (fun op => sound op → soundMore op)) :
    program.Vouches trustedMore soundMore good := by
  induction program with
  | done value => exact vouches
  | ask op next ih =>
      exact ⟨asks.1 vouches.1, fun answer trust =>
        ih answer (vouches.2 answer (stricter op answer trust)) (asks.2 answer)⟩

theorem Vouches.forget {program : Program Answer α}
    (vouches : program.Vouches trusted sound (fun _ => True)) :
    program.forget.Vouches trusted sound (fun _ => True) :=
  Vouches.bind (vouches.mono fun _ _ => trivial)

variable {invariant : σ → Prop}
  (honest : ∀ choice op state, sound op → invariant state →
    trusted op (exec choice op state).1 ∧ invariant (exec choice op state).2)

include honest

theorem Vouches.advance {program : Program Answer α} (vouches : program.Vouches trusted sound good)
    (choice : Choice) {state : σ} (holds : invariant state) :
    (program.advance exec choice state).1.Vouches trusted sound good ∧
      invariant (program.advance exec choice state).2 := by
  cases program with
  | done value => exact ⟨vouches, holds⟩
  | ask op next =>
      obtain ⟨trust, kept⟩ := honest choice op state vouches.1 holds
      exact ⟨vouches.2 _ trust, kept⟩

theorem advanceAt_vouches {pool : List (Program Answer α)}
    (vouch : ∀ program ∈ pool, program.Vouches trusted sound good) (choice : Choice) (place : Nat)
    {state : σ} (holds : invariant state) :
    (∀ program ∈ (advanceAt exec choice state place pool).1, program.Vouches trusted sound good) ∧
      invariant (advanceAt exec choice state place pool).2 := by
  rw [advanceAt]
  split
  · exact ⟨vouch, holds⟩
  · rename_i program found
    obtain ⟨later, kept⟩ :=
      (vouch program (List.mem_of_getElem? found)).advance honest choice holds
    refine ⟨fun other member => ?_, kept⟩
    rcases List.mem_or_eq_of_mem_set member with old | rfl
    · exact vouch other old
    · exact later

end Vouches

end Sentinel5G.Base.Program
