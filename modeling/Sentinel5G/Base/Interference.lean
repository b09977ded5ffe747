import Sentinel5G.Base.Program

/-! Programs whose operations are interleaved with the steps of others: what
holds at each operation, as long as the others keep to what the program relies on. -/

namespace Sentinel5G.Base.Program

variable {Op : Type} {Answer : Op → Type} {Choice σ α β : Type}

section Definition

variable (exec : Handler Answer Choice σ) (rely : σ → σ → Prop) (ready : Op → σ → Prop)

/-- Between any two operations the others may move the state along `rely`. Every
operation is performed in a state that is ready for it, and the end meets `post`. -/
def Endures : Program Answer α → (α → σ → Prop) → σ → Prop
  | .done value, post, state => ∀ later, rely state later → post value later
  | .ask op next, post, state => ∀ later, rely state later →
      ready op later ∧ ∀ choice,
        Endures (next (exec choice op later).1) post (exec choice op later).2

end Definition

section Rules

variable {exec : Handler Answer Choice σ} {rely : σ → σ → Prop} {ready : Op → σ → Prop}
  {program : Program Answer α} {state : σ}

theorem Endures.later (trans : ∀ first second third, rely first second → rely second third →
      rely first third) {post : α → σ → Prop}
    (endures : program.Endures exec rely ready post state) {after : σ} (moved : rely state after) :
    program.Endures exec rely ready post after := by
  cases program with
  | done value => exact fun last more => endures last (trans _ _ _ moved more)
  | ask op next => exact fun last more => endures last (trans _ _ _ moved more)

theorem Endures.mono {post wider : α → σ → Prop}
    (endures : program.Endures exec rely ready post state)
    (implies : ∀ value final, post value final → wider value final) :
    program.Endures exec rely ready wider state := by
  induction program generalizing state with
  | done value => exact fun later moved => implies value later (endures later moved)
  | ask op next ih =>
      intro later moved
      obtain ⟨prepared, rest⟩ := endures later moved
      exact ⟨prepared, fun choice => ih _ (rest choice)⟩

theorem Endures.bind (refl : ∀ state, rely state state) {rest : α → Program Answer β}
    {post : β → σ → Prop}
    (endures : program.Endures exec rely ready
      (fun value middle => (rest value).Endures exec rely ready post middle) state) :
    (program >>= rest).Endures exec rely ready post state := by
  induction program generalizing state with
  | done value => exact endures state (refl state)
  | ask op next ih =>
      intro later moved
      obtain ⟨prepared, continued⟩ := endures later moved
      exact ⟨prepared, fun choice => ih _ (continued choice)⟩

/-- An invariant of the allowed operations that the others leave alone. -/
theorem Endures.of_asksOnly {allowed : Op → Prop} {invariant : σ → Prop}
    (asks : program.AsksOnly allowed)
    (stable : ∀ before after, rely before after → invariant before → invariant after)
    (step : ∀ choice op current, allowed op → invariant current →
      invariant (exec choice op current).2)
    (prepared : ∀ op current, allowed op → invariant current → ready op current)
    (holds : invariant state) :
    program.Endures exec rely ready (fun _ final => invariant final) state := by
  induction program generalizing state with
  | done value => exact fun later moved => stable state later moved holds
  | ask op next ih =>
      intro later moved
      have held := stable state later moved holds
      exact ⟨prepared op later asks.1 held, fun choice =>
        ih _ (asks.2 _) (step choice op later asks.1 held)⟩

end Rules

end Sentinel5G.Base.Program
