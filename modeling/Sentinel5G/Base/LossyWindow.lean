import Sentinel5G.Base.Trace

/-! Windows of a sequence when the running window may be lost at any time. What is
left of it is a last part of the sequence all the same. -/

namespace Sentinel5G.Base

variable {α β : Type} (stale : α → α → Bool)

/-- The last elements of a sequence, none of them stale for the first of them. -/
structure Recent (xs window : List α) : Prop where
  suffix : window <:+ xs
  fresh : ∀ start rest, window = start :: rest → ∀ x ∈ rest, stale start x = false

variable {stale}

theorem recent_nil (xs : List α) : Recent stale xs [] :=
  ⟨List.nil_suffix, fun _ _ impossible => by cases impossible⟩

theorem recent_singleton (xs : List α) (x : α) : Recent stale (xs ++ [x]) [x] := by
  refine ⟨List.suffix_append xs [x], fun start rest same y member => ?_⟩
  cases same
  cases member

theorem Recent.extend {xs window : List α} (recent : Recent stale xs window) (x : α) :
    Recent stale (xs ++ [x]) (extendWindow stale window x) := by
  cases window with
  | nil => exact recent_singleton xs x
  | cons start rest =>
      rw [extendWindow]
      split
      · exact recent_singleton xs x
      · rename_i within
        constructor
        · rw [← List.cons_append]
          exact List.suffix_append_inj_of_length_eq rfl |>.mpr ⟨recent.suffix, rfl⟩
        · intro first others same y member
          cases same
          rw [List.mem_append, List.mem_singleton] at member
          rcases member with old | rfl
          · exact recent.fresh start rest rfl y old
          · simpa using within

theorem map_extendWindow (f : β → α) (window : List β) (x : β) :
    (extendWindow (fun first later => stale (f first) (f later)) window x).map f =
      extendWindow stale (window.map f) (f x) := by
  cases window with
  | nil => rfl
  | cons start rest =>
      rw [extendWindow, List.map_cons, extendWindow]
      split
      · rfl
      · rw [List.map_cons, List.map_append, List.map_singleton]

end Sentinel5G.Base
