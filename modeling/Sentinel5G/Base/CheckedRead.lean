import Sentinel5G.Base.Bytes

/-! Reads of a byte string that fail where the string ends, as Python's subscripts
and `struct.unpack_from` do, and computations that do not fail. -/

namespace Sentinel5G.Base

inductive Overrun
  /-- `IndexError` -/
  | index
  /-- `struct.error` -/
  | unpack
  deriving DecidableEq, Repr

def byteIn (bytes : Bytes) (i : Nat) : Except Overrun UInt8 :=
  if i < bytes.length then .ok (bytes.getD i 0) else .error .index

def fieldIn (bytes : Bytes) (off width : Nat) : Except Overrun Bytes :=
  if off + width ≤ bytes.length then .ok (slice bytes off width) else .error .unpack

theorem fieldIn_of_le {bytes : Bytes} {off width : Nat} (inside : off + width ≤ bytes.length) :
    fieldIn bytes off width = .ok (slice bytes off width) :=
  if_pos inside

section Succeeds

variable {ε α β : Type}

theorem bind_eq_ok_iff {run : Except ε α} {rest : α → Except ε β} {result : β} :
    (run >>= rest) = .ok result ↔ ∃ value, run = .ok value ∧ rest value = .ok result := by
  cases run with
  | error err => simp [bind, Except.bind]
  | ok value => simp [bind, Except.bind]

theorem bind_eq_ok {run : Except ε α} {rest : α → Except ε β} {value : α} {result : β}
    (reads : run = .ok value) (goesOn : rest value = .ok result) : (run >>= rest) = .ok result :=
  bind_eq_ok_iff.mpr ⟨value, reads, goesOn⟩

theorem ite_eq_ok {condition : Prop} [Decidable condition] {run other : Except ε α}
    {value otherwise : α} (yes : condition → run = .ok value)
    (no : ¬ condition → other = .ok otherwise) :
    (if condition then run else other) = .ok (if condition then value else otherwise) := by
  split
  · exact yes ‹_›
  · exact no ‹_›

def Succeeds (run : Except ε α) : Prop := ∃ value, run = .ok value

@[simp] theorem succeeds_ok (value : α) : Succeeds (.ok value : Except ε α) := ⟨value, rfl⟩

@[simp] theorem not_succeeds_error (err : ε) : ¬ Succeeds (.error err : Except ε α) := by
  intro succeeds
  obtain ⟨value, impossible⟩ := succeeds
  cases impossible

theorem succeeds_bind_iff (run : Except ε α) (rest : α → Except ε β) :
    Succeeds (run >>= rest) ↔ ∃ value, run = .ok value ∧ Succeeds (rest value) := by
  simp only [Succeeds, bind_eq_ok_iff]
  exact exists_comm.trans (by simp only [exists_and_left])

theorem succeeds_byteIn_bind (bytes : Bytes) (i : Nat) (rest : UInt8 → Except Overrun β) :
    Succeeds (byteIn bytes i >>= rest) ↔ i < bytes.length ∧ Succeeds (rest (bytes.getD i 0)) := by
  rw [byteIn]
  split
  · rename_i inside
    simp [inside, succeeds_bind_iff]
  · rename_i outside
    simp [outside, succeeds_bind_iff]

/-- A loop whose body never fails on any of the elements does not fail. -/
theorem succeeds_foldlM {step : β → α → Except ε β} {xs : List α}
    (each : ∀ x ∈ xs, ∀ state, Succeeds (step state x)) (start : β) :
    Succeeds (xs.foldlM step start) := by
  induction xs generalizing start with
  | nil => exact ⟨start, rfl⟩
  | cons x rest ih =>
      obtain ⟨next, stepped⟩ := each x List.mem_cons_self start
      rw [List.foldlM_cons, succeeds_bind_iff]
      exact ⟨next, stepped, ih (fun y member => each y (List.mem_cons_of_mem x member)) next⟩

/-- If a body leaves the state alone, a loop that does not fail has run it on every
element. -/
theorem Succeeds.each {step : β → α → Except ε β} {xs : List α} {start : β}
    (succeeds : Succeeds (xs.foldlM step start))
    (steady : ∀ x ∈ xs, ∀ next, step start x = .ok next → next = start) :
    ∀ x ∈ xs, Succeeds (step start x) := by
  induction xs with
  | nil => simp
  | cons x rest ih =>
      rw [List.foldlM_cons, succeeds_bind_iff] at succeeds
      obtain ⟨next, stepped, later⟩ := succeeds
      cases steady x List.mem_cons_self next stepped
      intro y member
      rcases List.mem_cons.mp member with rfl | behind
      · exact ⟨_, stepped⟩
      · exact ih later (fun z inside => steady z (List.mem_cons_of_mem x inside)) y behind

end Succeeds

end Sentinel5G.Base
