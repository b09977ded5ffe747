namespace Sentinel5G.Base

structure Slice (α : Type) where
  cells : List α
  len : Nat
  fits : len ≤ cells.length

namespace Slice

variable {α : Type}

def make : Slice α := ⟨[], 0, Nat.le_refl 0⟩

def items (slice : Slice α) : List α := slice.cells.take slice.len

/-- The cell behind the last one shown is written over, or the array grows. -/
def append (slice : Slice α) (value : α) : Slice α where
  cells := slice.cells.take slice.len ++ value :: slice.cells.drop (slice.len + 1)
  len := slice.len + 1
  fits := by
    rw [List.length_append, List.length_cons, List.length_take, Nat.min_eq_left slice.fits]
    omega

def truncate (slice : Slice α) : Slice α := { slice with len := 0, fits := Nat.zero_le _ }

@[simp] theorem items_truncate (slice : Slice α) : slice.truncate.items = [] := rfl

theorem length_items (slice : Slice α) : slice.items.length = slice.len := by
  rw [items, List.length_take, Nat.min_eq_left slice.fits]

theorem items_append (slice : Slice α) (value : α) :
    (slice.append value).items = slice.items ++ [value] := by
  have shown : (slice.cells.take slice.len).length = slice.len := slice.length_items
  rw [items, append, items]
  dsimp only
  rw [List.take_append, shown, Nat.add_sub_cancel_left, List.take_of_length_le (by omega)]
  rfl

end Slice

end Sentinel5G.Base
