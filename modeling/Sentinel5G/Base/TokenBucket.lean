import Mathlib.Algebra.Order.Field.Rat
import Mathlib.Tactic.Linarith

namespace Sentinel5G.Base

structure TokenBucket where
  tokens : ℚ
  /-- When `tokens` was counted last. -/
  last : Int

namespace TokenBucket

def full (burst : Nat) (now : Int) : TokenBucket := ⟨burst, now⟩

def available (rate : ℚ) (burst : Nat) (bucket : TokenBucket) (now : Int) : ℚ :=
  min (burst : ℚ) (bucket.tokens + rate * (max 0 (now - bucket.last) : Int))

def draw (rate : ℚ) (burst : Nat) (bucket : TokenBucket) (now : Int) : Bool × TokenBucket :=
  if 1 ≤ bucket.available rate burst now then
    (true, ⟨bucket.available rate burst now - 1, now⟩)
  else (false, bucket)

variable {rate : ℚ} {burst : Nat} {bucket : TokenBucket} {now : Int}

theorem draw_full (some : 0 < burst) : ((full burst now).draw rate burst now).1 = true := by
  have one : (1 : ℚ) ≤ burst := by exact_mod_cast some
  have there : 1 ≤ (full burst now).available rate burst now := by
    simp [available, full, one]
  rw [draw, if_pos there]

theorem draw_granted (granted : (bucket.draw rate burst now).1 = true) :
    (bucket.draw rate burst now).2.last = now ∧ 0 ≤ (bucket.draw rate burst now).2.tokens := by
  rw [draw] at granted ⊢
  split
  · rename_i there
    exact ⟨rfl, sub_nonneg.mpr there⟩
  · rename_i missing
    rw [if_neg missing] at granted
    cases granted

theorem draw_refused (refused : (bucket.draw rate burst now).1 = false) :
    (bucket.draw rate burst now).2 = bucket ∧ bucket.available rate burst now < 1 := by
  rw [draw] at refused ⊢
  split
  · rename_i there
    rw [if_pos there] at refused
    cases refused
  · rename_i missing
    exact ⟨rfl, not_le.mp missing⟩

/-- A bucket that refuses was drawn from less than one token's time ago. -/
theorem refused_recently (positive : 0 < rate) (some : 0 < burst) (owed : 0 ≤ bucket.tokens)
    (refused : (bucket.draw rate burst now).1 = false) :
    (now : ℚ) - 1 / rate < bucket.last := by
  have short := (draw_refused refused).2
  have one : (1 : ℚ) ≤ burst := by exact_mod_cast some
  rw [available, min_lt_iff] at short
  have refilled : bucket.tokens + rate * (max 0 (now - bucket.last) : Int) < 1 :=
    short.resolve_left (not_lt.mpr one)
  have elapsed : ((now - bucket.last : Int) : ℚ) ≤ (max 0 (now - bucket.last) : Int) := by
    exact_mod_cast le_max_right 0 (now - bucket.last)
  have scaled : rate * ((now : ℚ) - bucket.last) < 1 := by
    calc rate * ((now : ℚ) - bucket.last)
        ≤ rate * ((max 0 (now - bucket.last) : Int) : ℚ) := by
          push_cast at elapsed ⊢
          exact mul_le_mul_of_nonneg_left elapsed positive.le
      _ < 1 := by linarith
  have window : (now : ℚ) - bucket.last < 1 / rate := by
    rw [lt_div_iff₀ positive, mul_comm]
    exact scaled
  linarith

end TokenBucket

end Sentinel5G.Base
