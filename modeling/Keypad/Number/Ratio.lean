/-!
# Non-negative ratios

Exact arithmetic behind reading and writing numbers: scaling by a power of a
base, rounding to the nearest integer, and the integer part of a logarithm.
Nothing here rounds except `nearest`.
-/

namespace Keypad

/-- The non-negative rational `num / den`. -/
structure Ratio where
  num : Nat
  den : Nat
  den_pos : 0 < den
deriving DecidableEq

namespace Ratio

/-- A natural number as a ratio. -/
def ofNat (n : Nat) : Ratio := ⟨n, 1, Nat.one_pos⟩

theorem ten_pos : 0 < 10 := by decide

/-- The ratio times `base ^ exponent`, for an exponent of either sign. The bases in use
are two and ten. -/
def scale (r : Ratio) (base : Nat) (exponent : Int)
    (base_pos : 0 < base := by first | exact Nat.two_pos | exact Keypad.Ratio.ten_pos) : Ratio :=
  match exponent with
  | .ofNat n => ⟨r.num * Nat.pow base n, r.den, r.den_pos⟩
  | .negSucc n => ⟨r.num, r.den * Nat.pow base (n + 1),
      Nat.mul_pos r.den_pos (Nat.pow_pos base_pos)⟩

/-- The order of two ratios. -/
def le (left right : Ratio) : Bool :=
  left.num * right.den ≤ right.num * left.den

/-- The strict order of two ratios. -/
def lt (left right : Ratio) : Bool :=
  left.num * right.den < right.num * left.den

/-- The largest integer not above the ratio. -/
def floor (r : Ratio) : Nat :=
  r.num / r.den

/-- Twice the distance from the ratio down to its `floor`, compared with one. -/
def compareHalf (r : Ratio) : Ordering :=
  compare (2 * (r.num % r.den)) r.den

/-- The integer nearest to the ratio. A ratio half way between two integers goes
to the even one. -/
def nearest (r : Ratio) : Nat :=
  match r.compareHalf with
  | .lt => r.floor
  | .gt => r.floor + 1
  | .eq => if r.floor % 2 = 0 then r.floor else r.floor + 1

/-- For a positive ratio, the greatest exponent whose power of `base` is not
above it. The digits of the integer part are counted if it is positive, and the
leading zeros of the fraction otherwise. -/
def order (base : Nat) (r : Ratio) : Int :=
  if r.den ≤ r.num then
    ((Nat.toDigits base r.floor).length : Int) - 1
  else
    -((Nat.toDigits base ((r.den - 1) / r.num)).length : Int)

/-- A ratio lies less than one above its `floor`. -/
theorem num_lt_floor_succ_mul (r : Ratio) : r.num < (r.floor + 1) * r.den := by
  have split := Nat.div_add_mod r.num r.den
  have below := Nat.mod_lt r.num r.den_pos
  rw [floor, Nat.add_mul, Nat.mul_comm (r.num / r.den)]
  omega

/-- A ratio is not below its `floor`. -/
theorem floor_mul_le_num (r : Ratio) : r.floor * r.den ≤ r.num :=
  Nat.div_mul_le_self r.num r.den

/-- The nearest integer is the `floor` or the integer above it, whichever is not
more than half a unit away. -/
theorem nearest_eq_or (r : Ratio) :
    (r.nearest = r.floor ∧ 2 * (r.num % r.den) ≤ r.den) ∨
      (r.nearest = r.floor + 1 ∧ r.den ≤ 2 * (r.num % r.den)) := by
  unfold nearest
  split
  · rename_i below
    exact .inl ⟨rfl, Nat.le_of_lt (Nat.compare_eq_lt.1 below)⟩
  · rename_i above
    exact .inr ⟨rfl, Nat.le_of_lt (Nat.compare_eq_gt.1 above)⟩
  · rename_i half
    have half := Nat.compare_eq_eq.1 half
    split
    · exact .inl ⟨rfl, Nat.le_of_eq half⟩
    · exact .inr ⟨rfl, Nat.le_of_eq half.symm⟩

/-- The nearest integer is at most half a unit away from the ratio. -/
theorem nearest_within_half (r : Ratio) :
    2 * r.num ≤ 2 * (r.nearest * r.den) + r.den ∧
      2 * (r.nearest * r.den) ≤ 2 * r.num + r.den := by
  have division := Nat.div_add_mod r.num r.den
  rw [Nat.mul_comm, ← floor] at division
  rcases r.nearest_eq_or with ⟨value, close⟩ | ⟨value, close⟩
  · rw [value]; omega
  · rw [value, Nat.add_mul, Nat.one_mul]
    have below := Nat.mod_lt r.num r.den_pos
    omega

end Ratio

end Keypad
