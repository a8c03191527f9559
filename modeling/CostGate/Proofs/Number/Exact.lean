import CostGate.Proofs.Number.Lawful

/-!
# Exact arithmetic

The rationals are lawful: nothing is undefined, and only `nearest` rounds.
-/
namespace CostGate.Number

theorem nearestOfRat_of_nonneg {x : ℚ} (h : 0 ≤ x) : nearestOfRat x = ⌊x + 1 / 2⌋ := by
  rw [nearestOfRat, if_neg (not_lt.2 h)]
  rfl

theorem nearestOfRat_le_nearestOfRat {x y : ℚ} (hx : 0 ≤ x) (h : x ≤ y) :
    nearestOfRat x ≤ nearestOfRat y := by
  rw [nearestOfRat_of_nonneg hx, nearestOfRat_of_nonneg (hx.trans h)]
  exact_mod_cast Int.floor_mono (add_le_add_left h _)

theorem nearestOfRat_natCast (n : ℕ) : nearestOfRat n = n := by
  have hfloor : ⌊(n : ℚ) + 1 / 2⌋ = n := by
    rw [Int.floor_natCast_add]
    norm_num
  rw [nearestOfRat_of_nonneg (Nat.cast_nonneg n), hfloor, Int.cast_natCast]

/-- Squaring the base takes care of all binary digits of an exponent but the last. -/
theorem mul_self_pow_half (base result : ℚ) (n : ℕ) :
    (if n % 2 = 1 then result * base else result) * (base * base) ^ (n / 2) =
      result * base ^ n := by
  conv_rhs => rw [← Nat.div_add_mod n 2, pow_add, pow_mul, pow_two]
  rcases Nat.mod_two_eq_zero_or_one n with h | h
  · rw [h, if_neg zero_ne_one, pow_zero, mul_one]
  · rw [h, if_pos rfl, pow_one]
    ring

theorem powerOnto_rat (base result : ℚ) (n : ℕ) : powerOnto base result n = result * base ^ n := by
  fun_induction powerOnto base result n with
  | case1 base result n result' h =>
    rw [← mul_self_pow_half, h, pow_zero, mul_one]
    rfl
  | case2 base result n result' h ih =>
    rw [ih, ← mul_self_pow_half base result n]
    rfl

theorem tenTo_rat (p : ℕ) : (tenTo p : ℚ) = 10 ^ p := by
  have hneg : ¬ (p : ℤ) < 0 := by omega
  rw [tenTo, if_neg hneg, powerOnto_rat, Int.natAbs_natCast]
  norm_num

theorem roundTo_natCast (n p : ℕ) : roundTo (n : ℚ) p = n := by
  have hscaled : (n : ℚ) * 10 ^ p = (n * 10 ^ p : ℕ) := by push_cast; rfl
  have hne : (10 : ℚ) ^ p ≠ 0 := by positivity
  have hnearest : nearest ((n : ℚ) * 10 ^ p) = n * 10 ^ p := by
    rw [hscaled]
    exact nearestOfRat_natCast _
  rw [roundTo, tenTo_rat, hnearest, mul_div_cancel_right₀ _ hne]

section Decimal

variable {x : ℚ} (p : ℕ)

/-- A number that is not negative, rounded to decimal places, is a whole number of units of the last
place. -/
theorem roundTo_of_nonneg (hx : 0 ≤ x) : roundTo x p = ⌊x * 10 ^ p + 1 / 2⌋₊ / 10 ^ p := by
  have hscaled : 0 ≤ x * 10 ^ p := by positivity
  have hhalf : 0 ≤ x * 10 ^ p + 1 / 2 := by positivity
  have hfloor : (⌊x * 10 ^ p + 1 / 2⌋ : ℚ) = ⌊x * 10 ^ p + 1 / 2⌋₊ := by
    rw [← Int.natCast_floor_eq_floor hhalf, Int.cast_natCast]
  rw [roundTo, tenTo_rat, ← hfloor, ← nearestOfRat_of_nonneg hscaled]
  rfl

theorem abs_roundTo_sub_le (hx : 0 ≤ x) : |roundTo x p - x| ≤ 1 / 2 / 10 ^ p := by
  have hhalf : 0 ≤ x * 10 ^ p + 1 / 2 := by positivity
  have hle : (⌊x * 10 ^ p + 1 / 2⌋₊ : ℚ) ≤ x * 10 ^ p + 1 / 2 := Nat.floor_le hhalf
  have hlt : x * 10 ^ p + 1 / 2 < ⌊x * 10 ^ p + 1 / 2⌋₊ + 1 := Nat.lt_floor_add_one _
  have hunits : roundTo x p - x = (⌊x * 10 ^ p + 1 / 2⌋₊ - x * 10 ^ p) / 10 ^ p := by
    rw [roundTo_of_nonneg p hx, sub_div, mul_div_cancel_right₀ _ (by positivity)]
  rw [hunits, abs_div, abs_of_pos (by positivity : (0 : ℚ) < 10 ^ p)]
  refine div_le_div_of_nonneg_right ?_ (by positivity)
  rw [abs_le]
  constructor <;> linarith

theorem one_le_roundTo_iff (hx : 0 ≤ x) : 1 / 10 ^ p ≤ roundTo x p ↔ 1 / 2 / 10 ^ p ≤ x := by
  have hpos : (0 : ℚ) < 10 ^ p := by positivity
  rw [roundTo_of_nonneg p hx, div_le_div_iff_of_pos_right hpos, div_le_iff₀ hpos, Nat.one_le_cast,
    Nat.one_le_floor_iff]
  constructor <;> intro h <;> linarith

theorem roundTo_eq_zero_or (hx : 0 ≤ x) : roundTo x p = 0 ∨ 1 / 10 ^ p ≤ roundTo x p := by
  rw [roundTo_of_nonneg p hx]
  rcases Nat.eq_zero_or_pos ⌊x * 10 ^ p + 1 / 2⌋₊ with hzero | hpos
  · left
    rw [hzero, Nat.cast_zero, zero_div]
  · right
    exact div_le_div_of_nonneg_right (by exact_mod_cast hpos) (by positivity)

end Decimal

theorem pos_of_isPositive {k : ℚ} (hk : isPositive k = true) : 0 < k := by
  have h := (isPositive_iff.1 hk).2
  norm_num at h
  exact h

instance : LawfulQuantity ℚ where
  defined_of_le _ := ⟨rfl, rfl⟩
  le_or_le _ _ := le_total _ _
  le_trans := le_trans
  lt_iff := lt_iff_le_not_ge
  defined_of_finite _ := rfl
  finite_of_lt _ _ := rfl
  add_zero := by norm_num
  add_le_add _ _ h h' := add_le_add h h'
  zero_mul _ := by norm_num
  mul_le_mul hk _ h := mul_le_mul_of_nonneg_right h (pos_of_isPositive hk).le
  zero_div _ := by norm_num
  div_self hk := by
    rw [div_self (pos_of_isPositive hk).ne']
    norm_num
  div_le_div _ hk' h hx hxy := by
    norm_num at hk' hx
    exact div_le_div₀ (hx.trans hxy) hxy hk' h
  nearest_zero := by
    have h := nearestOfRat_natCast 0
    norm_num at h ⊢
    exact h
  nearest_le_nearest hx h := nearestOfRat_le_nearestOfRat (by norm_num at hx; exact hx) h
  zero_lt_one := by norm_num
  positive_hundred := by
    rw [isPositive_iff]
    norm_num [isFinite]
  one_mul_hundred := by norm_num
  positive_tenTo _ := by
    rw [isPositive_iff, tenTo_rat]
    norm_num [isFinite]
  roundTo_one := by
    have h := roundTo_natCast 1 4
    norm_num at h ⊢
    exact h
  roundTo_hundred := by
    have h := roundTo_natCast 100 2
    norm_num at h ⊢
    exact h
  ofCount_zero := by norm_num [ofCount]
  ofCount_pos h := by
    norm_num [ofCount]
    exact_mod_cast h
  ofCount_le_ofCount h := by
    norm_num [ofCount]
    exact_mod_cast h

end CostGate.Number
