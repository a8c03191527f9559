import CostGate.Proofs.Number.Doubles

/-!
# Values of doubles

The rational that a finite double stands for, and how far rounding to a double can move a number:
by no more than one part in two to the fifty-third, as long as the number is not tiny.
-/
namespace CostGate.Number

/-- The rational that a magnitude stands for. -/
def Magnitude.value (x : Magnitude) : ℚ := x.mantissa * 2 ^ x.exponent

def exactValue (x : Float) : ℚ :=
  match Parts.ofFloat x with
  | .finite negative magnitude => if negative then -magnitude.value else magnitude.value
  | _ => 0

theorem nearestNat_near (tie : Tie) {x : ℚ} (hx : 0 ≤ x) :
    |(nearestNat tie x : ℚ) - x| ≤ 1 / 2 := by
  have hle : (⌊x⌋₊ : ℚ) ≤ x := Nat.floor_le hx
  have hlt : x < ⌊x⌋₊ + 1 := Nat.lt_floor_add_one x
  rw [abs_le]
  unfold nearestNat
  dsimp only
  split_ifs with hdown hup
  · constructor <;> linarith
  · push_cast
    constructor <;> linarith
  · have hhalf : 2 * (x - ⌊x⌋₊) = 1 := le_antisymm (not_lt.1 hup) (not_lt.1 hdown)
    have hrest : ((⌊x⌋₊ % 2 : ℕ) : ℚ) ≤ 1 := by
      have : ⌊x⌋₊ % 2 ≤ 1 := by omega
      exact_mod_cast this
    have hpos : (0 : ℚ) ≤ (⌊x⌋₊ % 2 : ℕ) := Nat.cast_nonneg _
    cases tie
    · push_cast at hrest hpos ⊢
      constructor <;> linarith
    · push_cast
      constructor <;> linarith

/-- The digits that are dropped weigh little beside the ones that are kept. -/
theorem two_pow_droppedBits_le {x : ℚ} (h : 2 ^ 52 ≤ x) : 2 ^ 52 * 2 ^ droppedBits x ≤ x := by
  rcases eq_or_ne (droppedBits x) 0 with hzero | hne
  · rw [hzero, pow_zero, mul_one]
    exact h
  · rw [← pow_add]
    exact le_of_droppedBits hne

theorem toGrid_near {x : ℚ} (h : 2 ^ 52 ≤ x) : |(toGrid x : ℚ) - x| ≤ x / 2 ^ 53 := by
  have hx : 0 ≤ x := le_trans (by positivity) h
  have hpow : (0 : ℚ) < 2 ^ droppedBits x := by positivity
  have hsplit : (toGrid x : ℚ) - x =
      (nearestNat .toEven (x / 2 ^ droppedBits x) - x / 2 ^ droppedBits x) *
        2 ^ droppedBits x := by
    rw [sub_mul, div_mul_cancel₀ _ hpow.ne', toGrid]
    push_cast
    rfl
  calc
    |(toGrid x : ℚ) - x|
      = |(nearestNat .toEven (x / 2 ^ droppedBits x) : ℚ) - x / 2 ^ droppedBits x| *
          2 ^ droppedBits x := by rw [hsplit, abs_mul, abs_of_pos hpow]
    _ ≤ 1 / 2 * 2 ^ droppedBits x :=
      mul_le_mul_of_nonneg_right (nearestNat_near _ (div_nonneg hx hpow.le)) hpow.le
    _ ≤ x / 2 ^ 53 := by
      rw [le_div_iff₀ (by positivity)]
      linarith [two_pow_droppedBits_le h]

namespace Double

open Float.Model (UnpackedFloat)

theorem toDouble_le {x : ℚ} (h : 2 ^ 52 ≤ x) : (toDouble x : ℚ) ≤ x * (1 + 1 / 2 ^ 53) := by
  have hgrid : (toDouble x : ℚ) ≤ toGrid x := by exact_mod_cast min_le_left _ _
  have hnear := (abs_le.1 (toGrid_near h)).2
  linarith

/-- Rounding to a double takes little away, unless the number is beyond the doubles. -/
theorem le_toDouble {x : ℚ} (h : 2 ^ 52 ≤ x) {n : ℕ} (hn : n < 2 ^ 53) (hx : x ≤ n * unitsPerOne) :
    x * (1 - 1 / 2 ^ 53) ≤ toDouble x := by
  have hlt : toDouble x < infinite := by
    calc
      toDouble x ≤ toDouble (n * unitsPerOne) := toDouble_mono hx
      _ = n * unitsPerOne := toDouble_mul_unitsPerOne hn
      _ < infinite := whole_lt_infinite hn
  have hgrid : toDouble x = toGrid x := min_eq_left_of_lt (by simpa [toDouble] using hlt)
  have hnear := (abs_le.1 (toGrid_near h)).1
  rw [hgrid]
  linarith

/-- The value of a finite double that is not negative is its measure, counted in ones. -/
theorem Measures.exactValue_eq {x : Float} {n : ℕ} (h : Measures x n) (hn : n < infinite) :
    exactValue x = n / unitsPerOne := by
  rw [exactValue, ofFloat_eq]
  rw [Measures] at h
  generalize shape x = u at h
  cases h with
  | zero s => cases s <;> simp [partsOf, Magnitude.value]
  | @finite m e hm hc he =>
    have hone : (2 : ℚ) ^ (1074 : ℤ) ≠ 0 := by positivity
    rw [cast_unitsOf hc.le, cast_unitsPerOne, zpow_add₀ two_ne_zero, ← mul_assoc,
      mul_div_cancel_right₀ _ hone]
    rfl
  | infinity => exact absurd hn (lt_irrefl _)

theorem exactValue_ofNat {n : ℕ} (h : n < 2 ^ 53) : exactValue (Float.ofNat n) = n := by
  rw [(measures_natCast h).exactValue_eq (whole_lt_infinite h), Nat.cast_mul,
    mul_div_cancel_right₀ _ cast_unitsPerOne_pos.ne']

end Double

end CostGate.Number
