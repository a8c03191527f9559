import CostGate.Proofs.Number.Lawful
import CostGate.Proofs.Number.Whole

/-!
# Doubles are lawful

Every operation on doubles that are not negative rounds an exact result, and rounding respects the
order.
-/
namespace CostGate.Number

open Double

namespace Double

theorem measures_natCast {n : ℕ} (h : n < 2 ^ 53) : Measures (Float.ofNat n) (n * unitsPerOne) := by
  rw [← toDouble_mul_unitsPerOne h]
  exact measures_ofNat n

theorem measures_zero : Measures 0.0 0 := by
  have hzero : (0.0 : Float) = Float.ofNat 0 := by decide
  have h := measures_natCast (n := 0) (by decide)
  rwa [zero_mul, ← hzero] at h

theorem measures_oneLiteral : Measures 1.0 unitsPerOne := by
  have hone : (1.0 : Float) = Float.ofNat 1 := by decide
  have h := measures_natCast (n := 1) (by decide)
  rwa [one_mul, ← hone] at h

theorem zero_le_iff {x : Float} : 0.0 ≤ x ↔ ∃ n, Measures x n := by
  constructor
  · intro h
    obtain ⟨n, -, hn⟩ := measures_zero.of_le h
    exact ⟨n, hn⟩
  · rintro ⟨n, hn⟩
    exact (measures_zero.le_iff hn).2 (Nat.zero_le n)

theorem zero_lt_iff {x : Float} : 0.0 < x ↔ ∃ n, Measures x n ∧ 0 < n := by
  constructor
  · intro h
    obtain ⟨n, -, hn⟩ := measures_zero.of_le (lt_iff_le_not_le.1 h).1
    exact ⟨n, hn, (measures_zero.lt_iff hn).1 h⟩
  · rintro ⟨n, hn, hpos⟩
    exact (measures_zero.lt_iff hn).2 hpos

theorem toDouble_units_mono {n k : ℕ} (h : n ≤ k) :
    toDouble (n * unitsPerOne) ≤ toDouble (k * unitsPerOne) := by
  apply toDouble_mono
  exact_mod_cast Nat.mul_le_mul_right unitsPerOne h

theorem isFinite_shape (x : Float) : (shape x).isFinite = x.isFinite := by
  unfold shape
  rfl

theorem isNaN_of_isFinite {x : Float} (h : x.isFinite = true) : x.isNaN = false := by
  rw [← isNaN_shape]
  rw [← isFinite_shape] at h
  generalize shape x = u at h
  cases u with
  | notANumber => exact absurd h (by decide)
  | infinity s => rfl
  | zero s => rfl
  | finite s m e hm => rfl

theorem Measures.isFinite_iff {x : Float} {n : ℕ} (h : Measures x n) :
    x.isFinite = true ↔ n < infinite := by
  rw [← isFinite_shape]
  rw [Measures] at h
  generalize shape x = u at h
  cases h with
  | zero => exact iff_of_true rfl infinite_pos
  | finite hm hc he => exact iff_of_true rfl (hc.unitsOf_lt_infinite he)
  | infinity => exact iff_of_false (by decide) (lt_irrefl _)

theorem isFinite_ofNat {n : ℕ} (h : n < 2 ^ 64) : (Float.ofNat n).isFinite = true := by
  have hc : Canonical (2 ^ 52) 12 := ⟨by decide, by decide, .inl le_rfl⟩
  have hunits : unitsOf (2 ^ 52) 12 = 2 ^ 64 * unitsPerOne := unitsOf_eq_mul _ (by decide)
  have hle : toDouble (n * unitsPerOne) ≤ toDouble (unitsOf (2 ^ 52) 12) := by
    rw [hunits, Nat.cast_mul]
    exact toDouble_units_mono h.le
  rw [(measures_ofNat n).isFinite_iff]
  refine hle.trans_lt ?_
  rw [toDouble, hc.toGrid_unitsOf]
  exact (min_le_left _ _).trans_lt (hc.unitsOf_lt_infinite (by decide))

theorem isPositive_float_iff {x : Float} :
    isPositive x = true ↔ ∃ n, Measures x n ∧ 0 < n ∧ n < infinite := by
  rw [isPositive_iff]
  constructor
  · rintro ⟨hfinite, hpos⟩
    obtain ⟨n, hn, hpos⟩ := zero_lt_iff.1 hpos
    exact ⟨n, hn, hpos, hn.isFinite_iff.1 hfinite⟩
  · rintro ⟨n, hn, hpos, hlt⟩
    exact ⟨hn.isFinite_iff.2 hlt, zero_lt_iff.2 ⟨n, hn, hpos⟩⟩

theorem Measures.eq_infinite {x : Float} {n : ℕ} (hx : Measures x n) (h : ¬ n < infinite) :
    n = infinite :=
  le_antisymm hx.le_infinite (not_lt.1 h)

/-- The measure of a product with a finite factor. -/
def productUnits (n k : ℕ) : ℕ :=
  if n < infinite then toDouble (n * k / unitsPerOne) else infinite

theorem productUnits_mono (k : ℕ) : Monotone (productUnits · k) := by
  intro n n' h
  dsimp only [productUnits]
  split_ifs with hn hn'
  · refine toDouble_mono (div_le_div_of_nonneg_right ?_ (Nat.cast_nonneg _))
    exact_mod_cast Nat.mul_le_mul_right k h
  · exact toDouble_le_infinite _
  · exact absurd (h.trans_lt ‹_›) hn
  · exact le_rfl

theorem Measures.product {x y : Float} {n k : ℕ} (hx : Measures x n) (hy : Measures y k)
    (hpos : 0 < k) (hlt : k < infinite) : Measures (x * y) (productUnits n k) := by
  rw [productUnits]
  split_ifs with hn
  · exact hx.mul hy hn hlt
  · obtain rfl := hx.eq_infinite hn
    exact hx.infinite_mul hy hpos

/-- The measure of a quotient with a positive and finite divisor. -/
def quotientUnits (n k : ℕ) : ℕ :=
  if n < infinite then toDouble (n * unitsPerOne / k) else infinite

theorem quotientUnits_le {n n' k k' : ℕ} (h : n ≤ n') (hpos : 0 < k') (hk : k' ≤ k) :
    quotientUnits n k ≤ quotientUnits n' k' := by
  rw [quotientUnits, quotientUnits]
  split_ifs with hn hn'
  · have hpos' : (0 : ℚ) < k' := by exact_mod_cast hpos
    have hnum : (n : ℚ) * unitsPerOne ≤ n' * unitsPerOne := by
      exact_mod_cast Nat.mul_le_mul_right unitsPerOne h
    refine toDouble_mono (div_le_div₀ (by positivity) hnum hpos' ?_)
    exact_mod_cast hk
  · exact toDouble_le_infinite _
  · exact absurd (h.trans_lt ‹_›) hn
  · exact le_rfl

theorem quotientUnits_self {n : ℕ} (hpos : 0 < n) (hlt : n < infinite) :
    quotientUnits n n = unitsPerOne := by
  have hn : (n : ℚ) ≠ 0 := by exact_mod_cast hpos.ne'
  rw [quotientUnits, if_pos hlt, mul_div_cancel_left₀ _ hn]
  exact measures_oneLiteral.toDouble_eq

theorem Measures.quotient {x y : Float} {n k : ℕ} (hx : Measures x n) (hy : Measures y k)
    (hpos : 0 < k) (hlt : k < infinite) : Measures (x / y) (quotientUnits n k) := by
  rw [quotientUnits]
  split_ifs with hn
  · exact hx.div hy hn hpos hlt
  · obtain rfl := hx.eq_infinite hn
    exact hx.infinite_div hy hpos hlt

theorem shape_of_isPositive {x : Float} (h : isPositive x = true) :
    ∃ m e hm, shape x = .finite .positive m e hm := by
  obtain ⟨n, hn, hpos, hlt⟩ := isPositive_float_iff.1 h
  rw [Measures] at hn
  generalize shape x = u at hn ⊢
  cases hn with
  | zero => exact absurd hpos (lt_irrefl _)
  | finite hm => exact ⟨_, _, hm, rfl⟩
  | infinity => exact absurd hlt (lt_irrefl _)

theorem shape_zero : shape 0.0 = .zero .positive := by
  unfold shape
  rfl

theorem zero_div_float {x : Float} {n : ℕ} (hx : Measures x n) (hpos : 0 < n) :
    0.0 / x = 0.0 := by
  have hzero : Float.ofModel (.pack (.zero .positive)) = 0.0 := by decide
  rw [shape_div, shape_zero]
  rw [Measures] at hx
  generalize shape x = u at hx
  cases hx with
  | zero => exact absurd hpos (lt_irrefl _)
  | finite => exact hzero
  | infinity => exact hzero

theorem tenTo_float {p : ℕ} (hp : p ≤ 4) : (tenTo p : Float) = Float.ofNat (10 ^ p) := by
  rw [tenTo, if_neg (by omega), Int.natAbs_natCast]
  interval_cases p
  · rw [powerOnto, if_pos (by decide)]
    decide +kernel
  · rw [powerOnto, if_pos (by decide)]
    decide +kernel
  · rw [powerOnto, if_neg (by decide), powerOnto, if_pos (by decide)]
    decide +kernel
  · rw [powerOnto, if_neg (by decide), powerOnto, if_pos (by decide)]
    decide +kernel
  · rw [powerOnto, if_neg (by decide), powerOnto, if_neg (by decide), powerOnto,
      if_pos (by decide)]
    decide +kernel

theorem roundTo_float (x : Float) {p : ℕ} (hp : p ≤ 4) :
    roundTo x p = nearestInteger (x * Float.ofNat (10 ^ p)) / Float.ofNat (10 ^ p) := by
  rw [← tenTo_float hp]
  rfl

end Double

theorem isPositive_ofNat {n : ℕ} (hpos : 0 < n) (h : n < 2 ^ 53) :
    isPositive (Float.ofNat n) = true :=
  isPositive_float_iff.2 ⟨n * unitsPerOne, measures_natCast h,
    Nat.mul_pos hpos unitsPerOne_pos, whole_lt_infinite h⟩

instance : LawfulQuantity Float where
  defined_of_le h := ⟨(Double.le_iff.1 h).1, (Double.le_iff.1 h).2.1⟩
  le_or_le := Double.le_or_le
  le_trans := Double.le_trans
  lt_iff := Double.lt_iff_le_not_le
  defined_of_finite h := isNaN_of_isFinite h
  finite_of_lt hx h := by
    obtain ⟨n, hn⟩ := zero_le_iff.1 hx
    obtain ⟨k, -, hk⟩ := hn.of_le (lt_iff_le_not_le.1 h).1
    exact hn.isFinite_iff.2 (((hn.lt_iff hk).1 h).trans_le hk.le_infinite)
  add_zero := by decide
  add_le_add hx hy h h' := by
    obtain ⟨n, hn⟩ := zero_le_iff.1 hx
    obtain ⟨k, hk⟩ := zero_le_iff.1 hy
    obtain ⟨n', hnn', hn'⟩ := hn.of_le h
    obtain ⟨k', hkk', hk'⟩ := hk.of_le h'
    refine ((hn.add hk).le_iff (hn'.add hk')).2 (toDouble_mono ?_)
    exact_mod_cast Nat.add_le_add hnn' hkk'
  zero_mul hk := by
    obtain ⟨m, e, hm, hshape⟩ := shape_of_isPositive hk
    rw [shape_mul, shape_zero, hshape]
    change Float.ofModel (.pack (.zero .positive)) = 0.0
    decide
  mul_le_mul hk hx h := by
    obtain ⟨k, hk, hpos, hlt⟩ := isPositive_float_iff.1 hk
    obtain ⟨n, hn⟩ := zero_le_iff.1 hx
    obtain ⟨n', hnn', hn'⟩ := hn.of_le h
    exact ((hn.product hk hpos hlt).le_iff (hn'.product hk hpos hlt)).2 (productUnits_mono k hnn')
  zero_div hk := by
    obtain ⟨n, hn, hpos⟩ := zero_lt_iff.1 hk
    exact zero_div_float hn hpos
  div_self hk := by
    obtain ⟨k, hk, hpos, hlt⟩ := isPositive_float_iff.1 hk
    have h := hk.quotient hk hpos hlt
    rw [quotientUnits_self hpos hlt] at h
    exact ⟨(h.le_iff measures_oneLiteral).2 le_rfl, (measures_oneLiteral.le_iff h).2 le_rfl⟩
  div_le_div hk hk' hle hx h := by
    obtain ⟨k, hk, hpos, hlt⟩ := isPositive_float_iff.1 hk
    obtain ⟨k', hk'', hpos'⟩ := zero_lt_iff.1 hk'
    have hkk' := (hk''.le_iff hk).1 hle
    obtain ⟨n, hn⟩ := zero_le_iff.1 hx
    obtain ⟨n', hnn', hn'⟩ := hn.of_le h
    exact ((hn.quotient hk hpos hlt).le_iff (hn'.quotient hk'' hpos' (hkk'.trans_lt hlt))).2
      (quotientUnits_le hnn' hpos' hkk')
  nearest_zero := by decide +kernel
  nearest_le_nearest hx h := by
    obtain ⟨n, hn⟩ := zero_le_iff.1 hx
    obtain ⟨k, hnk, hk⟩ := hn.of_le h
    have hnearest : nearestNat .awayFromZero (n / unitsPerOne) ≤
        nearestNat .awayFromZero (k / unitsPerOne) := by
      refine nearestNat_mono _ (div_le_div_of_nonneg_right ?_ (Nat.cast_nonneg _))
      exact_mod_cast hnk
    exact (hn.nearestInteger.le_iff hk.nearestInteger).2 (toDouble_units_mono hnearest)
  zero_lt_one := by decide
  positive_hundred := by decide
  one_mul_hundred := by decide
  positive_tenTo hp := by
    rw [tenTo_float hp]
    exact isPositive_ofNat (by positivity)
      ((Nat.pow_le_pow_right (by decide) hp).trans_lt (by decide))
  roundTo_one := (roundTo_float 1.0 (p := 4) (by decide)).trans (by decide +kernel)
  roundTo_hundred := (roundTo_float 100.0 (p := 2) (by decide)).trans (by decide +kernel)
  ofCount_zero := by decide
  ofCount_pos h := by
    refine (measures_zero.lt_iff (measures_ofNat _)).2 (unitsPerOne_pos.trans_le ?_)
    refine measures_oneLiteral.toDouble_eq.ge.trans (toDouble_mono ?_)
    exact_mod_cast Nat.le_mul_of_pos_left unitsPerOne h
  ofCount_le_ofCount h := by
    exact ((measures_ofNat _).le_iff (measures_ofNat _)).2 (toDouble_units_mono h)

end CostGate.Number
