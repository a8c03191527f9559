import CostGate.Proofs.Number.Arithmetic

/-!
# Whole numbers among the doubles

The double of a natural number, and the whole number nearest to a double.
-/
namespace CostGate.Number.Double

open Float.Model (UnpackedFloat Format totalExponent)
open Float.Model.UnpackedFloat

theorem unitsOf_eq_mul (m : ℕ) {e : ℤ} (he : 0 ≤ e) :
    unitsOf m e = m * 2 ^ e.toNat * unitsPerOne := by
  have hexp : (e + 1074).toNat = e.toNat + (0 + 1074 : ℤ).toNat := by omega
  unfold unitsPerOne unitsOf
  rw [hexp, pow_add, one_mul, mul_assoc]

theorem unitsOf_mul_pow (m k : ℕ) {e : ℤ} (he : -1074 ≤ e) :
    unitsOf (m * 2 ^ k) e = unitsOf m (e + k) := by
  have hexp : (e + k + 1074).toNat = k + (e + 1074).toNat := by omega
  rw [unitsOf, unitsOf, hexp, pow_add, mul_assoc]

theorem mul_unitsPerOne_lt_infinite {n k : ℕ} (hk : k ≤ 971) (h : n ≤ 2 ^ (52 + k)) :
    n * unitsPerOne < infinite := by
  have hc : Canonical (2 ^ 52) k := ⟨by decide, by omega, .inl le_rfl⟩
  calc
    n * unitsPerOne ≤ 2 ^ (52 + k) * unitsPerOne := Nat.mul_le_mul_right _ h
    _ = unitsOf (2 ^ 52) k := by
      rw [unitsOf_eq_mul _ (Int.natCast_nonneg k), Int.toNat_natCast, pow_add]
    _ < infinite := hc.unitsOf_lt_infinite (by omega)

theorem whole_lt_infinite {n : ℕ} (h : n < 2 ^ 53) : n * unitsPerOne < infinite :=
  mul_unitsPerOne_lt_infinite (k := 1) (by decide) h.le

theorem unitsPerOne_lt_infinite : unitsPerOne < infinite := by
  simpa using whole_lt_infinite (n := 1) (by decide)

theorem toDouble_mul_unitsPerOne {n : ℕ} (h : n < 2 ^ 53) :
    toDouble (n * unitsPerOne) = n * unitsPerOne := by
  have hgrid : toGrid (n * unitsPerOne) = n * unitsPerOne := by
    unfold unitsPerOne unitsOf
    rw [one_mul, Nat.cast_pow, Nat.cast_ofNat]
    exact toGrid_mul_pow h (0 + 1074 : ℤ).toNat
  rw [toDouble, hgrid, min_eq_left]
  exact (whole_lt_infinite h).le

theorem measures_one : Measures (Float.ofBits 0x3FF0000000000000) unitsPerOne := by
  have hshape : shape (Float.ofBits 0x3FF0000000000000) =
      .finite .positive (2 ^ 52) (-52) (by decide) := by
    unfold shape
    rfl
  have hunits : unitsOf (2 ^ 52) (-52) = unitsPerOne := by
    unfold unitsPerOne
    exact unitsOf_mul_pow 1 52 (by decide)
  rw [Measures, hshape, ← hunits]
  exact .finite _ ⟨by decide, by decide, .inl le_rfl⟩ (by decide)

theorem measures_toFloat {n : ℕ} (h : n < 2 ^ 53) :
    Measures n.toUInt64.toFloat (n * unitsPerOne) := by
  have hn : n.toUInt64.toNat = n := Nat.mod_eq_of_lt (h.trans (by decide))
  have hfloat : n.toUInt64.toFloat =
      .ofModel (.pack (normalize Format.binary64 (n : ℤ) 0 .positive)) := by
    conv_rhs => rw [← hn]
    rfl
  rw [hfloat]
  rcases Nat.eq_zero_or_pos n with rfl | hpos
  · rw [zero_mul]
    exact measures_of_hasUnits (.zero .positive)
  · have hstands := normalize_stands hpos 0
    rw [zero_add, ← cast_unitsPerOne] at hstands
    rw [← toDouble_mul_unitsPerOne h]
    exact measures_of_stands hstands

theorem ofScientific_stands {n : ℕ} (h : 2 ^ 53 ≤ n) :
    Stands .positive (toGrid (n * unitsPerOne)) (.ofScientific Format.binary64 n 0) := by
  have hscientific : UnpackedFloat.ofScientific Format.binary64 n 0 =
      roundWithAccuracy Format.binary64 .positive (n <<< 53 * 1) (-53 + 0) .exact := by
    have hbits : (0 : ℤ) < 2 ^ Format.binary64.exponentBits := by positivity
    rw [UnpackedFloat.ofScientific, dif_neg (by omega), if_neg (by omega), if_neg (by omega),
      if_pos le_rfl]
    rfl
  have hexp :
      -53 + 0 ≤ Format.binary64.targetExponent (totalExponent (n <<< 53 * 1) (-53 + 0)) := by
    rw [mul_one, targetExponent_eq, totalExponent, log2_shiftLeft (by omega)]
    omega
  have hvalue : ((n <<< 53 * 1 : ℕ) : ℚ) * 2 ^ (-53 + 0 + 1074 : ℤ) = n * unitsPerOne := by
    rw [mul_one, cast_unitsPerOne, ← shiftLeft_mul_zpow n 53]
    rfl
  rw [hscientific, ← hvalue]
  exact roundWithAccuracy_stands .positive (Tells.exact _) hexp

theorem measures_ofNat (n : ℕ) : Measures (Float.ofNat n) (toDouble (n * unitsPerOne)) := by
  by_cases hn : n < 2 ^ 53
  · have hfloat : Float.ofNat n = n.toUInt64.toFloat * Float.ofBits 0x3FF0000000000000 :=
      dif_pos ⟨hn, by decide⟩
    have hone : (unitsPerOne : ℚ) ≠ 0 := cast_unitsPerOne_pos.ne'
    have hmul := (measures_toFloat hn).mul measures_one (whole_lt_infinite hn)
      unitsPerOne_lt_infinite
    rw [mul_div_cancel_right₀ _ hone, Nat.cast_mul] at hmul
    rw [hfloat]
    exact hmul
  · have hfloat : Float.ofNat n = .ofModel (.ofScientific n 0) := dif_neg fun h => hn h.1
    rw [hfloat]
    exact measures_of_stands (ofScientific_stands (not_lt.1 hn))

def partsOf : UnpackedFloat → Parts
  | .notANumber => .notANumber
  | .infinity s => .infinite (s == .negative)
  | .zero s => .finite (s == .negative) ⟨0, -1074⟩
  | .finite s m e _ => .finite (s == .negative) ⟨m, e⟩

theorem ofBits_eq (bits : UInt64) :
    Parts.ofBits bits = partsOf (unpack Format.binary64 bits.toBitVec) := by
  have hmant : (@unpackMantissa Format.binary64 bits.toBitVec).toNat =
      bits.toNat % 2 ^ 52 := by
    simp [unpackMantissa, BitVec.extractLsb]
  have hexp : (@unpackExponent Format.binary64 bits.toBitVec).toNat =
      bits.toNat / 2 ^ 52 % 2 ^ 11 := by
    simp [unpackExponent, BitVec.extractLsb, Nat.shiftRight_eq_div_pow]
  have hsign : (Sign.ofBitVec (@unpackSign Format.binary64 bits.toBitVec) == .negative) =
      decide (2 ^ 63 ≤ bits.toNat) := by
    have hbit : @unpackSign Format.binary64 bits.toBitVec = 0#1 ↔
        bits.toNat / 2 ^ 63 % 2 = 0 := by
      simp [BitVec.toNat_eq, unpackSign, BitVec.extractLsb, Nat.shiftRight_eq_div_pow]
    have hlt : bits.toNat < 2 ^ 64 := bits.toNat_lt
    rw [Sign.ofBitVec]
    split_ifs with hzero <;> rw [hbit] at hzero
    · exact (decide_eq_false (by omega)).symm
    · exact (decide_eq_true (by omega)).symm
  rw [Parts.ofBits, unpack]
  simp only [Nat.pow_eq]
  rw [← hmant, ← hexp, ← hsign]
  set E := @unpackExponent Format.binary64 bits.toBitVec with hE
  set M := @unpackMantissa Format.binary64 bits.toBitVec with hM
  have hones : E = -1#11 ↔ E.toNat = 2047 := by rw [BitVec.toNat_eq]; rfl
  have hexpZero : E = 0#11 ↔ E.toNat = 0 := by rw [BitVec.toNat_eq]; rfl
  have hmantZero : M = 0#52 ↔ M.toNat = 0 := by rw [BitVec.toNat_eq]; rfl
  by_cases h1 : E.toNat = 2047
  · rw [if_pos h1, if_pos (hones.2 h1)]
    by_cases h2 : M.toNat = 0
    · rw [if_pos h2, if_pos (hmantZero.2 h2), partsOf]
    · rw [if_neg h2, if_neg (h2 ∘ hmantZero.1), partsOf]
  · rw [if_neg h1, if_neg (h1 ∘ hones.1)]
    by_cases h2 : E.toNat = 0
    · rw [if_pos h2, if_pos (hexpZero.2 h2)]
      by_cases h3 : M.toNat = 0
      · rw [dif_pos (hmantZero.2 h3), partsOf, h3]
      · rw [dif_neg (h3 ∘ hmantZero.1), partsOf, h2]
        rfl
    · rw [if_neg h2, if_neg (h2 ∘ hexpZero.1), partsOf, toNat_one_append]
      rfl

theorem ofFloat_eq (x : Float) : Parts.ofFloat x = partsOf (shape x) := by
  unfold shape
  exact ofBits_eq _

theorem toDouble_nearest_of_dvd {n k : ℕ} (h : toDouble n = n) (hn : n = k * unitsPerOne) :
    toDouble (nearestNat .awayFromZero (n / unitsPerOne) * unitsPerOne) = n := by
  have hone : (unitsPerOne : ℚ) ≠ 0 := cast_unitsPerOne_pos.ne'
  rw [hn, Nat.cast_mul, mul_div_cancel_right₀ _ hone, nearestNat_natCast, ← Nat.cast_mul, ← hn, h]

theorem roundTimes_eq (tie : Tie) (m : ℕ) {e : ℤ} (hmin : -1074 ≤ e) (he : e < 0) :
    Magnitude.roundTimes tie ⟨m, e⟩ 1 = nearestNat tie (unitsOf m e / unitsPerOne) := by
  have hnum : Magnitude.numerator ⟨m, e⟩ * 1 = m := by
    rw [Magnitude.numerator, Int.toNat_of_nonpos he.le, Nat.pow_eq, pow_zero, mul_one, mul_one]
  have hden : Magnitude.denominator ⟨m, e⟩ = 2 ^ (-e).toNat := rfl
  have hpow : (2 : ℚ) ^ (1074 : ℤ) = 2 ^ (-e).toNat * 2 ^ (e + 1074) := by
    rw [← zpow_natCast (2 : ℚ), Int.toNat_of_nonneg (by omega), ← zpow_add₀ two_ne_zero]
    congr 1
    ring
  rw [Magnitude.roundTimes, roundQuotient_eq_nearestNat _ _ (Magnitude.denominator_pos _), hnum,
    hden, cast_unitsOf hmin, cast_unitsPerOne, hpow, mul_div_mul_right _ _ (by positivity),
    Nat.cast_pow, Nat.cast_ofNat]

theorem measures_neg_zero : Measures (-Float.ofNat 0) 0 := by
  have hneg : -Float.ofNat 0 = .ofModel (.pack (.zero .negative)) := by decide
  rw [hneg]
  exact measures_of_hasUnits (.zero .negative)

/-- The nearest whole number to a measure is the measure of the nearest whole number. -/
theorem Measures.nearestInteger {x : Float} {n : ℕ} (hx : Measures x n) :
    Measures (nearestInteger x)
      (toDouble (nearestNat .awayFromZero (n / unitsPerOne) * unitsPerOne)) := by
  have hself := hx
  rw [Number.nearestInteger, ofFloat_eq]
  rw [Measures] at hx
  generalize shape x = u at hx
  cases hx with
  | zero s =>
    have hwhole : Magnitude.roundTimes .awayFromZero ⟨0, -1074⟩ 1 = 0 := by
      rw [roundTimes_eq _ _ le_rfl (by decide)]
      simp [unitsOf, nearestNat]
    rw [toDouble_nearest_of_dvd (by simp) (zero_mul _).symm, partsOf]
    dsimp only
    rw [if_neg (by decide), hwhole]
    split_ifs
    · exact measures_neg_zero
    · simpa using measures_ofNat 0
  | @finite m e hm hc he =>
    rw [partsOf]
    dsimp only
    split_ifs with hwhole hneg
    · rw [toDouble_nearest_of_dvd hself.toDouble_eq (unitsOf_eq_mul m hwhole)]
      exact hself
    · exact absurd hneg (by decide)
    · rw [roundTimes_eq _ _ hc.le (not_le.1 hwhole)]
      exact measures_ofNat _
  | infinity =>
    have hdvd : infinite = 2 ^ 52 * 2 ^ (972 : ℤ).toNat * unitsPerOne := by
      unfold infinite
      exact unitsOf_eq_mul _ (by decide)
    rw [toDouble_nearest_of_dvd hself.toDouble_eq hdvd]
    exact hself

end CostGate.Number.Double
