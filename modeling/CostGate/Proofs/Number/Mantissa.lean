import CostGate.Proofs.Number.Units

/-!
# Rounding of mantissas

Arithmetic on doubles computes a mantissa with two extra bits that tell what was cut off: whether
it is half a unit or more, and whether it is anything but nothing and half a unit. The bits are
kept right while the mantissa is shifted, so the final mantissa is the nearest natural number to
the exact value, and the shape that comes out has the measure that `toGrid` gives.
-/
namespace CostGate.Number.Double

open Float.Model (UnpackedFloat Format totalExponent)
open Float.Model.UnpackedFloat

/-- An extended mantissa tells a value: its whole part and what its two bits say of the rest. -/
structure Tells (em : ExtendedMantissa) (y : ℚ) : Prop where
  le : em.mantissa ≤ y
  lt : y < em.mantissa + 1
  half : em.roundBit = true ↔ 1 ≤ 2 * (y - em.mantissa)
  rest : em.stickyBit = true ↔ y - em.mantissa ≠ 0 ∧ 2 * (y - em.mantissa) ≠ 1

namespace Tells

variable {em : ExtendedMantissa} {y : ℚ}

theorem floor (h : Tells em y) : ⌊y⌋₊ = em.mantissa :=
  (Nat.floor_eq_iff ((Nat.cast_nonneg _).trans h.le)).2 ⟨h.le, h.lt⟩

theorem roundedMantissa (h : Tells em y) : em.roundedMantissa = nearestNat .toEven y := by
  have hfloor := h.floor
  obtain ⟨-, -, hhalf, hrest⟩ := h
  obtain ⟨m, r, s⟩ := em
  simp only at hfloor hhalf hrest
  unfold nearestNat
  rw [hfloor]
  cases r with
  | false =>
    have hlt : 2 * (y - m) < 1 := by simpa using hhalf
    rw [if_pos hlt]
    cases s <;> rfl
  | true =>
    have hge : 1 ≤ 2 * (y - m) := by simpa using hhalf
    rw [if_neg (not_lt.2 hge)]
    cases s with
    | false =>
      have heq : 2 * (y - m) = 1 := by
        by_contra hne
        have hzero : y - m ≠ 0 := by intro h0; norm_num [h0] at hge
        simpa using hrest.2 ⟨hzero, hne⟩
      rw [if_neg heq.not_gt]
      rfl
    | true =>
      have hgt : 1 < 2 * (y - m) := lt_of_le_of_ne hge (hrest.1 rfl).2.symm
      rw [if_pos hgt]
      rfl

theorem shiftRightOne (h : Tells em y) : Tells em.shiftRightOne (y / 2) := by
  obtain ⟨hle, hlt, hhalf, hrest⟩ := h
  obtain ⟨m, r, s⟩ := em
  simp only at hle hlt hhalf hrest
  have hsplit : (m : ℚ) = 2 * (m / 2 : ℕ) + (m % 2 : ℕ) := by
    exact_mod_cast (Nat.div_add_mod m 2).symm
  have hbits : (r || s) = true ↔ y - m ≠ 0 := by
    rw [Bool.or_eq_true, hhalf, hrest]
    constructor
    · rintro (h | h)
      · intro h0
        norm_num [h0] at h
      · exact h.1
    · intro hne
      by_cases h1 : 2 * (y - m) = 1
      · exact .inl h1.ge
      · exact .inr ⟨hne, h1⟩
  rcases Nat.mod_two_eq_zero_or_one m with heven | hodd
  · rw [heven, Nat.cast_zero, add_zero] at hsplit
    constructor <;> simp only [ExtendedMantissa.shiftRightOne, heven, hbits]
    · linarith
    · linarith
    · simp only [bne_self_eq_false, Bool.false_eq_true, false_iff, not_le]
      linarith
    · constructor
      · intro hne
        exact ⟨fun h0 => hne (by linarith), fun h1 => by linarith⟩
      · rintro ⟨hne, -⟩ h0
        exact hne (by linarith)
  · rw [hodd, Nat.cast_one] at hsplit
    constructor <;> simp only [ExtendedMantissa.shiftRightOne, hodd, hbits]
    · linarith
    · linarith
    · simp only [Nat.reduceBNe, true_iff]
      linarith
    · constructor
      · intro hne
        exact ⟨fun h0 => by linarith, fun h1 => hne (by linarith)⟩
      · rintro ⟨-, hne⟩ h0
        exact hne (by linarith)

theorem shiftRight (h : Tells em y) (n : ℕ) : Tells (em >>> n) (y / 2 ^ n) := by
  change Tells (n.repeat ExtendedMantissa.shiftRightOne em) (y / 2 ^ n)
  induction n with
  | zero => simpa [Nat.repeat] using h
  | succ n ih =>
    rw [Nat.repeat, pow_succ, ← div_div]
    exact ih.shiftRightOne

theorem exact (m : ℕ) : Tells (.ofMantissaAndAccuracy m .exact) m := by
  constructor <;> simp [ExtendedMantissa.ofMantissaAndAccuracy]

/-- An accuracy other than the exact one tells how a rest that is not zero compares with half. -/
theorem inexact {m : ℕ} (hpos : 0 < y - m) (hlt : y - m < 1) {o : Ordering}
    (ho : compare (2 * (y - m)) 1 = o) : Tells (.ofMantissaAndAccuracy m (.inexact o)) y := by
  have hle : (m : ℚ) ≤ y := by linarith
  have hup : y < m + 1 := by linarith
  subst ho
  rcases lt_trichotomy (2 * (y - m)) 1 with h | h | h
  · rw [compare_lt_iff_lt.2 h]
    exact ⟨hle, hup, by simpa [ExtendedMantissa.ofMantissaAndAccuracy] using h,
      by simp [ExtendedMantissa.ofMantissaAndAccuracy, hpos.ne', h.ne]⟩
  · rw [compare_eq_iff_eq.2 h]
    exact ⟨hle, hup, by simp [ExtendedMantissa.ofMantissaAndAccuracy, h],
      by simp [ExtendedMantissa.ofMantissaAndAccuracy, h]⟩
  · rw [compare_gt_iff_gt.2 h]
    exact ⟨hle, hup, by simpa [ExtendedMantissa.ofMantissaAndAccuracy] using h.le,
      by simp [ExtendedMantissa.ofMantissaAndAccuracy, hpos.ne', h.ne']⟩

theorem quotient (a : ℕ) {b : ℕ} (hb : 0 < b) :
    Tells (.ofMantissaAndAccuracy (a / b) (accuracyOfFraction (a % b) b)) (a / b) := by
  have hq : (0 : ℚ) < b := by exact_mod_cast hb
  have hrest := quotient_sub_div a hb
  unfold accuracyOfFraction
  split_ifs with hzero
  · have heq : (a / b : ℚ) = (a / b : ℕ) := by
      rw [hzero, Nat.cast_zero, zero_div] at hrest
      linarith
    rw [heq]
    exact exact _
  · have hcompare : compare (2 * ((a % b : ℕ) / b : ℚ)) 1 = compare (2 * (a % b)) b := by
      rcases lt_trichotomy (2 * (a % b)) b with h | h | h
      · rw [compare_lt_iff_lt.2 h, compare_lt_iff_lt, ← mul_div_assoc, div_lt_one hq]
        exact_mod_cast h
      · rw [compare_eq_iff_eq.2 h, compare_eq_iff_eq, ← mul_div_assoc, div_eq_one_iff_eq hq.ne']
        exact_mod_cast h
      · rw [compare_gt_iff_gt.2 h, compare_gt_iff_gt, ← mul_div_assoc, one_lt_div hq]
        exact_mod_cast h
    refine inexact ?_ ?_ ?_
    · rw [hrest]
      exact div_pos (by exact_mod_cast Nat.pos_of_ne_zero hzero) hq
    · rw [hrest, div_lt_one hq]
      exact_mod_cast Nat.mod_lt a hb
    · rw [hrest, hcompare]

end Tells

theorem targetExponent_eq (t : ℤ) : Format.binary64.targetExponent t = max (t - 53) (-1074) := rfl

/-- A shape of a sign, a mantissa that may be zero, and an exponent. -/
def signed (s : Sign) (m : ℕ) (e : ℤ) : UnpackedFloat :=
  if h : m = 0 then .zero s else .finite s m e (Nat.pos_of_ne_zero h)

/-- A shape with a sign and a measure, which may be beyond all doubles. -/
def Stands (s : Sign) (n : ℕ) (u : UnpackedFloat) : Prop :=
  ∃ m e, Canonical m e ∧ unitsOf m e = n ∧ u = signed s m e

/-- A rounded mantissa keeps its exponent, or takes the next one if it has grown by a digit. -/
theorem shift_rounded {r : ℕ} {t : ℤ} (hr : r ≤ 2 ^ 53) (ht : -1074 ≤ t)
    (hfull : 2 ^ 52 ≤ r ∨ t = -1074) :
    ∃ m e, Canonical m e ∧ unitsOf m e = r * 2 ^ (t + 1074).toNat ∧
      (shiftToTargetExponent Format.binary64 r t .exact).1.mantissa = m ∧
      (shiftToTargetExponent Format.binary64 r t .exact).2 = e := by
  rcases hr.lt_or_eq with hlt | rfl
  · have hlog : r.log2 < 53 := by
      rcases Nat.eq_zero_or_pos r with rfl | hpos
      · decide
      · exact (Nat.log2_lt hpos.ne').2 hlt
    have hshift : (Format.binary64.targetExponent (totalExponent r t) - t).toNat = 0 := by
      rw [targetExponent_eq, totalExponent]
      omega
    refine ⟨r, t, ⟨hlt, ht, hfull⟩, rfl, ?_, ?_⟩
    · rw [shiftToTargetExponent, shiftToExponent, hshift]
      rfl
    · rw [shiftToTargetExponent, shiftToExponent, hshift]
      simp
  · have hshift : (Format.binary64.targetExponent (totalExponent (2 ^ 53) t) - t).toNat = 1 := by
      rw [targetExponent_eq, totalExponent, Nat.log2_two_pow]
      omega
    refine ⟨2 ^ 52, t + 1, ⟨by decide, by omega, .inl le_rfl⟩, ?_, ?_, ?_⟩
    · rw [unitsOf, ← pow_add, ← pow_add]
      congr 1
      omega
    · rw [shiftToTargetExponent, shiftToExponent, hshift]
      rfl
    · rw [shiftToTargetExponent, shiftToExponent, hshift]
      simp

section Value

variable {m k : ℕ} {e : ℤ} {y : ℚ}

/-- A value has no more than fifty-three digits above its target exponent. -/
theorem value_lt (hlt : y < m + 1)
    (hk : Format.binary64.targetExponent (totalExponent m e) + 1074 = k) :
    y * 2 ^ (e + 1074) < 2 ^ (53 + k) := by
  have hexp : ((m.log2 + 1 : ℕ) : ℤ) + (e + 1074) ≤ (53 + k : ℕ) := by
    rw [targetExponent_eq, totalExponent] at hk
    push_cast
    omega
  have hpow : y < 2 ^ (m.log2 + 1) := by
    have : m + 1 ≤ 2 ^ (m.log2 + 1) := Nat.lt_log2_self
    exact hlt.trans_le (by exact_mod_cast this)
  calc
    y * 2 ^ (e + 1074) < 2 ^ (m.log2 + 1) * 2 ^ (e + 1074) :=
      mul_lt_mul_of_pos_right hpow (by positivity)
    _ = 2 ^ (((m.log2 + 1 : ℕ) : ℤ) + (e + 1074)) := by
      rw [← zpow_natCast (2 : ℚ) (m.log2 + 1), ← zpow_add₀ (by norm_num)]
    _ ≤ 2 ^ ((53 + k : ℕ) : ℤ) := zpow_le_zpow_right₀ (by norm_num) hexp
    _ = 2 ^ (53 + k) := zpow_natCast ..

/-- A value has no fewer than fifty-three digits above its target exponent, unless that is the
least exponent. -/
theorem le_value (hle : m ≤ y) (he : e ≤ Format.binary64.targetExponent (totalExponent m e))
    (hk : Format.binary64.targetExponent (totalExponent m e) + 1074 = k) :
    k = 0 ∨ 2 ^ (52 + k) ≤ y * 2 ^ (e + 1074) := by
  rw [targetExponent_eq, totalExponent] at he hk
  rcases Nat.eq_zero_or_pos k with h0 | hpos
  · exact .inl h0
  · have hm : m ≠ 0 := by
      rintro rfl
      simp only [Nat.log2_zero] at he hk
      omega
    have hexp : ((52 + k : ℕ) : ℤ) = m.log2 + (e + 1074) := by
      push_cast
      omega
    have hpow : (2 : ℚ) ^ m.log2 ≤ y := by
      refine le_trans ?_ hle
      exact_mod_cast Nat.log2_self_le hm
    refine .inr ?_
    calc
      (2 : ℚ) ^ (52 + k) = 2 ^ ((52 + k : ℕ) : ℤ) := (zpow_natCast ..).symm
      _ = 2 ^ m.log2 * 2 ^ (e + 1074) := by rw [hexp, zpow_add₀ (by norm_num), zpow_natCast]
      _ ≤ y * 2 ^ (e + 1074) := mul_le_mul_of_nonneg_right hpow (by positivity)

/-- Counting in units and dropping digits is shifting by the difference of the exponents. -/
theorem value_div_pow {t : ℤ} {d : ℕ} (hk : t + 1074 = k) (hd : t - e = d) :
    y * 2 ^ (e + 1074) / 2 ^ k = y / 2 ^ d := by
  rw [div_eq_div_iff (by positivity) (by positivity), mul_assoc, ← zpow_natCast (2 : ℚ) d,
    ← zpow_natCast (2 : ℚ) k, ← zpow_add₀ (by norm_num)]
  congr 2
  omega

end Value

theorem roundWithAccuracy_eq_signed (s : Sign) (m : ℕ) (e : ℤ) (acc : Accuracy) :
    roundWithAccuracy Format.binary64 s m e acc =
      let first := shiftToTargetExponent Format.binary64 m e acc
      let second := shiftToTargetExponent Format.binary64 first.1.roundedMantissa first.2 .exact
      signed s second.1.mantissa second.2 := rfl

/-- Rounding a mantissa at an exponent gives the nearest shape, if no digit is missing. -/
theorem roundWithAccuracy_stands (s : Sign) {m : ℕ} {e : ℤ} {acc : Accuracy} {y : ℚ}
    (hy : Tells (.ofMantissaAndAccuracy m acc) y)
    (he : e ≤ Format.binary64.targetExponent (totalExponent m e)) :
    Stands s (toGrid (y * 2 ^ (e + 1074))) (roundWithAccuracy Format.binary64 s m e acc) := by
  have hmant : (ExtendedMantissa.ofMantissaAndAccuracy m acc).mantissa = m := by
    rcases acc with _ | (_ | _ | _) <;> rfl
  set t := Format.binary64.targetExponent (totalExponent m e) with ht
  have hmin : -1074 ≤ t := le_max_right _ _
  obtain ⟨k, hk⟩ : ∃ k : ℕ, t + 1074 = k := ⟨(t + 1074).toNat, by omega⟩
  have hup : y * 2 ^ (e + 1074) < 2 ^ (53 + k) := value_lt (hmant ▸ hy.lt) hk
  have hdown : k = 0 ∨ 2 ^ (52 + k) ≤ y * 2 ^ (e + 1074) := le_value (hmant ▸ hy.le) he hk
  have hround : (shiftToTargetExponent Format.binary64 m e acc).1.roundedMantissa =
      nearestNat .toEven (y * 2 ^ (e + 1074) / 2 ^ k) := by
    rw [value_div_pow hk (Int.toNat_of_nonneg (by omega : 0 ≤ t - e)).symm]
    exact (hy.shiftRight (t - e).toNat).roundedMantissa
  have hexp : (shiftToTargetExponent Format.binary64 m e acc).2 = t := by
    change e + ((t - e).toNat : ℤ) = t
    omega
  obtain ⟨m', e', hc, hunits, hm', he'⟩ := shift_rounded (nearestNat_le_of_lt hup) hmin
    (hdown.symm.imp le_nearestNat_of_le (by omega))
  refine ⟨m', e', hc, ?_, ?_⟩
  · rw [hunits, toGrid_eq hup hdown, hk]
    rfl
  · rw [roundWithAccuracy_eq_signed]
    dsimp only
    rw [hround, hexp, hm', he']

theorem log2_shiftLeft {m : ℕ} (hm : 0 < m) (n : ℕ) : (m <<< n).log2 = m.log2 + n := by
  rw [Nat.shiftLeft_eq, Nat.log2_eq_iff (by positivity)]
  constructor
  · rw [pow_add]
    exact Nat.mul_le_mul_right _ (Nat.log2_self_le hm.ne')
  · rw [Nat.add_right_comm, pow_add]
    exact Nat.mul_lt_mul_of_pos_right Nat.lt_log2_self (Nat.two_pow_pos n)

theorem shiftLeft_mul_zpow (m n : ℕ) (e : ℤ) :
    ((m <<< n : ℕ) : ℚ) * 2 ^ (e - n) = m * 2 ^ e := by
  rw [Nat.shiftLeft_eq, Nat.cast_mul, Nat.cast_pow, Nat.cast_ofNat, mul_assoc,
    ← zpow_natCast (2 : ℚ) n, ← zpow_add₀ (by norm_num)]
  congr 2
  omega

/-- A mantissa that may lack digits is given zeros and rounded. -/
theorem round_stands (s : Sign) {m : ℕ} (hm : 0 < m) (e : ℤ) :
    Stands s (toGrid (m * 2 ^ (e + 1074))) (round Format.binary64 s m e) := by
  set t := Format.binary64.targetExponent (totalExponent m e) with ht
  set n := (e - t).toNat with hn
  have htotal : totalExponent (m <<< n) (e - n) = totalExponent m e := by
    rw [totalExponent, totalExponent, log2_shiftLeft hm]
    push_cast
    ring
  have hvalue : ((m <<< n : ℕ) : ℚ) * 2 ^ (e - n + 1074) = m * 2 ^ (e + 1074) := by
    rw [← shiftLeft_mul_zpow m n (e + 1074)]
    congr 2
    ring
  rw [← hvalue]
  refine roundWithAccuracy_stands s (Tells.exact _) ?_
  rw [htotal, ← ht]
  omega

end CostGate.Number.Double
