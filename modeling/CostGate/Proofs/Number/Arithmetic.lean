import CostGate.Proofs.Number.Measure

/-!
# Arithmetic of doubles

A sum, product or quotient of doubles that are not negative has the measure of the exact result,
rounded to a double. So does a double that is made from a natural number.
-/
namespace CostGate.Number.Double

open Float.Model (UnpackedFloat Format totalExponent)
open Float.Model.UnpackedFloat

@[irreducible] def unitsPerOne : ℕ := unitsOf 1 0

theorem cast_unitsOf {m : ℕ} {e : ℤ} (he : -1074 ≤ e) : (unitsOf m e : ℚ) = m * 2 ^ (e + 1074) := by
  have hexp : (((e + 1074).toNat : ℕ) : ℤ) = e + 1074 := Int.toNat_of_nonneg (by omega)
  rw [unitsOf, Nat.cast_mul, Nat.cast_pow, Nat.cast_ofNat, ← zpow_natCast (2 : ℚ), hexp]

theorem cast_unitsPerOne : (unitsPerOne : ℚ) = 2 ^ (1074 : ℤ) := by
  unfold unitsPerOne
  rw [cast_unitsOf (by decide), Nat.cast_one, one_mul, zero_add]

theorem unitsPerOne_pos : 0 < unitsPerOne := by
  unfold unitsPerOne
  exact unitsOf_pos one_pos 0

theorem cast_unitsPerOne_pos : (0 : ℚ) < unitsPerOne := by
  exact_mod_cast unitsPerOne_pos

theorem toDouble_of_infinite_le {x : ℚ} (h : infinite ≤ x) : toDouble x = infinite := by
  refine le_antisymm (toDouble_le_infinite x) ?_
  rw [← toDouble_infinite]
  exact toDouble_mono (by simpa using h)

theorem shape_add (x y : Float) :
    x + y = .ofModel (.pack (.add Format.binary64 (shape x) (shape y))) := by
  unfold shape
  rfl

theorem shape_mul (x y : Float) :
    x * y = .ofModel (.pack (.mul Format.binary64 (shape x) (shape y))) := by
  unfold shape
  rfl

theorem shape_div (x y : Float) :
    x / y = .ofModel (.pack (.div Format.binary64 (shape x) (shape y))) := by
  unfold shape
  rfl

theorem normalize_stands {m : ℕ} (hm : 0 < m) (e : ℤ) :
    Stands .positive (toGrid (m * 2 ^ (e + 1074))) (normalize Format.binary64 m e .positive) := by
  have hgt : compare (m : ℤ) 0 = .gt := compare_gt_iff_gt.2 (by omega)
  rw [UnpackedFloat.normalize, hgt]
  exact round_stands .positive hm e

theorem add_finite_stands {m n : ℕ} {e f : ℤ} (hm : 0 < m) (hn : 0 < n) (he : -1074 ≤ e)
    (hf : -1074 ≤ f) :
    Stands .positive (toGrid (unitsOf m e + unitsOf n f))
      (.add Format.binary64 (.finite .positive m e hm) (.finite .positive n f hn)) := by
  have hshift : ∀ {a : ℕ} {g : ℤ}, min e f ≤ g →
      ((a <<< (g - min e f).toNat : ℕ) : ℚ) * 2 ^ (min e f + 1074) = a * 2 ^ (g + 1074) := by
    intro a g hg
    rw [← shiftLeft_mul_zpow a (g - min e f).toNat (g + 1074)]
    congr 2
    omega
  have hpos : 0 < m <<< (e - min e f).toNat := by
    rw [Nat.shiftLeft_eq]
    positivity
  have hstands := normalize_stands (Nat.add_pos_left hpos (n <<< (f - min e f).toNat)) (min e f)
  rw [Nat.cast_add, add_mul, hshift (min_le_left e f), hshift (min_le_right e f),
    ← cast_unitsOf he, ← cast_unitsOf hf, Nat.cast_add] at hstands
  exact hstands

namespace Measures

variable {x y : Float} {n k : ℕ}

theorem add (hx : Measures x n) (hy : Measures y k) : Measures (x + y) (toDouble (n + k)) := by
  have hn := hx.toDouble_eq
  have hk := hy.toDouble_eq
  rw [shape_add]
  rw [Measures] at hx hy
  generalize shape x = u at hx
  generalize shape y = v at hy
  cases hx with
  | zero s =>
    rw [Nat.cast_zero, zero_add, hk]
    apply measures_of_hasUnits
    cases hy with
    | zero t => cases s <;> cases t <;> exact .zero _
    | finite hm hc he => exact .finite hm hc he
    | infinity => exact .infinity
  | finite hm hc he =>
    cases hy with
    | zero t =>
      rw [Nat.cast_zero, add_zero, hn]
      exact measures_of_hasUnits (.finite hm hc he)
    | finite hm' hc' he' =>
      exact measures_of_stands (add_finite_stands hm hm' hc.le hc'.le)
    | infinity =>
      rw [toDouble_of_infinite_le (le_add_of_nonneg_left (Nat.cast_nonneg _))]
      exact measures_of_hasUnits .infinity
  | infinity =>
    rw [toDouble_of_infinite_le (le_add_of_nonneg_right (Nat.cast_nonneg _))]
    cases hy <;> exact measures_of_hasUnits .infinity

end Measures

theorem log2_mul_le {m n : ℕ} (hm : 0 < m) (hn : 0 < n) : m.log2 + n.log2 ≤ (m * n).log2 := by
  rw [Nat.le_log2 (Nat.mul_pos hm hn).ne', pow_add]
  exact Nat.mul_le_mul (Nat.log2_self_le hm.ne') (Nat.log2_self_le hn.ne')

theorem Canonical.log2_eq {m : ℕ} {e : ℤ} (h : Canonical m e) : m.log2 = 52 ∨ e = -1074 := by
  refine h.full.imp_left fun hm => ?_
  exact (Nat.log2_eq_iff (by omega)).2 ⟨hm, h.lt⟩

theorem mul_finite_stands {m n : ℕ} {e f : ℤ} (hm : 0 < m) (hn : 0 < n) (hc : Canonical m e)
    (hd : Canonical n f) :
    Stands .positive (toGrid (unitsOf m e * unitsOf n f / unitsPerOne))
      (.mul Format.binary64 (.finite .positive m e hm) (.finite .positive n f hn)) := by
  have hexp : e + f ≤ Format.binary64.targetExponent (totalExponent (m * n) (e + f)) := by
    have hlog := log2_mul_le hm hn
    have h1 := hc.log2_eq
    have h2 := hd.log2_eq
    rw [targetExponent_eq, totalExponent]
    omega
  have hvalue : ((m * n : ℕ) : ℚ) * 2 ^ (e + f + 1074) =
      unitsOf m e * unitsOf n f / unitsPerOne := by
    rw [cast_unitsOf hc.le, cast_unitsOf hd.le, cast_unitsPerOne, eq_div_iff (by positivity),
      mul_assoc, ← zpow_add₀ two_ne_zero, mul_mul_mul_comm, ← zpow_add₀ two_ne_zero, Nat.cast_mul]
    congr 2
    ring
  rw [← hvalue]
  exact roundWithAccuracy_stands .positive (Tells.exact _) hexp

namespace Measures

variable {x y : Float} {n k : ℕ}

theorem mul (hx : Measures x n) (hy : Measures y k) (hn : n < infinite) (hk : k < infinite) :
    Measures (x * y) (toDouble (n * k / unitsPerOne)) := by
  rw [shape_mul]
  rw [Measures] at hx hy
  generalize shape x = u at hx
  generalize shape y = v at hy
  cases hx with
  | zero s =>
    rw [Nat.cast_zero, zero_mul, zero_div, toDouble_zero]
    cases hy with
    | zero t => exact measures_of_hasUnits (.zero _)
    | finite hm hc he => exact measures_of_hasUnits (.zero _)
    | infinity => exact absurd hk (lt_irrefl _)
  | finite hm hc he =>
    cases hy with
    | zero t =>
      rw [Nat.cast_zero, mul_zero, zero_div, toDouble_zero]
      exact measures_of_hasUnits (.zero _)
    | finite hm' hc' he' => exact measures_of_stands (mul_finite_stands hm hm' hc hc')
    | infinity => exact absurd hk (lt_irrefl _)
  | infinity => exact absurd hn (lt_irrefl _)

theorem infinite_mul (hx : Measures x infinite) (hy : Measures y k) (hk : 0 < k) :
    Measures (x * y) infinite := by
  rw [shape_mul]
  rw [Measures] at hx hy
  generalize shape x = u at hx
  generalize shape y = v at hy
  obtain rfl := hx.eq_infinity
  cases hy with
  | zero t => exact absurd hk (lt_irrefl _)
  | finite hm hc he => exact measures_of_hasUnits .infinity
  | infinity => exact measures_of_hasUnits .infinity

end Measures

/-- A division is carried out with enough digits. -/
theorem divCore_le_targetExponent {m n : ℕ} (hm : 0 < m) (hn : 0 < n) (e f : ℤ) :
    (divCore Format.binary64 m e n f).2.1 ≤
      Format.binary64.targetExponent (totalExponent (divCore Format.binary64 m e n f).1
        (divCore Format.binary64 m e n f).2.1) := by
  rw [divCore]
  dsimp only
  set t := Format.binary64.targetExponent (totalExponent m e - totalExponent n f) with ht
  set s := (e - f - min (e - f) t).toNat with hs
  rw [targetExponent_eq, totalExponent, totalExponent] at ht
  rcases eq_or_ne (min (e - f) t) (-1074) with heq | hne
  · rw [heq]
    exact le_max_right _ _
  · have hdigits : n.log2 + 53 ≤ m.log2 + s ∨ min (e - f) t ≤ -1074 := by omega
    refine hdigits.elim (fun hdigits => ?_) (fun hle => hle.trans (le_max_right _ _))
    have hquot : 2 ^ 52 ≤ (m <<< s) / n := by
      rw [Nat.le_div_iff_mul_le hn]
      calc
        2 ^ 52 * n ≤ 2 ^ 52 * 2 ^ (n.log2 + 1) := Nat.mul_le_mul_left _ Nat.lt_log2_self.le
        _ = 2 ^ (n.log2 + 53) := by rw [← pow_add]; congr 1; omega
        _ ≤ 2 ^ (m.log2 + s) := Nat.pow_le_pow_right (by decide) hdigits
        _ = 2 ^ m.log2 * 2 ^ s := pow_add ..
        _ ≤ m <<< s := by
          rw [Nat.shiftLeft_eq]
          exact Nat.mul_le_mul_right _ (Nat.log2_self_le hm.ne')
    have hlog : 52 ≤ ((m <<< s) / n).log2 :=
      (Nat.le_log2 (by omega)).2 hquot
    rw [targetExponent_eq, totalExponent]
    omega

theorem div_finite_stands {m n : ℕ} {e f : ℤ} (hm : 0 < m) (hn : 0 < n) (hc : Canonical m e)
    (hd : Canonical n f) :
    Stands .positive (toGrid (unitsOf m e * unitsPerOne / unitsOf n f))
      (.div Format.binary64 (.finite .positive m e hm) (.finite .positive n f hn)) := by
  set t := (divCore Format.binary64 m e n f).2.1 with ht
  set s := (e - f - t).toNat with hs
  have hts : e - f - s = t := by
    have : t ≤ e - f := min_le_left _ _
    omega
  have hexp : (2 : ℚ) ^ (e - f + 1074) * 2 ^ (f + 1074) = 2 ^ (e + 1074) * unitsPerOne := by
    rw [cast_unitsPerOne, ← zpow_add₀ two_ne_zero, ← zpow_add₀ two_ne_zero]
    congr 1
    ring
  have hvalue : ((m <<< s : ℕ) / n : ℚ) * 2 ^ (t + 1074) =
      unitsOf m e * unitsPerOne / unitsOf n f := by
    have hn' : (n : ℚ) ≠ 0 := by exact_mod_cast hn.ne'
    calc
      ((m <<< s : ℕ) / n : ℚ) * 2 ^ (t + 1074)
        = ((m <<< s : ℕ) * 2 ^ (e - f + 1074 - s)) / n := by
          rw [div_mul_eq_mul_div, ← hts]
          congr 3
          ring
      _ = m * 2 ^ (e - f + 1074) / n := by rw [shiftLeft_mul_zpow]
      _ = unitsOf m e * unitsPerOne / unitsOf n f := by
          rw [cast_unitsOf hc.le, cast_unitsOf hd.le,
            div_eq_div_iff hn' (mul_ne_zero hn' (by positivity))]
          linear_combination (m * n : ℚ) * hexp
  rw [← hvalue]
  exact roundWithAccuracy_stands .positive (Tells.quotient _ hn)
    (divCore_le_targetExponent hm hn e f)

namespace Measures

variable {x y : Float} {n k : ℕ}

theorem div (hx : Measures x n) (hy : Measures y k) (hn : n < infinite) (hpos : 0 < k)
    (hk : k < infinite) : Measures (x / y) (toDouble (n * unitsPerOne / k)) := by
  rw [shape_div]
  rw [Measures] at hx hy
  generalize shape x = u at hx
  generalize shape y = v at hy
  cases hy with
  | zero t => exact absurd hpos (lt_irrefl _)
  | infinity => exact absurd hk (lt_irrefl _)
  | finite hm hc he =>
    cases hx with
    | zero s =>
      rw [Nat.cast_zero, zero_mul, zero_div, toDouble_zero]
      exact measures_of_hasUnits (.zero _)
    | finite hm' hc' he' => exact measures_of_stands (div_finite_stands hm' hm hc' hc)
    | infinity => exact absurd hn (lt_irrefl _)

theorem infinite_div (hx : Measures x infinite) (hy : Measures y k) (hpos : 0 < k)
    (hk : k < infinite) : Measures (x / y) infinite := by
  rw [shape_div]
  rw [Measures] at hx hy
  generalize shape x = u at hx
  generalize shape y = v at hy
  obtain rfl := hx.eq_infinity
  cases hy with
  | zero t => exact absurd hpos (lt_irrefl _)
  | finite hm hc he => exact measures_of_hasUnits .infinity
  | infinity => exact absurd hk (lt_irrefl _)

end Measures

end CostGate.Number.Double
