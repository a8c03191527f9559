import CostGate.Proofs.Gate.Evaluation
import CostGate.Proofs.Number.Value

/-!
# The percentage trigger

The percentage of violations is a quotient that is rounded, and its hundredfold that is rounded
again. So a share that meets the limit exactly need not reach it: that depends on the limit alone,
on whether it comes back when it is divided by hundred and multiplied by it again. Shares off the
limit by more than one part in two to the fifty-first are told apart rightly.
-/
namespace CostGate

open Number

namespace Number.Double

/-- The measure of a number of units that is rounded to a double, and times hundred again. -/
def hundredfold (x : ℚ) : ℕ := toDouble (100 * toDouble x)

theorem hundredfold_mono : Monotone hundredfold := by
  intro x y h
  refine toDouble_mono (mul_le_mul_of_nonneg_left ?_ (by norm_num))
  exact_mod_cast toDouble_mono h

@[simp] theorem hundredfold_zero : hundredfold 0 = 0 := by simp [hundredfold]

theorem toDouble_le_unitsPerOne {x : ℚ} (h : x ≤ unitsPerOne) : toDouble x ≤ unitsPerOne := by
  have hone := toDouble_mul_unitsPerOne (n := 1) (by decide)
  rw [Nat.cast_one, one_mul, one_mul] at hone
  exact hone ▸ toDouble_mono h

theorem measures_hundred : Measures 100.0 (100 * unitsPerOne) := by
  have hhundred : (100.0 : Float) = Float.ofNat 100 := by decide
  rw [hhundred]
  exact measures_natCast (by decide)

theorem hundred_lt_infinite : 100 * unitsPerOne < infinite :=
  whole_lt_infinite (by decide)

theorem Measures.mul_hundred {x : Float} {y : ℚ} (hx : Measures x (toDouble y))
    (hy : y ≤ unitsPerOne) : Measures (x * 100.0) (hundredfold y) := by
  have hone : (unitsPerOne : ℚ) ≠ 0 := cast_unitsPerOne_pos.ne'
  have hlt : toDouble y < infinite := (toDouble_le_unitsPerOne hy).trans_lt unitsPerOne_lt_infinite
  have h := hx.mul measures_hundred hlt hundred_lt_infinite
  have hunits : (toDouble y : ℚ) * ((100 * unitsPerOne : ℕ) : ℚ) / unitsPerOne =
      100 * toDouble y := by
    push_cast
    rw [mul_comm, mul_right_comm, mul_div_cancel_right₀ _ hone]
  rwa [hunits] at h

theorem Measures.div_hundred_mul_hundred {x : Float} {k : ℕ} (hx : Measures x k)
    (hk : k ≤ 100 * unitsPerOne) : Measures (x / 100.0 * 100.0) (hundredfold (k / 100)) := by
  have hone : (unitsPerOne : ℚ) ≠ 0 := cast_unitsPerOne_pos.ne'
  have hpos : 0 < 100 * unitsPerOne := Nat.mul_pos (by decide) unitsPerOne_pos
  have h := hx.div measures_hundred (hk.trans_lt hundred_lt_infinite) hpos hundred_lt_infinite
  have hunits : (k : ℚ) * unitsPerOne / ((100 * unitsPerOne : ℕ) : ℚ) = k / 100 := by
    push_cast
    rw [mul_div_mul_right _ _ hone]
  rw [hunits] at h
  refine h.mul_hundred ?_
  rw [div_le_iff₀ (by norm_num), mul_comm]
  exact_mod_cast hk

def shareUnits (part whole : ℕ) : ℚ := part / whole * unitsPerOne

section Share

variable {part whole : ℕ}

theorem shareUnits_le (hle : part ≤ whole) (hpos : 0 < whole) :
    shareUnits part whole ≤ unitsPerOne := by
  have hwhole : (0 : ℚ) < whole := by exact_mod_cast hpos
  refine mul_le_of_le_one_left (Nat.cast_nonneg _) ((div_le_one hwhole).2 ?_)
  exact_mod_cast hle

/-- A share of a machine-sized whole is nothing, or not tiny. -/
theorem shareUnits_eq_zero_or (part : ℕ) (hpos : 0 < whole) (hlt : whole < 2 ^ 53) :
    shareUnits part whole = 0 ∨ 2 ^ 52 ≤ shareUnits part whole := by
  rcases part.eq_zero_or_pos with rfl | hpart
  · left
    rw [shareUnits, Nat.cast_zero, zero_div, zero_mul]
  · right
    have hone : (2 : ℚ) ^ 105 ≤ unitsPerOne := by
      rw [cast_unitsPerOne, ← zpow_natCast]
      exact zpow_le_zpow_right₀ (by norm_num) (by norm_num)
    have hwhole : (0 : ℚ) < whole := by exact_mod_cast hpos
    have hle : (whole : ℚ) ≤ 2 ^ 53 := by exact_mod_cast hlt.le
    have hge : (1 : ℚ) ≤ part := by exact_mod_cast hpart
    rw [shareUnits, div_mul_eq_mul_div, le_div_iff₀ hwhole]
    calc
      (2 : ℚ) ^ 52 * whole ≤ 2 ^ 52 * 2 ^ 53 := by gcongr
      _ = 2 ^ 105 := by norm_num
      _ ≤ unitsPerOne := hone
      _ ≤ part * unitsPerOne := le_mul_of_one_le_left (Nat.cast_nonneg _) hge

theorem measures_percentage (hle : part ≤ whole) (hpos : 0 < whole) (hlt : whole < 2 ^ 53) :
    Measures (percentage part whole) (hundredfold (shareUnits part whole)) := by
  have hone : (unitsPerOne : ℚ) ≠ 0 := cast_unitsPerOne_pos.ne'
  have hpart : part < 2 ^ 53 := hle.trans_lt hlt
  have h := (measures_natCast hpart).div (measures_natCast hlt) (whole_lt_infinite hpart)
    (Nat.mul_pos hpos unitsPerOne_pos) (whole_lt_infinite hlt)
  have hunits : ((part * unitsPerOne : ℕ) : ℚ) * unitsPerOne / ((whole * unitsPerOne : ℕ) : ℚ) =
      shareUnits part whole := by
    push_cast
    rw [shareUnits, mul_div_mul_right _ _ hone, mul_div_right_comm]
  rw [hunits] at h
  rw [percentage, if_neg hpos.ne']
  exact h.mul_hundred (shareUnits_le hle hpos)

end Share

section Error

variable {x : ℚ} {part whole k : ℕ}

theorem le_toDouble_share (h : 2 ^ 52 ≤ x) (hx : x ≤ unitsPerOne) :
    x * (1 - 1 / 2 ^ 53) ≤ toDouble x :=
  le_toDouble h (n := 1) (by decide) (by simpa using hx)

theorem two_pow_le_hundred_mul (h : 2 ^ 52 ≤ x) (hx : x ≤ unitsPerOne) :
    (2 : ℚ) ^ 52 ≤ 100 * toDouble x := by
  have hdown := le_toDouble_share h hx
  linarith

theorem hundredfold_le (h : 2 ^ 52 ≤ x) (hx : x ≤ unitsPerOne) :
    (hundredfold x : ℚ) ≤ 100 * x * (1 + 1 / 2 ^ 51) :=
  calc
    (hundredfold x : ℚ) ≤ 100 * toDouble x * (1 + 1 / 2 ^ 53) :=
      toDouble_le (two_pow_le_hundred_mul h hx)
    _ ≤ 100 * (x * (1 + 1 / 2 ^ 53)) * (1 + 1 / 2 ^ 53) := by
      gcongr
      exact toDouble_le h
    _ ≤ 100 * x * (1 + 1 / 2 ^ 51) := by
      linarith

theorem le_hundredfold (h : 2 ^ 52 ≤ x) (hx : x ≤ unitsPerOne) :
    100 * x * (1 - 1 / 2 ^ 52) ≤ (hundredfold x : ℚ) := by
  have hsmall : (100 : ℚ) * toDouble x ≤ (100 : ℕ) * unitsPerOne := by
    exact_mod_cast Nat.mul_le_mul_left 100 (toDouble_le_unitsPerOne hx)
  calc
    100 * x * (1 - 1 / 2 ^ 52) ≤ 100 * (x * (1 - 1 / 2 ^ 53)) * (1 - 1 / 2 ^ 53) := by
      linarith
    _ ≤ 100 * (toDouble x : ℚ) * (1 - 1 / 2 ^ 53) := by
      gcongr
      exact le_toDouble_share h hx
    _ ≤ (hundredfold x : ℚ) := le_toDouble (two_pow_le_hundred_mul h hx) (by decide) hsmall

theorem le_share_of_le_hundredfold (hle : part ≤ whole) (hpos : 0 < whole) (hlt : whole < 2 ^ 53)
    (hk : k ≤ hundredfold (shareUnits part whole)) :
    k * (1 - 1 / 2 ^ 51) ≤ 100 * shareUnits part whole := by
  have hx := shareUnits_le hle hpos
  rcases shareUnits_eq_zero_or part hpos hlt with hzero | hlarge
  · rw [hzero, hundredfold_zero, Nat.le_zero] at hk
    rw [hzero, hk, Nat.cast_zero, zero_mul, mul_zero]
  · have hk' : (k : ℚ) ≤ hundredfold (shareUnits part whole) := by exact_mod_cast hk
    have hup := hundredfold_le hlarge hx
    linarith

theorem le_hundredfold_of_le_share (hle : part ≤ whole) (hpos : 0 < whole) (hlt : whole < 2 ^ 53)
    (hk : k * (1 + 1 / 2 ^ 51) ≤ 100 * shareUnits part whole) :
    k ≤ hundredfold (shareUnits part whole) := by
  have hx := shareUnits_le hle hpos
  have hcast : (0 : ℚ) ≤ k := Nat.cast_nonneg k
  rcases shareUnits_eq_zero_or part hpos hlt with hzero | hlarge
  · have hk' : (k : ℚ) ≤ 0 := by
      rw [hzero] at hk
      linarith
    rw [Nat.cast_nonpos.1 hk']
    exact Nat.zero_le _
  · have hdown := le_hundredfold hlarge hx
    have hk' : (k : ℚ) ≤ hundredfold (shareUnits part whole) := by linarith
    exact_mod_cast hk'

end Error

end Number.Double

open Number.Double

/-- How a computed percentage compares with a limit, and how the exact share does. Right at the
limit it depends on whether the limit comes back from a division by hundred. If it does, no share
that reaches the limit is missed; if it does not, only shares beyond the limit are found to reach
it. Far enough from the limit both comparisons agree. -/
structure ComparesNearly (limit : Float) (part whole : ℕ) : Prop where
  at_limit : exactValue limit * whole = 100 * part →
    (limit ≤ percentage part whole ↔ limit ≤ limit / 100.0 * 100.0)
  reached : limit ≤ limit / 100.0 * 100.0 → exactValue limit * whole ≤ 100 * part →
    limit ≤ percentage part whole
  exceeded : limit / 100.0 * 100.0 < limit → limit ≤ percentage part whole →
    exactValue limit * whole < 100 * part
  above : exactValue limit * whole * (1 + 1 / 2 ^ 51) ≤ 100 * part →
    limit ≤ percentage part whole
  below : limit ≤ percentage part whole →
    exactValue limit * whole * (1 - 1 / 2 ^ 51) ≤ 100 * part

theorem comparesNearly {limit : Float} {part whole : ℕ} (hzero : 0.0 < limit)
    (hhundred : limit ≤ 100.0) (hle : part ≤ whole) (hpos : 0 < whole) (hlt : whole < 2 ^ 53) :
    ComparesNearly limit part whole := by
  obtain ⟨k, hk, -⟩ := zero_lt_iff.1 hzero
  have hsmall : k ≤ 100 * unitsPerOne := (hk.le_iff measures_hundred).1 hhundred
  have hback := hk.div_hundred_mul_hundred hsmall
  have hreach := hk.le_iff (measures_percentage hle hpos hlt)
  have hwhole : (0 : ℚ) < whole := by exact_mod_cast hpos
  have hone : (0 : ℚ) < unitsPerOne := cast_unitsPerOne_pos
  have hscale : (0 : ℚ) < whole / unitsPerOne := div_pos hwhole hone
  have hlimit : exactValue limit * whole = k * (whole / unitsPerOne) := by
    rw [hk.exactValue_eq (hsmall.trans_lt hundred_lt_infinite), div_mul_eq_mul_div, mul_div_assoc]
  have hpart : (100 * part : ℚ) = 100 * shareUnits part whole * (whole / unitsPerOne) := by
    rw [shareUnits]
    field_simp
  constructor
  case at_limit =>
    intro hexact
    rw [hlimit, hpart] at hexact
    have hunits : (k : ℚ) = 100 * shareUnits part whole := mul_right_cancel₀ hscale.ne' hexact
    rw [hreach, hk.le_iff hback, hunits, mul_div_cancel_left₀ _ (by norm_num)]
  case reached =>
    intro hreturns hexact
    rw [hlimit, hpart, mul_le_mul_iff_left₀ hscale, ← div_le_iff₀' (by norm_num)] at hexact
    exact hreach.2 (((hk.le_iff hback).1 hreturns).trans (hundredfold_mono hexact))
  case exceeded =>
    intro hlost hreached
    rw [hlimit, hpart, mul_lt_mul_iff_left₀ hscale, ← div_lt_iff₀' (by norm_num)]
    by_contra hexact
    have hmono := hundredfold_mono (not_lt.1 hexact)
    exact ((hback.lt_iff hk).1 hlost).not_ge ((hreach.1 hreached).trans hmono)
  case above =>
    intro hexact
    rw [hlimit, hpart, mul_right_comm, mul_le_mul_iff_left₀ hscale] at hexact
    exact hreach.2 (le_hundredfold_of_le_share hle hpos hlt hexact)
  case below =>
    intro hreached
    rw [hlimit, hpart, mul_right_comm, mul_le_mul_iff_left₀ hscale]
    exact le_share_of_le_hundredfold hle hpos hlt (hreach.1 hreached)

variable {limits : Limits Float} {as : List (Assessment Float)} {vs : List (Violation Float)}
  {filesScanned : ℕ}

/-- Emergency action is required for enough severe violations, or when the percentage of the
components that are violations reaches the limit on it, up to the rounding. -/
theorem summarize_emergencyAction (hzero : 0.0 < limits.emergencyPercentage)
    (hhundred : limits.emergencyPercentage ≤ 100.0) (hpos : 0 < as.length)
    (hlt : as.length < 2 ^ 53) (hle : vs.length ≤ as.length) :
    ((limits.summarize as vs filesScanned).emergencyAction = true ↔
        limits.emergencyCount ≤ countSeverity .critical vs + countSeverity .emergency vs ∨
          limits.emergencyPercentage ≤ percentage vs.length as.length) ∧
      ComparesNearly limits.emergencyPercentage vs.length as.length := by
  refine ⟨?_, comparesNearly hzero hhundred hle hpos hlt⟩
  change (decide _ || decide _) = true ↔ _
  rw [Bool.or_eq_true, decide_eq_true_iff, decide_eq_true_iff]

/-- A limit of 58 percent that 29 violations among 50 components meet, and do not reach. -/
theorem summarize_emergencyAction_missed :
    let limits : Limits Float := ⟨0.5, 1.5, 2.0, 5, 58.0⟩
    let as : List (Assessment Float) :=
      .replicate 29 ⟨"", 1.2, .governance, .warning⟩ ++
        .replicate 21 ⟨"", 0.1, .autonomous, .autonomous⟩
    let vs : List (Violation Float) := .replicate 29 ⟨"", 1.2, 1.0, .warning, 1.2⟩
    0.0 < limits.emergencyPercentage ∧ limits.emergencyPercentage ≤ 100.0 ∧
      0 < as.length ∧ as.length < 2 ^ 53 ∧ vs.length ≤ as.length ∧
        exactValue limits.emergencyPercentage * as.length = 100 * vs.length ∧
          (limits.summarize as vs 50).emergencyAction = false := by
  intro limits as vs
  have hzero : 0.0 < limits.emergencyPercentage := by decide
  have hhundred : limits.emergencyPercentage ≤ 100.0 := by decide
  have hpos : 0 < as.length := by decide
  have hlt : as.length < 2 ^ 53 := by decide
  have hle : vs.length ≤ as.length := by decide
  have hlimit : limits.emergencyPercentage = Float.ofNat 58 := by decide
  have hexact : exactValue limits.emergencyPercentage * as.length = 100 * vs.length := by
    rw [hlimit, exactValue_ofNat (by decide)]
    norm_num [as, vs]
  obtain ⟨hiff, hnear⟩ := summarize_emergencyAction hzero hhundred hpos hlt hle
  have hlost : ¬ limits.emergencyPercentage ≤ limits.emergencyPercentage / 100.0 * 100.0 := by
    decide +kernel
  refine ⟨hzero, hhundred, hpos, hlt, hle, hexact, Bool.eq_false_iff.2 fun h => ?_⟩
  rcases hiff.1 h with hsevere | hreached
  · exact absurd hsevere (by decide)
  · exact hlost ((hnear.at_limit hexact).1 hreached)

/-- The whole percentages that are lost when they are divided by hundred and multiplied by it. -/
example :
    (List.range 101).filter (fun n => (.ofNat n / 100.0 * 100.0 : Float) < .ofNat n) =
      [29, 57, 58] := by
  decide +kernel

end CostGate
