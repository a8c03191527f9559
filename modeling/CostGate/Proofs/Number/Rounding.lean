import CostGate.Number.Binary
import Mathlib

/-!
# Rounding to integers and to binary digits

A double that is not negative is a whole number of least positive doubles, so rounding to doubles
is a function from rationals to naturals. It keeps fifty-three binary digits in front, is monotone,
and leaves every double where it is.
-/
namespace CostGate.Number

/-- The natural number nearest to a rational; what is negative goes to zero. -/
def nearestNat (tie : Tie) (x : ℚ) : ℕ :=
  let whole := ⌊x⌋₊
  if 2 * (x - whole) < 1 then whole
  else if 1 < 2 * (x - whole) then whole + 1
  else match tie with
    | .toEven => whole + whole % 2
    | .awayFromZero => whole + 1

theorem floor_le_nearestNat (tie : Tie) (x : ℚ) : ⌊x⌋₊ ≤ nearestNat tie x := by
  unfold nearestNat
  cases tie <;> dsimp only <;> split_ifs <;> omega

theorem nearestNat_le_floor_succ (tie : Tie) (x : ℚ) : nearestNat tie x ≤ ⌊x⌋₊ + 1 := by
  unfold nearestNat
  cases tie <;> dsimp only <;> split_ifs <;> omega

theorem nearestNat_mono (tie : Tie) : Monotone (nearestNat tie) := by
  intro x y h
  rcases (Nat.floor_mono h).lt_or_eq with hlt | heq
  · exact calc
      nearestNat tie x ≤ ⌊x⌋₊ + 1 := nearestNat_le_floor_succ tie x
      _ ≤ ⌊y⌋₊ := hlt
      _ ≤ nearestNat tie y := floor_le_nearestNat tie y
  · unfold nearestNat
    rw [heq]
    cases tie <;> dsimp only <;> split_ifs <;> first | omega | linarith

@[simp] theorem nearestNat_natCast (tie : Tie) (n : ℕ) : nearestNat tie n = n := by
  simp [nearestNat]

/-- What a division with remainder leaves of the quotient. -/
theorem quotient_sub_div (num : ℕ) {den : ℕ} (h : 0 < den) :
    (num / den : ℚ) - (num / den : ℕ) = (num % den : ℕ) / den := by
  have hq : (den : ℚ) ≠ 0 := by exact_mod_cast h.ne'
  have hsplit : (num : ℚ) = den * (num / den : ℕ) + (num % den : ℕ) := by
    exact_mod_cast (Nat.div_add_mod num den).symm
  rw [eq_div_iff hq, sub_mul, div_mul_cancel₀ _ hq]
  linarith

theorem roundQuotient_eq_nearestNat (tie : Tie) (num : ℕ) {den : ℕ} (h : 0 < den) :
    roundQuotient tie num den = nearestNat tie (num / den) := by
  have hq : (0 : ℚ) < den := by exact_mod_cast h
  have hfloor : ⌊(num / den : ℚ)⌋₊ = num / den := Nat.floor_div_eq_div num den
  have hrest := quotient_sub_div num h
  have hlt : 2 * ((num % den : ℕ) / den : ℚ) < 1 ↔ 2 * (num % den) < den := by
    rw [← mul_div_assoc, div_lt_one hq]
    exact_mod_cast Iff.rfl
  have hgt : 1 < 2 * ((num % den : ℕ) / den : ℚ) ↔ den < 2 * (num % den) := by
    rw [← mul_div_assoc, one_lt_div hq]
    exact_mod_cast Iff.rfl
  unfold roundQuotient nearestNat
  simp only [hfloor, hrest, hlt, hgt]
  cases tie with
  | toEven =>
    dsimp only
    split_ifs <;> omega
  | awayFromZero => rfl

/-- How many binary digits of a number of units lie behind the leading fifty-three. -/
def droppedBits (x : ℚ) : ℕ := Nat.log2 ⌊x⌋₊ - 52

theorem droppedBits_mono : Monotone droppedBits := by
  intro x y h
  have hlog : Nat.log2 ⌊x⌋₊ ≤ Nat.log2 ⌊y⌋₊ := by
    rw [Nat.log2_eq_log_two, Nat.log2_eq_log_two]
    exact Nat.log_mono_right (Nat.floor_mono h)
  unfold droppedBits
  omega

theorem lt_of_droppedBits (x : ℚ) : x < 2 ^ (53 + droppedBits x) := by
  have hlog : ⌊x⌋₊ + 1 ≤ 2 ^ (Nat.log2 ⌊x⌋₊ + 1) := Nat.lt_log2_self
  have hexp : Nat.log2 ⌊x⌋₊ + 1 ≤ 53 + droppedBits x := by unfold droppedBits; omega
  have hnat : ⌊x⌋₊ + 1 ≤ 2 ^ (53 + droppedBits x) :=
    hlog.trans (Nat.pow_le_pow_right (by decide) hexp)
  calc
    x < ⌊x⌋₊ + 1 := Nat.lt_floor_add_one x
    _ ≤ 2 ^ (53 + droppedBits x) := by exact_mod_cast hnat

theorem le_of_droppedBits {x : ℚ} (h : droppedBits x ≠ 0) : 2 ^ (52 + droppedBits x) ≤ x := by
  have hexp : Nat.log2 ⌊x⌋₊ = 52 + droppedBits x := by unfold droppedBits at *; omega
  have hne : ⌊x⌋₊ ≠ 0 := by intro h0; simp [droppedBits, h0] at h
  have hlog : 2 ^ (52 + droppedBits x) ≤ ⌊x⌋₊ := hexp ▸ Nat.log2_self_le hne
  have hx : 0 ≤ x := by
    by_contra hneg
    exact hne (Nat.floor_of_nonpos (not_le.1 hneg).le)
  calc
    (2 : ℚ) ^ (52 + droppedBits x) ≤ ⌊x⌋₊ := by exact_mod_cast hlog
    _ ≤ x := Nat.floor_le hx

theorem droppedBits_eq {x : ℚ} {k : ℕ} (hlt : x < 2 ^ (53 + k)) (hle : k = 0 ∨ 2 ^ (52 + k) ≤ x) :
    droppedBits x = k := by
  apply le_antisymm
  · by_contra hk
    have h := (le_of_droppedBits (by omega : droppedBits x ≠ 0)).trans_lt hlt
    have := (pow_lt_pow_iff_right₀ (by norm_num : (1 : ℚ) < 2)).1 h
    omega
  · rcases hle with rfl | hle
    · exact Nat.zero_le _
    · have := (pow_lt_pow_iff_right₀ (by norm_num : (1 : ℚ) < 2)).1
        (hle.trans_lt (lt_of_droppedBits x))
      omega

def toGrid (x : ℚ) : ℕ := nearestNat .toEven (x / 2 ^ droppedBits x) * 2 ^ droppedBits x

theorem toGrid_eq {x : ℚ} {k : ℕ} (hlt : x < 2 ^ (53 + k)) (hle : k = 0 ∨ 2 ^ (52 + k) ≤ x) :
    toGrid x = nearestNat .toEven (x / 2 ^ k) * 2 ^ k := by
  rw [toGrid, droppedBits_eq hlt hle]

/-- The leading digits of a rounded number are at most one with fifty-three zeros. -/
theorem nearestNat_le_of_lt {x : ℚ} {k : ℕ} (h : x < 2 ^ (53 + k)) :
    nearestNat .toEven (x / 2 ^ k) ≤ 2 ^ 53 := by
  have hle : x / 2 ^ k ≤ ((2 ^ 53 : ℕ) : ℚ) := by
    rw [div_le_iff₀ (by positivity)]
    calc
      x ≤ 2 ^ (53 + k) := h.le
      _ = ((2 ^ 53 : ℕ) : ℚ) * 2 ^ k := by rw [pow_add, Nat.cast_pow, Nat.cast_ofNat]
  exact (nearestNat_mono .toEven hle).trans_eq (nearestNat_natCast _ _)

theorem le_nearestNat_of_le {x : ℚ} {k : ℕ} (h : 2 ^ (52 + k) ≤ x) :
    2 ^ 52 ≤ nearestNat .toEven (x / 2 ^ k) := by
  have hle : ((2 ^ 52 : ℕ) : ℚ) ≤ x / 2 ^ k := by
    rw [le_div_iff₀ (by positivity)]
    calc
      ((2 ^ 52 : ℕ) : ℚ) * 2 ^ k = 2 ^ (52 + k) := by rw [pow_add, Nat.cast_pow, Nat.cast_ofNat]
      _ ≤ x := h
  exact (nearestNat_natCast _ _).symm.trans_le (nearestNat_mono .toEven hle)

theorem toGrid_mono : Monotone toGrid := by
  intro x y h
  rcases (droppedBits_mono h).lt_or_eq with hlt | heq
  -- a power of two lies between the two, and both sides round towards it at most
  · have hx := nearestNat_le_of_lt (lt_of_droppedBits x)
    have hy := le_nearestNat_of_le (le_of_droppedBits (by omega : droppedBits y ≠ 0))
    calc
      toGrid x ≤ 2 ^ 53 * 2 ^ droppedBits x := Nat.mul_le_mul_right _ hx
      _ = 2 ^ (53 + droppedBits x) := (pow_add ..).symm
      _ ≤ 2 ^ (52 + droppedBits y) := Nat.pow_le_pow_right (by decide) (by omega)
      _ = 2 ^ 52 * 2 ^ droppedBits y := pow_add ..
      _ ≤ toGrid y := Nat.mul_le_mul_right _ hy
  · unfold toGrid
    rw [heq]
    apply Nat.mul_le_mul_right
    exact nearestNat_mono .toEven (div_le_div_of_nonneg_right h (by positivity))

/-- Fifty-three digits followed by zeros need no rounding. -/
theorem toGrid_mul_pow {m : ℕ} (hm : m < 2 ^ 53) (k : ℕ) : toGrid (m * 2 ^ k) = m * 2 ^ k := by
  have hfloor : ⌊(m * 2 ^ k : ℚ)⌋₊ = m * 2 ^ k := by exact_mod_cast Nat.floor_natCast (m * 2 ^ k)
  obtain ⟨d, hd⟩ : ∃ d, k = droppedBits (m * 2 ^ k) + d := by
    apply Nat.exists_eq_add_of_le
    rw [droppedBits, hfloor]
    rcases Nat.eq_zero_or_pos m with rfl | hpos
    · simp
    · have hlt : m * 2 ^ k < 2 ^ (53 + k) := by
        rw [pow_add]
        exact Nat.mul_lt_mul_of_pos_right hm (by positivity)
      have := (Nat.log2_lt (by positivity)).2 hlt
      omega
  have hquot : (m * 2 ^ k : ℚ) / 2 ^ droppedBits (m * 2 ^ k) = ((m * 2 ^ d : ℕ) : ℚ) := by
    rw [div_eq_iff (by positivity)]
    conv_lhs => rw [hd]
    push_cast
    ring
  rw [toGrid, hquot, nearestNat_natCast]
  conv_rhs => rw [hd]
  ring

@[simp] theorem toGrid_zero : toGrid 0 = 0 := by
  simpa using toGrid_mul_pow (m := 0) (by decide) 0

end CostGate.Number
