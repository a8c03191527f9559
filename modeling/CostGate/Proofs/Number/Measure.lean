import CostGate.Number.Quantity
import CostGate.Proofs.Number.Mantissa

/-!
# Measures of doubles

Doubles are compared by the signed measures of their shapes. A double that is not negative has a
natural number for its measure, and a shape that was rounded and packed has the measure it stands
for, or that of infinity if it is too large.
-/
namespace CostGate.Number.Double

open Float.Model (UnpackedFloat Format totalExponent)
open Float.Model.UnpackedFloat

@[irreducible] def shape (x : Float) : UnpackedFloat := x.toModel.unpack

theorem wellFormed_shape (x : Float) : WellFormed (shape x) := by
  unfold shape
  exact wellFormed_unpack _

theorem isNaN_shape (x : Float) : (shape x).isNaN = x.isNaN := by
  unfold shape
  rfl

theorem le_iff_shape {x y : Float} : x ≤ y ↔ (shape x).le (shape y) = true := by
  unfold shape
  exact decide_eq_true_iff

theorem lt_iff_shape {x y : Float} : x < y ↔ (shape x).lt (shape y) = true := by
  unfold shape
  exact decide_eq_true_iff

theorem compare_shape_eq (x y : Float) :
    (shape x).compare (shape y) =
      if x.isNaN = false ∧ y.isNaN = false then
        some (compare (shapeUnits (shape x)) (shapeUnits (shape y)))
      else none := by
  split_ifs with h
  · exact compare_shape (wellFormed_shape x) (wellFormed_shape y) ((isNaN_shape x).trans h.1)
      ((isNaN_shape y).trans h.2)
  · rw [← isNaN_shape, ← isNaN_shape] at h
    generalize shape x = u at h
    generalize shape y = v at h
    cases u <;> cases v <;> simp_all [UnpackedFloat.isNaN, UnpackedFloat.compare]

theorem le_iff {x y : Float} :
    x ≤ y ↔ x.isNaN = false ∧ y.isNaN = false ∧ shapeUnits (shape x) ≤ shapeUnits (shape y) := by
  rw [le_iff_shape, UnpackedFloat.le, compare_shape_eq]
  split_ifs with h
  · rw [Option.any_some, Ordering.isLE_iff_ne_gt, compare_gt_iff_gt, not_lt]
    exact ⟨fun h' => ⟨h.1, h.2, h'⟩, fun h' => h'.2.2⟩
  · simp only [Option.any_none, Bool.false_eq_true, false_iff]
    exact fun h' => h ⟨h'.1, h'.2.1⟩

theorem lt_iff {x y : Float} :
    x < y ↔ x.isNaN = false ∧ y.isNaN = false ∧ shapeUnits (shape x) < shapeUnits (shape y) := by
  rw [lt_iff_shape, UnpackedFloat.lt, compare_shape_eq]
  split_ifs with h
  · rw [beq_iff_eq, Option.some_inj, compare_lt_iff_lt]
    exact ⟨fun h' => ⟨h.1, h.2, h'⟩, fun h' => h'.2.2⟩
  · simp only [Option.none_beq_some, Bool.false_eq_true, false_iff]
    exact fun h' => h ⟨h'.1, h'.2.1⟩

theorem lt_iff_le_not_le {x y : Float} : x < y ↔ x ≤ y ∧ ¬ y ≤ x := by
  rw [lt_iff, le_iff, le_iff]
  constructor
  · rintro ⟨hx, hy, hlt⟩
    exact ⟨⟨hx, hy, hlt.le⟩, fun h => hlt.not_ge h.2.2⟩
  · rintro ⟨⟨hx, hy, -⟩, hnot⟩
    exact ⟨hx, hy, not_le.1 fun hle => hnot ⟨hy, hx, hle⟩⟩

theorem le_or_le {x y : Float} (hx : x.isNaN = false) (hy : y.isNaN = false) :
    x ≤ y ∨ y ≤ x := by
  rw [le_iff, le_iff]
  exact (le_total _ _).imp (fun h => ⟨hx, hy, h⟩) (fun h => ⟨hy, hx, h⟩)

theorem le_trans {x y z : Float} (hxy : x ≤ y) (hyz : y ≤ z) : x ≤ z := by
  rw [le_iff] at *
  exact ⟨hxy.1, hyz.2.1, hxy.2.2.trans hyz.2.2⟩

/-- The shapes of doubles that are not negative, and their measures. -/
inductive HasUnits : UnpackedFloat → ℕ → Prop
  | zero (s : Sign) : HasUnits (.zero s) 0
  | finite {m : ℕ} {e : ℤ} (h : 0 < m) (hc : Canonical m e) (he : e ≤ 971) :
    HasUnits (.finite .positive m e h) (unitsOf m e)
  | infinity : HasUnits (.infinity .positive) infinite

theorem HasUnits.toDouble_eq {u : UnpackedFloat} {n : ℕ} (h : HasUnits u n) : toDouble n = n := by
  cases h with
  | zero => simp
  | finite _ hc he =>
    rw [toDouble, hc.toGrid_unitsOf]
    exact min_eq_left (hc.unitsOf_lt_infinite he).le
  | infinity => exact toDouble_infinite

theorem HasUnits.le_infinite {u : UnpackedFloat} {n : ℕ} (h : HasUnits u n) : n ≤ infinite := by
  rw [← h.toDouble_eq]
  exact toDouble_le_infinite _

theorem HasUnits.eq_infinity {u : UnpackedFloat} (h : HasUnits u infinite) :
    u = .infinity .positive := by
  generalize hn : infinite = n at h
  cases h with
  | zero => exact absurd hn infinite_pos.ne'
  | finite _ hc he => exact absurd hn (hc.unitsOf_lt_infinite he).ne'
  | infinity => rfl

/-- A double that is not negative, and its measure. -/
def Measures (x : Float) (n : ℕ) : Prop := HasUnits (shape x) n

theorem measures_iff {x : Float} {n : ℕ} :
    Measures x n ↔ x.isNaN = false ∧ shapeUnits (shape x) = n := by
  have hinf := infinite_pos
  have hwf := wellFormed_shape x
  rw [Measures, ← isNaN_shape]
  generalize shape x = u at hwf
  constructor
  · intro h
    cases h <;> exact ⟨rfl, rfl⟩
  · rintro ⟨hnan, hunits⟩
    cases u with
    | notANumber => simp [UnpackedFloat.isNaN] at hnan
    | zero s =>
      obtain rfl : n = 0 := by simpa [shapeUnits] using hunits.symm
      exact .zero s
    | infinity s =>
      cases s with
      | negative =>
        simp only [shapeUnits, Sign.apply] at hunits
        omega
      | positive =>
        obtain rfl : infinite = n := by simpa [shapeUnits, Sign.apply] using hunits
        exact .infinity
    | finite s m e hm =>
      cases s with
      | negative =>
        have := unitsOf_pos hm e
        simp only [shapeUnits, Sign.apply] at hunits
        omega
      | positive =>
        obtain rfl : unitsOf m e = n := by simpa [shapeUnits, Sign.apply] using hunits
        exact .finite hm hwf.1 hwf.2

namespace Measures

variable {x y : Float} {n k : ℕ}

theorem le_iff (hx : Measures x n) (hy : Measures y k) : x ≤ y ↔ n ≤ k := by
  rw [measures_iff] at hx hy
  rw [Double.le_iff, hx.2, hy.2]
  simp only [hx.1, hy.1, true_and, Int.ofNat_le]

theorem lt_iff (hx : Measures x n) (hy : Measures y k) : x < y ↔ n < k := by
  rw [measures_iff] at hx hy
  rw [Double.lt_iff, hx.2, hy.2]
  simp only [hx.1, hy.1, true_and, Int.ofNat_lt]

theorem of_le (hx : Measures x n) (h : x ≤ y) : ∃ k, n ≤ k ∧ Measures y k := by
  rw [measures_iff] at hx
  rw [Double.le_iff, hx.2] at h
  obtain ⟨k, hk⟩ := Int.eq_ofNat_of_zero_le ((Int.natCast_nonneg n).trans h.2.2)
  exact ⟨k, by omega, measures_iff.2 ⟨h.2.1, hk⟩⟩

end Measures

theorem shape_ofModel_pack {u : UnpackedFloat} {s : Sign} {n : ℕ} (h : Stands s n u) :
    shape (.ofModel (.pack u)) = overflow u := by
  obtain ⟨m, e, hc, -, rfl⟩ := h
  unfold shape
  apply unpack_pack
  unfold signed
  split_ifs with hm
  · simp
  · rintro _ _ _ _ heq
    cases heq
    exact hc

theorem measures_of_hasUnits {u : UnpackedFloat} {n : ℕ} (h : HasUnits u n) :
    Measures (.ofModel (.pack u)) n := by
  have hshape : shape (.ofModel (.pack u)) = overflow u := by
    unfold shape
    apply unpack_pack
    rintro s m e hm rfl
    cases h
    assumption
  rw [Measures, hshape]
  cases h with
  | zero s => exact .zero s
  | finite hm hc he =>
    rw [overflow, if_pos he]
    exact .finite hm hc he
  | infinity => exact .infinity

theorem measures_of_stands {u : UnpackedFloat} {n : ℕ} (h : Stands .positive n u) :
    Measures (.ofModel (.pack u)) (min n infinite) := by
  rw [Measures, shape_ofModel_pack h]
  obtain ⟨m, e, hc, rfl, rfl⟩ := h
  unfold signed
  split_ifs with hm
  · subst hm
    simpa [unitsOf, overflow] using HasUnits.zero .positive
  · rw [overflow]
    split_ifs with he
    · rw [min_eq_left (hc.unitsOf_lt_infinite he).le]
      exact .finite _ hc he
    · rw [min_eq_right (hc.infinite_le_unitsOf (not_le.1 he))]
      exact .infinity

end CostGate.Number.Double
