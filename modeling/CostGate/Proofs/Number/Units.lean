import CostGate.Proofs.Number.Rounding

/-!
# Doubles by their units

A double that is not negative is measured in *units* of the least positive double. Infinity is
measured as well: it stands where the double after the largest one would stand. A double unpacks
to a *shape*: a sign with a mantissa and an exponent, a zero, an infinity, or no number. Shapes of
doubles have canonical mantissas, so their signed measures are in the order of the doubles.
-/
namespace CostGate.Number.Double

open Float.Model (UnpackedFloat Format)
open Float.Model.UnpackedFloat

/-- A mantissa with fifty-three digits, or with fewer at the least exponent. -/
structure Canonical (m : ℕ) (e : ℤ) : Prop where
  lt : m < 2 ^ 53
  le : -1074 ≤ e
  full : 2 ^ 52 ≤ m ∨ e = -1074

/-- The measure of a mantissa at an exponent. -/
def unitsOf (m : ℕ) (e : ℤ) : ℕ := m * 2 ^ (e + 1074).toNat

@[irreducible] def infinite : ℕ := unitsOf (2 ^ 52) 972

theorem canonical_infinite : Canonical (2 ^ 52) 972 := ⟨by decide, by decide, .inl le_rfl⟩

theorem unitsOf_pos {m : ℕ} (h : 0 < m) (e : ℤ) : 0 < unitsOf m e :=
  Nat.mul_pos h (Nat.two_pow_pos _)

theorem infinite_pos : 0 < infinite := by
  unfold infinite
  exact unitsOf_pos (by decide) _

namespace Canonical

variable {m n : ℕ} {e f : ℤ}

theorem unitsOf_lt_of_lt (hm : Canonical m e) (hn : Canonical n f) (h : e < f) :
    unitsOf m e < unitsOf n f := by
  have hfull : 2 ^ 52 ≤ n := hn.full.resolve_right (by have := hm.le; omega)
  have hexp : 53 + (e + 1074).toNat ≤ 52 + (f + 1074).toNat := by have := hm.le; omega
  calc
    unitsOf m e < 2 ^ 53 * 2 ^ (e + 1074).toNat :=
      Nat.mul_lt_mul_of_pos_right hm.lt (Nat.two_pow_pos _)
    _ = 2 ^ (53 + (e + 1074).toNat) := (pow_add ..).symm
    _ ≤ 2 ^ (52 + (f + 1074).toNat) := Nat.pow_le_pow_right (by decide) hexp
    _ = 2 ^ 52 * 2 ^ (f + 1074).toNat := pow_add ..
    _ ≤ unitsOf n f := Nat.mul_le_mul_right _ hfull

theorem unitsOf_lt_infinite (hm : Canonical m e) (he : e ≤ 971) : unitsOf m e < infinite := by
  unfold infinite
  exact hm.unitsOf_lt_of_lt canonical_infinite (by omega)

theorem infinite_le_unitsOf (hm : Canonical m e) (he : 971 < e) : infinite ≤ unitsOf m e := by
  unfold infinite
  rcases (by omega : 972 ≤ e).eq_or_lt with rfl | hlt
  · exact Nat.mul_le_mul_right _ (hm.full.resolve_right (by omega))
  · exact (canonical_infinite.unitsOf_lt_of_lt hm hlt).le

/-- Exponents first, then mantissas: that is the order of the measures. -/
theorem compare_unitsOf (hm : Canonical m e) (hn : Canonical n f) :
    (compare e f).then (compare m n) = compare (unitsOf m e) (unitsOf n f) := by
  rcases lt_trichotomy e f with h | rfl | h
  · rw [compare_lt_iff_lt.2 h, compare_lt_iff_lt.2 (hm.unitsOf_lt_of_lt hn h)]
    rfl
  · have hpos : 0 < 2 ^ (e + 1074).toNat := Nat.two_pow_pos _
    rw [compare_eq_iff_eq.2 rfl]
    unfold unitsOf
    rcases lt_trichotomy m n with h | rfl | h
    · rw [compare_lt_iff_lt.2 h, compare_lt_iff_lt.2 (Nat.mul_lt_mul_of_pos_right h hpos)]
      rfl
    · rw [compare_eq_iff_eq.2 rfl, compare_eq_iff_eq.2 rfl]
      rfl
    · rw [compare_gt_iff_gt.2 h, compare_gt_iff_gt.2 (Nat.mul_lt_mul_of_pos_right h hpos)]
      rfl
  · rw [compare_gt_iff_gt.2 h, compare_gt_iff_gt.2 (hn.unitsOf_lt_of_lt hm h)]
    rfl

theorem toGrid_unitsOf (hm : Canonical m e) : toGrid (unitsOf m e) = unitsOf m e := by
  simpa [unitsOf] using toGrid_mul_pow hm.lt (e + 1074).toNat

end Canonical

/-- The measure of the double that a number of units is rounded to. -/
def toDouble (x : ℚ) : ℕ := min (toGrid x) infinite

theorem toDouble_mono : Monotone toDouble :=
  fun _ _ h => min_le_min_right _ (toGrid_mono h)

theorem toDouble_le_infinite (x : ℚ) : toDouble x ≤ infinite := min_le_right _ _

@[simp] theorem toDouble_infinite : toDouble infinite = infinite := by
  unfold toDouble infinite
  rw [canonical_infinite.toGrid_unitsOf, min_self]

@[simp] theorem toDouble_zero : toDouble 0 = 0 := by simp [toDouble]

def shapeUnits : UnpackedFloat → ℤ
  | .infinity s => s.apply infinite
  | .notANumber => 0
  | .zero _ => 0
  | .finite s m e _ => s.apply (unitsOf m e)

def WellFormed : UnpackedFloat → Prop
  | .finite _ m e _ => Canonical m e ∧ e ≤ 971
  | _ => True

theorem some_eq_some_compare_iff {o : Ordering} {a b : ℤ} :
    some o = some (compare a b) ↔ (o = .lt ∧ a < b) ∨ (o = .eq ∧ a = b) ∨ (o = .gt ∧ b < a) := by
  rcases lt_trichotomy a b with h | rfl | h
  · rw [compare_lt_iff_lt.2 h]
    cases o <;> simp <;> omega
  · rw [compare_eq_iff_eq.2 rfl]
    cases o <;> simp
  · rw [compare_gt_iff_gt.2 h]
    cases o <;> simp <;> omega

theorem compare_natCast (a b : ℕ) : compare (a : ℤ) b = compare a b := by
  rcases lt_trichotomy a b with h | rfl | h
  · rw [compare_lt_iff_lt.2 h, compare_lt_iff_lt.2 (by omega)]
  · rw [compare_eq_iff_eq.2 rfl, compare_eq_iff_eq.2 rfl]
  · rw [compare_gt_iff_gt.2 h, compare_gt_iff_gt.2 (by omega)]

theorem compare_neg_natCast (a b : ℕ) : compare (-a : ℤ) (-b) = (compare a b).swap := by
  rcases lt_trichotomy a b with h | rfl | h
  · rw [compare_lt_iff_lt.2 h, compare_gt_iff_gt.2 (by omega)]
    rfl
  · rw [compare_eq_iff_eq.2 rfl, compare_eq_iff_eq.2 rfl]
    rfl
  · rw [compare_gt_iff_gt.2 h, compare_lt_iff_lt.2 (by omega)]
    rfl

/-- Shapes are compared by their measures. -/
theorem compare_shape {u v : UnpackedFloat} (hu : WellFormed u) (hv : WellFormed v)
    (hu' : u.isNaN = false) (hv' : v.isNaN = false) :
    u.compare v = some (compare (shapeUnits u) (shapeUnits v)) := by
  have hinf := infinite_pos
  have hfin : ∀ {s m e hm}, WellFormed (.finite s m e hm) →
      0 < unitsOf m e ∧ unitsOf m e < infinite :=
    fun {_ _ _ hm} h => ⟨unitsOf_pos hm _, h.1.unitsOf_lt_infinite h.2⟩
  cases u with
  | notANumber => simp [UnpackedFloat.isNaN] at hu'
  | infinity s =>
    cases v with
    | notANumber => simp [UnpackedFloat.isNaN] at hv'
    | infinity t =>
      rw [UnpackedFloat.compare, some_eq_some_compare_iff]
      cases s <;> cases t <;> simp [shapeUnits, Sign.apply, compare] <;> omega
    | zero t =>
      cases s <;> simp only [UnpackedFloat.compare, shapeUnits, Sign.apply] <;>
        exact some_eq_some_compare_iff.2 (by simp; omega)
    | finite t n f hn =>
      have := hfin hv
      cases s <;> cases t <;> simp only [UnpackedFloat.compare, shapeUnits, Sign.apply] <;>
        exact some_eq_some_compare_iff.2 (by simp; omega)
  | zero s =>
    cases v with
    | notANumber => simp [UnpackedFloat.isNaN] at hv'
    | infinity t =>
      cases t <;> simp only [UnpackedFloat.compare, shapeUnits, Sign.apply] <;>
        exact some_eq_some_compare_iff.2 (by simp; omega)
    | zero t => simp [UnpackedFloat.compare, shapeUnits]
    | finite t n f hn =>
      have := hfin hv
      cases t <;> simp only [UnpackedFloat.compare, shapeUnits, Sign.apply] <;>
        exact some_eq_some_compare_iff.2 (by simp; omega)
  | finite s m e hm =>
    have := hfin hu
    cases v with
    | notANumber => simp [UnpackedFloat.isNaN] at hv'
    | infinity t =>
      cases s <;> cases t <;> simp only [UnpackedFloat.compare, shapeUnits, Sign.apply] <;>
        exact some_eq_some_compare_iff.2 (by simp; omega)
    | zero t =>
      cases s <;> simp only [UnpackedFloat.compare, shapeUnits, Sign.apply] <;>
        exact some_eq_some_compare_iff.2 (by simp; omega)
    | finite t n f hn =>
      have := hfin hv
      cases s <;> cases t <;>
        simp only [UnpackedFloat.compare, shapeUnits, Sign.apply, hu.1.compare_unitsOf hv.1]
      · rw [compare_neg_natCast]
      · exact some_eq_some_compare_iff.2 (by simp; omega)
      · exact some_eq_some_compare_iff.2 (by simp; omega)
      · rw [compare_natCast]

theorem toNat_one_append (m : BitVec 52) : (1#1 ++ m).toNat = 2 ^ 52 + m.toNat := by
  rw [BitVec.toNat_append, ← Nat.shiftLeft_add_eq_or_of_lt m.isLt]
  rfl

theorem wellFormed_unpack (b : BitVec 64) : WellFormed (unpack Format.binary64 b) := by
  have hm : (@unpackMantissa Format.binary64 b).toNat < 2 ^ 52 := BitVec.isLt _
  have he : (@unpackExponent Format.binary64 b).toNat < 2 ^ 11 := BitVec.isLt _
  unfold unpack
  dsimp only
  split_ifs with hones _ hexp hmant
  · trivial
  · trivial
  · trivial
  · refine ⟨⟨by omega, ?_, .inr ?_⟩, ?_⟩ <;> simp [hexp, Format.exponentBias]
  · have hpos : (@unpackExponent Format.binary64 b).toNat ≠ 0 :=
      fun h => hexp (BitVec.eq_of_toNat_eq h)
    have hmax : (@unpackExponent Format.binary64 b).toNat ≠ 2047 :=
      fun h => hones (BitVec.eq_of_toNat_eq h)
    have hbias : Format.binary64.exponentBias = 1023 := rfl
    refine ⟨⟨?_, ?_, .inl ?_⟩, ?_⟩ <;> simp only [toNat_one_append, hbias] <;> omega

/-- A shape whose exponent does not fit becomes infinite. -/
def overflow : UnpackedFloat → UnpackedFloat
  | .finite s m e h => if e ≤ 971 then .finite s m e h else .infinity s
  | u => u

theorem finite_congr {s : Sign} {m n : ℕ} {e f : ℤ} (hm : 0 < m) (hn : 0 < n) (hmn : m = n)
    (hef : e = f) : UnpackedFloat.finite s m e hm = .finite s n f hn := by
  subst hmn hef
  rfl

theorem unpack_pack_normal (s : Sign) {m : ℕ} {e : ℤ} (h : 0 < m) (hc : Canonical m e)
    (he : e ≤ 971) (hm : 2 ^ 52 ≤ m) :
    (Float.Model.pack (.finite s m e h)).unpack = .finite s m e h := by
  have hlog : m.log2 = 52 := (Nat.log2_eq_iff h.ne').2 ⟨hm, hc.lt⟩
  have hlow := hc.le
  let ev : BitVec 11 := BitVec.ofNat 11 (e + (1023 : ℕ) + (52 : ℕ)).toNat
  let mv : BitVec 52 := BitVec.ofNat 52 m
  have hev : ev.toNat = (e + (1023 : ℕ) + (52 : ℕ)).toNat :=
    Nat.mod_eq_of_lt (by omega)
  have hmv : mv.toNat = m - 2 ^ 52 := by
    have hlt := hc.lt
    change m % 2 ^ 52 = m - 2 ^ 52
    omega
  have hpack : UnpackedFloat.pack Format.binary64 (.finite s m e h) =
      packComponents Format.binary64 s ev mv := by
    refine (if_neg ?_).trans (if_pos ?_)
    · change ¬ 2 ^ 11 ≤ (e + (1023 : ℕ) + (52 : ℕ)).toNat + 1
      omega
    · rw [hlog]
      rfl
  have hones : ev ≠ -1#11 := by
    intro heq
    have := congrArg BitVec.toNat heq
    change ev.toNat = 2047 at this
    omega
  have hzero : ev ≠ 0#11 := by
    intro heq
    have := congrArg BitVec.toNat heq
    change ev.toNat = 0 at this
    omega
  change unpack Format.binary64 (UnpackedFloat.pack Format.binary64 (.finite s m e h)) = _
  rw [hpack, unpack]
  simp only [unpackExponent_packComponents, unpackMantissa_packComponents,
    unpackSign_packComponents, Sign.ofBitVec_toBitVec, if_neg hones, if_neg hzero]
  apply finite_congr
  · rw [toNat_one_append, hmv]
    omega
  · rw [hev]
    change ((e + (1023 : ℕ) + (52 : ℕ)).toNat : ℤ) - ((1023 : ℕ) + (52 : ℕ)) = e
    omega

theorem unpack_pack_subnormal (s : Sign) {m : ℕ} (h : 0 < m) (hm : m < 2 ^ 52) :
    (Float.Model.pack (.finite s m (-1074) h)).unpack = .finite s m (-1074) h := by
  have hlog : m.log2 < 52 := (Nat.log2_lt h.ne').2 hm
  let mv : BitVec 52 := BitVec.ofNat 52 m
  have hmv : mv.toNat = m := Nat.mod_eq_of_lt hm
  have hpack : UnpackedFloat.pack Format.binary64 (.finite s m (-1074) h) =
      packComponents Format.binary64 s 0#11 mv := by
    refine if_neg ?_
    change ¬ m.log2 + 1 = 53
    omega
  have hzero : mv ≠ 0#52 := by
    intro heq
    have := congrArg BitVec.toNat heq
    change mv.toNat = 0 at this
    omega
  change unpack Format.binary64 (UnpackedFloat.pack Format.binary64 _) = _
  rw [hpack, unpack]
  simp only [unpackExponent_packComponents, unpackMantissa_packComponents,
    unpackSign_packComponents, Sign.ofBitVec_toBitVec, if_true, dif_neg hzero]
  rw [if_neg (by decide)]
  exact finite_congr _ _ hmv (by decide)

theorem unpack_pack_of_overflow (s : Sign) {m : ℕ} {e : ℤ} (h : 0 < m) (he : 971 < e) :
    (Float.Model.pack (.finite s m e h)).unpack = .infinity s := by
  have hbiased : 2 ^ 11 ≤ (e + (1023 : ℕ) + (52 : ℕ)).toNat + 1 := by omega
  have hpack : Float.Model.pack (.finite s m e h) = Float.Model.pack (.infinity s) := by
    unfold Float.Model.pack
    congr 2
    exact if_pos hbiased
  rw [hpack]
  cases s <;> rfl

/-- Packing a canonical shape and unpacking it again keeps it, unless it overflows. -/
theorem unpack_pack {u : UnpackedFloat} (hu : ∀ s m e h, u = .finite s m e h → Canonical m e) :
    (Float.Model.pack u).unpack = overflow u := by
  cases u with
  | infinity s => cases s <;> rfl
  | notANumber => rfl
  | zero s => cases s <;> rfl
  | finite s m e h =>
    have hc := hu s m e h rfl
    by_cases he : e ≤ 971
    · rw [overflow, if_pos he]
      by_cases hm : 2 ^ 52 ≤ m
      · exact unpack_pack_normal s h hc he hm
      · obtain rfl := hc.full.resolve_left hm
        exact unpack_pack_subnormal s h (not_le.1 hm)
    · rw [overflow, if_neg he]
      exact unpack_pack_of_overflow s h (not_le.1 he)

end CostGate.Number.Double
