import CostGate.Proofs.Number.Doubles

/-!
# Zeros among doubles

There are two zeros. Adding either of them changes nothing but the negative zero, and no sum is the
negative zero unless it starts there. So zeros do not count in a sum of several terms. A product
with a zero is zero, or else undefined.
-/
namespace CostGate.Number

def IsZero (x : Float) : Prop := x = 0.0 ∨ x = -0.0

namespace Double

open Float.Model (UnpackedFloat Format)
open Float.Model.UnpackedFloat

theorem ofModel_pack_shape (x : Float) : .ofModel (.pack (shape x)) = x := by
  unfold shape
  rw [← Float.toBits_inj]
  exact UInt64.toBitVec_inj.1 (pack_unpack_of_valid x.toModel.valid)

theorem shape_injective : Function.Injective shape := by
  intro x y h
  rw [← ofModel_pack_shape x, h, ofModel_pack_shape]

theorem shape_negZero : shape (-0.0) = .zero .negative := by
  unfold shape
  rfl

theorem isZero_iff {x : Float} : IsZero x ↔ ∃ s, shape x = .zero s := by
  constructor
  · rintro (rfl | rfl)
    · exact ⟨_, shape_zero⟩
    · exact ⟨_, shape_negZero⟩
  · rintro ⟨s, hs⟩
    cases s with
    | positive => exact .inl (shape_injective (hs.trans shape_zero.symm))
    | negative => exact .inr (shape_injective (hs.trans shape_negZero.symm))

theorem add_isZero {x y : Float} (hx : x ≠ -0.0) (hy : IsZero y) : x + y = x := by
  obtain ⟨s, hs⟩ := isZero_iff.1 hy
  have hx' : shape x ≠ .zero .negative := fun h => hx (shape_injective (h.trans shape_negZero.symm))
  have hadd : UnpackedFloat.add Format.binary64 (shape x) (shape y) = shape x := by
    rw [hs]
    generalize shape x = u at hx'
    cases u with
    | notANumber => rfl
    | infinity r => rfl
    | finite r m e hm => rfl
    | zero r =>
      cases r with
      | positive => cases s <;> rfl
      | negative => exact absurd rfl hx'
  rw [shape_add, hadd, ofModel_pack_shape]

theorem one_le_toGrid {m : ℕ} (hm : 0 < m) {e : ℤ} (he : -1074 ≤ e) :
    1 ≤ toGrid (m * 2 ^ (e + 1074)) := by
  have hunits : 1 ≤ unitsOf m e := unitsOf_pos hm e
  have hone := toGrid_mul_pow (m := 1) (by decide) 0
  calc
    1 = toGrid 1 := by simpa using hone.symm
    _ ≤ toGrid (m * 2 ^ (e + 1074)) := by
      rw [← cast_unitsOf he]
      exact toGrid_mono (by exact_mod_cast hunits)

/-- What a sum of finite doubles is before it is packed: no negative zero. -/
theorem normalize_cases (k : ℤ) {e : ℤ} (he : -1074 ≤ e) :
    normalize Format.binary64 k e .positive = .zero .positive ∨
      ∃ s m f hm, Canonical m f ∧ normalize Format.binary64 k e .positive = .finite s m f hm := by
  have hround : ∀ (s : Sign) {n : ℕ}, 0 < n →
      ∃ s' m f hm, Canonical m f ∧ round Format.binary64 s n e = .finite s' m f hm := by
    intro s n hn
    obtain ⟨m, f, hc, hunits, heq⟩ := round_stands s hn e
    have hm : m ≠ 0 := by
      rintro rfl
      have := one_le_toGrid hn he
      rw [← hunits, unitsOf, Nat.zero_mul] at this
      omega
    exact ⟨s, m, f, Nat.pos_of_ne_zero hm, hc, heq.trans (dif_neg hm)⟩
  rw [UnpackedFloat.normalize]
  rcases lt_trichotomy k 0 with hlt | rfl | hgt
  · rw [compare_lt_iff_lt.2 hlt]
    exact .inr (hround .negative (by omega))
  · exact .inl rfl
  · rw [compare_gt_iff_gt.2 hgt]
    exact .inr (hround .positive (by omega))

/-- A shape that packs without rounding, and not into the negative zero. -/
def AvoidsNegZero (u : UnpackedFloat) : Prop :=
  u ≠ .zero .negative ∧ ∀ s m e h, u = .finite s m e h → Canonical m e

theorem AvoidsNegZero.ne {u : UnpackedFloat} (h : AvoidsNegZero u) :
    Float.ofModel (.pack u) ≠ -0.0 := by
  intro heq
  have hshape : overflow u = .zero .negative := by
    rw [← unpack_pack h.2, ← shape_negZero, ← heq]
    unfold shape
    rfl
  cases u with
  | zero s => exact h.1 hshape
  | notANumber => cases hshape
  | infinity s => cases hshape
  | finite s m e hm =>
    rw [overflow] at hshape
    split_ifs at hshape

theorem AvoidsNegZero.of_wellFormed {u : UnpackedFloat} (hne : u ≠ .zero .negative)
    (hu : WellFormed u) : AvoidsNegZero u := by
  refine ⟨hne, ?_⟩
  rintro s m e hm rfl
  exact hu.1

theorem avoidsNegZero_add {u v : UnpackedFloat} (hu : WellFormed u) (hv : WellFormed v)
    (hne : u ≠ .zero .negative) : AvoidsNegZero (.add Format.binary64 u v) := by
  cases u with
  | notANumber => exact .of_wellFormed nofun trivial
  | infinity s =>
    cases v with
    | infinity r =>
      rw [UnpackedFloat.add]
      split_ifs
      · exact .of_wellFormed nofun trivial
      · exact .of_wellFormed nofun trivial
    | notANumber => exact .of_wellFormed nofun trivial
    | zero r => exact .of_wellFormed nofun trivial
    | finite r n f hn => exact .of_wellFormed nofun trivial
  | zero s =>
    obtain rfl : s = .positive := by
      cases s with
      | positive => rfl
      | negative => exact absurd rfl hne
    cases v with
    | zero r => cases r <;> exact .of_wellFormed nofun trivial
    | notANumber => exact .of_wellFormed nofun trivial
    | infinity r => exact .of_wellFormed nofun trivial
    | finite r n f hn => exact .of_wellFormed nofun hv
  | finite s m e hm =>
    cases v with
    | notANumber => exact .of_wellFormed nofun trivial
    | infinity r => exact .of_wellFormed nofun trivial
    | zero r => exact .of_wellFormed nofun hu
    | finite r n f hn =>
      have hmin : -1074 ≤ min e f := le_min hu.1.le hv.1.le
      rw [UnpackedFloat.add]
      dsimp only
      rcases normalize_cases _ hmin with hzero | ⟨q, l, g, hl, hc, hfinite⟩
      · rw [hzero]
        exact .of_wellFormed nofun trivial
      · rw [hfinite]
        refine ⟨nofun, ?_⟩
        rintro _ _ _ _ heq
        cases heq
        exact hc

theorem add_ne_negZero {x : Float} (hx : x ≠ -0.0) (y : Float) : x + y ≠ -0.0 := by
  rw [shape_add]
  refine (avoidsNegZero_add (wellFormed_shape x) (wellFormed_shape y) fun h => hx ?_).ne
  exact shape_injective (h.trans shape_negZero.symm)

/-- Zero or undefined. -/
def Vanishes (x : Float) : Prop := x.isNaN = true ∨ IsZero x

theorem vanishes_iff {x : Float} :
    Vanishes x ↔ shape x = .notANumber ∨ ∃ s, shape x = .zero s := by
  rw [Vanishes, isZero_iff, ← isNaN_shape, isNaN_iff]

theorem vanishes_pack {u : UnpackedFloat} (h : u = .notANumber ∨ ∃ s, u = .zero s) :
    Vanishes (.ofModel (.pack u)) := by
  have hshape : shape (.ofModel (.pack u)) = u := by
    unfold shape
    rcases h with rfl | ⟨s, rfl⟩
    · rfl
    · cases s <;> rfl
  rw [vanishes_iff, hshape]
  exact h

theorem Vanishes.add {x y : Float} (hx : Vanishes x) (hy : Vanishes y) : Vanishes (x + y) := by
  rw [shape_add]
  apply vanishes_pack
  rcases vanishes_iff.1 hx with hx | ⟨s, hs⟩
  · rw [hx]
    exact .inl rfl
  · rw [hs]
    rcases vanishes_iff.1 hy with hy | ⟨r, hr⟩
    · rw [hy]
      exact .inl rfl
    · rw [hr]
      cases s <;> cases r <;> exact .inr ⟨_, rfl⟩

theorem Vanishes.mul_right {x : Float} (hx : Vanishes x) (y : Float) : Vanishes (x * y) := by
  rw [shape_mul]
  apply vanishes_pack
  rcases vanishes_iff.1 hx with hx | ⟨s, hs⟩
  · rw [hx]
    exact .inl rfl
  · rw [hs]
    cases shape y with
    | notANumber => exact .inl rfl
    | infinity r => exact .inl rfl
    | zero r => exact .inr ⟨_, rfl⟩
    | finite r n f hn => exact .inr ⟨_, rfl⟩

theorem Vanishes.mul_left {y : Float} (hy : Vanishes y) (x : Float) : Vanishes (x * y) := by
  rw [shape_mul]
  apply vanishes_pack
  rcases vanishes_iff.1 hy with hy | ⟨s, hs⟩
  · rw [hy]
    cases shape x <;> exact .inl rfl
  · rw [hs]
    cases shape x with
    | notANumber => exact .inl rfl
    | infinity r => exact .inl rfl
    | zero r => exact .inr ⟨_, rfl⟩
    | finite r n f hn => exact .inr ⟨_, rfl⟩

theorem isNaN_mul_right {x : Float} (hx : x.isNaN = true) (y : Float) : (x * y).isNaN = true := by
  rw [← isNaN_shape, isNaN_iff] at hx
  have hmul : UnpackedFloat.mul Format.binary64 (shape x) (shape y) = .notANumber := by
    rw [hx]
    cases shape y <;> rfl
  rw [shape_mul, hmul]
  rfl

end Double

end CostGate.Number
