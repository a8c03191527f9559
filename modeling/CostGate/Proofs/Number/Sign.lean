import CostGate.Proofs.Number.Exact
import CostGate.Proofs.Number.Zero

/-!
# Signs of results

Sums and products of quantities that are not negative are not negative. An undefined quantity is
not negative either, as it is below nothing, so that also holds of doubles that overflow. A sum is
no less than either of its terms.
-/
namespace CostGate.Number

/-- Quantities whose sums and products are negative only if a part is. -/
class SignedQuantity (α : Type) [Quantity α] : Prop extends LawfulQuantity α where
  le_add_zero {x : α} : 0.0 ≤ x → x ≤ x + 0.0
  not_neg_add {x y : α} : ¬ x < 0.0 → ¬ y < 0.0 → ¬ x + y < 0.0
  not_neg_mul {x y : α} : ¬ x < 0.0 → ¬ y < 0.0 → ¬ x * y < 0.0
  zero_le_quarter : (0.0 : α) ≤ 0.25

namespace SignedQuantity

open LawfulQuantity

variable {α : Type} [Quantity α] [SignedQuantity α] {x y : α}

theorem not_neg_zero : ¬ (0.0 : α) < 0.0 := not_lt_of_le (le_self defined_zero)

theorem not_neg_ofCount (n : ℕ) : ¬ (ofCount n : α) < 0.0 := not_lt_of_le ofCount_nonneg

theorem le_add_right (hx : 0.0 ≤ x) (hy : 0.0 ≤ y) : x ≤ x + y :=
  le_trans (le_add_zero hx)
    (add_le_add hx (le_self defined_zero) (le_self (defined_of_le hx).2) hy)

theorem not_neg_total {xs : List α} (h : ∀ x ∈ xs, ¬ x < 0.0) : ¬ total xs < 0.0 :=
  total_of_forall not_neg_zero (fun _ _ => not_neg_add) h

theorem total_le_total_of_sublist {xs ys : List α} (h : xs.Sublist ys)
    (hnonneg : ∀ y ∈ ys, 0.0 ≤ y) : total xs ≤ total ys := by
  -- a term that is left out raises the second running total only
  have hfold : ∀ acc acc' : α, 0.0 ≤ acc → acc ≤ acc' →
      xs.foldl (· + ·) acc ≤ ys.foldl (· + ·) acc' := by
    induction h with
    | slnil => exact fun _ _ _ hle => hle
    | cons y _ ih =>
      intro acc acc' hacc hle
      have hy := hnonneg y List.mem_cons_self
      apply ih (fun z hz => hnonneg z (List.mem_cons_of_mem y hz)) acc (acc' + y) hacc
      exact le_trans hle (le_add_right (le_trans hacc hle) hy)
    | cons_cons y _ ih =>
      intro acc acc' hacc hle
      have hy := hnonneg y List.mem_cons_self
      apply ih (fun z hz => hnonneg z (List.mem_cons_of_mem y hz))
      · exact add_nonneg hacc hy
      · exact add_le_add hacc hy hle (le_self (defined_of_le hy).2)
  have hzero : (0.0 : α) ≤ 0.0 := le_self defined_zero
  exact hfold 0.0 0.0 hzero hzero

end SignedQuantity

namespace Double

open Float.Model (UnpackedFloat Format)
open Float.Model.UnpackedFloat

variable {x y : Float}

/-- A double is not negative if it is undefined or has a measure. -/
theorem not_neg_iff : ¬ x < 0.0 ↔ x.isNaN = true ∨ ∃ n, Measures x n := by
  constructor
  · intro h
    cases hnan : x.isNaN with
    | true => exact .inl rfl
    | false =>
      exact .inr (zero_le_iff.1 (LawfulQuantity.le_of_not_lt hnan LawfulQuantity.defined_zero h))
  · rintro (hnan | hmeasure)
    · intro hlt
      exact Bool.false_ne_true ((Double.lt_iff.1 hlt).1.symm.trans hnan)
    · exact LawfulQuantity.not_lt_of_le (zero_le_iff.2 hmeasure)

theorem isNaN_pack {u : UnpackedFloat} (h : u = .notANumber) :
    (Float.ofModel (.pack u)).isNaN = true := by
  rw [h]
  rfl

theorem isNaN_add_right (hx : x.isNaN = true) (y : Float) : (x + y).isNaN = true := by
  rw [← isNaN_shape, isNaN_iff] at hx
  rw [shape_add, hx]
  apply isNaN_pack
  cases shape y <;> rfl

theorem isNaN_add_left (hy : y.isNaN = true) (x : Float) : (x + y).isNaN = true := by
  rw [← isNaN_shape, isNaN_iff] at hy
  rw [shape_add, hy]
  apply isNaN_pack
  cases shape x <;> rfl

theorem isNaN_mul_left (hy : y.isNaN = true) (x : Float) : (x * y).isNaN = true := by
  rw [← isNaN_shape, isNaN_iff] at hy
  rw [shape_mul, hy]
  apply isNaN_pack
  cases shape x <;> rfl

theorem not_neg_add (hx : ¬ x < 0.0) (hy : ¬ y < 0.0) : ¬ x + y < 0.0 := by
  rw [not_neg_iff] at *
  rcases hx with hx | ⟨n, hn⟩
  · exact .inl (isNaN_add_right hx y)
  · rcases hy with hy | ⟨k, hk⟩
    · exact .inl (isNaN_add_left hy x)
    · exact .inr ⟨_, hn.add hk⟩

/-- Nothing but a product of infinity and zero is undefined. -/
theorem Measures.mul_cases {n k : ℕ} (hx : Measures x n) (hy : Measures y k) :
    (x * y).isNaN = true ∨ ∃ l, Measures (x * y) l := by
  rw [shape_mul]
  rw [Measures] at hx hy
  generalize shape x = u at hx
  generalize shape y = v at hy
  cases hx with
  | zero s =>
    cases hy with
    | zero t => exact .inr ⟨_, measures_of_hasUnits (.zero _)⟩
    | finite hm hc he => exact .inr ⟨_, measures_of_hasUnits (.zero _)⟩
    | infinity => exact .inl (isNaN_pack rfl)
  | finite hm hc he =>
    cases hy with
    | zero t => exact .inr ⟨_, measures_of_hasUnits (.zero _)⟩
    | finite hm' hc' he' => exact .inr ⟨_, measures_of_stands (mul_finite_stands hm hm' hc hc')⟩
    | infinity => exact .inr ⟨_, measures_of_hasUnits .infinity⟩
  | infinity =>
    cases hy with
    | zero t => exact .inl (isNaN_pack rfl)
    | finite hm hc he => exact .inr ⟨_, measures_of_hasUnits .infinity⟩
    | infinity => exact .inr ⟨_, measures_of_hasUnits .infinity⟩

theorem not_neg_mul (hx : ¬ x < 0.0) (hy : ¬ y < 0.0) : ¬ x * y < 0.0 := by
  rw [not_neg_iff] at *
  rcases hx with hx | ⟨n, hn⟩
  · exact .inl (isNaN_mul_right hx y)
  · rcases hy with hy | ⟨k, hk⟩
    · exact .inl (isNaN_mul_left hy x)
    · exact hn.mul_cases hk

theorem le_add_zero (hx : 0.0 ≤ x) : x ≤ x + 0.0 := by
  obtain ⟨n, hn⟩ := zero_le_iff.1 hx
  have hsum := hn.add measures_zero
  rw [Nat.cast_zero, add_zero, hn.toDouble_eq] at hsum
  exact (hn.le_iff hsum).2 le_rfl

end Double

instance : SignedQuantity Float where
  le_add_zero := Double.le_add_zero
  not_neg_add := Double.not_neg_add
  not_neg_mul := Double.not_neg_mul
  zero_le_quarter := by decide

theorem not_neg_rat_iff {x : ℚ} : ¬ x < 0.0 ↔ 0 ≤ x := by
  norm_num

instance : SignedQuantity ℚ where
  le_add_zero _ := by norm_num
  not_neg_add hx hy := by
    rw [not_neg_rat_iff] at *
    exact add_nonneg hx hy
  not_neg_mul hx hy := by
    rw [not_neg_rat_iff] at *
    exact mul_nonneg hx hy
  zero_le_quarter := by norm_num

end CostGate.Number
