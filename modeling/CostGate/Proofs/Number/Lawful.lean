import CostGate.Number.Quantity
import Mathlib

/-!
# Laws of quantities

What exact arithmetic and arithmetic on doubles have in common. Everything but the undefined value
is in a linear order; on quantities that are not negative, the operations respect it, however they
round and whether or not they overflow.
-/
namespace CostGate.Number

theorem isPositive_iff {α : Type} [Quantity α] {x : α} :
    isPositive x = true ↔ isFinite x = true ∧ 0.0 < x := by
  rw [isPositive, Bool.and_eq_true, decide_eq_true_iff]

theorem total_of_forall {α : Type} [Quantity α] {p : α → Prop} (hzero : p 0.0)
    (hadd : ∀ x y, p x → p y → p (x + y)) {xs : List α} (h : ∀ x ∈ xs, p x) : p (total xs) := by
  have hfold : ∀ acc, p acc → p (xs.foldl (· + ·) acc) := by
    induction xs with
    | nil => exact fun _ hacc => hacc
    | cons x xs ih =>
      intro acc hacc
      apply ih fun y hy => h y (List.mem_cons_of_mem x hy)
      exact hadd acc x hacc (h x List.mem_cons_self)
  exact hfold 0.0 hzero

/-- Quantities whose operations respect the order. -/
class LawfulQuantity (α : Type) [Quantity α] : Prop where
  defined_of_le {x y : α} : x ≤ y → isUndefined x = false ∧ isUndefined y = false
  le_or_le {x y : α} : isUndefined x = false → isUndefined y = false → x ≤ y ∨ y ≤ x
  le_trans {x y z : α} : x ≤ y → y ≤ z → x ≤ z
  lt_iff {x y : α} : x < y ↔ x ≤ y ∧ ¬ y ≤ x
  defined_of_finite {x : α} : isFinite x = true → isUndefined x = false
  finite_of_lt {x y : α} : 0.0 ≤ x → x < y → isFinite x = true
  add_zero : (0.0 : α) + 0.0 = 0.0
  add_le_add {x x' y y' : α} : 0.0 ≤ x → 0.0 ≤ y → x ≤ x' → y ≤ y' → x + y ≤ x' + y'
  zero_mul {k : α} : isPositive k = true → 0.0 * k = 0.0
  mul_le_mul {x y k : α} : isPositive k = true → 0.0 ≤ x → x ≤ y → x * k ≤ y * k
  zero_div {k : α} : 0.0 < k → 0.0 / k = 0.0
  div_self {k : α} : isPositive k = true → k / k ≤ 1.0 ∧ 1.0 ≤ k / k
  div_le_div {x y k k' : α} :
    isPositive k = true → 0.0 < k' → k' ≤ k → 0.0 ≤ x → x ≤ y → x / k ≤ y / k'
  nearest_zero : nearest (0.0 : α) = 0.0
  nearest_le_nearest {x y : α} : 0.0 ≤ x → x ≤ y → nearest x ≤ nearest y
  zero_lt_one : (0.0 : α) < 1.0
  positive_hundred : isPositive (100.0 : α) = true
  one_mul_hundred : (1.0 : α) * 100.0 = 100.0
  positive_tenTo {p : ℕ} : p ≤ 4 → isPositive (tenTo p : α) = true
  roundTo_one : roundTo (1.0 : α) 4 = 1.0
  roundTo_hundred : roundTo (100.0 : α) 2 = 100.0
  ofCount_zero : ofCount 0 = (0.0 : α)
  ofCount_pos {n : ℕ} : 0 < n → (0.0 : α) < ofCount n
  ofCount_le_ofCount {m n : ℕ} : m ≤ n → (ofCount m : α) ≤ ofCount n

namespace LawfulQuantity

variable {α : Type} [Quantity α] [LawfulQuantity α] {x x' y y' z k : α}

theorem le_self (h : isUndefined x = false) : x ≤ x := or_self_iff.1 (le_or_le h h)

theorem le_of_lt (h : x < y) : x ≤ y := (lt_iff.1 h).1

theorem not_le_of_lt (h : x < y) : ¬ y ≤ x := (lt_iff.1 h).2

theorem not_lt_of_le (h : x ≤ y) : ¬ y < x := fun h' => not_le_of_lt h' h

theorem lt_of_not_le (hx : isUndefined x = false) (hy : isUndefined y = false) (h : ¬ x ≤ y) :
    y < x :=
  lt_iff.2 ⟨(le_or_le hx hy).resolve_left h, h⟩

theorem le_of_not_lt (hx : isUndefined x = false) (hy : isUndefined y = false) (h : ¬ x < y) :
    y ≤ x := by
  by_contra hle
  exact h (lt_of_not_le hy hx hle)

theorem lt_of_lt_of_le (h : x < y) (h' : y ≤ z) : x < z :=
  lt_iff.2 ⟨le_trans (le_of_lt h) h', fun hle => not_le_of_lt h (le_trans h' hle)⟩

theorem lt_of_le_of_lt (h : x ≤ y) (h' : y < z) : x < z :=
  lt_iff.2 ⟨le_trans h (le_of_lt h'), fun hle => not_le_of_lt h' (le_trans hle h)⟩

theorem defined_zero : isUndefined (0.0 : α) = false := (defined_of_le (le_of_lt zero_lt_one)).1

theorem le_self_of_pos (h : 0.0 < x) : x ≤ x := le_self (defined_of_le (le_of_lt h)).2

theorem ofCount_nonneg {n : ℕ} : (0.0 : α) ≤ ofCount n := by
  have h := ofCount_le_ofCount (α := α) (Nat.zero_le n)
  rwa [ofCount_zero] at h

theorem add_nonneg (hx : 0.0 ≤ x) (hy : 0.0 ≤ y) : 0.0 ≤ x + y := by
  have hzero := le_self (defined_zero (α := α))
  have h := add_le_add hzero hzero hx hy
  rwa [add_zero] at h

theorem total_nonneg {xs : List α} (h : ∀ x ∈ xs, 0.0 ≤ x) : 0.0 ≤ total xs :=
  total_of_forall (le_self defined_zero) (fun _ _ => add_nonneg) h

theorem mul_nonneg (hk : isPositive k = true) (hx : 0.0 ≤ x) : 0.0 ≤ x * k := by
  have h := mul_le_mul hk (le_self defined_zero) hx
  rwa [zero_mul hk] at h

theorem div_nonneg (hk : isPositive k = true) (hx : 0.0 ≤ x) : 0.0 ≤ x / k := by
  have hpos := (isPositive_iff.1 hk).2
  have h := div_le_div hk hpos (le_self_of_pos hpos) (le_self defined_zero) hx
  rwa [zero_div hpos] at h

section Rounding

variable {p : ℤ}

theorem positive_scale (hp : 0 ≤ p) (hp' : p ≤ 4) : isPositive (tenTo p : α) = true := by
  obtain ⟨n, rfl⟩ := Int.eq_ofNat_of_zero_le hp
  exact positive_tenTo (by omega)

theorem roundTo_zero (hp : 0 ≤ p) (hp' : p ≤ 4) : roundTo (0.0 : α) p = 0.0 := by
  have hk := positive_scale (α := α) hp hp'
  rw [roundTo, zero_mul hk, nearest_zero, zero_div (isPositive_iff.1 hk).2]

theorem roundTo_le_roundTo (hp : 0 ≤ p) (hp' : p ≤ 4) (hx : 0.0 ≤ x) (h : x ≤ y) :
    roundTo x p ≤ roundTo y p := by
  have hk := positive_scale (α := α) hp hp'
  have hpos := (isPositive_iff.1 hk).2
  have hscaled := mul_nonneg hk hx
  have hnearest : 0.0 ≤ nearest (x * tenTo p) := by
    have := nearest_le_nearest (le_self defined_zero) hscaled
    rwa [nearest_zero] at this
  exact div_le_div hk hpos (le_self_of_pos hpos) hnearest
    (nearest_le_nearest hscaled (mul_le_mul hk hx h))

theorem roundTo_nonneg (hp : 0 ≤ p) (hp' : p ≤ 4) (hx : 0.0 ≤ x) : 0.0 ≤ roundTo x p := by
  have h := roundTo_le_roundTo hp hp' (le_self defined_zero) hx
  rwa [roundTo_zero hp hp'] at h

end Rounding

end LawfulQuantity

end CostGate.Number
