import CostGate.Cost.Price
import CostGate.Proofs.Number.Zero

/-!
# Metrics of nothing

A file in which nothing is measured has costs of zero, whatever the configuration, unless they are
undefined. Such metrics do not count in a sum.
-/
namespace CostGate

open Number Number.Double

namespace Metrics

structure IsZero (m : Metrics Float) : Prop where
  lines_eq : m.lines = 0
  complexity : Number.IsZero m.complexity
  dependencies_eq : m.dependencies = 0
  includes : Number.IsZero m.includes
  functions_eq : m.functions = 0
  baseCost : Number.IsZero m.baseCost
  finalCost : Number.IsZero m.finalCost

/-- Metrics that zeros can be added to without a change. -/
structure AvoidsNegZero (m : Metrics Float) : Prop where
  complexity : m.complexity ≠ -0.0
  includes : m.includes ≠ -0.0
  baseCost : m.baseCost ≠ -0.0
  finalCost : m.finalCost ≠ -0.0

theorem avoidsNegZero_zero : AvoidsNegZero .zero where
  complexity := by decide
  includes := by decide
  baseCost := by decide
  finalCost := by decide

theorem AvoidsNegZero.add {m : Metrics Float} (hm : m.AvoidsNegZero) (n : Metrics Float) :
    (m.add n).AvoidsNegZero where
  complexity := add_ne_negZero hm.complexity _
  includes := add_ne_negZero hm.includes _
  baseCost := add_ne_negZero hm.baseCost _
  finalCost := add_ne_negZero hm.finalCost _

theorem add_isZero {m n : Metrics Float} (hm : m.AvoidsNegZero) (hn : n.IsZero) : m.add n = m := by
  rw [Metrics.add, hn.lines_eq, hn.dependencies_eq, hn.functions_eq,
    Double.add_isZero hm.complexity hn.complexity, Double.add_isZero hm.includes hn.includes,
    Double.add_isZero hm.baseCost hn.baseCost, Double.add_isZero hm.finalCost hn.finalCost]
  rfl

theorem sum_filter {β : Type} (metrics : β → Metrics Float) {p : β → Bool} {xs : List β}
    (h : ∀ x ∈ xs, p x = false → (metrics x).IsZero) :
    Metrics.sum ((xs.filter p).map metrics) = Metrics.sum (xs.map metrics) := by
  have hfold : ∀ acc : Metrics Float, acc.AvoidsNegZero →
      ((xs.filter p).map metrics).foldl Metrics.add acc =
        (xs.map metrics).foldl Metrics.add acc := by
    induction xs with
    | nil => exact fun _ _ => rfl
    | cons x xs ih =>
      intro acc hacc
      have ih := ih (fun y hy => h y (List.mem_cons_of_mem x hy)) (acc.add (metrics x))
        (hacc.add (metrics x))
      cases hp : p x with
      | true =>
        rw [List.filter_cons_of_pos hp]
        exact ih
      | false =>
        have hzero := add_isZero hacc (h x List.mem_cons_self hp)
        rw [List.filter_cons_of_neg (by simp [hp]), List.map_cons, List.foldl_cons, ← ih, hzero]
  exact hfold .zero avoidsNegZero_zero

end Metrics

/-- The base cost of nothing is zero, unless a weight is infinite or undefined. -/
theorem CostWeights.vanishes_base (w : CostWeights Float) : Vanishes (w.base .zero) := by
  have hzero : Vanishes 0.0 := .inr (.inl rfl)
  have hcount : Vanishes (ofCount 0) := by
    rw [LawfulQuantity.ofCount_zero]
    exact hzero
  exact ((((hcount.mul_left _).add (hzero.mul_left _)).add (hcount.mul_left _)).add
    (hcount.mul_left _)).add (hzero.mul_left _)

/-- Nothing costs nothing, unless the final cost is refused. -/
theorem Config.isZero_price {config : Config Float} {path : List Char}
    (h : isFinite (config.price path .zero).finalCost = true) :
    (config.price path .zero).IsZero := by
  have hdefined : ¬ (config.price path .zero).finalCost.isNaN = true :=
    Bool.eq_false_iff.1 (isNaN_of_isFinite h)
  have hbase : Vanishes (config.price path .zero).baseCost := config.weights.vanishes_base
  have hfinal : Vanishes (config.price path .zero).finalCost :=
    (hbase.mul_right _).mul_right _
  refine ⟨rfl, .inl rfl, rfl, .inl rfl, rfl, hbase.resolve_left fun hnan => ?_,
    hfinal.resolve_left hdefined⟩
  exact hdefined (isNaN_mul_right (isNaN_mul_right hnan _) _)

end CostGate
