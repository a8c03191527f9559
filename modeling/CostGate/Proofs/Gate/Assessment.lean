import CostGate.Gate.Evaluation
import CostGate.Proofs.Number.Lawful

/-!
# Assessing components

What zone, severity and ratio of one component say about its cost, and which components an
evaluation accepts.
-/
namespace CostGate

open Number Number.LawfulQuantity

variable {α : Type} [Quantity α] {limits : Limits α} {cost threshold : α}

theorem Limits.zone_eq_governance_iff :
    limits.zone cost threshold = .governance ↔ threshold < cost := by
  rw [zone]
  split_ifs with h <;> simp [h]

theorem Limits.severityOfRatio_ne_autonomous (ratio : α) :
    limits.severityOfRatio ratio ≠ .autonomous := by
  rw [severityOfRatio]
  split_ifs <;> simp

theorem Limits.severe_iff {ratio : α} :
    (limits.severityOfRatio ratio = .critical ∨ limits.severityOfRatio ratio = .emergency) ↔
      limits.emergencyMultiplier ≤ ratio ∨ limits.criticalMultiplier ≤ ratio := by
  rw [severityOfRatio]
  split_ifs with hemergency hcritical <;> simp [*]

def Limits.violation (limits : Limits α) (threshold : α) (component : String × α) : Violation α :=
  let ratio := violationRatio component.2 threshold
  ⟨component.1, component.2, threshold, limits.severityOfRatio ratio, ratio⟩

theorem Limits.violation?_assess (path : String) :
    (limits.assess path cost threshold).violation? threshold =
      if threshold < cost then some (limits.violation threshold (path, cost)) else none := by
  rw [Assessment.violation?, assess]
  dsimp only
  by_cases h : threshold < cost
  · rw [if_pos h, if_pos (zone_eq_governance_iff.2 h), zone_eq_governance_iff.2 h]
    rfl
  · rw [if_neg h, if_neg (mt zone_eq_governance_iff.1 h)]

theorem Limits.severity_assess (path : String) (h : threshold < cost) :
    (limits.assess path cost threshold).severity =
      limits.severityOfRatio (violationRatio cost threshold) := by
  rw [assess]
  dsimp only
  rw [zone_eq_governance_iff.2 h, severityIn]

section Lawful

variable [LawfulQuantity α]

theorem isBadCost_eq_false_iff : isBadCost cost = false ↔ 0.0 ≤ cost := by
  rw [isBadCost, Bool.or_eq_false_iff, decide_eq_false_iff_not]
  constructor
  · rintro ⟨hdef, hneg⟩
    exact le_of_not_lt hdef defined_zero hneg
  · intro h
    exact ⟨(defined_of_le h).2, not_lt_of_le h⟩

theorem isBadThreshold_eq_false_iff : isBadThreshold threshold = false ↔ 0.0 < threshold := by
  rw [isBadThreshold, Bool.or_eq_false_iff, decide_eq_false_iff_not]
  constructor
  · rintro ⟨hdef, hpos⟩
    exact lt_of_not_le hdef defined_zero hpos
  · intro h
    exact ⟨(defined_of_le (le_of_lt h)).2, not_le_of_lt h⟩

/-- A threshold that is exceeded is not infinite. -/
theorem isPositive_of_lt (hpos : 0.0 < threshold) (h : threshold < cost) :
    isPositive threshold = true :=
  isPositive_iff.2 ⟨finite_of_lt (le_of_lt hpos) h, hpos⟩

theorem violationRatio_le_violationRatio {cost' threshold' : α} (hcost : 0.0 ≤ cost)
    (hcosts : cost ≤ cost') (hpos : isPositive threshold = true) (hpos' : 0.0 < threshold')
    (hthresholds : threshold' ≤ threshold) :
    violationRatio cost threshold ≤ violationRatio cost' threshold' :=
  roundTo_le_roundTo (by decide) (by decide) (div_nonneg hpos hcost)
    (div_le_div hpos hpos' hthresholds hcost hcosts)

theorem one_le_violationRatio (hpos : 0.0 < threshold) (h : threshold < cost) :
    1.0 ≤ violationRatio cost threshold := by
  have hthreshold := isPositive_of_lt hpos h
  have hquotient : 1.0 ≤ cost / threshold :=
    le_trans (div_self hthreshold).2
      (div_le_div hthreshold hpos (le_self_of_pos hpos) (le_of_lt hpos) (le_of_lt h))
  have hround : roundTo 1.0 4 ≤ violationRatio cost threshold :=
    roundTo_le_roundTo (by decide) (by decide) (le_of_lt zero_lt_one) hquotient
  rwa [roundTo_one] at hround

end Lawful

end CostGate
