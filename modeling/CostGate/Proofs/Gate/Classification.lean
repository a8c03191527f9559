import CostGate.Proofs.Gate.Assessment
import CostGate.Proofs.Number.Doubles
import CostGate.Proofs.Number.Exact

/-!
# Classification

Neither a higher cost nor a stricter threshold lowers the zone or the severity of a component. The
zone compares the cost with the threshold and the autonomous limit, the severity compares the
rounded ratio with the two multipliers; no order among these four limits is needed.
-/
namespace CostGate

open Number Number.LawfulQuantity

theorem Zone.le_governance (z : Zone) : z ≤ .governance := by
  cases z <;> decide

theorem Severity.autonomous_le (s : Severity) : .autonomous ≤ s := Nat.zero_le s.rank

theorem Severity.le_emergency (s : Severity) : s ≤ .emergency := by
  cases s <;> decide

variable {α : Type} [Quantity α] {limits : Limits α} {cost cost' threshold threshold' : α}

theorem Limits.warning_le_severityOfRatio (ratio : α) :
    .warning ≤ limits.severityOfRatio ratio := by
  rw [severityOfRatio]
  split_ifs <;> decide

section Lawful

variable [LawfulQuantity α]

theorem Limits.zone_le_zone (hcosts : cost ≤ cost') (hthresholds : threshold' ≤ threshold) :
    limits.zone cost threshold ≤ limits.zone cost' threshold' := by
  by_cases hexceeds' : threshold' < cost'
  · rw [zone_eq_governance_iff.2 hexceeds']
    exact Zone.le_governance _
  have hexceeds : ¬ threshold < cost := by
    intro h
    exact hexceeds' (lt_of_le_of_lt hthresholds (lt_of_lt_of_le h hcosts))
  rw [zone, zone, if_neg hexceeds, if_neg hexceeds']
  by_cases hautonomous' : cost' ≤ limits.autonomous
  · rw [if_pos hautonomous', if_pos (le_trans hcosts hautonomous')]
    decide
  · rw [if_neg hautonomous']
    split_ifs <;> decide

theorem Limits.severityOfRatio_le_severityOfRatio {ratio ratio' : α} (h : ratio ≤ ratio') :
    limits.severityOfRatio ratio ≤ limits.severityOfRatio ratio' := by
  by_cases hemergency' : limits.emergencyMultiplier ≤ ratio'
  · have hseverity' : limits.severityOfRatio ratio' = .emergency := by
      rw [severityOfRatio, if_pos hemergency']
    rw [hseverity']
    exact Severity.le_emergency _
  have hemergency : ¬ limits.emergencyMultiplier ≤ ratio := by
    intro hle
    exact hemergency' (le_trans hle h)
  rw [severityOfRatio, severityOfRatio, if_neg hemergency, if_neg hemergency']
  by_cases hcritical : limits.criticalMultiplier ≤ ratio
  · rw [if_pos hcritical, if_pos (le_trans hcritical h)]
    decide
  · rw [if_neg hcritical]
    split_ifs <;> decide

/-- The severity follows the zone, and the ratio where both zones are the governance zone. -/
theorem Limits.severityIn_le_severityIn {z z' : Zone} (hz : z ≤ z')
    (hratio : z = .governance → violationRatio cost threshold ≤ violationRatio cost' threshold') :
    limits.severityIn cost threshold z ≤ limits.severityIn cost' threshold' z' := by
  cases z with
  | autonomous => exact Severity.autonomous_le _
  | warning =>
    cases z' with
    | autonomous => exact absurd hz (by decide)
    | warning => exact Nat.le_refl _
    | governance => exact warning_le_severityOfRatio _
  | governance =>
    cases z' with
    | autonomous => exact absurd hz (by decide)
    | warning => exact absurd hz (by decide)
    | governance => exact severityOfRatio_le_severityOfRatio (hratio rfl)

/-- In exact arithmetic and on doubles alike, a costlier component under a stricter threshold is
classified no lower. -/
theorem assess_monotone (limits : Limits α) (path path' : String) (hcost : 0.0 ≤ cost)
    (hcosts : cost ≤ cost') (hpos' : 0.0 < threshold') (hthresholds : threshold' ≤ threshold) :
    (limits.assess path cost threshold).zone ≤ (limits.assess path' cost' threshold').zone ∧
      (limits.assess path cost threshold).severity ≤
        (limits.assess path' cost' threshold').severity := by
  have hzones : limits.zone cost threshold ≤ limits.zone cost' threshold' :=
    Limits.zone_le_zone hcosts hthresholds
  refine ⟨hzones, Limits.severityIn_le_severityIn hzones fun hgovernance => ?_⟩
  have hexceeds := Limits.zone_eq_governance_iff.1 hgovernance
  have hpos := isPositive_of_lt (lt_of_lt_of_le hpos' hthresholds) hexceeds
  exact violationRatio_le_violationRatio hcost hcosts hpos hpos' hthresholds

end Lawful

/-- Limits that no configuration may have: emergencies begin below what is critical, and both
thresholds lie below the autonomous limit. A ratio that reaches the critical multiplier stays an
emergency. -/
theorem assess_monotone_crossed :
    ((⟨1 / 2, 3, 2, 5, 15⟩ : Limits ℚ).assess "core" (4 / 5) (2 / 5)).severity = .emergency ∧
      ((⟨1 / 2, 3, 2, 5, 15⟩ : Limits ℚ).assess "core" (4 / 5) (2 / 5)).zone ≤
        ((⟨1 / 2, 3, 2, 5, 15⟩ : Limits ℚ).assess "core" (9 / 10) (3 / 10)).zone ∧
      ((⟨1 / 2, 3, 2, 5, 15⟩ : Limits ℚ).assess "core" (4 / 5) (2 / 5)).severity ≤
        ((⟨1 / 2, 3, 2, 5, 15⟩ : Limits ℚ).assess "core" (9 / 10) (3 / 10)).severity := by
  have hratio : violationRatio (4 / 5 : ℚ) (2 / 5) = 2 := by
    have h := roundTo_natCast 2 4
    norm_num [violationRatio] at h ⊢
    exact h
  have hseverity :
      ((⟨1 / 2, 3, 2, 5, 15⟩ : Limits ℚ).assess "core" (4 / 5) (2 / 5)).severity = .emergency := by
    rw [Limits.severity_assess "core" (by norm_num), hratio, Limits.severityOfRatio,
      if_pos (by norm_num)]
  refine ⟨hseverity, assess_monotone _ "core" "core" ?_ ?_ ?_ ?_⟩
  all_goals norm_num

end CostGate
