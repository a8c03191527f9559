import CostGate.Proofs.Gate.Evaluation
import CostGate.Proofs.Number.Doubles

/-!
# Conservation

An evaluation accounts for its components: the assessments are the components, the violations are
those above the threshold, and the counters add up.
-/
namespace CostGate

open Number Number.LawfulQuantity

/-- What an evaluation has to say of the components and the threshold it was given. -/
structure Evaluation.Accounts {α : Type} [Quantity α] (ev : Evaluation α)
    (components : List (String × α)) (threshold : α) : Prop where
  /-- One assessment for each component, in order. -/
  assessed : ev.assessments.map (fun a => (a.path, a.cost)) = components
  /-- The violations are the assessed components above the threshold, with their severities. -/
  violating : (ev.violations.map fun v => (v.path, v.cost, v.severity)).Perm
    ((ev.assessments.filter fun a => threshold < a.cost).map fun a => (a.path, a.cost, a.severity))
  threshold_eq : ∀ v ∈ ev.violations, v.threshold = threshold
  severity_ne : ∀ v ∈ ev.violations, v.severity ≠ .autonomous
  one_le_ratio : ∀ v ∈ ev.violations, 1.0 ≤ v.ratio
  ordered : ev.violations.Pairwise Violation.Precedes
  zones_add : ev.summary.autonomous + ev.summary.warningZone + ev.summary.violations =
    ev.summary.components
  components_eq : ev.summary.components = components.length
  violations_eq : ev.summary.violations = ev.violations.length
  severe_le : ev.summary.critical + ev.summary.emergency ≤ ev.summary.violations
  percentage_nil : components = [] → ev.summary.percentage = 0.0

variable {α : Type} [Quantity α] {limits : Limits α} {components : List (String × α)}
  {threshold : α} {filesScanned : ℕ}

theorem Limits.mem_violationsAmong {v : Violation α} :
    v ∈ limits.violationsAmong components threshold ↔
      ∃ c ∈ components, threshold < c.2 ∧ limits.violation threshold c = v := by
  simp [violationsAmong, and_assoc]

theorem map_violationsAmong :
    (limits.violationsAmong components threshold).map (fun v => (v.path, v.cost, v.severity)) =
      ((components.map fun c => limits.assess c.1 c.2 threshold).filter fun a =>
        threshold < a.cost).map fun a => (a.path, a.cost, a.severity) := by
  rw [Limits.violationsAmong, List.map_map, List.filter_map, List.map_map]
  refine List.map_congr_left fun c hc => ?_
  have hlt : threshold < c.2 := by simpa using List.of_mem_filter hc
  simp only [Function.comp_apply, limits.severity_assess c.1 hlt]
  rfl

theorem accounts_evaluationOf [LawfulQuantity α] (h : Acceptable components threshold) :
    (limits.evaluationOf components threshold filesScanned).Accounts components threshold where
  assessed := by
    rw [Limits.evaluationOf, List.map_map]
    exact List.map_id components
  violating := by
    rw [Limits.evaluationOf]
    dsimp only
    rw [← map_violationsAmong]
    exact (Violation.sort_perm _).map _
  threshold_eq v hv := by
    obtain ⟨c, -, -, rfl⟩ := Limits.mem_violationsAmong.1 (Violation.mem_sort.1 hv)
    rfl
  severity_ne v hv := by
    obtain ⟨c, -, -, rfl⟩ := Limits.mem_violationsAmong.1 (Violation.mem_sort.1 hv)
    exact Limits.severityOfRatio_ne_autonomous _
  one_le_ratio v hv := by
    obtain ⟨c, -, hlt, rfl⟩ := Limits.mem_violationsAmong.1 (Violation.mem_sort.1 hv)
    exact one_le_violationRatio h.1 hlt
  ordered := by
    refine Violation.sort_pairwise fun v hv => ?_
    obtain ⟨c, -, hlt, rfl⟩ := Limits.mem_violationsAmong.1 hv
    exact (defined_of_le (one_le_violationRatio h.1 hlt)).2
  zones_add := by
    have hzones := countZone_add (components.map fun c => limits.assess c.1 c.2 threshold)
    rw [countZone_governance, ← length_violationsAmong limits] at hzones
    simpa [Limits.evaluationOf, Limits.summarize] using hzones
  components_eq := List.length_map _
  violations_eq := rfl
  severe_le := by
    rw [Limits.evaluationOf, Limits.summarize]
    dsimp only
    rw [countSeverity_add]
    exact List.countP_le_length
  percentage_nil hnil := by
    subst hnil
    exact roundTo_zero (by decide) (by decide)

theorem percentage_evaluationOf [LawfulQuantity α]
    (hfinite : isFinite (ofCount components.length : α) = true) :
    0.0 ≤ (limits.evaluationOf components threshold filesScanned).summary.percentage ∧
      (limits.evaluationOf components threshold filesScanned).summary.percentage ≤ 100.0 := by
  have hcount : (components.countP fun c => threshold < c.2) ≤ components.length :=
    List.countP_le_length
  have hhundred : roundTo (exactPercentage components threshold) 2 ≤ roundTo 100.0 2 :=
    roundTo_le_roundTo (by decide) (by decide) (percentage_nonneg hfinite)
      (percentage_le_hundred hfinite hcount)
  rw [roundTo_hundred] at hhundred
  rw [summary_percentage]
  exact ⟨roundTo_nonneg (by decide) (by decide) (percentage_nonneg hfinite), hhundred⟩

/-- Doubles are evaluated if the threshold is positive and no cost is undefined or negative. The
evaluation then accounts for all components. The length of a list in memory fits into sixty-four
bits, which keeps the count of the percentage finite. -/
theorem evaluate_conserves (limits : Limits Float) (components : List (String × Float))
    (threshold : Float) (filesScanned : ℕ) :
    ((∃ ev, limits.evaluate components threshold filesScanned = .ok ev) ↔
      0.0 < threshold ∧ ∀ c ∈ components, c.2.isNaN = false ∧ ¬ c.2 < 0.0) ∧
    ∀ ev, limits.evaluate components threshold filesScanned = .ok ev →
      ev.Accounts components threshold ∧
        (components.length < 2 ^ 64 →
          0.0 ≤ ev.summary.percentage ∧ ev.summary.percentage ≤ 100.0) := by
  have hcost : ∀ x : Float, 0.0 ≤ x ↔ x.isNaN = false ∧ ¬ x < 0.0 := by
    intro x
    rw [← isBadCost_eq_false_iff, isBadCost, Bool.or_eq_false_iff, decide_eq_false_iff_not]
    rfl
  refine ⟨?_, fun ev hev => ?_⟩
  · simp only [evaluate_eq_ok_iff, Acceptable, hcost]
    constructor
    · rintro ⟨ev, hacceptable, -⟩
      exact hacceptable
    · intro hacceptable
      exact ⟨_, hacceptable, rfl⟩
  · obtain ⟨hacceptable, rfl⟩ := evaluate_eq_ok_iff.1 hev
    exact ⟨accounts_evaluationOf hacceptable,
      fun hlength => percentage_evaluationOf (Double.isFinite_ofNat hlength)⟩

theorem evaluate_conserves_mixed :
    ∃ ev, (Limits.default Float).evaluate [("core", 1.3), ("api", 0.2), ("io", 0.55)] 0.6 7 =
        .ok ev ∧
      ev.Accounts [("core", 1.3), ("api", 0.2), ("io", 0.55)] 0.6 ∧
      0.0 ≤ ev.summary.percentage ∧ ev.summary.percentage ≤ 100.0 := by
  have h := evaluate_conserves (Limits.default Float) [("core", 1.3), ("api", 0.2), ("io", 0.55)]
    0.6 7
  obtain ⟨ev, hev⟩ := h.1.2 ⟨by decide, by decide⟩
  exact ⟨ev, hev, (h.2 ev hev).1, (h.2 ev hev).2 (by decide)⟩

end CostGate
