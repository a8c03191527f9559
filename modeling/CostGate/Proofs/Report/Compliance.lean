import CostGate.Proofs.Gate.Verdict
import CostGate.Report.Basic

/-!
# The verdict of a report

A report has one level, the worst thing that the counters of the summary know of, and says whether
the project complies. Under valid limits both can be told from the components: from their zones,
and from the costs above the threshold. Emergency action is never required of a project that
complies.
-/
namespace CostGate

open Number

variable {α : Type}

theorem Level.name_inj {k l : Level} : k.name = l.name ↔ k = l := by
  cases k <;> cases l <;> simp [name]

namespace Summary

variable {s : Summary α}

theorem level_eq_emergency_iff : s.level = .emergency ↔ s.emergencyAction = true := by
  unfold level
  split_ifs with hemergency <;> simp [hemergency]

section Counters

variable (h : s.emergencyAction = true → 0 < s.violations)
include h

theorem level_exceeded_iff :
    s.level = .governance ∨ s.level = .emergency ↔ 0 < s.violations := by
  unfold level
  split_ifs with hemergency hviolations hwarning
  · simp [h hemergency]
  · simp [hviolations]
  · simp [hviolations]
  · simp [hviolations]

theorem level_eq_warning_iff : s.level = .warning ↔ s.violations = 0 ∧ 0 < s.warningZone := by
  unfold level
  split_ifs with hemergency hviolations hwarning
  · simp [(h hemergency).ne']
  · simp [hviolations.ne']
  · simp [Nat.eq_zero_of_not_pos hviolations, hwarning]
  · simp [hwarning]

theorem level_eq_autonomous_iff : s.level = .autonomous ↔ s.violations = 0 ∧ s.warningZone = 0 := by
  unfold level
  split_ifs with hemergency hviolations hwarning
  · simp [(h hemergency).ne']
  · simp [hviolations.ne']
  · simp [hwarning.ne']
  · simp [Nat.eq_zero_of_not_pos hviolations, Nat.eq_zero_of_not_pos hwarning]

end Counters

theorem compliant_iff : s.compliance.compliant = true ↔ s.violations = 0 := by
  simp [compliance]

end Summary

variable {as : List (Assessment α)} {z : Zone}

theorem countZone_pos_iff : 0 < countZone z as ↔ ∃ a ∈ as, a.zone = z := by
  simp [countZone, List.countP_pos_iff]

theorem forall_autonomous_iff :
    (∀ a ∈ as, a.zone = .autonomous) ↔
      countZone .governance as = 0 ∧ countZone .warning as = 0 := by
  have hall : (∀ a ∈ as, a.zone = .autonomous) ↔ countZone .autonomous as = as.length := by
    simp [countZone, List.countP_eq_length]
  have hadd := countZone_add as
  rw [hall]
  omega

/-- What the verdict of a report says of the components and the threshold of its evaluation. -/
structure Report.Reflects [Quantity α] (r : Report α) (limits : Limits α)
    (components : List (String × α)) (threshold : α) : Prop where
  assessed : r.components = components.map fun c => limits.assess c.1 c.2 threshold
  autonomous_iff : r.compliance.level = "autonomous" ↔ ∀ a ∈ r.components, a.zone = .autonomous
  warning_iff : r.compliance.level = "warning" ↔
    (∀ c ∈ components, ¬ threshold < c.2) ∧ ∃ a ∈ r.components, a.zone = .warning
  exceeded_iff : r.compliance.level = "governance" ∨ r.compliance.level = "emergency" ↔
    ∃ c ∈ components, threshold < c.2
  emergency_iff : r.compliance.level = "emergency" ↔ r.compliance.emergencyAction = true
  compliant_iff : r.compliance.compliant = true ↔ ∀ c ∈ components, ¬ threshold < c.2
  /-- The summary and the verdict agree on emergency action. -/
  emergencyAction_eq : r.compliance.emergencyAction = r.summary.emergencyAction
  compliant_calm : r.compliance.compliant = true → r.compliance.emergencyAction = false

section Evaluation

variable [Quantity α] {limits : Limits α} {components : List (String × α)} {threshold : α}
  {filesScanned : ℕ}

theorem summary_violations_pos_iff :
    0 < (limits.evaluationOf components threshold filesScanned).summary.violations ↔
      ∃ c ∈ components, threshold < c.2 := by
  rw [summary_violations, List.countP_pos_iff]
  simp only [decide_eq_true_eq]

theorem summary_violations_eq_zero_iff :
    (limits.evaluationOf components threshold filesScanned).summary.violations = 0 ↔
      ∀ c ∈ components, ¬ threshold < c.2 := by
  rw [summary_violations, List.countP_eq_zero]
  simp only [decide_eq_true_eq]

/-- Valid limits do not require emergency action without violations: it would fail every run, and
no run without violations is failed. -/
theorem violations_pos_of_emergencyAction [LawfulQuantity α] (hordered : limits.Ordered)
    (h : (limits.evaluationOf components threshold filesScanned).summary.emergencyAction = true) :
    0 < (limits.evaluationOf components threshold filesScanned).summary.violations := by
  have hfails : (limits.evaluationOf components threshold filesScanned).summary.fails .ci none =
      true :=
    Summary.fails_iff.2 (.inl h)
  obtain ⟨cost, hcost, hexceeds⟩ :=
    exists_violation hordered ((fails_evaluationOf_iff hordered).1 hfails)
  obtain ⟨c, hc, rfl⟩ := List.mem_map.1 hcost
  exact summary_violations_pos_iff.2 ⟨c, hc, hexceeds⟩

theorem forall_assessed_autonomous_iff :
    (∀ a ∈ (limits.evaluationOf components threshold filesScanned).assessments,
      a.zone = .autonomous) ↔
      (limits.evaluationOf components threshold filesScanned).summary.violations = 0 ∧
        (limits.evaluationOf components threshold filesScanned).summary.warningZone = 0 := by
  have hgovernance : countZone .governance
      (limits.evaluationOf components threshold filesScanned).assessments =
        (limits.evaluationOf components threshold filesScanned).summary.violations :=
    countZone_governance.trans summary_violations.symm
  rw [forall_autonomous_iff, hgovernance]
  rfl

theorem reflects_evaluationOf [LawfulQuantity α] (hordered : limits.Ordered)
    (header : ReportHeader α) :
    (Report.ofEvaluation (limits.evaluationOf components threshold filesScanned) header).Reflects
      limits components threshold := by
  let s := (limits.evaluationOf components threshold filesScanned).summary
  have hemergency : s.emergencyAction = true → 0 < s.violations :=
    violations_pos_of_emergencyAction hordered
  have hlevel : ∀ l : Level, s.compliance.level = l.name ↔ s.level = l := by
    intro l
    exact Level.name_inj
  exact
    { assessed := rfl
      autonomous_iff := (hlevel .autonomous).trans <|
        (Summary.level_eq_autonomous_iff hemergency).trans forall_assessed_autonomous_iff.symm
      warning_iff := (hlevel .warning).trans <|
        (Summary.level_eq_warning_iff hemergency).trans <|
          and_congr summary_violations_eq_zero_iff countZone_pos_iff
      exceeded_iff := (or_congr (hlevel .governance) (hlevel .emergency)).trans <|
        (Summary.level_exceeded_iff hemergency).trans summary_violations_pos_iff
      emergency_iff := (hlevel .emergency).trans Summary.level_eq_emergency_iff
      compliant_iff := Summary.compliant_iff.trans summary_violations_eq_zero_iff
      emergencyAction_eq := rfl
      compliant_calm := by
        intro hcompliant
        have hnone : s.violations = 0 := Summary.compliant_iff.1 hcompliant
        apply Bool.eq_false_iff.2
        intro hrequired
        exact (hemergency hrequired).ne' hnone }

end Evaluation

/-- The level and the compliance that are reported for doubles match the components, whatever
limits a valid configuration has. -/
theorem report_reflects {config : Config Float} (hvalid : config.fault? = none)
    {components : List (String × Float)} {threshold : Float} {filesScanned : ℕ}
    {ev : Evaluation Float}
    (hev : config.limits.evaluate components threshold filesScanned = .ok ev)
    (header : ReportHeader Float) :
    (Report.ofEvaluation ev header).Reflects config.limits components threshold := by
  obtain ⟨-, rfl⟩ := evaluate_eq_ok_iff.1 hev
  exact reflects_evaluationOf (Config.ordered_of_fault? hvalid) header

def lenient : Config Float :=
  { Config.default Float with limits := ⟨0.5, 1.5, 2.0, 5, 100.0⟩ }

/-- One component in each zone, and a violation that takes no emergency action. -/
theorem report_reflects_governance :
    ∃ ev, lenient.limits.evaluate [("core", 1.3), ("io", 0.55), ("ui", 0.2)] 0.6 7 = .ok ev ∧
      ∃ r, r = Report.ofEvaluation ev (.ofContext ⟨.ci, "main"⟩ 0.6 0.5 "2026-01-15T09:30:00Z") ∧
        r.Reflects lenient.limits [("core", 1.3), ("io", 0.55), ("ui", 0.2)] 0.6 ∧
        r.compliance = ⟨false, false, "governance"⟩ := by
  have hvalid : lenient.fault? = none := by decide +kernel
  obtain ⟨ev, hev⟩ : ∃ ev,
      lenient.limits.evaluate [("core", 1.3), ("io", 0.55), ("ui", 0.2)] 0.6 7 = .ok ev :=
    ⟨_, evaluate_eq_ok_iff.2 ⟨⟨by decide, by decide⟩, rfl⟩⟩
  refine ⟨ev, hev, _, rfl, report_reflects hvalid hev _, ?_⟩
  rw [(evaluate_eq_ok_iff.1 hev).2]
  decide +kernel

end CostGate
