import CostGate.Gate.Decision
import CostGate.Proofs.Gate.Assessment
import CostGate.Proofs.Gate.Order

/-!
# Evaluations

An evaluation that succeeds is a function of the components and the threshold: everything is
assessed, what exceeds the threshold is a violation, and the counters of the summary count just
that. Nothing is lost and nothing is counted twice.
-/
namespace CostGate

open Number Number.LawfulQuantity

variable {α : Type}

theorem countZone_add (as : List (Assessment α)) :
    countZone .autonomous as + countZone .warning as + countZone .governance as = as.length := by
  unfold countZone
  induction as with
  | nil => rfl
  | cons a as ih =>
    rw [List.countP_cons, List.countP_cons, List.countP_cons, List.length_cons]
    cases a.zone <;> simp <;> omega

theorem countSeverity_add (vs : List (Violation α)) :
    countSeverity .critical vs + countSeverity .emergency vs =
      vs.countP fun v => v.severity = .critical ∨ v.severity = .emergency := by
  unfold countSeverity
  induction vs with
  | nil => rfl
  | cons v vs ih =>
    rw [List.countP_cons, List.countP_cons, List.countP_cons, ← ih]
    cases v.severity <;> simp <;> omega

theorem Summary.fails_iff {s : Summary α} {environment : Environment} {choice : Option Bool} :
    s.fails environment choice = true ↔
      s.emergencyAction = true ∨ choice.getD environment.isStrict = true ∧ 0 < s.violations := by
  rw [fails, Bool.or_eq_true, Bool.and_eq_true, decide_eq_true_iff]

variable [Quantity α] {limits : Limits α} {components : List (String × α)} {threshold : α}
  {filesScanned : ℕ} {ev : Evaluation α}

/-- The violations among components, in the order of the components. -/
def Limits.violationsAmong (limits : Limits α) (components : List (String × α)) (threshold : α) :
    List (Violation α) :=
  (components.filter fun c => threshold < c.2).map (limits.violation threshold)

/-- The evaluation of components that are accepted. -/
def Limits.evaluationOf (limits : Limits α) (components : List (String × α)) (threshold : α)
    (filesScanned : ℕ) : Evaluation α :=
  let as := components.map fun c => limits.assess c.1 c.2 threshold
  let vs := Violation.sort (limits.violationsAmong components threshold)
  ⟨vs, as, limits.summarize as vs filesScanned, limits.isolate vs⟩

/-- A positive threshold and costs that are not negative. -/
def Acceptable (components : List (String × α)) (threshold : α) : Prop :=
  0.0 < threshold ∧ ∀ c ∈ components, 0.0 ≤ c.2

theorem filterMap_violation? :
    (components.map fun c => limits.assess c.1 c.2 threshold).filterMap
      (·.violation? threshold) = limits.violationsAmong components threshold := by
  rw [Limits.violationsAmong, List.filterMap_map]
  induction components with
  | nil => rfl
  | cons c cs ih =>
    by_cases h : threshold < c.2
    · rw [List.filterMap_cons_some (b := limits.violation threshold c), ih,
        List.filter_cons_of_pos (by simpa using h), List.map_cons]
      exact (limits.violation?_assess c.1).trans (if_pos h)
    · rw [List.filterMap_cons_none, ih, List.filter_cons_of_neg (by simpa using h)]
      exact (limits.violation?_assess c.1).trans (if_neg h)

section Lawful

variable [LawfulQuantity α]

theorem assessAll_of_nonneg (h : ∀ c ∈ components, 0.0 ≤ c.2) :
    limits.assessAll threshold components =
      .ok (components.map fun c => limits.assess c.1 c.2 threshold) := by
  induction components with
  | nil => rfl
  | cons c cs ih =>
    obtain ⟨hc, hcs⟩ := List.forall_mem_cons.1 h
    rw [Limits.assessAll, isBadCost_eq_false_iff.2 hc, ih hcs]
    rfl

theorem nonneg_of_assessAll {as : List (Assessment α)}
    (h : limits.assessAll threshold components = .ok as) : ∀ c ∈ components, 0.0 ≤ c.2 := by
  induction components generalizing as with
  | nil => simp
  | cons c cs ih =>
    rw [Limits.assessAll] at h
    split_ifs at h with hbad
    cases hrest : limits.assessAll threshold cs with
    | error cause => simp [hrest, Except.map] at h
    | ok rest =>
      exact List.forall_mem_cons.2 ⟨isBadCost_eq_false_iff.1 (by simpa using hbad), ih hrest⟩

theorem evaluate_of_acceptable (h : Acceptable components threshold) :
    limits.evaluate components threshold filesScanned =
      .ok (limits.evaluationOf components threshold filesScanned) := by
  rw [Limits.evaluate, isBadThreshold_eq_false_iff.2 h.1, assessAll_of_nonneg h.2,
    Limits.evaluationOf, ← filterMap_violation?]
  rfl

theorem acceptable_of_evaluate (h : limits.evaluate components threshold filesScanned = .ok ev) :
    Acceptable components threshold := by
  rw [Limits.evaluate] at h
  split_ifs at h with hbad
  cases has : limits.assessAll threshold components with
  | error cause => simp [has, bind, Except.bind] at h
  | ok as => exact ⟨isBadThreshold_eq_false_iff.1 (by simpa using hbad), nonneg_of_assessAll has⟩

theorem evaluate_eq_ok_iff :
    limits.evaluate components threshold filesScanned = .ok ev ↔
      Acceptable components threshold ∧
        ev = limits.evaluationOf components threshold filesScanned := by
  constructor
  · intro h
    have hacceptable := acceptable_of_evaluate h
    rw [evaluate_of_acceptable hacceptable] at h
    exact ⟨hacceptable, (Except.ok.inj h).symm⟩
  · rintro ⟨hacceptable, rfl⟩
    exact evaluate_of_acceptable hacceptable

end Lawful

theorem length_violationsAmong (limits : Limits α) :
    (limits.violationsAmong components threshold).length =
      components.countP fun c => threshold < c.2 := by
  rw [Limits.violationsAmong, List.length_map, List.countP_eq_length_filter]

theorem countZone_governance :
    countZone .governance (components.map fun c => limits.assess c.1 c.2 threshold) =
      components.countP fun c => threshold < c.2 := by
  rw [countZone, List.countP_map]
  refine List.countP_congr fun c _ => ?_
  simp only [Function.comp_apply, Limits.assess, decide_eq_true_eq, Limits.zone_eq_governance_iff]

theorem severe_violationsAmong :
    ((limits.violationsAmong components threshold).countP fun v =>
      v.severity = .critical ∨ v.severity = .emergency) =
      components.countP fun c => threshold < c.2 ∧
        (limits.emergencyMultiplier ≤ violationRatio c.2 threshold ∨
          limits.criticalMultiplier ≤ violationRatio c.2 threshold) := by
  rw [Limits.violationsAmong, List.countP_map, List.countP_filter]
  refine List.countP_congr fun c _ => ?_
  simp only [Function.comp_apply, Limits.violation, Limits.severe_iff, Bool.and_eq_true,
    decide_eq_true_eq, and_comm]

section Summary

/-- The percentage of violations before it is rounded for the report. -/
def exactPercentage (components : List (String × α)) (threshold : α) : α :=
  percentage (components.countP fun c => threshold < c.2) components.length

theorem summary_violations :
    (limits.evaluationOf components threshold filesScanned).summary.violations =
      components.countP fun c => threshold < c.2 := by
  rw [← length_violationsAmong limits, ← Violation.length_sort]
  rfl

theorem summary_severe :
    (limits.evaluationOf components threshold filesScanned).summary.critical +
        (limits.evaluationOf components threshold filesScanned).summary.emergency =
      components.countP fun c => threshold < c.2 ∧
        (limits.emergencyMultiplier ≤ violationRatio c.2 threshold ∨
          limits.criticalMultiplier ≤ violationRatio c.2 threshold) := by
  rw [← severe_violationsAmong, ← (Violation.sort_perm _).countP_eq, ← countSeverity_add]
  rfl

theorem percentage_violations (limits : Limits α) :
    (percentage (Violation.sort (limits.violationsAmong components threshold)).length
      (components.map fun c => limits.assess c.1 c.2 threshold).length : α) =
      exactPercentage components threshold := by
  rw [Violation.length_sort, length_violationsAmong, List.length_map, exactPercentage]

theorem summary_percentage :
    (limits.evaluationOf components threshold filesScanned).summary.percentage =
      roundTo (exactPercentage components threshold) 2 := by
  rw [← percentage_violations limits]
  rfl

theorem summary_emergencyAction :
    (limits.evaluationOf components threshold filesScanned).summary.emergencyAction = true ↔
      limits.emergencyCount ≤
          (limits.evaluationOf components threshold filesScanned).summary.critical +
            (limits.evaluationOf components threshold filesScanned).summary.emergency ∨
        limits.emergencyPercentage ≤ exactPercentage components threshold := by
  rw [← percentage_violations limits]
  change (decide _ || decide _) = true ↔ _
  rw [Bool.or_eq_true, decide_eq_true_iff, decide_eq_true_iff]
  rfl

end Summary

section Lawful

variable [LawfulQuantity α] {part part' whole : ℕ}

theorem positive_ofCount (hfinite : isFinite (ofCount whole : α) = true) (h : whole ≠ 0) :
    isPositive (ofCount whole : α) = true :=
  isPositive_iff.2 ⟨hfinite, ofCount_pos (Nat.pos_of_ne_zero h)⟩

theorem percentage_zero : (percentage 0 whole : α) = 0.0 := by
  rw [percentage]
  split_ifs with h
  · rfl
  · rw [ofCount_zero, LawfulQuantity.zero_div (ofCount_pos (Nat.pos_of_ne_zero h)),
      LawfulQuantity.zero_mul positive_hundred]

theorem percentage_mono (hfinite : isFinite (ofCount whole : α) = true) (h : part ≤ part') :
    (percentage part whole : α) ≤ percentage part' whole := by
  rw [percentage, percentage]
  split_ifs with hwhole
  · exact le_self defined_zero
  · have hpositive := positive_ofCount hfinite hwhole
    have hpos := (isPositive_iff.1 hpositive).2
    have hquotient := div_le_div hpositive hpos (le_self_of_pos hpos) ofCount_nonneg
      (ofCount_le_ofCount h)
    exact mul_le_mul positive_hundred (div_nonneg hpositive ofCount_nonneg) hquotient

theorem percentage_nonneg (hfinite : isFinite (ofCount whole : α) = true) :
    (0.0 : α) ≤ percentage part whole := by
  have h := percentage_mono hfinite (Nat.zero_le part)
  rwa [percentage_zero] at h

theorem percentage_le_hundred (hfinite : isFinite (ofCount whole : α) = true)
    (h : part ≤ whole) : (percentage part whole : α) ≤ 100.0 := by
  refine le_trans (percentage_mono hfinite h) ?_
  rw [percentage]
  split_ifs with hwhole
  · exact le_of_lt (isPositive_iff.1 positive_hundred).2
  · have hpositive := positive_ofCount hfinite hwhole
    have hquotient := div_nonneg hpositive ofCount_nonneg (x := ofCount whole)
    have hscaled := mul_le_mul positive_hundred hquotient (div_self hpositive).1
    rwa [one_mul_hundred] at hscaled

end Lawful

end CostGate
