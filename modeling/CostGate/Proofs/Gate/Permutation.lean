import CostGate.Proofs.Gate.Conservation

/-!
# The order of the components

Only the assessments of an evaluation are in the order of the components. Violations of different
paths can be reported in one order only, the isolation lists are made from them, and a summary
counts.
-/
namespace CostGate

open Number Number.LawfulQuantity

variable {α : Type} [Quantity α] {limits : Limits α} {cs cs' : List (String × α)} {threshold : α}
  {filesScanned : ℕ}

theorem Limits.summarize_perm {as bs : List (Assessment α)} (h : as.Perm bs)
    (vs : List (Violation α)) (filesScanned : ℕ) :
    limits.summarize as vs filesScanned = limits.summarize bs vs filesScanned := by
  simp only [summarize, countZone, h.countP_eq, h.length_eq]

theorem Limits.violationsAmong_perm (h : cs.Perm cs') :
    (limits.violationsAmong cs threshold).Perm (limits.violationsAmong cs' threshold) :=
  (h.filter _).map _

theorem Limits.map_path_violationsAmong_sublist :
    ((limits.violationsAmong cs threshold).map (·.path)).Sublist (cs.map (·.1)) := by
  rw [violationsAmong, List.map_map]
  exact List.filter_sublist.map _

theorem Limits.sort_violationsAmong_perm [LawfulQuantity α] (h : cs.Perm cs')
    (hnames : (cs.map (·.1)).Nodup) (hacceptable : Acceptable cs threshold) :
    Violation.sort (limits.violationsAmong cs threshold) =
      Violation.sort (limits.violationsAmong cs' threshold) := by
  refine Violation.sort_eq_sort_of_perm (violationsAmong_perm h)
    (hnames.sublist map_path_violationsAmong_sublist) fun v hv => ?_
  obtain ⟨c, -, hlt, rfl⟩ := mem_violationsAmong.1 hv
  exact (defined_of_le (one_le_violationRatio hacceptable.1 hlt)).2

theorem Acceptable.perm (h : cs.Perm cs') (hacceptable : Acceptable cs threshold) :
    Acceptable cs' threshold :=
  ⟨hacceptable.1, fun c hc => hacceptable.2 c (h.mem_iff.2 hc)⟩

/-- Two evaluations that differ in the order of their assessments alone. -/
structure Evaluation.SameUpToOrder (ev ev' : Evaluation α) : Prop where
  violations : ev.violations = ev'.violations
  summary : ev.summary = ev'.summary
  isolation : ev.isolation = ev'.isolation
  assessments : ev.assessments.Perm ev'.assessments

theorem sameUpToOrder_evaluationOf [LawfulQuantity α] (h : cs.Perm cs')
    (hnames : (cs.map (·.1)).Nodup) (hacceptable : Acceptable cs threshold) :
    (limits.evaluationOf cs threshold filesScanned).SameUpToOrder
      (limits.evaluationOf cs' threshold filesScanned) := by
  have hviolations := limits.sort_violationsAmong_perm h hnames hacceptable
  have hassessments := h.map fun c => limits.assess c.1 c.2 threshold
  constructor
  · exact hviolations
  · rw [Limits.evaluationOf, Limits.evaluationOf, hviolations]
    exact Limits.summarize_perm hassessments _ _
  · rw [Limits.evaluationOf, Limits.evaluationOf, hviolations]
  · exact hassessments

/-- The evaluation of components in another order differs in the order of the assessments alone,
and each component takes its assessment along. -/
theorem evaluate_perm (limits : Limits Float) {cs cs' : List (String × Float)}
    (threshold : Float) (filesScanned : ℕ) (h : cs.Perm cs') (hnames : (cs.map (·.1)).Nodup)
    (hpos : 0.0 < threshold) (hcosts : ∀ c ∈ cs, 0.0 ≤ c.2) :
    ∃ ev ev', limits.evaluate cs threshold filesScanned = .ok ev ∧
      limits.evaluate cs' threshold filesScanned = .ok ev' ∧
      ev.violations = ev'.violations ∧ ev.summary = ev'.summary ∧
      ev.isolation = ev'.isolation ∧ ev.assessments.Perm ev'.assessments ∧
      ∀ i j : ℕ, cs[i]? = cs'[j]? → ev.assessments[i]? = ev'.assessments[j]? := by
  have hacceptable : Acceptable cs threshold := ⟨hpos, hcosts⟩
  have hsame : (limits.evaluationOf cs threshold filesScanned).SameUpToOrder
      (limits.evaluationOf cs' threshold filesScanned) :=
    sameUpToOrder_evaluationOf h hnames hacceptable
  refine ⟨_, _, evaluate_of_acceptable hacceptable,
    evaluate_of_acceptable (hacceptable.perm h), hsame.violations, hsame.summary,
    hsame.isolation, hsame.assessments, fun i j hij => ?_⟩
  rw [Limits.evaluationOf, Limits.evaluationOf, List.getElem?_map, List.getElem?_map, hij]

/-- Two components of one cost, whose paths decide in both orders. -/
theorem evaluate_perm_tied :
    ∃ ev ev', (Limits.default Float).evaluate [("net", 0.7), ("core", 1.3), ("io", 0.7)] 0.6 4 =
        .ok ev ∧
      (Limits.default Float).evaluate [("io", 0.7), ("net", 0.7), ("core", 1.3)] 0.6 4 = .ok ev' ∧
      ev.violations = ev'.violations ∧ ev.summary = ev'.summary ∧
      ev.assessments[0]? = ev'.assessments[1]? := by
  have hperm : List.Perm [("net", (0.7 : Float)), ("core", 1.3), ("io", 0.7)]
      [("io", 0.7), ("net", 0.7), ("core", 1.3)] := by
    decide
  obtain ⟨ev, ev', hev, hev', hviolations, hsummary, -, -, hassessments⟩ :=
    evaluate_perm (Limits.default Float) 0.6 4 hperm (by decide) (by decide) (by decide)
  exact ⟨ev, ev', hev, hev', hviolations, hsummary, hassessments 0 1 rfl⟩

end CostGate
