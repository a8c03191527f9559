import CostGate.Proofs.Gate.Conservation

/-!
# Tiers of isolation

Whether a violation has to be isolated is told from its severity and from its ratio, and both tiers
are sorted again. The tiers are nevertheless the violations of the report, cut in two: a ratio that
reaches a multiplier makes a violation severe, whichever multiplier is the lower one, so the severe
violations come first.
-/
namespace CostGate

open Number Number.LawfulQuantity

variable {α : Type} [Quantity α]

/-- A list in an order along which a property is never gained is cut in two by the property. -/
theorem filter_append_filter_not {β : Type} {R : β → β → Prop} {p : β → Bool} {xs : List β}
    (hxs : xs.Pairwise R) (hp : ∀ x ∈ xs, ∀ y ∈ xs, R x y → p y = true → p x = true) :
    xs.filter p ++ xs.filter (fun x => !p x) = xs := by
  induction xs with
  | nil => rfl
  | cons x xs ih =>
    obtain ⟨hx, hxs⟩ := List.pairwise_cons.1 hxs
    by_cases hpx : p x = true
    · rw [List.filter_cons_of_pos hpx, List.filter_cons_of_neg (by simpa using hpx),
        List.cons_append, ih hxs]
      intro y hy z hz
      exact hp y (List.mem_cons_of_mem x hy) z (List.mem_cons_of_mem x hz)
    · have hnone : ∀ y ∈ x :: xs, ¬ p y = true := by
        refine List.forall_mem_cons.2 ⟨hpx, fun y hy hpy => hpx ?_⟩
        exact hp x List.mem_cons_self y (List.mem_cons_of_mem x hy) (hx y hy) hpy
      rw [List.filter_eq_nil_iff.2 hnone, List.nil_append]
      exact List.filter_eq_self.2 fun y hy => by simpa using hnone y hy

/-- A violation is severe if it is critical or an emergency. -/
def Violation.isSevere (v : Violation α) : Bool :=
  v.severity = .critical ∨ v.severity = .emergency

variable {limits : Limits α} {components : List (String × α)} {threshold : α} {filesScanned : ℕ}

theorem Limits.isSevere_violation {c : String × α} :
    (limits.violation threshold c).isSevere = true ↔
      limits.emergencyMultiplier ≤ (limits.violation threshold c).ratio ∨
        limits.criticalMultiplier ≤ (limits.violation threshold c).ratio := by
  rw [Violation.isSevere, decide_eq_true_iff]
  exact limits.severe_iff

omit [Quantity α] in
theorem Violation.critical_le_severity_iff {v : Violation α} :
    .critical ≤ v.severity ↔ v.isSevere = true := by
  rw [isSevere, decide_eq_true_iff]
  cases v.severity <;> decide

/-- The ratio isolates nothing that its severity does not isolate. -/
theorem Limits.mustIsolate_violation {c : String × α} :
    limits.mustIsolate (limits.violation threshold c) =
      (limits.violation threshold c).isSevere := by
  rw [Bool.eq_iff_iff, mustIsolate, Bool.or_eq_true, decide_eq_true_iff, decide_eq_true_iff,
    Violation.critical_le_severity_iff, isSevere_violation]
  constructor
  · rintro (hsevere | hcritical)
    · exact hsevere
    · exact .inr hcritical
  · exact .inl

theorem Limits.isSevere_of_precedes [LawfulQuantity α] {c d : String × α}
    (h : (limits.violation threshold c).Precedes (limits.violation threshold d))
    (hsevere : (limits.violation threshold d).isSevere = true) :
    (limits.violation threshold c).isSevere = true := by
  have hle : (limits.violation threshold d).ratio ≤ (limits.violation threshold c).ratio := by
    rcases h with hlt | ⟨hle, -, -⟩
    · exact le_of_lt hlt
    · exact hle
  rw [isSevere_violation] at *
  exact hsevere.imp (fun h => le_trans h hle) fun h => le_trans h hle

theorem Limits.severity_violation (c : String × α) :
    (limits.violation threshold c).isSevere = true ∨
      (limits.violation threshold c).severity = .warning := by
  have hne : (limits.violation threshold c).severity ≠ .autonomous :=
    severityOfRatio_ne_autonomous _
  rw [Violation.isSevere, decide_eq_true_iff]
  cases hseverity : (limits.violation threshold c).severity <;> simp_all

/-- The tiers of an evaluation, as its violations and counters have them. -/
structure Evaluation.Tiered (ev : Evaluation α) : Prop where
  append_eq : ev.isolation.mustIsolate ++ ev.isolation.shouldReview = ev.violations
  mustIsolate_eq : ev.isolation.mustIsolate = ev.violations.filter (·.isSevere)
  length_mustIsolate : ev.isolation.mustIsolate.length =
    ev.summary.critical + ev.summary.emergency
  severity_eq : ∀ v ∈ ev.isolation.shouldReview, v.severity = .warning

section Lawful

variable [LawfulQuantity α]

theorem sort_violationsAmong_pairwise (limits : Limits α)
    (h : Acceptable components threshold) :
    (Violation.sort (limits.violationsAmong components threshold)).Pairwise
      Violation.Precedes := by
  have haccounts : (limits.evaluationOf components threshold 0).Accounts components threshold :=
    accounts_evaluationOf h
  exact haccounts.ordered

/-- Severity alone tells the tiers, and neither has to be sorted again. -/
theorem isolate_eq (h : Acceptable components threshold) :
    limits.isolate (Violation.sort (limits.violationsAmong components threshold)) =
      ⟨(Violation.sort (limits.violationsAmong components threshold)).filter (·.isSevere),
        (Violation.sort (limits.violationsAmong components threshold)).filter
          fun v => !v.isSevere⟩ := by
  have hsorted := sort_violationsAmong_pairwise limits h
  have hsevere : ∀ v ∈ Violation.sort (limits.violationsAmong components threshold),
      limits.mustIsolate v = v.isSevere := by
    intro v hv
    obtain ⟨c, -, -, rfl⟩ := Limits.mem_violationsAmong.1 (Violation.mem_sort.1 hv)
    exact Limits.mustIsolate_violation
  rw [Limits.isolate, List.filter_congr hsevere,
    List.filter_congr fun v hv => congrArg (! ·) (hsevere v hv),
    Violation.sort_of_pairwise (hsorted.filter _), Violation.sort_of_pairwise (hsorted.filter _)]

theorem tiered_evaluationOf (h : Acceptable components threshold) :
    (limits.evaluationOf components threshold filesScanned).Tiered := by
  have hof : ∀ v ∈ Violation.sort (limits.violationsAmong components threshold),
      ∃ c, limits.violation threshold c = v := by
    intro v hv
    obtain ⟨c, -, -, hc⟩ := Limits.mem_violationsAmong.1 (Violation.mem_sort.1 hv)
    exact ⟨c, hc⟩
  rw [Limits.evaluationOf, isolate_eq h]
  constructor
  · refine filter_append_filter_not (sort_violationsAmong_pairwise limits h) fun v hv w hw hvw => ?_
    obtain ⟨c, rfl⟩ := hof v hv
    obtain ⟨d, rfl⟩ := hof w hw
    exact Limits.isSevere_of_precedes hvw
  · rfl
  · dsimp only [Limits.summarize]
    rw [countSeverity_add, List.countP_eq_length_filter]
    rfl
  · intro v hv
    obtain ⟨hv, hmild⟩ := List.mem_filter.1 hv
    obtain ⟨c, rfl⟩ := hof v hv
    exact (Limits.severity_violation c).resolve_left (by simpa using hmild)

end Lawful

/-- The violations of every evaluation of doubles are those to be isolated, followed by those to be
reviewed. The former are the severe ones and are counted as such; the latter are warnings. -/
theorem evaluate_tiers {limits : Limits Float} {components : List (String × Float)}
    {threshold : Float} {filesScanned : ℕ} {ev : Evaluation Float}
    (hev : limits.evaluate components threshold filesScanned = .ok ev) :
    ev.violations = ev.isolation.mustIsolate ++ ev.isolation.shouldReview ∧
      ev.isolation.mustIsolate = ev.violations.filter (fun v =>
        v.severity = .critical ∨ v.severity = .emergency) ∧
      ev.isolation.mustIsolate.length = ev.summary.critical + ev.summary.emergency ∧
      ∀ v ∈ ev.isolation.shouldReview, v.severity = .warning := by
  obtain ⟨hacceptable, rfl⟩ := evaluate_eq_ok_iff.1 hev
  have h : (limits.evaluationOf components threshold filesScanned).Tiered :=
    tiered_evaluationOf hacceptable
  exact ⟨h.append_eq.symm, h.mustIsolate_eq, h.length_mustIsolate, h.severity_eq⟩

/-- Limits that no configuration may have: emergencies begin below what is critical. -/
theorem evaluate_tiers_crossed :
    ∃ ev, ({ Limits.default Float with criticalMultiplier := 3.0 }).evaluate
        [("io", 0.7), ("core", 1.3), ("api", 2.5), ("io", 0.7)] 0.6 4 = .ok ev ∧
      ev.isolation.mustIsolate.map (·.path) = ["api", "core"] ∧
      ev.violations = ev.isolation.mustIsolate ++ ev.isolation.shouldReview ∧
      ev.isolation.mustIsolate.length = ev.summary.critical + ev.summary.emergency := by
  have hev : ({ Limits.default Float with criticalMultiplier := 3.0 }).evaluate
      [("io", 0.7), ("core", 1.3), ("api", 2.5), ("io", 0.7)] 0.6 4 = .ok _ :=
    evaluate_of_acceptable ⟨by decide, by decide⟩
  have h := evaluate_tiers hev
  exact ⟨_, hev, by decide +kernel, h.1, h.2.2.1⟩

end CostGate
