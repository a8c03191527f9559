import CostGate.Proofs.Gate.Evaluation
import CostGate.Proofs.Number.Exact

/-!
# Monotonicity of the gate

Two evaluations of the same components, the second with costs that are no lower and a threshold
that is no higher. Critical violations alone may become fewer, since they turn into emergencies;
but both together do not, and so the second evaluation fails whenever the first one does.
-/
namespace CostGate

open Number Number.LawfulQuantity

variable {α : Type} [Quantity α]

/-- Components of the same names, none of which is cheaper in the second list. -/
def Costlier (cs cs' : List (String × α)) : Prop :=
  List.Forall₂ (fun c c' => c.1 = c'.1 ∧ c.2 ≤ c'.2) cs cs'

/-- A summary that is nowhere worse than a second one. -/
structure Summary.NoWorse (s s' : Summary α) : Prop where
  violations : s.violations ≤ s'.violations
  severe : s.critical + s.emergency ≤ s'.critical + s'.emergency
  percentage : s.percentage ≤ s'.percentage
  emergencyAction : s.emergencyAction = true → s'.emergencyAction = true

theorem Summary.NoWorse.fails {s s' : Summary α} (h : s.NoWorse s') {environment : Environment}
    {choice : Option Bool} (hfails : s.fails environment choice = true) :
    s'.fails environment choice = true := by
  rw [fails_iff] at *
  exact hfails.imp h.emergencyAction fun ⟨hpolicy, hpos⟩ => ⟨hpolicy, hpos.trans_le h.violations⟩

theorem countP_le_countP {β γ : Type} {R : β → γ → Prop} {p : β → Bool} {q : γ → Bool}
    {xs : List β} {ys : List γ} (h : List.Forall₂ R xs ys)
    (hpq : ∀ x y, R x y → p x = true → q y = true) : xs.countP p ≤ ys.countP q := by
  induction h with
  | nil => exact le_rfl
  | @cons x y xs ys hxy _ ih =>
    rw [List.countP_cons, List.countP_cons]
    by_cases hx : p x = true
    · rw [if_pos hx, if_pos (hpq x y hxy hx)]
      omega
    · rw [if_neg hx]
      omega

section Lawful

variable [LawfulQuantity α] {limits : Limits α} {cs cs' : List (String × α)} {t t' : α}
  {files files' : ℕ}

theorem violations_mono (hcosts : Costlier cs cs') (ht : t' ≤ t) :
    (cs.countP fun c => t < c.2) ≤ cs'.countP fun c => t' < c.2 := by
  refine countP_le_countP hcosts fun c c' hc hexceeds => ?_
  rw [decide_eq_true_iff] at *
  exact lt_of_le_of_lt ht (lt_of_lt_of_le hexceeds hc.2)

/-- The ratio of a violation grows, and with it everything that the ratio has reached. -/
theorem severe_mono (hacceptable : Acceptable cs t) (hpos' : 0.0 < t') (hcosts : Costlier cs cs')
    (ht : t' ≤ t) :
    (cs.countP fun c => t < c.2 ∧ (limits.emergencyMultiplier ≤ violationRatio c.2 t ∨
        limits.criticalMultiplier ≤ violationRatio c.2 t)) ≤
      cs'.countP fun c => t' < c.2 ∧ (limits.emergencyMultiplier ≤ violationRatio c.2 t' ∨
        limits.criticalMultiplier ≤ violationRatio c.2 t') := by
  refine countP_le_countP ((List.forall₂_and_left _ _).2 ⟨hacceptable.2, hcosts⟩) ?_
  intro c c' hc hsevere
  obtain ⟨hnonneg, -, hle⟩ := hc
  rw [decide_eq_true_iff] at *
  obtain ⟨hexceeds, hreached⟩ := hsevere
  have hratio : violationRatio c.2 t ≤ violationRatio c'.2 t' :=
    violationRatio_le_violationRatio hnonneg hle (isPositive_of_lt hacceptable.1 hexceeds) hpos' ht
  exact ⟨lt_of_le_of_lt ht (lt_of_lt_of_le hexceeds hle),
    hreached.imp (fun h => le_trans h hratio) fun h => le_trans h hratio⟩

theorem exactPercentage_mono (hfinite : isFinite (ofCount cs.length : α) = true)
    (hcosts : Costlier cs cs') (ht : t' ≤ t) : exactPercentage cs t ≤ exactPercentage cs' t' := by
  rw [exactPercentage, exactPercentage, ← List.Forall₂.length_eq hcosts]
  exact percentage_mono hfinite (violations_mono hcosts ht)

theorem noWorse_evaluationOf (hacceptable : Acceptable cs t) (hpos' : 0.0 < t')
    (hcosts : Costlier cs cs') (ht : t' ≤ t) (hfinite : isFinite (ofCount cs.length : α) = true) :
    (limits.evaluationOf cs t files).summary.NoWorse
      (limits.evaluationOf cs' t' files').summary := by
  have hsevere : (limits.evaluationOf cs t files).summary.critical +
        (limits.evaluationOf cs t files).summary.emergency ≤
      (limits.evaluationOf cs' t' files').summary.critical +
        (limits.evaluationOf cs' t' files').summary.emergency := by
    rw [summary_severe, summary_severe]
    exact severe_mono hacceptable hpos' hcosts ht
  have hpercentage := exactPercentage_mono hfinite hcosts ht
  refine ⟨?_, hsevere, ?_, ?_⟩
  · rw [summary_violations, summary_violations]
    exact violations_mono hcosts ht
  · rw [summary_percentage, summary_percentage]
    exact roundTo_le_roundTo (by decide) (by decide) (percentage_nonneg hfinite) hpercentage
  · rw [summary_emergencyAction, summary_emergencyAction]
    exact Or.imp (fun h => h.trans hsevere) fun h => le_trans h hpercentage

end Lawful

/-- In exact arithmetic, costlier code or a stricter threshold never turns a failing gate into a
passing one. -/
theorem evaluate_monotone {limits : Limits ℚ} {cs cs' : List (String × ℚ)} {t t' : ℚ}
    {files files' : ℕ} {ev ev' : Evaluation ℚ} (hev : limits.evaluate cs t files = .ok ev)
    (hev' : limits.evaluate cs' t' files' = .ok ev')
    (hcosts : List.Forall₂ (fun c c' => c.1 = c'.1 ∧ c.2 ≤ c'.2) cs cs') (ht : t' ≤ t) :
    ev.summary.violations ≤ ev'.summary.violations ∧
      ev.summary.critical + ev.summary.emergency ≤
        ev'.summary.critical + ev'.summary.emergency ∧
      ev.summary.percentage ≤ ev'.summary.percentage ∧
      (ev.summary.emergencyAction = true → ev'.summary.emergencyAction = true) ∧
      ∀ environment choice, ev.summary.fails environment choice = true →
        ev'.summary.fails environment choice = true := by
  obtain ⟨hacceptable, rfl⟩ := evaluate_eq_ok_iff.1 hev
  obtain ⟨hacceptable', rfl⟩ := evaluate_eq_ok_iff.1 hev'
  have h : (limits.evaluationOf cs t files).summary.NoWorse
      (limits.evaluationOf cs' t' files').summary :=
    noWorse_evaluationOf hacceptable hacceptable'.1 hcosts ht rfl
  exact ⟨h.violations, h.severe, h.percentage, h.emergencyAction, fun _ _ => h.fails⟩

theorem evaluate_monotone_stricter :
    ∃ ev ev' : Evaluation ℚ,
      (Limits.default ℚ).evaluate [("core", 7 / 10), ("io", 1 / 2)] (3 / 5) 4 = .ok ev ∧
      (Limits.default ℚ).evaluate [("core", 13 / 10), ("io", 1 / 2)] (2 / 5) 4 = .ok ev' ∧
      ev.summary.percentage ≤ ev'.summary.percentage ∧
      (ev.summary.fails .ci none = true → ev'.summary.fails .ci none = true) := by
  have hev : (Limits.default ℚ).evaluate [("core", 7 / 10), ("io", 1 / 2)] (3 / 5) 4 = _ :=
    evaluate_of_acceptable ⟨by norm_num, by norm_num⟩
  have hev' : (Limits.default ℚ).evaluate [("core", 13 / 10), ("io", 1 / 2)] (2 / 5) 4 = _ :=
    evaluate_of_acceptable ⟨by norm_num, by norm_num⟩
  have h := evaluate_monotone hev hev' (by norm_num) (by norm_num)
  exact ⟨_, _, hev, hev', h.2.2.1, h.2.2.2.2 .ci none⟩

end CostGate
