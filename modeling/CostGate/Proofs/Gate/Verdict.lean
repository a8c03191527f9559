import CostGate.Proofs.Gate.Run
import CostGate.Proofs.Number.Doubles

/-!
# The verdict of a run

A run fails for one of three reasons, each of which can be told from the costs of the components
and the threshold. Under valid limits, none of them holds of a project without violations.
-/
namespace CostGate

open Number Number.LawfulQuantity

variable {α : Type} [Quantity α]

/-- Why costs fail under a threshold: enough of them are critical or worse, or enough are
violations, or there is a violation that the caller or the environment does not accept. -/
def ReasonToFail (limits : Limits α) (costs : List α) (threshold : α) (environment : Environment)
    (choice : Option Bool) : Prop :=
  limits.emergencyCount ≤ (costs.countP fun c =>
      threshold < c ∧ limits.criticalMultiplier ≤ violationRatio c threshold) ∨
    limits.emergencyPercentage ≤ percentage (costs.countP fun c => threshold < c) costs.length ∨
    ((∃ c ∈ costs, threshold < c) ∧
      (choice = some true ∨ choice = none ∧ (environment = .ci ∨ environment = .production)))

/-- What the verdict of a run says of the costs of its components. -/
structure GateVerdict (limits : Limits α) (costs : List α) (threshold : α)
    (environment : Environment) (choice : Option Bool) (fails : Bool) : Prop where
  fails_iff : fails = true ↔ ReasonToFail limits costs threshold environment choice
  /-- A project without violations is never failed. -/
  exceeded : fails = true → ∃ c ∈ costs, threshold < c
  /-- A project that passes in a strict environment has no violations. -/
  compliant : fails = false → choice = none → (environment = .ci ∨ environment = .production) →
    ∀ c ∈ costs, c ≤ threshold

theorem getD_isStrict_iff {environment : Environment} {choice : Option Bool} :
    choice.getD environment.isStrict = true ↔
      choice = some true ∨ choice = none ∧ (environment = .ci ∨ environment = .production) := by
  cases choice with
  | some b => simp
  | none => cases environment <;> simp [Environment.isStrict]

variable {limits : Limits α} {components : List (String × α)} {threshold : α} {filesScanned : ℕ}

theorem violations_eq_countP :
    (components.countP fun c => threshold < c.2) =
      (components.map (·.2)).countP fun c => threshold < c := by
  rw [List.countP_map]
  rfl

theorem limits_evaluate_of_evaluate {c : Collection α} {evaluation : Evaluation α}
    (h : c.evaluate limits threshold = .ok evaluation) :
    limits.evaluate (c.components.map fun k => (k.name, k.cost)) threshold c.files.length =
      .ok evaluation := by
  rw [Collection.evaluate] at h
  split at h
  · cases h
  · rename_i heq
    cases h
    exact heq

section Lawful

variable [LawfulQuantity α]

/-- Under valid limits, whatever reaches the emergency multiplier reaches the critical one. -/
theorem Limits.Ordered.severe_eq (h : limits.Ordered) :
    (limits.evaluationOf components threshold filesScanned).summary.critical +
        (limits.evaluationOf components threshold filesScanned).summary.emergency =
      (components.map (·.2)).countP fun c =>
        threshold < c ∧ limits.criticalMultiplier ≤ violationRatio c threshold := by
  rw [summary_severe, List.countP_map]
  refine List.countP_congr fun c _ => ?_
  simp only [Function.comp_apply, decide_eq_true_eq]
  refine and_congr_right fun _ => ⟨fun hreached => ?_, .inr⟩
  exact hreached.elim (fun hemergency => le_trans h.critical_le_emergency hemergency) id

theorem fails_evaluationOf_iff (hordered : limits.Ordered) {environment : Environment}
    {choice : Option Bool} :
    (limits.evaluationOf components threshold filesScanned).summary.fails environment choice =
        true ↔
      ReasonToFail limits (components.map (·.2)) threshold environment choice := by
  have hpos : ∀ costs : List α, 0 < costs.countP (fun c => threshold < c) ↔
      ∃ c ∈ costs, threshold < c := by
    simp [List.countP_pos_iff]
  rw [Summary.fails_iff, summary_emergencyAction, hordered.severe_eq, summary_violations,
    exactPercentage, violations_eq_countP, hpos, getD_isStrict_iff, or_assoc, and_comm,
    ReasonToFail, List.length_map]

/-- Emergency triggers that can be reached are only reached by violations. -/
theorem exists_violation (hordered : limits.Ordered) {costs : List α} {environment : Environment}
    {choice : Option Bool} (h : ReasonToFail limits costs threshold environment choice) :
    ∃ c ∈ costs, threshold < c := by
  rcases h with hcount | hpercentage | ⟨hexceeded, -⟩
  · obtain ⟨c, hc, hsevere⟩ := List.countP_pos_iff.1 (hordered.count_pos.trans_le hcount)
    exact ⟨c, hc, (of_decide_eq_true hsevere).1⟩
  · by_contra hnone
    have hzero : costs.countP (fun c => threshold < c) = 0 :=
      List.countP_eq_zero.2 fun c hc hexceeds => hnone ⟨c, hc, of_decide_eq_true hexceeds⟩
    rw [hzero, percentage_zero] at hpercentage
    exact not_le_of_lt hordered.percentage_pos hpercentage
  · exact hexceeded

theorem verdict_evaluationOf (hordered : limits.Ordered)
    (hacceptable : Acceptable components threshold) (environment : Environment)
    (choice : Option Bool) :
    GateVerdict limits (components.map (·.2)) threshold environment choice
      ((limits.evaluationOf components threshold filesScanned).summary.fails environment
        choice) where
  fails_iff := fails_evaluationOf_iff hordered
  exceeded h := exists_violation hordered ((fails_evaluationOf_iff hordered).1 h)
  compliant h hchoice hstrict c hc := by
    obtain ⟨p, hp, rfl⟩ := List.mem_map.1 hc
    have hcost := (defined_of_le (hacceptable.2 p hp)).2
    have hthreshold := (defined_of_le (le_of_lt hacceptable.1)).2
    refine le_of_not_lt hthreshold hcost fun hexceeds => ?_
    have hfails : (limits.evaluationOf components threshold filesScanned).summary.fails
        environment choice = true :=
      (fails_evaluationOf_iff hordered).2
        (.inr (.inr ⟨⟨p.2, hc, hexceeds⟩, .inr ⟨hchoice, hstrict⟩⟩))
    rw [h] at hfails
    exact Bool.false_ne_true hfails

end Lawful

/-- A project of one file, with two units of cost for every line. -/
def oneLine : RunInput Float where
  tree := ⟨[(["p"], .directory), (["p", "core"], .directory),
    (["p", "core", "a.rs"], .file "fn a() {}\n".toUTF8)]⟩
  site := ⟨[], "p"⟩
  config := { Config.default Float with
    weights := ⟨2.0, 0.01, 0.02, 0.005, 0.0⟩
    branches := []
    exclusion := ⟨[], true⟩ }
  env := fun _ => none
  lookup := .error .repository
  generatedAt := ""

end CostGate
