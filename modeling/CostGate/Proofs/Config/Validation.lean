import CostGate.Config.Validation
import CostGate.Gate.Threshold
import CostGate.Proofs.Number.Lawful

/-!
# Valid configurations

What a configuration without a fault guarantees: its limits are in order and its emergency
triggers can be reached, and every branch pattern can be read.
-/
namespace CostGate

open Number Number.LawfulQuantity

variable {α : Type} [Quantity α]

/-- Limits under which an emergency is at least critical and takes a violation. -/
structure Limits.Ordered (limits : Limits α) : Prop where
  one_le_critical : 1.0 ≤ limits.criticalMultiplier
  critical_le_emergency : limits.criticalMultiplier ≤ limits.emergencyMultiplier
  count_pos : 0 < limits.emergencyCount
  percentage_pos : 0.0 < limits.emergencyPercentage
  percentage_le : limits.emergencyPercentage ≤ 100.0

namespace Config

theorem fault?_eq_none_iff {config : Config α} :
    config.fault? = none ↔ config.negativeFault? = none ∧ config.positiveFault? = none ∧
      limitFault? config.limits = none ∧ branchFault? 0 config.branches = none := by
  rw [fault?, Option.or_eq_none_iff, Option.or_eq_none_iff, Option.or_eq_none_iff]

theorem ordered_of_limitFault? [LawfulQuantity α] {limits : Limits α}
    (h : limitFault? limits = none) : limits.Ordered := by
  rw [limitFault?] at h
  split_ifs at h with hcritical hemergency hcount hpercentage
  simp only [Bool.or_eq_true, Bool.not_eq_true', decide_eq_true_eq, not_or,
    Bool.not_eq_false] at hcritical hemergency
  simp only [Bool.and_eq_true, decide_eq_true_eq] at hpercentage
  have hdef := defined_of_finite hcritical.1
  have hdef' := defined_of_finite hemergency.1
  have hone := (defined_of_le (le_of_lt (zero_lt_one (α := α)))).2
  exact
    { one_le_critical := le_of_not_lt hdef hone hcritical.2
      critical_le_emergency := le_of_not_lt hdef' hdef hemergency.2
      count_pos := Nat.pos_of_ne_zero hcount
      percentage_pos := hpercentage.1
      percentage_le := hpercentage.2 }

theorem ordered_of_fault? [LawfulQuantity α] {config : Config α} (h : config.fault? = none) :
    config.limits.Ordered :=
  ordered_of_limitFault? (fault?_eq_none_iff.1 h).2.2.1

theorem readRules_of_branchFault? {rules : List (BranchRule α)} {index : ℕ}
    (h : branchFault? index rules = none) :
    ∃ table, BranchTable.readRules rules = .ok table := by
  induction rules generalizing index with
  | nil => exact ⟨[], rfl⟩
  | cons r rs ih =>
    rw [branchFault?] at h
    split_ifs at h with hmultiplier hpattern
    obtain ⟨table, htable⟩ := ih h
    obtain ⟨pattern, hread⟩ : ∃ pattern, Pattern.parse? r.pattern = some pattern :=
      Option.ne_none_iff_exists'.1 (by simpa using hpattern)
    refine ⟨⟨r, pattern⟩ :: table, ?_⟩
    rw [BranchTable.readRules, hread, htable]
    rfl

theorem ofConfig_of_fault? {config : Config α} (h : config.fault? = none) :
    ∃ table, BranchTable.ofConfig config = .ok table := by
  obtain ⟨rules, hrules⟩ := readRules_of_branchFault? (fault?_eq_none_iff.1 h).2.2.2
  refine ⟨⟨rules, config.defaultBranchMultiplier⟩, ?_⟩
  rw [BranchTable.ofConfig, hrules]
  rfl

omit [Quantity α] in
theorem base_mem_positiveSettings (config : Config α) (environment : Environment) :
    ("thresholds." ++ environment.name, config.thresholds.of environment) ∈
      config.positiveSettings := by
  cases environment <;> simp [positiveSettings, Environment.name, BaseThresholds.of]

theorem isPositive_of_positiveFault? {config : Config α} (h : config.positiveFault? = none)
    {s : String × α} (hs : s ∈ config.positiveSettings) : isPositive s.2 = true := by
  rw [positiveFault?, Option.map_eq_none_iff, List.find?_eq_none] at h
  simpa using h s hs

theorem isNonnegative_of_negativeFault? {config : Config α} (h : config.negativeFault? = none)
    {s : String × α} (hs : s ∈ config.nonnegativeSettings) : isNonnegative s.2 = true := by
  rw [negativeFault?, Option.map_eq_none_iff, List.find?_eq_none] at h
  simpa using h s hs

theorem isPositive_of_branchFault? {rules : List (BranchRule α)} {index : ℕ}
    (h : branchFault? index rules = none) : ∀ r ∈ rules, isPositive r.multiplier = true := by
  induction rules generalizing index with
  | nil => simp
  | cons r rs ih =>
    rw [branchFault?] at h
    split_ifs at h with hmultiplier hpattern
    exact List.forall_mem_cons.2 ⟨by simpa using hmultiplier, ih h⟩

end Config

end CostGate
