import CostGate.Proofs.Gate.Run
import CostGate.Proofs.Number.Exact

/-!
# Resolution of thresholds

The threshold of a valid configuration is base times multiplier, rounded to thousandths. Valid bases
and multipliers are positive, but that does not keep their product from being rounded to zero: a
run has a threshold exactly when the product is at least half a thousandth.
-/
namespace CostGate

open Number

variable {α : Type}

def BranchRule.covers (r : BranchRule α) (branch : String) : Bool :=
  (Pattern.parse? r.pattern).any fun p => p.isMatch branch.toList

/-- The multiplier of the first rule that covers a branch, or the default one. -/
def Config.multiplierOf (config : Config α) (branch : String) : α :=
  ((config.branches.find? fun r => r.covers branch).map (·.multiplier)).getD
    config.defaultBranchMultiplier

namespace BranchTable

theorem find?_readRules {rules : List (BranchRule α)} {table : List (Rule α)}
    (h : readRules rules = .ok table) (branch : String) :
    (table.find? fun r => r.pattern.isMatch branch.toList).map (·.rule) =
      rules.find? fun r => r.covers branch := by
  induction rules generalizing table with
  | nil =>
    cases h
    rfl
  | cons r rs ih =>
    rw [readRules] at h
    cases hread : Pattern.parse? r.pattern with
    | none => simp [hread] at h
    | some p =>
      cases hrest : readRules rs with
      | error text => simp [hread, hrest, Except.map] at h
      | ok rest =>
        simp only [hread, hrest, Except.map, Except.ok.injEq] at h
        subst h
        have hcovers : r.covers branch = p.isMatch branch.toList := by
          rw [BranchRule.covers, hread]
          rfl
        rw [List.find?_cons, List.find?_cons, hcovers]
        cases p.isMatch branch.toList with
        | true => rfl
        | false => exact ih hrest

theorem lookup_of_ofConfig {config : Config α} {table : BranchTable α}
    (h : ofConfig config = .ok table) (branch : String) :
    (table.lookup branch).1 = config.multiplierOf branch := by
  rw [ofConfig] at h
  cases hrules : readRules config.branches with
  | error text => simp [hrules, Except.map] at h
  | ok rules =>
    simp only [hrules, Except.map, Except.ok.injEq] at h
    subst h
    rw [lookup, find?, find?_readRules hrules, Config.multiplierOf]
    cases config.branches.find? fun r => r.covers branch <;> rfl

end BranchTable

namespace Config

variable [Quantity α] {config : Config α}

theorem isPositive_base (hvalid : config.fault? = none) (environment : Environment) :
    isPositive (config.thresholds.of environment) = true :=
  isPositive_of_positiveFault? (fault?_eq_none_iff.1 hvalid).2.1
    (config.base_mem_positiveSettings environment)

theorem isPositive_multiplierOf (hvalid : config.fault? = none) (branch : String) :
    isPositive (config.multiplierOf branch) = true := by
  obtain ⟨-, hsettings, -, hbranches⟩ := fault?_eq_none_iff.1 hvalid
  rw [multiplierOf]
  cases hfind : config.branches.find? fun r => r.covers branch with
  | none =>
    exact isPositive_of_positiveFault? hsettings
      (s := ("default_branch_multiplier", config.defaultBranchMultiplier))
      (by simp [positiveSettings])
  | some r => exact isPositive_of_branchFault? hbranches r (List.mem_of_find?_eq_some hfind)

def product (config : Config α) (context : Context) : α :=
  config.thresholds.of context.environment * config.multiplierOf context.branch

/-- All patterns of a valid configuration can be read, so only the value can be rejected. -/
theorem resolve_of_valid (hvalid : config.fault? = none) (context : Context) :
    ∃ rule, Threshold.resolve config context =
      if isPositive (roundTo (config.product context) 3) then
        .ok ⟨config.thresholds.of context.environment, config.multiplierOf context.branch, rule,
          roundTo (config.product context) 3⟩
      else .error (.value context.environment context.branch
        (roundTo (config.product context) 3)) := by
  obtain ⟨table, htable⟩ := ofConfig_of_fault? hvalid
  have hlookup := BranchTable.lookup_of_ofConfig htable context.branch
  refine ⟨(table.lookup context.branch).2, ?_⟩
  rw [Threshold.resolve, htable]
  dsimp only
  rw [Threshold.ofTable_eq, BranchTable.valueIn, hlookup]
  rfl

end Config

section Exact

variable {config config' : Config ℚ} {context context' : Context}

theorem Config.product_nonneg (hvalid : config.fault? = none) (context : Context) :
    0 ≤ config.product context :=
  (mul_pos (pos_of_isPositive (isPositive_base hvalid context.environment))
    (pos_of_isPositive (isPositive_multiplierOf hvalid context.branch))).le

theorem isPositive_rat_iff {x : ℚ} : isPositive x = true ↔ 0 < x := by
  rw [isPositive_iff]
  norm_num [isFinite]

/-- Half a thousandth is rounded up, and everything less is rounded to zero. -/
theorem isPositive_roundTo_iff {x : ℚ} (hx : 0 ≤ x) :
    isPositive (roundTo x 3) = true ↔ 1 / 2000 ≤ x := by
  have hunit := one_le_roundTo_iff 3 hx
  have hzero := roundTo_eq_zero_or 3 hx
  norm_num at hunit hzero
  rw [isPositive_rat_iff, ← hunit]
  rcases hzero with h | h
  · norm_num [h]
  · exact iff_of_true (by linarith) h

theorem resolve_of_le (hvalid : config.fault? = none)
    (h : 1 / 2000 ≤ config.product context) :
    ∃ rule, Threshold.resolve config context = .ok ⟨config.thresholds.of context.environment,
      config.multiplierOf context.branch, rule, roundTo (config.product context) 3⟩ := by
  obtain ⟨rule, hresolve⟩ := Config.resolve_of_valid hvalid context
  rw [if_pos ((isPositive_roundTo_iff (Config.product_nonneg hvalid context)).2 h)] at hresolve
  exact ⟨rule, hresolve⟩

theorem resolve_of_lt (hvalid : config.fault? = none)
    (h : config.product context < 1 / 2000) :
    Threshold.resolve config context = .error (.value context.environment context.branch 0) := by
  have hnonneg := Config.product_nonneg hvalid context
  have hnot := mt (isPositive_roundTo_iff hnonneg).1 (not_le.2 h)
  have hzero : roundTo (config.product context) 3 = 0 := by
    rcases roundTo_eq_zero_or 3 hnonneg with hzero | hpos
    · exact hzero
    · exact absurd (isPositive_rat_iff.2 (lt_of_lt_of_le (by norm_num) hpos)) hnot
  obtain ⟨rule, hresolve⟩ := Config.resolve_of_valid hvalid context
  rw [if_neg hnot, hzero] at hresolve
  exact hresolve

/-- A threshold that is base times multiplier, rounded to thousandths but never to none. -/
structure Threshold.Rounds (t : Threshold ℚ) (base multiplier : ℚ) : Prop where
  base_eq : t.base = base
  multiplier_eq : t.branchMultiplier = multiplier
  thousandths : ∃ n : ℕ, t.value = n / 1000
  one_le : 1 / 1000 ≤ t.value
  near : |t.value - base * multiplier| ≤ 1 / 2000

theorem rounds_of_resolve (hvalid : config.fault? = none) {t : Threshold ℚ}
    (h : Threshold.resolve config context = .ok t) :
    1 / 2000 ≤ config.product context ∧ t.value = roundTo (config.product context) 3 ∧
      t.Rounds (config.thresholds.of context.environment)
        (config.multiplierOf context.branch) := by
  have hnonneg := Config.product_nonneg hvalid context
  have hle : 1 / 2000 ≤ config.product context := by
    by_contra hlt
    rw [resolve_of_lt hvalid (not_le.1 hlt)] at h
    cases h
  obtain ⟨rule, hresolve⟩ := resolve_of_le hvalid hle
  cases hresolve.symm.trans h
  have hunits := roundTo_of_nonneg 3 hnonneg
  have hone := (one_le_roundTo_iff 3 hnonneg).2 (hle.trans' (by norm_num))
  have hnear := abs_roundTo_sub_le 3 hnonneg
  rw [show (10 : ℚ) ^ 3 = 1000 by norm_num] at hunits hone hnear
  rw [show (1 / 2 / 1000 : ℚ) = 1 / 2000 by norm_num] at hnear
  exact ⟨hle, rfl, rfl, rfl, ⟨_, hunits⟩, hone, hnear⟩

end Exact

/-- A base of half a thousandth, which every multiplier below one makes vanish. -/
def Config.vanishing : Config ℚ :=
  { Config.default ℚ with
    thresholds := ⟨4 / 5, 7 / 10, 1 / 2000, 1 / 2⟩
    branches := [⟨"^main$", 1⟩, ⟨"^main", 9 / 10⟩] }

end CostGate
