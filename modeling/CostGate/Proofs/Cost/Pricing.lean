import CostGate.Proofs.Config.Validation
import CostGate.Proofs.Number.Sign
import CostGate.Proofs.Project.Accounting

/-!
# Costs under valid configurations

No weight and no multiplier of a valid configuration is negative, so no amount that is measured or
computed with them is. In exact arithmetic costs also grow with what is measured, and a project
cannot be refused for the cost of a file. On doubles it still can, but for no other reason than that
a cost is infinite or undefined.
-/
namespace CostGate

open Number

section Signs

open LawfulQuantity SignedQuantity

variable {α : Type} [Quantity α]

structure Metrics.NotNegative (m : Metrics α) : Prop where
  complexity : ¬ m.complexity < 0.0
  includes : ¬ m.includes < 0.0
  baseCost : ¬ m.baseCost < 0.0
  finalCost : ¬ m.finalCost < 0.0

structure IncludeWeights.NotNegative (weights : IncludeWeights α) : Prop where
  relative : ¬ weights.relative < 0.0
  deep : ¬ weights.deep < 0.0
  namespaced : ¬ weights.namespaced < 0.0

structure CostWeights.NotNegative (w : CostWeights α) : Prop where
  lines : ¬ w.lines < 0.0
  complexity : ¬ w.complexity < 0.0
  dependency : ¬ w.dependency < 0.0
  function : ¬ w.function < 0.0
  includes : ¬ w.includes < 0.0

variable [SignedQuantity α]

theorem Metrics.notNegative_zero : (zero : Metrics α).NotNegative :=
  ⟨not_neg_zero, not_neg_zero, not_neg_zero, not_neg_zero⟩

namespace Source

variable {weights : IncludeWeights α}

theorem not_neg_includeWeight (hw : weights.NotNegative) (target : List Char) :
    ¬ includeWeight weights target < 0.0 := by
  have hterm : ∀ (p : Prop) [Decidable p] (w x : α), ¬ w < 0.0 → x ∈ (if p then [w] else []) →
      ¬ x < 0.0 := by
    intro p _ w x hnot hx
    split_ifs at hx
    · rwa [List.mem_singleton.1 hx]
    · cases hx
  unfold includeWeight
  apply not_neg_total
  intro x hx
  rcases List.mem_append.1 hx with hx | hnamespaced
  · rcases List.mem_append.1 hx with hrelative | hdeep
    · exact hterm _ _ x hw.relative hrelative
    · exact hterm _ _ x hw.deep hdeep
  · exact hterm _ _ x hw.namespaced hnamespaced

theorem Tally.not_neg_includes_addLine (hw : weights.NotNegative) {t : Tally α}
    (ht : ¬ t.includes < 0.0) (line : List Char) : ¬ (t.addLine weights line).includes < 0.0 := by
  unfold addLine
  cases directiveTarget? line with
  | none => exact ht
  | some target => exact not_neg_add ht (not_neg_includeWeight hw target)

theorem Tally.not_neg_includes_ofLines (hw : weights.NotNegative) (ls : List (List Char)) :
    ¬ (ofLines weights ls).includes < 0.0 := by
  have hfold : ∀ t : Tally α, ¬ t.includes < 0.0 →
      ¬ (ls.foldl (addLine weights) t).includes < 0.0 := by
    induction ls with
    | nil => exact fun _ ht => ht
    | cons line ls ih =>
      intro t ht
      exact ih _ (not_neg_includes_addLine hw ht line)
  exact hfold zero not_neg_zero

theorem notNegative_measure (hw : weights.NotNegative) (style : CommentStyle) (s : List Char) :
    (measure weights style s).NotNegative where
  complexity := not_neg_mul (not_neg_ofCount _) (not_lt_of_le zero_le_quarter)
  includes := Tally.not_neg_includes_ofLines hw _
  baseCost := not_neg_zero
  finalCost := not_neg_zero

end Source

namespace Config

variable {config : Config α}

theorem not_neg_of_mem (hvalid : config.fault? = none) {x : α}
    (hx : x ∈ config.nonnegativeSettings.map (·.2)) : ¬ x < 0.0 := by
  obtain ⟨s, hs, rfl⟩ := List.mem_map.1 hx
  have hnonneg := isNonnegative_of_negativeFault? (fault?_eq_none_iff.1 hvalid).1 hs
  rw [isNonnegative, Bool.and_eq_true, decide_eq_true_iff] at hnonneg
  exact not_lt_of_le hnonneg.2

theorem notNegative_weights (hvalid : config.fault? = none) : config.weights.NotNegative := by
  constructor <;> apply not_neg_of_mem hvalid <;> simp [nonnegativeSettings]

theorem notNegative_includes (hvalid : config.fault? = none) : config.includes.NotNegative := by
  constructor <;> apply not_neg_of_mem hvalid <;> simp [nonnegativeSettings]

theorem not_neg_fileTypes (hvalid : config.fault? = none) (kind : FileKind) :
    ¬ config.fileTypes.of kind < 0.0 := by
  apply not_neg_of_mem hvalid
  cases kind <;> simp [nonnegativeSettings, KindMultipliers.of]

theorem not_neg_phases (hvalid : config.fault? = none) (phase : Phase) :
    ¬ config.phases.of phase < 0.0 := by
  apply not_neg_of_mem hvalid
  cases phase <;> simp [nonnegativeSettings, PhaseMultipliers.of]

end Config

theorem CostWeights.not_neg_base {w : CostWeights α} (hw : w.NotNegative) {m : Metrics α}
    (hm : m.NotNegative) : ¬ w.base m < 0.0 := by
  have hlines := not_neg_mul hw.lines (not_neg_ofCount m.lines)
  have hcomplexity := not_neg_mul hw.complexity hm.complexity
  have hdependency := not_neg_mul hw.dependency (not_neg_ofCount m.dependencies)
  have hfunction := not_neg_mul hw.function (not_neg_ofCount m.functions)
  have hincludes := not_neg_mul hw.includes hm.includes
  unfold base
  exact not_neg_add (not_neg_add (not_neg_add (not_neg_add hlines hcomplexity) hdependency)
    hfunction) hincludes

theorem Config.notNegative_price {config : Config α} (hvalid : config.fault? = none)
    (path : List Char) {m : Metrics α} (hm : m.NotNegative) :
    (config.price path m).NotNegative := by
  have hbase := CostWeights.not_neg_base (notNegative_weights hvalid) hm
  constructor
  · exact hm.complexity
  · exact hm.includes
  · exact hbase
  · exact not_neg_mul (not_neg_mul hbase (not_neg_fileTypes hvalid _)) (not_neg_phases hvalid _)

theorem Config.not_neg_fileCost {config : Config α} (hvalid : config.fault? = none) (root : Path)
    (file : Path × Option ByteArray) : ¬ config.fileCost root file < 0.0 := by
  have hmetrics : ((file.2.bind (Collection.measureFile? config.includes file.1)).getD
      .zero).NotNegative := by
    cases hmeasure : file.2.bind (Collection.measureFile? config.includes file.1) with
    | none => exact Metrics.notNegative_zero
    | some m =>
      obtain ⟨content, -, hdecode⟩ := Option.bind_eq_some_iff.1 hmeasure
      obtain ⟨s, -, rfl⟩ := Option.map_eq_some_iff.1 hdecode
      exact Source.notNegative_measure (notNegative_includes hvalid) _ s
  exact (notNegative_price hvalid _ hmetrics).finalCost

end Signs

/-- The file that a project is refused for. -/
def Collection.refusedFile? {α : Type} : Except (CollectionError α) (Collection α) → Option String
  | .error (.cost relative _ _) => some relative
  | .error (.noDirectory _) => none
  | .error (.noComponents _ _) => none
  | .ok _ => none

theorem Collection.exists_of_refusedFile? {α : Type} {relative : String}
    {result : Except (CollectionError α) (Collection α)} (h : refusedFile? result = some relative) :
    ∃ value processed, result = .error (.cost relative value processed) := by
  cases result with
  | ok c => cases h
  | error e =>
    cases e with
    | noDirectory root => cases h
    | noComponents root files => cases h
    | cost file value processed =>
      obtain rfl : file = relative := Option.some.inj h
      exact ⟨value, processed, rfl⟩

section Refusal

variable {α : Type} [Quantity α] {config : Config α} {relative : String} {value : α}
  {processed : ℕ}

theorem Collection.exists_of_ofFiles_cost {root : Path} {rootText : String}
    {files : List (Path × Option ByteArray)}
    (h : ofFiles config root rootText files = .error (.cost relative value processed)) :
    ∃ file ∈ files, config.fileCost root file = value ∧ isBadCost value = true := by
  rw [ofFiles_eq] at h
  split_ifs at h with hnone
  · cases h
  · cases hfind : (priced config root files).find? fun f => isBadCost f.metrics.finalCost with
    | none =>
      rw [hfind] at h
      cases h
    | some bad =>
      obtain ⟨file, hfile, rfl⟩ := List.mem_map.1 (List.mem_of_find?_eq_some hfind)
      have hbad := List.find?_some hfind
      rw [hfind] at h
      cases h
      exact ⟨file, hfile, rfl, hbad⟩

theorem Site.exists_of_collect_cost {s : Site} {t : Tree}
    (h : s.collect t config = .error (.cost relative value processed)) :
    ∃ file ∈ s.contents t config.exclusion,
      config.fileCost s.path file = value ∧ Collection.isBadCost value = true := by
  unfold collect at h
  by_cases hdir : s.isDirectory t = true
  · rw [if_pos hdir] at h
    exact Collection.exists_of_ofFiles_cost h
  · rw [if_neg hdir] at h
    cases h

end Refusal

namespace Metrics

structure Nonneg (m : Metrics ℚ) : Prop where
  complexity : 0 ≤ m.complexity
  includes : 0 ≤ m.includes
  baseCost : 0 ≤ m.baseCost
  finalCost : 0 ≤ m.finalCost

/-- No more is measured in one file than in the other, whatever the files cost. -/
structure Within (m m' : Metrics ℚ) : Prop where
  lines : m.lines ≤ m'.lines
  complexity : m.complexity ≤ m'.complexity
  dependencies : m.dependencies ≤ m'.dependencies
  includes : m.includes ≤ m'.includes
  functions : m.functions ≤ m'.functions

theorem nonneg_iff {m : Metrics ℚ} : m.Nonneg ↔ m.NotNegative := by
  constructor
  · rintro ⟨hcomplexity, hincludes, hbase, hfinal⟩
    constructor <;> rwa [not_neg_rat_iff]
  · rintro ⟨hcomplexity, hincludes, hbase, hfinal⟩
    rw [not_neg_rat_iff] at *
    exact ⟨hcomplexity, hincludes, hbase, hfinal⟩

end Metrics

theorem CostWeights.base_le_base {w : CostWeights ℚ} (hw : w.NotNegative) {m m' : Metrics ℚ}
    (h : m.Within m') : w.base m ≤ w.base m' := by
  obtain ⟨hlines, hcomplexity, hdependency, hfunction, hincludes⟩ := hw
  rw [not_neg_rat_iff] at *
  have hcount : ∀ {x : ℚ} {k l : ℕ}, 0 ≤ x → k ≤ l → x * ofCount k ≤ x * ofCount l :=
    fun hx hkl => mul_le_mul_of_nonneg_left (LawfulQuantity.ofCount_le_ofCount hkl) hx
  unfold base
  apply add_le_add
  · apply add_le_add
    · apply add_le_add
      · apply add_le_add
        · exact hcount hlines h.lines
        · exact mul_le_mul_of_nonneg_left h.complexity hcomplexity
      · exact hcount hdependency h.dependencies
    · exact hcount hfunction h.functions
  · exact mul_le_mul_of_nonneg_left h.includes hincludes

theorem Config.finalCost_le_finalCost {config : Config ℚ} (hvalid : config.fault? = none)
    (path : List Char) {m m' : Metrics ℚ} (h : m.Within m') :
    (config.price path m).finalCost ≤ (config.price path m').finalCost := by
  have hkind := not_neg_rat_iff.1 (not_neg_fileTypes hvalid (Classification.kind path))
  have hphase := not_neg_rat_iff.1 (not_neg_phases hvalid (Classification.phase path))
  have hbase := CostWeights.base_le_base (notNegative_weights hvalid) h
  exact mul_le_mul_of_nonneg_right (mul_le_mul_of_nonneg_right hbase hkind) hphase

theorem Site.collect_ne_cost {config : Config ℚ} (hvalid : config.fault? = none) (s : Site)
    (t : Tree) (relative : String) (value : ℚ) (processed : ℕ) :
    s.collect t config ≠ .error (.cost relative value processed) := by
  intro h
  obtain ⟨file, -, rfl, hbad⟩ := exists_of_collect_cost h
  rcases Collection.isBadCost_eq_true_iff.1 hbad with hneg | hinfinite
  · exact config.not_neg_fileCost hvalid s.path file hneg
  · cases hinfinite

/-- A valid configuration keeps all that is measured in a text from being negative, and so the costs
that are computed from it. In exact arithmetic a file does not get cheaper when more is measured in
it, and no project is refused for the cost of a file. On doubles such a cost is never negative: it
is infinite or undefined. -/
theorem price_nonneg_monotone {config : Config ℚ} (hvalid : config.fault? = none) :
    (∀ style text, (Source.measure config.includes style text).Nonneg) ∧
      (∀ path m, m.Nonneg → (config.price path m).Nonneg) ∧
      (∀ path m m', m.Within m' →
        (config.price path m).finalCost ≤ (config.price path m').finalCost) ∧
      (∀ (s : Site) t relative value processed,
        s.collect t config ≠ .error (.cost relative value processed)) ∧
      ∀ config' : Config Float, config'.fault? = none →
        ∀ (s : Site) t relative value processed,
          s.collect t config' = .error (.cost relative value processed) →
            ¬ value < 0.0 ∧ isFinite value = false := by
  refine ⟨?_, ?_, ?_, ?_, ?_⟩
  · intro style text
    rw [Metrics.nonneg_iff]
    exact Source.notNegative_measure (Config.notNegative_includes hvalid) style text
  · intro path m hm
    rw [Metrics.nonneg_iff] at *
    exact Config.notNegative_price hvalid path hm
  · intro path m m' h
    exact Config.finalCost_le_finalCost hvalid path h
  · exact Site.collect_ne_cost hvalid
  · intro config' hvalid' s t relative value processed h
    obtain ⟨file, -, rfl, hbad⟩ := Site.exists_of_collect_cost h
    have hnot := config'.not_neg_fileCost hvalid' s.path file
    exact ⟨hnot, (Collection.isBadCost_eq_true_iff.1 hbad).resolve_left hnot⟩

/-- A line costs so much that the cost of two lines is beyond the doubles. -/
def steepConfig (α : Type) [Quantity α] : Config α :=
  { Config.default α with weights := { CostWeights.default α with lines := 1e308 } }

theorem price_nonneg_monotone_steep :
    (steepConfig ℚ).fault? = none ∧ (steepConfig Float).fault? = none ∧
      ((steepConfig ℚ).price "src/api.c".toList (Source.measure (steepConfig ℚ).includes .slashes
        "#include \"../a.h\"\nif (a) b();\n".toList)).Nonneg ∧
      ((steepConfig ℚ).price "src/api.c".toList ⟨1, 1 / 4, 0, 0, 3, 0, 0⟩).finalCost ≤
        ((steepConfig ℚ).price "src/api.c".toList ⟨2, 1 / 2, 1, 3 / 2, 3, 0, 0⟩).finalCost ∧
      (∀ relative value processed, (Site.mk [] "p").collect nestedProject (steepConfig ℚ) ≠
        .error (.cost relative value processed)) ∧
      ∃ value processed, (Site.mk [] "p").collect nestedProject (steepConfig Float) =
        .error (.cost "src/core/engine.c" value processed) ∧ ¬ value < 0.0 ∧
          isFinite value = false := by
  have hexact : (steepConfig ℚ).fault? = none := by decide +kernel
  have hdouble : (steepConfig Float).fault? = none := by decide +kernel
  obtain ⟨hmeasure, hprice, hmono, hcollect, hrefused⟩ := price_nonneg_monotone hexact
  refine ⟨hexact, hdouble, hprice _ _ (hmeasure _ _), ?_, hcollect _ _, ?_⟩
  · apply hmono
    constructor <;> decide +kernel
  · have hfile : Collection.refusedFile? ((Site.mk [] "p").collect nestedProject
        (steepConfig Float)) = some "src/core/engine.c" := by decide +kernel
    obtain ⟨value, processed, herror⟩ := Collection.exists_of_refusedFile? hfile
    exact ⟨value, processed, herror, hrefused _ hdouble _ _ _ _ _ herror⟩

end CostGate
