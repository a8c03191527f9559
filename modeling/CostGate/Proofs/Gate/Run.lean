import CostGate.Gate.Run
import CostGate.Proofs.Config.Validation
import CostGate.Proofs.Gate.Evaluation
import CostGate.Proofs.Number.Doubles
import CostGate.Proofs.Project.Collection

/-!
# How a run ends

A run is a sequence of steps, each of which may end it. The stages never run out. A valid
configuration leaves only the value of the threshold to be rejected, and what is collected can
always be evaluated, so a run ends in one of four ways.
-/
namespace CostGate

open Number Number.LawfulQuantity

variable {α : Type}

def RunInput.context (input : RunInput α) (options : RunOptions) : Context :=
  Context.resolve options.environment options.branch input.env input.lookup

/-- The kind of an error and the files it counts; nothing for a run without an error. -/
def failureOf {β : Type} : Except (GateError α) β → Option (ErrorKind × ℕ)
  | .error e => some (e.kind, e.filesProcessed)
  | .ok _ => none

/-- The errors that a run can end with. Patterns have been read before, what is collected is
accepted by the evaluation, and no run goes on after its end. -/
inductive GateError.OfRun : GateError α → Prop
  | config (fault : ConfigFault α) : OfRun (.config fault)
  | value (environment : Environment) (branch : String) (value : α) :
    OfRun (.threshold (.value environment branch value))
  | collection (cause : CollectionError α) : OfRun (.collection cause)

/-- Whether a run finds no project with components at its root. -/
def RunInput.NoProject (input : RunInput α) : Prop :=
  input.site.isDirectory input.tree = false ∨
    input.site.componentDirectories input.tree input.config.exclusion = []

theorem RunInput.not_noProject (input : RunInput α)
    (hdir : input.site.isDirectory input.tree = true)
    (hsome : input.site.componentDirectories input.tree input.config.exclusion ≠ []) :
    ¬ input.NoProject := by
  rintro (h | h)
  · exact absurd (hdir.symm.trans h) (by decide)
  · exact hsome h

variable [Quantity α]

/-- The threshold of a table in a context, before it is checked. -/
def BranchTable.valueIn (table : BranchTable α) (bases : BaseThresholds α) (context : Context) :
    α :=
  roundTo (bases.of context.environment * (table.lookup context.branch).1) 3

theorem Threshold.ofTable_eq (bases : BaseThresholds α) (table : BranchTable α)
    (context : Context) :
    ofTable bases table context =
      if isPositive (table.valueIn bases context) then
        .ok ⟨bases.of context.environment, (table.lookup context.branch).1,
          (table.lookup context.branch).2, table.valueIn bases context⟩
      else .error (.value context.environment context.branch (table.valueIn bases context)) :=
  rfl

/-- Whether a run ends before it looks at its project: the configuration has a fault, or its
threshold in the context is not a finite positive number. -/
def Config.Unfit (config : Config α) (context : Context) : Prop :=
  config.fault?.isSome = true ∨ ∃ table, BranchTable.ofConfig config = .ok table ∧
    ¬ (isFinite (table.valueIn config.thresholds context) = true ∧
      0.0 < table.valueIn config.thresholds context)

inductive Config.ThresholdOutcome (config : Config α) (context : Context) :
    Except (GateError α) (Threshold α) → Prop
  | fault (hunfit : config.Unfit context) (fault : ConfigFault α) :
    ThresholdOutcome config context (.error (.config fault))
  | value (hunfit : config.Unfit context) (value : α) :
    ThresholdOutcome config context
      (.error (.threshold (.value context.environment context.branch value)))
  | settled (hvalid : config.fault? = none) (hfit : ¬ config.Unfit context)
      (threshold : Threshold α) (hpos : 0.0 < threshold.value) :
    ThresholdOutcome config context (.ok threshold)

theorem Config.outcome_thresholdFor (config : Config α) (context : Context) :
    config.ThresholdOutcome context (config.thresholdFor context) := by
  rw [thresholdFor]
  cases hfault : config.fault? with
  | some fault => exact .fault (.inl (by rw [hfault]; rfl)) fault
  | none =>
    obtain ⟨table, htable⟩ := ofConfig_of_fault? hfault
    have hresolve : Threshold.resolve config context =
        Threshold.ofTable config.thresholds table context := by
      rw [Threshold.resolve, htable]
    have hunfit : config.Unfit context ↔
        ¬ isPositive (table.valueIn config.thresholds context) = true := by
      rw [Unfit, hfault, htable, isPositive_iff]
      constructor
      · rintro (hsome | ⟨table', htable', hnot⟩)
        · exact absurd hsome Bool.false_ne_true
        · cases htable'
          exact hnot
      · exact fun hnot => .inr ⟨table, rfl, hnot⟩
    dsimp only
    rw [hresolve, Threshold.ofTable_eq]
    by_cases hpositive : isPositive (table.valueIn config.thresholds context) = true
    · rw [if_pos hpositive]
      exact .settled hfault (fun h => hunfit.1 h hpositive) _ (isPositive_iff.1 hpositive).2
    · rw [if_neg hpositive]
      exact .value (hunfit.2 hpositive) _

theorem bind_eq_ok_iff {ε β γ : Type} {x : Except ε β} {f : β → Except ε γ} {c : γ} :
    x >>= f = .ok c ↔ ∃ b, x = .ok b ∧ f b = .ok c := by
  cases x <;> simp [bind, Except.bind]

theorem mapError_eq_ok_iff {ε δ β : Type} {x : Except ε β} {f : ε → δ} {b : β} :
    x.mapError f = .ok b ↔ x = .ok b := by
  cases x <;> simp [Except.mapError]

def RunInput.outcomeOf (input : RunInput α) (options : RunOptions) (threshold : Threshold α)
    (collection : Collection α) (evaluation : Evaluation α) : RunOutcome α where
  context := input.context options
  threshold
  report := Report.ofEvaluation evaluation (ReportHeader.ofContext (input.context options)
    threshold.value input.config.limits.autonomous input.generatedAt)
  fails := evaluation.summary.fails (input.context options).environment options.failOnViolations
  processed := collection.processed
  failed := collection.failed

/-- Every stage that a run leaves has a next one, so only the other steps can end it. -/
theorem run_eq (input : RunInput α) (options : RunOptions) :
    run input options = (do
      let threshold ← input.config.thresholdFor (input.context options)
      let collection ← (input.site.collect input.tree input.config).mapError .collection
      let evaluation ← collection.evaluate input.config.limits threshold.value
      .ok (input.outcomeOf options threshold collection evaluation)) :=
  rfl

theorem run_eq_ok_iff {input : RunInput α} {options : RunOptions} {outcome : RunOutcome α} :
    run input options = .ok outcome ↔ ∃ threshold collection evaluation,
      input.config.thresholdFor (input.context options) = .ok threshold ∧
        input.site.collect input.tree input.config = .ok collection ∧
        collection.evaluate input.config.limits threshold.value = .ok evaluation ∧
        outcome = input.outcomeOf options threshold collection evaluation := by
  simp only [run_eq, bind_eq_ok_iff, mapError_eq_ok_iff, Except.ok.injEq]
  constructor
  · rintro ⟨threshold, hthreshold, collection, hcollect, evaluation, hevaluate, rfl⟩
    exact ⟨threshold, collection, evaluation, hthreshold, hcollect, hevaluate, rfl⟩
  · rintro ⟨threshold, collection, evaluation, hthreshold, hcollect, hevaluate, rfl⟩
    exact ⟨threshold, hthreshold, collection, hcollect, evaluation, hevaluate, rfl⟩

/-- How a run ends. -/
inductive RunInput.Ending (input : RunInput α) (options : RunOptions) :
    Except (GateError α) (RunOutcome α) → Prop
  | configuration (hunfit : input.config.Unfit (input.context options)) (e : GateError α)
      (he : e.OfRun) (hkind : (e.kind, e.filesProcessed) = (.configuration, 0)) :
    Ending input options (.error e)
  | project (hfit : ¬ input.config.Unfit (input.context options)) (hnone : input.NoProject)
      (e : GateError α) (he : e.OfRun) (hkind : (e.kind, e.filesProcessed) = (.project, 0)) :
    Ending input options (.error e)
  | invariant (hfit : ¬ input.config.Unfit (input.context options)) (hsome : ¬ input.NoProject)
      (hbad : input.site.HasBadCost input.tree input.config) (e : GateError α) (he : e.OfRun)
      (hkind : (e.kind, e.filesProcessed) = (.invariant,
        Collection.decodedCount (input.site.contents input.tree input.config.exclusion))) :
    Ending input options (.error e)
  | verdict (hfit : ¬ input.config.Unfit (input.context options)) (hsome : ¬ input.NoProject)
      (hgood : ¬ input.site.HasBadCost input.tree input.config) (outcome : RunOutcome α) :
    Ending input options (.ok outcome)

theorem evaluate_collection [LawfulQuantity α] {c : Collection α} {limits : Limits α}
    {threshold : α} (hpos : 0.0 < threshold) (hcosts : ∀ k ∈ c.components, 0.0 ≤ k.cost) :
    c.evaluate limits threshold = .ok (limits.evaluationOf
      (c.components.map fun k => (k.name, k.cost)) threshold c.files.length) := by
  have hacceptable : Acceptable (c.components.map fun k => (k.name, k.cost)) threshold := by
    refine ⟨hpos, fun p hp => ?_⟩
    obtain ⟨k, hk, rfl⟩ := List.mem_map.1 hp
    exact hcosts k hk
  rw [Collection.evaluate, evaluate_of_acceptable hacceptable]

theorem ending_run [LawfulQuantity α] (input : RunInput α) (options : RunOptions) :
    input.Ending options (run input options) := by
  have hthreshold := input.config.outcome_thresholdFor (input.context options)
  have hcollect := input.site.outcome_collect input.tree input.config
  rw [run_eq]
  generalize input.config.thresholdFor (input.context options) = threshold at hthreshold ⊢
  generalize input.site.collect input.tree input.config = collection at hcollect ⊢
  cases hthreshold with
  | fault hunfit fault => exact .configuration hunfit _ (.config fault) rfl
  | value hunfit value => exact .configuration hunfit _ (.value _ _ value) rfl
  | settled hvalid hfit threshold hpos =>
    cases hcollect with
    | noDirectory hdir => exact .project hfit (.inl hdir) _ (.collection _) rfl
    | noComponents hdir hnone files => exact .project hfit (.inr hnone) _ (.collection _) rfl
    | badCost hdir hsome hbad relative value =>
      exact .invariant hfit (input.not_noProject hdir hsome) hbad _ (.collection _) rfl
    | collected hdir hsome hgood c hcosts =>
      have hevaluate : c.evaluate input.config.limits threshold.value = _ :=
        evaluate_collection hpos hcosts
      simp only [bind, Except.bind, Except.mapError, hevaluate]
      exact .verdict hfit (input.not_noProject hdir hsome) hgood _

end CostGate
