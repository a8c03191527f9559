import CostGate.Proofs.Gate.Classification
import CostGate.Proofs.Gate.Conservation
import CostGate.Proofs.Gate.Run
import CostGate.Proofs.Number.Sign
import CostGate.Proofs.Project.Accounting

/-!
# Nested components

What is below a directory is below every directory around it, so a component inside another one
adds up some of the files of the other. It never adds up all of them, because an implementation file
lies right in the outer directory. Hence the inner component is smaller in all respects, and the
gate never takes it more seriously than the outer one.
-/
namespace CostGate

open Number Number.LawfulQuantity Number.SignedQuantity

variable {root : Path} {files : List Path}

theorem Discovery.IsComponent.exists_names {d : Path}
    (hfiles : ∀ f ∈ files, ∃ names, Path.Slashless names ∧ root.append names = f)
    (h : IsComponent root files d) :
    ∃ names, names ≠ [] ∧ Path.Slashless names ∧ root.append names = d := by
  obtain ⟨name, hfile, -⟩ := h.implements
  obtain ⟨names, hnames, heq⟩ := hfiles _ hfile
  rcases length_lt_or_eq_concat names with hshort | ⟨front, last, hfront, rfl⟩
  · exact absurd (h.isBelow.two_le_length heq.symm) (by omega)
  · refine ⟨front, hfront, fun n hn => hnames n (List.mem_append_left _ hn), ?_⟩
    exact Path.exists_append_singleton_eq_iff.1 ⟨name, heq.symm⟩

namespace Collection.Accounts

variable {α : Type} [Quantity α] {c : Collection α} {inner outer : Component α}

theorem eq_of_name_eq (h : c.Accounts root files)
    (hfiles : ∀ f ∈ files, ∃ names, Path.Slashless names ∧ root.append names = f)
    (hinner : inner ∈ c.components) (houter : outer ∈ c.components)
    (hname : inner.name = outer.name) : inner = outer := by
  have hnames : ∀ k ∈ c.components, ∃ names, names ≠ [] ∧ Path.Slashless names ∧
      root.append names = k.directory := fun k hk =>
    ((h.mem_directories k.directory).1 (List.mem_map_of_mem hk)).exists_names hfiles
  obtain ⟨names, hne, hslashless, heq⟩ := hnames inner hinner
  obtain ⟨names', hne', hslashless', heq'⟩ := hnames outer houter
  rw [h.name_eq inner hinner, h.name_eq outer houter, ← heq, ← heq', Path.relativeTo_append,
    Path.relativeTo_append] at hname
  obtain rfl := Path.eq_of_text_eq hslashless hslashless' hne hne' hname
  exact List.inj_on_of_nodup_map h.directories_nodup hinner houter (heq.symm.trans heq')

end Collection.Accounts

/-- What is added up in a component that lies inside another one. -/
structure Component.Inside {α : Type} [Quantity α] (inner outer : Component α) : Prop where
  fileCount_lt : inner.fileCount < outer.fileCount
  lines_le : inner.metrics.lines ≤ outer.metrics.lines
  dependencies_le : inner.metrics.dependencies ≤ outer.metrics.dependencies
  functions_le : inner.metrics.functions ≤ outer.metrics.functions
  cost_le : inner.cost ≤ outer.cost

theorem filter_isBelow_sublist {α : Type} {d d' : Path} (h : d.IsBelow d')
    (priced : List (PricedFile α)) :
    (priced.filter fun f => f.path.IsBelow d).Sublist
      (priced.filter fun f => f.path.IsBelow d') := by
  apply List.monotone_filter_right
  intro f hf
  rw [decide_eq_true_iff] at *
  exact hf.trans h

namespace Collection.Accounts

variable {α : Type} [Quantity α] {c : Collection α} {inner outer : Component α}

/-- The implementation file right in the outer directory is not below the inner one. -/
theorem fileCount_lt (h : c.Accounts root files) (hinner : inner ∈ c.components)
    (houter : outer ∈ c.components) (hbelow : inner.directory.IsBelow outer.directory) :
    inner.fileCount < outer.fileCount := by
  have hcomponent := (h.mem_directories outer.directory).1 (List.mem_map_of_mem houter)
  obtain ⟨name, hfile, -⟩ := hcomponent.implements
  rw [← h.paths_eq] at hfile
  obtain ⟨f, hf, hpath⟩ := List.mem_map.1 hfile
  have hfouter : f.path.IsBelow outer.directory := by
    rw [hpath]
    exact Path.isBelow_append _ (List.cons_ne_nil name [])
  have hfinner : ¬ f.path.IsBelow inner.directory := by
    intro hf
    have hlt := hf.length_lt
    have hlt' := hbelow.length_lt
    rw [hpath, Path.append, List.length_append, List.length_map, List.length_singleton] at hlt
    omega
  have hsublist := filter_isBelow_sublist hbelow c.files
  rw [(h.totals inner hinner).fileCount_eq, (h.totals outer houter).fileCount_eq]
  apply lt_of_le_of_ne hsublist.length_le
  intro hlength
  -- with equally many files both lists are one, and the file would be in the inner component
  apply hfinner
  have hmem : f ∈ c.files.filter fun f => f.path.IsBelow outer.directory := by simp [hf, hfouter]
  rw [← hsublist.eq_of_length hlength] at hmem
  simpa [hf] using hmem

theorem inside [SignedQuantity α] (h : c.Accounts root files)
    (hcosts : ∀ f ∈ c.files, 0.0 ≤ f.metrics.finalCost) (hinner : inner ∈ c.components)
    (houter : outer ∈ c.components) (hbelow : inner.directory.IsBelow outer.directory) :
    inner.Inside outer := by
  have hsublist := filter_isBelow_sublist hbelow c.files
  have hcount : ∀ count : PricedFile α → ℕ,
      ((c.files.filter fun f => f.path.IsBelow inner.directory).map count).sum ≤
        ((c.files.filter fun f => f.path.IsBelow outer.directory).map count).sum := fun count =>
    (hsublist.map count).sum_le_sum fun _ _ => Nat.zero_le _
  have hnonneg : ∀ d : Path, ∀ x ∈ (c.files.filter fun f => f.path.IsBelow d).map
      (·.metrics.finalCost), 0.0 ≤ x := by
    intro d x hx
    obtain ⟨f, hf, rfl⟩ := List.mem_map.1 hx
    exact hcosts f (List.mem_of_mem_filter hf)
  have htotals := h.totals inner hinner
  have htotals' := h.totals outer houter
  constructor
  · exact h.fileCount_lt hinner houter hbelow
  · rw [htotals.lines_eq, htotals'.lines_eq]
    exact hcount _
  · rw [htotals.dependencies_eq, htotals'.dependencies_eq]
    exact hcount _
  · rw [htotals.functions_eq, htotals'.functions_eq]
    exact hcount _
  · rw [htotals.cost_eq, htotals'.cost_eq]
    apply roundTo_le_roundTo (by decide) (by decide) (total_nonneg (hnonneg _))
    exact total_le_total_of_sublist (hsublist.map _) (hnonneg _)

end Collection.Accounts

/-- Both components are assessed, the inner one nowhere higher than the outer one, so that a
violation inside is a violation outside. -/
structure Evaluation.Nests {α : Type} (ev : Evaluation α) (inner outer : String) : Prop where
  assessed : inner ∈ ev.assessments.map (·.path) ∧ outer ∈ ev.assessments.map (·.path)
  zone_le : ∀ a ∈ ev.assessments, ∀ b ∈ ev.assessments, a.path = inner → b.path = outer →
    a.zone ≤ b.zone
  severity_le : ∀ a ∈ ev.assessments, ∀ b ∈ ev.assessments, a.path = inner → b.path = outer →
    a.severity ≤ b.severity
  violation : inner ∈ ev.violations.map (·.path) → outer ∈ ev.violations.map (·.path)

section Gate

variable {α : Type} [Quantity α] [LawfulQuantity α] {limits : Limits α}
  {components : List (String × α)} {threshold : α} {filesScanned : ℕ}

theorem Limits.severity_le_severity {cost cost' : α} (path path' : String) (hcost : 0.0 ≤ cost)
    (hcosts : cost ≤ cost') (hpos : 0.0 < threshold) :
    (limits.assess path cost threshold).severity ≤
      (limits.assess path' cost' threshold).severity := by
  have hthreshold := le_self_of_pos hpos
  apply severityIn_le_severityIn (zone_le_zone hcosts hthreshold)
  intro hgovernance
  have hexceeds := zone_eq_governance_iff.1 hgovernance
  exact violationRatio_le_violationRatio hcost hcosts (isPositive_of_lt hpos hexceeds) hpos
    hthreshold

theorem nests_evaluationOf {inner outer : String × α}
    (hdistinct : ∀ k ∈ components, ∀ k' ∈ components, k.1 = k'.1 → k = k')
    (hinner : inner ∈ components) (houter : outer ∈ components) (hnonneg : 0.0 ≤ inner.2)
    (hcost : inner.2 ≤ outer.2) (hpos : 0.0 < threshold) :
    (limits.evaluationOf components threshold filesScanned).Nests inner.1 outer.1 := by
  have hassess : ∀ k ∈ components, ∀ a ∈ (limits.evaluationOf components threshold
      filesScanned).assessments, a.path = k.1 → a = limits.assess k.1 k.2 threshold := by
    intro k hk a ha hpath
    obtain ⟨k', hk', rfl⟩ := List.mem_map.1 ha
    rw [hdistinct k' hk' k hk hpath]
  have hpaths : ∀ k ∈ components, k.1 ∈ (limits.evaluationOf components threshold
      filesScanned).assessments.map (·.path) := by
    intro k hk
    exact List.mem_map.2 ⟨limits.assess k.1 k.2 threshold, List.mem_map.2 ⟨k, hk, rfl⟩, rfl⟩
  constructor
  · exact ⟨hpaths inner hinner, hpaths outer houter⟩
  · intro a ha b hb hpath hpath'
    rw [hassess inner hinner a ha hpath, hassess outer houter b hb hpath']
    exact Limits.zone_le_zone hcost (le_self_of_pos hpos)
  · intro a ha b hb hpath hpath'
    rw [hassess inner hinner a ha hpath, hassess outer houter b hb hpath']
    exact Limits.severity_le_severity _ _ hnonneg hcost hpos
  · intro hviolation
    obtain ⟨v, hv, hpath⟩ := List.mem_map.1 hviolation
    obtain ⟨k, hk, hlt, rfl⟩ := Limits.mem_violationsAmong.1 (Violation.mem_sort.1 hv)
    obtain rfl := hdistinct k hk inner hinner hpath
    apply List.mem_map.2
    refine ⟨limits.violation threshold outer, ?_, rfl⟩
    apply Violation.mem_sort.2
    exact Limits.mem_violationsAmong.2 ⟨outer, houter, lt_of_lt_of_le hlt hcost, rfl⟩

/-- Every evaluation of a collection compares two of its components by their costs. -/
theorem Collection.Accounts.nests {c : Collection α} {inner outer : Component α}
    (h : c.Accounts root files)
    (hfiles : ∀ f ∈ files, ∃ names, Path.Slashless names ∧ root.append names = f)
    (hcosts : ∀ k ∈ c.components, 0.0 ≤ k.cost) (hinner : inner ∈ c.components)
    (houter : outer ∈ c.components) (hcost : inner.cost ≤ outer.cost) (hpos : 0.0 < threshold) :
    ∃ ev, c.evaluate limits threshold = .ok ev ∧ ev.Nests inner.name outer.name := by
  have hdistinct : ∀ k ∈ c.components.map fun k => (k.name, k.cost),
      ∀ k' ∈ c.components.map fun k => (k.name, k.cost), k.1 = k'.1 → k = k' := by
    intro k hk k' hk' hname
    obtain ⟨l, hl, rfl⟩ := List.mem_map.1 hk
    obtain ⟨l', hl', rfl⟩ := List.mem_map.1 hk'
    rw [h.eq_of_name_eq hfiles hl hl' hname]
  have hinner' : (inner.name, inner.cost) ∈ c.components.map fun k => (k.name, k.cost) :=
    List.mem_map_of_mem hinner
  have houter' : (outer.name, outer.cost) ∈ c.components.map fun k => (k.name, k.cost) :=
    List.mem_map_of_mem houter
  refine ⟨_, evaluate_collection hpos hcosts, ?_⟩
  exact nests_evaluationOf hdistinct hinner' houter' (hcosts inner hinner) hcost hpos

end Gate

/-- Of two components of a collection, the one inside the other has fewer files and no more of
anything else, and every evaluation of the collection takes it no more seriously. -/
theorem collect_nested {α : Type} [Quantity α] [SignedQuantity α] {s : Site} {t : Tree}
    {config : Config α} {c : Collection α} {inner outer : Component α} (ht : t.Slashless)
    (hc : s.collect t config = .ok c) (hinner : inner ∈ c.components)
    (houter : outer ∈ c.components) (hbelow : inner.directory.IsBelow outer.directory) :
    inner.Inside outer ∧ ∀ limits threshold, 0.0 < threshold →
      ∃ ev, c.evaluate limits threshold = .ok ev ∧ ev.Nests inner.name outer.name := by
  obtain ⟨-, -, hgood, rfl⟩ := Site.collect_eq_ok_iff.1 hc
  have hfiles : ∀ f ∈ (s.contents t config.exclusion).map (·.1),
      ∃ names, Path.Slashless names ∧ s.path.append names = f := by
    rw [Site.map_fst_contents]
    intro f hf
    exact Site.slashless_of_mem_sourceFiles ht hf
  have hordered : ((s.contents t config.exclusion).map (·.1)).Pairwise
      fun p q => p.before q = true := by
    rw [Site.map_fst_contents]
    exact Site.sourceFiles_pairwise ..
  have haccounts := Collection.accounts_collectionOf config hordered hfiles
  have hcosts : ∀ f ∈ (Collection.collectionOf config s.path
      (s.contents t config.exclusion)).files, 0.0 ≤ f.metrics.finalCost := by
    intro f hf
    exact Collection.finalCost_nonneg_of_not_bad (hgood f hf)
  have hinside := haccounts.inside hcosts hinner houter hbelow
  refine ⟨hinside, ?_⟩
  intro limits threshold hpos
  exact haccounts.nests hfiles (Collection.cost_aggregate_nonneg hcosts) hinner houter
    hinside.cost_le hpos

theorem collect_nested_core :
    ∃ (c : Collection Float) (inner outer : Component Float) (ev : Evaluation Float),
      nestedProject.Slashless ∧
      (Site.mk [] "p").collect nestedProject (Config.default Float) = .ok c ∧
      c.components = [outer, inner] ∧ inner.directory.IsBelow outer.directory ∧
      inner.Inside outer ∧ c.evaluate (Limits.default Float) 0.001 = .ok ev ∧
      ev.Nests "src/core" "src" := by
  have ht : nestedProject.Slashless := by
    unfold Tree.Slashless Path.Slashless
    decide +kernel
  have hnames : ((Site.mk [] "p").collect nestedProject (Config.default Float)).toOption.map
      (fun c => c.components.map fun k => (k.name, k.directory)) =
        some [("src", .ofString "p/src"), ("src/core", .ofString "p/src/core")] := by
    decide +kernel
  cases hc : (Site.mk [] "p").collect nestedProject (Config.default Float) with
  | error e =>
    rw [hc] at hnames
    cases hnames
  | ok c =>
    rw [hc] at hnames
    obtain ⟨outer, rest, hrest, hfirst, hlast⟩ := List.map_eq_cons_iff.1 (Option.some.inj hnames)
    obtain ⟨inner, rfl, hsecond⟩ := List.map_eq_singleton_iff.1 hlast
    obtain ⟨houtername, houterdir⟩ := Prod.mk.inj hfirst
    obtain ⟨hinnername, hinnerdir⟩ := Prod.mk.inj hsecond
    have hbelow : inner.directory.IsBelow outer.directory := by
      rw [hinnerdir, houterdir]
      decide +kernel
    have hinner : inner ∈ c.components := by simp [hrest]
    have houter : outer ∈ c.components := by simp [hrest]
    obtain ⟨hinside, hevaluate⟩ := collect_nested ht hc hinner houter hbelow
    obtain ⟨ev, hev, hnests⟩ := hevaluate (Limits.default Float) 0.001 (by decide)
    rw [hinnername, houtername] at hnests
    exact ⟨c, inner, outer, ev, ht, rfl, hrest, hbelow, hinside, hev, hnests⟩

end CostGate
