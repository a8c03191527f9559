import CostGate.Proofs.Number.Lawful
import CostGate.Proofs.Project.Aggregation

/-!
# Outcomes of a collection

A project is collected unless it is no directory, has no component directory, or contains a file
with a cost that is negative or not finite. The components of a collection have costs that are not
negative, although a sum of finite costs may be infinite.
-/
namespace CostGate

open Number Number.LawfulQuantity

variable {α : Type} [Quantity α]

/-- The cost of a file with what was read at its path. -/
def Config.fileCost (config : Config α) (root : Path) (file : Path × Option ByteArray) : α :=
  (Collection.priceFile config root file.1
    (file.2.bind (Collection.measureFile? config.includes file.1))).metrics.finalCost

def Site.contents (s : Site) (t : Tree) (exclusion : Exclusion) :
    List (Path × Option ByteArray) :=
  (s.sourceFiles t exclusion).map fun file => (file, s.content? t file)

theorem Metrics.finalCost_sum (ms : List (Metrics α)) :
    (Metrics.sum ms).finalCost = total (ms.map (·.finalCost)) := by
  have hfold : ∀ acc : Metrics α,
      (ms.foldl Metrics.add acc).finalCost =
        (ms.map (·.finalCost)).foldl (· + ·) acc.finalCost := by
    induction ms with
    | nil => exact fun _ => rfl
    | cons m ms ih => exact fun acc => ih (acc.add m)
  exact hfold .zero

namespace Collection

def decodedCount (files : List (Path × Option ByteArray)) : ℕ :=
  files.countP fun file => (file.2.bind decode?).isSome

def priced (config : Config α) (root : Path) (files : List (Path × Option ByteArray)) :
    List (PricedFile α) :=
  files.map fun file =>
    priceFile config root file.1 (file.2.bind (measureFile? config.includes file.1))

theorem isBadCost_eq_true_iff {cost : α} :
    isBadCost cost = true ↔ cost < 0.0 ∨ isFinite cost = false := by
  rw [isBadCost, Bool.or_eq_true, decide_eq_true_iff, Bool.not_eq_true']

theorem isSome_measureFile? (weights : IncludeWeights α) (file : Path × Option ByteArray) :
    (file.2.bind (measureFile? weights file.1)).isSome = (file.2.bind decode?).isSome := by
  cases file.2 with
  | none => rfl
  | some content => exact Option.isSome_map

/-- A collection as its files are found, priced and added up. -/
theorem ofFiles_eq (config : Config α) (root : Path) (rootText : String)
    (files : List (Path × Option ByteArray)) :
    ofFiles config root rootText files =
      if Discovery.components root (files.map (·.1)) = [] then
        .error (.noComponents rootText files.length)
      else match (priced config root files).find? fun f => isBadCost f.metrics.finalCost with
        | some bad => .error (.cost bad.relative bad.metrics.finalCost (decodedCount files))
        | none => .ok ⟨priced config root files,
            aggregate root (Discovery.components root (files.map (·.1))) (priced config root files),
            decodedCount files, files.length - decodedCount files⟩ := by
  have hprocessed : (files.map fun f => (f.1, f.2.bind (measureFile? config.includes f.1))).countP
      (fun f => f.2.isSome) = decodedCount files := by
    rw [List.countP_map]
    exact List.countP_congr fun file _ => by
      rw [← isSome_measureFile? config.includes]
      rfl
  have hpriced : (files.map fun f => (f.1, f.2.bind (measureFile? config.includes f.1))).map
      (fun f => priceFile config root f.1 f.2) = priced config root files := List.map_map
  by_cases h : Discovery.components root (files.map (·.1)) = []
  · rw [if_pos h]
    exact if_pos (List.isEmpty_iff.2 h)
  · rw [if_neg h, ← hprocessed, ← hpriced]
    exact if_neg (by simpa using h)

/-- What is collected from files whose costs are accepted. -/
def collectionOf (config : Config α) (root : Path) (files : List (Path × Option ByteArray)) :
    Collection α :=
  ⟨priced config root files,
    aggregate root (Discovery.components root (files.map (·.1))) (priced config root files),
    decodedCount files, files.length - decodedCount files⟩

theorem map_path_priced (config : Config α) (root : Path)
    (files : List (Path × Option ByteArray)) :
    (priced config root files).map (·.path) = files.map (·.1) := by
  rw [priced, List.map_map]
  rfl

theorem exists_of_mem_components {config : Config α} {root : Path}
    {files : List (Path × Option ByteArray)} {k : Component α}
    (hk : k ∈ (collectionOf config root files).components) :
    ∃ d ∈ Discovery.components root (files.map (·.1)),
      component root d (members root d (priced config root files)) = k := by
  rw [collectionOf, aggregate_eq] at hk
  exact List.mem_map.1 hk

theorem processed_add_failed (config : Config α) (root : Path)
    (files : List (Path × Option ByteArray)) :
    (collectionOf config root files).processed + (collectionOf config root files).failed =
      files.length :=
  Nat.add_sub_cancel' List.countP_le_length

theorem ofFiles_eq_ok_iff {config : Config α} {root : Path} {rootText : String}
    {files : List (Path × Option ByteArray)} {c : Collection α} :
    ofFiles config root rootText files = .ok c ↔
      Discovery.components root (files.map (·.1)) ≠ [] ∧
        (∀ f ∈ priced config root files, ¬ isBadCost f.metrics.finalCost = true) ∧
          c = collectionOf config root files := by
  rw [ofFiles_eq]
  split_ifs with hnone
  · simp [hnone]
  · cases hfind : (priced config root files).find? fun f => isBadCost f.metrics.finalCost with
    | some bad =>
      have hbad := List.find?_some hfind
      have hmem := List.mem_of_find?_eq_some hfind
      simp only [reduceCtorEq, false_iff]
      rintro ⟨-, hgood, -⟩
      exact hgood bad hmem hbad
    | none =>
      have hgood := List.find?_eq_none.1 hfind
      simp only [Except.ok.injEq]
      constructor
      · rintro rfl
        exact ⟨hnone, hgood, rfl⟩
      · rintro ⟨-, -, rfl⟩
        rfl

theorem finalCost_nonneg_of_not_bad [LawfulQuantity α] {cost : α} (h : ¬ isBadCost cost = true) :
    0.0 ≤ cost := by
  rw [isBadCost_eq_true_iff, not_or, Bool.not_eq_false] at h
  exact le_of_not_lt (defined_of_finite h.2) defined_zero h.1

theorem cost_component_nonneg [LawfulQuantity α] {root directory : Path}
    {files : List (PricedFile α)} (h : ∀ f ∈ files, 0.0 ≤ f.metrics.finalCost) :
    0.0 ≤ (component root directory files).cost := by
  refine roundTo_nonneg (by decide) (by decide) ?_
  rw [Metrics.finalCost_sum, List.map_map]
  refine total_nonneg fun x hx => ?_
  obtain ⟨f, hf, rfl⟩ := List.mem_map.1 hx
  exact h f hf

theorem cost_aggregate_nonneg [LawfulQuantity α] {root : Path} {directories : List Path}
    {files : List (PricedFile α)} (h : ∀ f ∈ files, 0.0 ≤ f.metrics.finalCost) :
    ∀ k ∈ aggregate root directories files, 0.0 ≤ k.cost := by
  intro k hk
  rw [aggregate_eq] at hk
  obtain ⟨d, -, rfl⟩ := List.mem_map.1 hk
  exact cost_component_nonneg fun f hf => h f (List.mem_of_mem_filter hf)

end Collection

namespace Site

def componentDirectories (s : Site) (t : Tree) (exclusion : Exclusion) : List Path :=
  Discovery.components s.path (s.sourceFiles t exclusion)

theorem map_fst_contents (s : Site) (t : Tree) (exclusion : Exclusion) :
    (s.contents t exclusion).map (·.1) = s.sourceFiles t exclusion := by
  rw [contents, List.map_map]
  exact List.map_id _

theorem collect_eq_ok_iff {s : Site} {t : Tree} {config : Config α} {c : Collection α} :
    s.collect t config = .ok c ↔ s.isDirectory t = true ∧
      s.componentDirectories t config.exclusion ≠ [] ∧
        (∀ f ∈ Collection.priced config s.path (s.contents t config.exclusion),
          ¬ Collection.isBadCost f.metrics.finalCost = true) ∧
          c = Collection.collectionOf config s.path (s.contents t config.exclusion) := by
  rw [collect]
  by_cases hdir : s.isDirectory t = true
  · rw [if_pos hdir, and_iff_right hdir]
    change Collection.ofFiles config s.path s.root (s.contents t config.exclusion) = .ok c ↔ _
    rw [Collection.ofFiles_eq_ok_iff, map_fst_contents, componentDirectories]
  · rw [if_neg hdir]
    simp [hdir]

/-- Whether a file of the project has a cost that is negative or not finite. -/
def HasBadCost (s : Site) (t : Tree) (config : Config α) : Prop :=
  ∃ file ∈ s.contents t config.exclusion,
    config.fileCost s.path file < 0.0 ∨ isFinite (config.fileCost s.path file) = false

inductive Outcome (s : Site) (t : Tree) (config : Config α) :
    Except (CollectionError α) (Collection α) → Prop
  | noDirectory (hdir : s.isDirectory t = false) : Outcome s t config (.error (.noDirectory s.root))
  | noComponents (hdir : s.isDirectory t = true)
      (hnone : s.componentDirectories t config.exclusion = []) (files : ℕ) :
    Outcome s t config (.error (.noComponents s.root files))
  | badCost (hdir : s.isDirectory t = true)
      (hsome : s.componentDirectories t config.exclusion ≠ []) (hbad : s.HasBadCost t config)
      (relative : String) (value : α) :
    Outcome s t config
      (.error (.cost relative value (Collection.decodedCount (s.contents t config.exclusion))))
  | collected (hdir : s.isDirectory t = true)
      (hsome : s.componentDirectories t config.exclusion ≠ []) (hgood : ¬ s.HasBadCost t config)
      (c : Collection α) (hcosts : ∀ k ∈ c.components, 0.0 ≤ k.cost) :
    Outcome s t config (.ok c)

theorem outcome_collect [LawfulQuantity α] (s : Site) (t : Tree) (config : Config α) :
    s.Outcome t config (s.collect t config) := by
  rw [collect]
  split_ifs with hdir
  · change Outcome s t config
      (Collection.ofFiles config s.path s.root (s.contents t config.exclusion))
    rw [Collection.ofFiles_eq, map_fst_contents]
    split_ifs with hnone
    · exact .noComponents hdir hnone _
    have hbad : ∀ {file}, Collection.isBadCost (config.fileCost s.path file) = true ↔
        config.fileCost s.path file < 0.0 ∨ isFinite (config.fileCost s.path file) = false :=
      Collection.isBadCost_eq_true_iff
    cases hfind : (Collection.priced config s.path (s.contents t config.exclusion)).find? fun f =>
        Collection.isBadCost f.metrics.finalCost with
    | some bad =>
      obtain ⟨file, hfile, rfl⟩ := List.mem_map.1 (List.mem_of_find?_eq_some hfind)
      have hcost := List.find?_some hfind
      exact .badCost hdir hnone ⟨file, hfile, hbad.1 hcost⟩ _ _
    | none =>
      have hgood : ∀ file ∈ s.contents t config.exclusion,
          ¬ Collection.isBadCost (config.fileCost s.path file) = true := fun file hfile =>
        List.find?_eq_none.1 hfind _ (List.mem_map_of_mem hfile)
      refine .collected hdir hnone (fun ⟨file, hfile, h⟩ => hgood file hfile (hbad.2 h)) _ ?_
      refine Collection.cost_aggregate_nonneg fun f hf => ?_
      obtain ⟨file, hfile, rfl⟩ := List.mem_map.1 hf
      exact Collection.finalCost_nonneg_of_not_bad (hgood file hfile)
  · exact .noDirectory (by simpa using hdir)

end Site

end CostGate
