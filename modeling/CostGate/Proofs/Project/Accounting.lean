import CostGate.Proofs.Project.Collection
import CostGate.Proofs.Project.Sources

/-!
# Components as subtrees

A collection accounts for the source files of a project: its components are the component
directories, and each of them adds up exactly the files below its directory, whatever components
lie in between.
-/
namespace CostGate

open Number (Quantity roundTo total)

variable {α : Type} [Quantity α]

theorem Metrics.count_sum (count : Metrics α → ℕ) (hzero : count .zero = 0)
    (hadd : ∀ m n, count (m.add n) = count m + count n) (ms : List (Metrics α)) :
    count (Metrics.sum ms) = (ms.map count).sum := by
  have hfold : ∀ acc : Metrics α, count (ms.foldl Metrics.add acc) =
      count acc + (ms.map count).sum := by
    induction ms with
    | nil => intro acc; rfl
    | cons m ms ih =>
      intro acc
      rw [List.foldl_cons, ih, hadd, List.map_cons, List.sum_cons, Nat.add_assoc]
  rw [Metrics.sum, hfold, hzero, Nat.zero_add]

/-- A component that adds up some files. -/
structure Component.Totals (k : Component α) (files : List (PricedFile α)) : Prop where
  fileCount_eq : k.fileCount = files.length
  lines_eq : k.metrics.lines = (files.map (·.metrics.lines)).sum
  dependencies_eq : k.metrics.dependencies = (files.map (·.metrics.dependencies)).sum
  functions_eq : k.metrics.functions = (files.map (·.metrics.functions)).sum
  cost_eq : k.cost = roundTo (total (files.map (·.metrics.finalCost))) 4

/-- What a collection has to say of the source files of a project. -/
structure Collection.Accounts (c : Collection α) (root : Path) (files : List Path) : Prop where
  /-- Every source file has one entry, in the order of paths. -/
  paths_eq : c.files.map (·.path) = files
  files_ordered : files.Pairwise fun p q => p.before q = true
  /-- The components are the component directories, each once and in the order of paths. -/
  mem_directories (d : Path) :
    d ∈ c.components.map (·.directory) ↔ Discovery.IsComponent root files d
  directories_nodup : (c.components.map (·.directory)).Nodup
  directories_ordered : (c.components.map (·.directory)).Pairwise fun p q => p.before q = true
  name_eq : ∀ k ∈ c.components, k.name = (root.relativeTo k.directory).text
  /-- A component adds up the files below its directory, in their order. -/
  totals : ∀ k ∈ c.components, k.Totals (c.files.filter fun f => f.path.IsBelow k.directory)
  /-- A file right in the root is below no component. -/
  outside (name : String) : ∀ k ∈ c.components, ¬ (root.append [name]).IsBelow k.directory
  processed_add_failed : c.processed + c.failed = files.length

namespace Collection

theorem totals_component (root directory : Path) (files : List (PricedFile α)) :
    (component root directory files).Totals files where
  fileCount_eq := rfl
  lines_eq := by
    have h := Metrics.count_sum Metrics.lines rfl (fun _ _ => rfl)
      (files.map (·.metrics))
    rwa [List.map_map] at h
  dependencies_eq := by
    have h := Metrics.count_sum Metrics.dependencies rfl (fun _ _ => rfl)
      (files.map (·.metrics))
    rwa [List.map_map] at h
  functions_eq := by
    have h := Metrics.count_sum Metrics.functions rfl (fun _ _ => rfl)
      (files.map (·.metrics))
    rwa [List.map_map] at h
  cost_eq := by
    rw [component, Metrics.finalCost_sum, List.map_map]
    rfl

theorem map_directory_aggregate (root : Path) (directories : List Path)
    (files : List (PricedFile α)) :
    (aggregate root directories files).map (·.directory) = directories := by
  rw [aggregate_eq, List.map_map]
  exact List.map_id directories

theorem accounts_collectionOf (config : Config α) {root : Path}
    {files : List (Path × Option ByteArray)}
    (hordered : (files.map (·.1)).Pairwise fun p q => p.before q = true)
    (hfiles : ∀ f ∈ files.map (·.1), ∃ names, Path.Slashless names ∧ root.append names = f) :
    (collectionOf config root files).Accounts root (files.map (·.1)) := by
  have hdirectories : (collectionOf config root files).components.map (·.directory) =
      Discovery.components root (files.map (·.1)) :=
    map_directory_aggregate ..
  have hcomponents : ∀ k ∈ (collectionOf config root files).components,
      ∃ d, d.IsBelow root ∧ component root d (members root d (priced config root files)) = k := by
    intro k hk
    obtain ⟨d, hd, rfl⟩ := exists_of_mem_components hk
    exact ⟨d, ((Discovery.mem_components_iff hfiles).1 hd).isBelow, rfl⟩
  have hpriced : ∀ f ∈ priced config root files, ∃ names, root.append names = f.path := by
    intro f hf
    have hpath : f.path ∈ (priced config root files).map (·.path) := List.mem_map_of_mem hf
    rw [map_path_priced] at hpath
    obtain ⟨names, -, hnames⟩ := hfiles f.path hpath
    exact ⟨names, hnames⟩
  constructor
  · exact map_path_priced ..
  · exact hordered
  · intro d
    rw [hdirectories]
    exact Discovery.mem_components_iff hfiles
  · rw [hdirectories]
    exact (Discovery.components_pairwise ..).imp Path.ne_of_before
  · rw [hdirectories]
    exact Discovery.components_pairwise ..
  · intro k hk
    obtain ⟨d, -, rfl⟩ := hcomponents k hk
    rfl
  · intro k hk
    obtain ⟨d, hd, rfl⟩ := hcomponents k hk
    have htotals := totals_component root d (members root d (priced config root files))
    rw [members_eq hd hpriced] at htotals ⊢
    exact htotals
  · intro name k hk hname
    obtain ⟨d, hd, rfl⟩ := hcomponents k hk
    have hlower := hd.length_lt
    have hupper := hname.length_lt
    rw [Path.append, List.length_append, List.length_map, List.length_singleton] at hupper
    change d.parts.length < _ at hupper
    omega
  · rw [List.length_map]
    exact processed_add_failed config root files

end Collection

/-- Every collection accounts for the source files of its project. -/
theorem collect_accounts {s : Site} {t : Tree} {config : Config α} {c : Collection α}
    (ht : t.Slashless) (hc : s.collect t config = .ok c) :
    c.Accounts s.path (s.sourceFiles t config.exclusion) := by
  obtain ⟨-, -, -, rfl⟩ := Site.collect_eq_ok_iff.1 hc
  rw [← Site.map_fst_contents]
  apply Collection.accounts_collectionOf
  · rw [Site.map_fst_contents]
    exact Site.sourceFiles_pairwise ..
  · rw [Site.map_fst_contents]
    intro f hf
    exact Site.slashless_of_mem_sourceFiles ht hf

/-- A project with nested components, tests in files and directories, and a file in the root. -/
def nestedProject : Tree :=
  ⟨[(["p"], .directory), (["p", "src"], .directory), (["p", "src", "core"], .directory),
    (["p", "src", "core", "Testing"], .directory), (["p", "src", "spec"], .directory),
    (["p", "main.c"], .file "int m;\n".toUTF8), (["p", "src", "app.c"], .file "int a;\n".toUTF8),
    (["p", "src", "core", "engine.c"], .file "int e;\nint f;\n".toUTF8),
    (["p", "src", "core", "engine_test.c"], .file "int t;\n".toUTF8),
    (["p", "src", "core", "blob.c"], .file ⟨#[255, 254]⟩),
    (["p", "src", "core", "Testing", "util.c"], .file "int u;\n".toUTF8),
    (["p", "src", "spec", "run.c"], .file "int r;\n".toUTF8)]⟩

theorem collect_accounts_nested :
    ∃ c, nestedProject.Slashless ∧
      (Site.mk [] "p").collect nestedProject (Config.default Float) = .ok c ∧
      c.components.map (fun k => (k.name, k.fileCount, k.metrics.lines)) =
        [("src", 6, 6), ("src/core", 4, 4)] ∧
      c.Accounts (Path.ofString "p")
        ((Site.mk [] "p").sourceFiles nestedProject (Config.default Float).exclusion) := by
  have ht : nestedProject.Slashless := by
    unfold Tree.Slashless Path.Slashless
    decide +kernel
  have hcounts : ((Site.mk [] "p").collect nestedProject (Config.default Float)).toOption.map
      (fun c => c.components.map fun k => (k.name, k.fileCount, k.metrics.lines)) =
        some [("src", 6, 6), ("src/core", 4, 4)] := by
    decide +kernel
  cases hc : (Site.mk [] "p").collect nestedProject (Config.default Float) with
  | error e =>
    rw [hc] at hcounts
    cases hcounts
  | ok c =>
    rw [hc] at hcounts
    exact ⟨c, ht, rfl, Option.some.inj hcounts, collect_accounts ht hc⟩

end CostGate
