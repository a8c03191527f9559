import CostGate.Proofs.Project.Collection
import CostGate.Proofs.Project.Discovery

/-!
# Projects at other places

What is collected from some files depends on their paths below the root. Under another root, the
same files have the same prices, the same components and the same sums; only the full paths begin
otherwise. The proofs compare every root with the empty one.
-/
namespace CostGate

open Number (Quantity)

/-- The names from a root to a file below it. -/
structure RelativePath where
  names : List String
  ne_nil : names ≠ []
  slashless : Path.Slashless names

def RelativePath.path (p : RelativePath) : Path := .ofNames p.names

/-- A path below one root, moved below another. -/
def Path.relocate (root root' p : Path) : Path := root'.under (root.relativeTo p)

theorem Path.relocate_comp_under (root root' : Path) :
    Path.relocate root root' ∘ root.under = root'.under := by
  funext p
  rw [Function.comp_apply, relocate, relativeTo_under]

variable {α : Type}

def PricedFile.mapPath (g : Path → Path) (e : PricedFile α) : PricedFile α :=
  { e with path := g e.path }

def Component.mapPath (g : Path → Path) (k : Component α) : Component α :=
  { k with directory := g k.directory }

def Collection.mapPath (g : Path → Path) (c : Collection α) : Collection α :=
  { c with
    files := c.files.map (PricedFile.mapPath g)
    components := c.components.map (Component.mapPath g) }

theorem PricedFile.mapPath_comp (g h : Path → Path) :
    PricedFile.mapPath (α := α) (g ∘ h) = PricedFile.mapPath g ∘ PricedFile.mapPath h := rfl

theorem Component.mapPath_comp (g h : Path → Path) :
    Component.mapPath (α := α) (g ∘ h) = Component.mapPath g ∘ Component.mapPath h := rfl

theorem Collection.mapPath_comp (g h : Path → Path) (c : Collection α) :
    c.mapPath (g ∘ h) = (c.mapPath h).mapPath g := by
  rw [mapPath, mapPath, mapPath, PricedFile.mapPath_comp, Component.mapPath_comp, List.map_map,
    List.map_map]

def CollectionError.rename (rootText : String) : CollectionError α → CollectionError α
  | .noDirectory _ => .noDirectory rootText
  | .noComponents _ files => .noComponents rootText files
  | .cost file value processed => .cost file value processed

namespace Discovery

theorem components_under (root : Path) (paths : List RelativePath) :
    components root (paths.map fun p => root.under p.path) =
      (components ⟨[]⟩ (paths.map RelativePath.path)).map root.under := by
  rw [components, components, ← inOrder_under, List.filterMap_map, List.filterMap_map,
    List.map_filterMap]
  refine congrArg inOrder (List.filterMap_congr fun p _ => ?_)
  exact founds?_append root p.slashless

end Discovery

namespace Collection

theorem above_append (root : Path) {names : List String} (h : names ≠ []) :
    above root (root.append names) = (above ⟨[]⟩ (.ofNames names)).map root.under := by
  change _ = (above ⟨[]⟩ (Path.append ⟨[]⟩ names)).map root.under
  induction names using List.reverseRecOn with
  | nil => exact absurd rfl h
  | append_singleton names name ih =>
    by_cases hnames : names = []
    · subst hnames
      rw [List.nil_append, above_append_singleton, above_append_singleton]
      rfl
    · rw [above_append_concat root hnames, above_append_concat _ hnames, ih hnames]
      rfl

theorem members_under (root d : Path) {files : List (PricedFile α)}
    (hfiles : ∀ e ∈ files, ∃ p : RelativePath, p.path = e.path) :
    members root (root.under d) (files.map (PricedFile.mapPath root.under)) =
      (members ⟨[]⟩ d files).map (PricedFile.mapPath root.under) := by
  rw [members, members, List.filter_map]
  refine congrArg _ (List.filter_congr fun e he => ?_)
  obtain ⟨p, hp⟩ := hfiles e he
  have habove : above root (root.under e.path) = (above ⟨[]⟩ e.path).map root.under := by
    rw [← hp]
    exact above_append root p.ne_nil
  change decide (root.under d ∈ above root (root.under e.path)) = _
  rw [habove, decide_eq_decide, List.mem_map_of_injective root.under_injective]

variable [Quantity α]

theorem component_under (root d : Path) (files : List (PricedFile α)) :
    component root (root.under d) (files.map (PricedFile.mapPath root.under)) =
      (component ⟨[]⟩ d files).mapPath root.under := by
  rw [component, component, List.map_map, List.map_map, List.length_map, Path.relativeTo_under]
  rfl

theorem aggregate_under (root : Path) (directories : List Path) {files : List (PricedFile α)}
    (hfiles : ∀ e ∈ files, ∃ p : RelativePath, p.path = e.path) :
    aggregate root (directories.map root.under) (files.map (PricedFile.mapPath root.under)) =
      (aggregate ⟨[]⟩ directories files).map (Component.mapPath root.under) := by
  rw [aggregate_eq, aggregate_eq, List.map_map, List.map_map]
  refine List.map_congr_left fun d _ => ?_
  change component root (root.under d) _ = _
  rw [members_under root d hfiles, component_under]
  rfl

theorem measureFile?_under (weights : IncludeWeights α) (root : Path) (p : RelativePath)
    (content : ByteArray) :
    measureFile? weights (root.under p.path) content = measureFile? weights p.path content := by
  have hextension : (root.under p.path).extension? = p.path.extension? := by
    rw [Path.extension?, Path.extension?, RelativePath.path, Path.under_ofNames,
      Path.fileName?_append root p.ne_nil]
  rw [measureFile?, measureFile?, hextension]

theorem priceFile_under (config : Config α) (root : Path) (p : RelativePath)
    (metrics : Option (Metrics α)) :
    priceFile config root (root.under p.path) metrics =
      (priceFile config ⟨[]⟩ p.path metrics).mapPath root.under := by
  rw [priceFile, priceFile, Path.relativeTo_under]
  rfl

def located (root : Path) (files : List (RelativePath × Option ByteArray)) :
    List (Path × Option ByteArray) :=
  files.map fun (p, content) => (root.under p.path, content)

theorem priced_located (config : Config α) (root : Path)
    (files : List (RelativePath × Option ByteArray)) :
    priced config root (located root files) =
      (priced config ⟨[]⟩ (located ⟨[]⟩ files)).map (PricedFile.mapPath root.under) := by
  rw [priced, priced, located, located, List.map_map, List.map_map, List.map_map]
  refine List.map_congr_left fun file _ => ?_
  obtain ⟨p, content⟩ := file
  have hmeasure : content.bind (measureFile? config.includes (root.under p.path)) =
      content.bind (measureFile? config.includes p.path) :=
    congrArg content.bind (funext (measureFile?_under config.includes root p))
  dsimp only [Function.comp_apply]
  rw [hmeasure, priceFile_under]
  rfl

theorem components_located (root : Path) (files : List (RelativePath × Option ByteArray)) :
    Discovery.components root ((located root files).map (·.1)) =
      (Discovery.components ⟨[]⟩ ((located ⟨[]⟩ files).map (·.1))).map root.under := by
  have hpaths : ∀ root : Path, (located root files).map (·.1) =
      (files.map (·.1)).map fun p => root.under p.path := fun root => by
    rw [located, List.map_map, List.map_map]
    rfl
  rw [hpaths, hpaths, Discovery.components_under]
  rfl

theorem aggregate_located (config : Config α) (root : Path)
    (files : List (RelativePath × Option ByteArray)) :
    aggregate root (Discovery.components root ((located root files).map (·.1)))
        (priced config root (located root files)) =
      (aggregate ⟨[]⟩ (Discovery.components ⟨[]⟩ ((located ⟨[]⟩ files).map (·.1)))
        (priced config ⟨[]⟩ (located ⟨[]⟩ files))).map (Component.mapPath root.under) := by
  rw [components_located, priced_located]
  refine aggregate_under root _ fun e he => ?_
  obtain ⟨file, hfile, rfl⟩ := List.mem_map.1 he
  obtain ⟨⟨p, content⟩, -, rfl⟩ := List.mem_map.1 hfile
  exact ⟨p, rfl⟩

theorem length_located (root : Path) (files : List (RelativePath × Option ByteArray)) :
    (located root files).length = files.length := List.length_map _

theorem decodedCount_located (root : Path) (files : List (RelativePath × Option ByteArray)) :
    decodedCount (located root files) = files.countP fun file => (file.2.bind decode?).isSome := by
  rw [decodedCount, located, List.countP_map]
  rfl

theorem collectionOf_located (config : Config α) (root : Path)
    (files : List (RelativePath × Option ByteArray)) :
    collectionOf config root (located root files) =
      (collectionOf config ⟨[]⟩ (located ⟨[]⟩ files)).mapPath root.under := by
  rw [collectionOf, aggregate_located, priced_located, decodedCount_located, length_located,
    collectionOf, decodedCount_located, length_located]
  rfl

theorem ofFiles_located (config : Config α) (root : Path) (rootText : String)
    (files : List (RelativePath × Option ByteArray)) :
    ofFiles config root rootText (located root files) =
      ((ofFiles config ⟨[]⟩ "" (located ⟨[]⟩ files)).map (Collection.mapPath root.under)).mapError
        (CollectionError.rename rootText) := by
  have hcomponents := components_located root files
  by_cases hnone : Discovery.components ⟨[]⟩ ((located ⟨[]⟩ files).map (·.1)) = []
  · rw [hnone, List.map_nil] at hcomponents
    rw [ofFiles_eq, if_pos hcomponents, ofFiles_eq, if_pos hnone, length_located, length_located]
    rfl
  · have hsome : Discovery.components root ((located root files).map (·.1)) ≠ [] := by
      rwa [hcomponents, ne_eq, List.map_eq_nil_iff]
    have hfind : (priced config root (located root files)).find?
        (fun e => isBadCost e.metrics.finalCost) =
          ((priced config ⟨[]⟩ (located ⟨[]⟩ files)).find?
            fun e => isBadCost e.metrics.finalCost).map (PricedFile.mapPath root.under) := by
      rw [priced_located, List.find?_map]
      rfl
    rw [ofFiles_eq, if_neg hsome, ofFiles_eq, if_neg hnone, hfind, decodedCount_located,
      decodedCount_located]
    cases (priced config ⟨[]⟩ (located ⟨[]⟩ files)).find? fun e =>
        isBadCost e.metrics.finalCost with
    | some bad => rfl
    | none =>
      have hcollection := collectionOf_located config root files
      rw [collectionOf, collectionOf, decodedCount_located, decodedCount_located] at hcollection
      exact congrArg Except.ok hcollection

end Collection

open Collection in
/-- Files under one root are collected as the same files under another root, apart from where
their paths begin. -/
theorem ofFiles_relocate [Quantity α] (config : Config α) (root root' : Path)
    (rootText rootText' : String) (files : List (RelativePath × Option ByteArray)) :
    Discovery.components root' ((located root' files).map (·.1)) =
        (Discovery.components root ((located root files).map (·.1))).map
          (Path.relocate root root') ∧
      priced config root' (located root' files) =
        (priced config root (located root files)).map
          (PricedFile.mapPath (Path.relocate root root')) ∧
      aggregate root' (Discovery.components root' ((located root' files).map (·.1)))
          (priced config root' (located root' files)) =
        (aggregate root (Discovery.components root ((located root files).map (·.1)))
          (priced config root (located root files))).map
            (Component.mapPath (Path.relocate root root')) ∧
      ofFiles config root' rootText' (located root' files) =
        ((ofFiles config root rootText (located root files)).map
          (Collection.mapPath (Path.relocate root root'))).mapError
            (CollectionError.rename rootText') := by
  refine ⟨?_, ?_, ?_, ?_⟩
  · rw [components_located root', components_located root, List.map_map,
      Path.relocate_comp_under]
  · rw [priced_located config root', priced_located config root, List.map_map,
      ← PricedFile.mapPath_comp, Path.relocate_comp_under]
  · rw [aggregate_located config root', aggregate_located config root, List.map_map,
      ← Component.mapPath_comp, Path.relocate_comp_under]
  · rw [ofFiles_located config root', ofFiles_located config root]
    cases ofFiles config ⟨[]⟩ "" (located ⟨[]⟩ files) with
    | error e => cases e <;> rfl
    | ok c =>
      refine congrArg Except.ok ?_
      rw [← Path.relocate_comp_under root root', Collection.mapPath_comp]

/-- What a checkout is called makes no component a test. -/
example : Discovery.components (Path.ofString "/test/release")
    [(Path.ofString "/test/release").under (Path.ofString "src/app.c")] =
      [Path.ofString "/test/release/src"] := by
  decide +kernel

end CostGate
