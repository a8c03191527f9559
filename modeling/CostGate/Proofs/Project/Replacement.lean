import CostGate.Proofs.Cost.Zero
import CostGate.Proofs.Project.Collection
import CostGate.Proofs.Project.Overwriting

/-!
# Collections before and after a change of one file

Other bytes in a source file touch its own metrics and those of the components above it. A file
that cannot be decoded adds nothing to any component.
-/
namespace CostGate

open Number (Quantity roundTo)

variable {α : Type} [Quantity α]

/-- Two entries that differ at most in the metrics of a file. -/
structure PricedFile.Agrees (f : Path) (e e' : PricedFile α) : Prop where
  path_eq : e.path = e'.path
  relative_eq : e.relative = e'.relative
  kind_eq : e.kind = e'.kind
  phase_eq : e.phase = e'.phase
  eq_of_ne : e.path ≠ f → e = e'

structure Component.Agrees (f : Path) (k k' : Component α) : Prop where
  directory_eq : k.directory = k'.directory
  name_eq : k.name = k'.name
  fileCount_eq : k.fileCount = k'.fileCount
  eq_of_not_above : k.directory ∉ f.ancestors → k = k'

/-- Two collections that differ at most in the metrics of a file and in the components above it. -/
structure Collection.Agrees (f : Path) (c c' : Collection α) : Prop where
  files : List.Forall₂ (PricedFile.Agrees f) c.files c'.files
  components : List.Forall₂ (Component.Agrees f) c.components c'.components
  counts_eq : c.processed + c.failed = c'.processed + c'.failed

namespace Collection

variable {f : Path}

theorem agrees_priceFile (config : Config α) (root : Path) {path : Path}
    {metrics metrics' : Option (Metrics α)} (h : path ≠ f → metrics = metrics') :
    PricedFile.Agrees f (priceFile config root path metrics)
      (priceFile config root path metrics') where
  path_eq := rfl
  relative_eq := rfl
  kind_eq := rfl
  phase_eq := rfl
  eq_of_ne hne := by rw [h hne]

theorem agrees_priced (config : Config α) (root : Path) {paths : List Path}
    {content content' : Path → Option ByteArray}
    (h : ∀ path ∈ paths, path ≠ f → content path = content' path) :
    List.Forall₂ (PricedFile.Agrees f)
      (priced config root (paths.map fun path => (path, content path)))
      (priced config root (paths.map fun path => (path, content' path))) := by
  rw [priced, priced, List.map_map, List.map_map, List.forall₂_map_left_iff,
    List.forall₂_map_right_iff, List.forall₂_same]
  intro path hpath
  refine agrees_priceFile config root fun hne => ?_
  dsimp only
  rw [h path hpath hne]

variable {root d : Path} {files files' : List (PricedFile α)}

omit [Quantity α] in
theorem agrees_members (h : List.Forall₂ (PricedFile.Agrees f) files files') :
    List.Forall₂ (PricedFile.Agrees f) (members root d files) (members root d files') := by
  refine List.rel_filter (fun e e' he => ?_) h
  dsimp only
  rw [he.path_eq]

omit [Quantity α] in
/-- The files below a directory are the same, unless the directory leads to the file. -/
theorem members_eq_of_agrees (h : List.Forall₂ (PricedFile.Agrees f) files files')
    (hd : d ∉ f.ancestors) : members root d files = members root d files' := by
  have hother : ∀ e ∈ members root d files, e.path ≠ f := by
    rintro e he rfl
    have habove : d ∈ above root e.path := of_decide_eq_true (List.mem_filter.1 he).2
    exact hd ((List.takeWhile_sublist _).subset habove)
  have hboth := (List.forall₂_and_left _ _).2 ⟨hother, agrees_members h⟩
  rw [← List.forall₂_eq_eq_eq]
  exact hboth.imp fun e e' he => he.2.eq_of_ne he.1

theorem agrees_component (h : List.Forall₂ (PricedFile.Agrees f) files files') :
    Component.Agrees f (component root d (members root d files))
      (component root d (members root d files')) where
  directory_eq := rfl
  name_eq := rfl
  fileCount_eq := (agrees_members h).length_eq
  eq_of_not_above hd := congrArg _ (members_eq_of_agrees h hd)

theorem agrees_aggregate (directories : List Path)
    (h : List.Forall₂ (PricedFile.Agrees f) files files') :
    List.Forall₂ (Component.Agrees f) (aggregate root directories files)
      (aggregate root directories files') := by
  rw [aggregate_eq, aggregate_eq, List.forall₂_map_left_iff, List.forall₂_map_right_iff,
    List.forall₂_same]
  exact fun d _ => agrees_component h

theorem agrees_collectionOf (config : Config α) (root : Path) {paths : List Path}
    {content content' : Path → Option ByteArray}
    (h : ∀ path ∈ paths, path ≠ f → content path = content' path) :
    (collectionOf config root (paths.map fun path => (path, content path))).Agrees f
      (collectionOf config root (paths.map fun path => (path, content' path))) where
  files := agrees_priced config root h
  components := by
    have hpaths : ∀ content : Path → Option ByteArray,
        (paths.map fun path => (path, content path)).map (·.1) = paths := fun content => by
      rw [List.map_map]
      exact List.map_id _
    rw [collectionOf, collectionOf, hpaths, hpaths]
    exact agrees_aggregate _ (agrees_priced config root h)
  counts_eq := by
    rw [processed_add_failed, processed_add_failed, List.length_map, List.length_map]

/-- A collection that a file adds nothing to. -/
structure CountsNothing (c : Collection Float) (root f : Path) : Prop where
  /-- The file has an entry all the same. -/
  mem_paths : f ∈ c.files.map (·.path)
  isZero : ∀ e ∈ c.files, e.path = f → e.metrics.IsZero
  /-- The components are the sums of the other files below them. -/
  metrics_eq : ∀ k ∈ c.components, k.metrics = Metrics.sum
    (((members root k.directory c.files).filter fun e => e.path ≠ f).map (·.metrics))
  cost_eq : ∀ k ∈ c.components, k.cost = roundTo k.metrics.finalCost 4

theorem isZero_of_undecodable {config : Config Float} {path : Path} {content : Option ByteArray}
    (hcontent : content.bind decode? = none)
    (hgood : ¬ isBadCost (config.fileCost root (path, content)) = true) :
    (priceFile config root path
      (content.bind (measureFile? config.includes path))).metrics.IsZero := by
  have hnone : content.bind (measureFile? config.includes path) = none := by
    rw [← Option.not_isSome_iff_eq_none,
      isSome_measureFile? config.includes (path, content), hcontent]
    exact Bool.false_ne_true
  rw [Config.fileCost, hnone, isBadCost_eq_true_iff, not_or, Bool.not_eq_false] at hgood
  rw [hnone]
  exact Config.isZero_price hgood.2

theorem countsNothing_collectionOf {config : Config Float} {paths : List Path}
    {content : Path → Option ByteArray} (hf : f ∈ paths)
    (hcontent : (content f).bind decode? = none)
    (hgood : ∀ e ∈ priced config root (paths.map fun path => (path, content path)),
      ¬ isBadCost e.metrics.finalCost = true) :
    (collectionOf config root (paths.map fun path => (path, content path))).CountsNothing
      root f := by
  have hzero : ∀ e ∈ priced config root (paths.map fun path => (path, content path)),
      e.path = f → e.metrics.IsZero := by
    intro e he hpath
    have hcost := hgood e he
    obtain ⟨⟨path, _⟩, hmem, rfl⟩ := List.mem_map.1 he
    obtain ⟨_, -, heq⟩ := List.mem_map.1 hmem
    obtain ⟨rfl, rfl⟩ := Prod.mk.inj heq
    obtain rfl : _ = f := hpath
    exact isZero_of_undecodable hcontent hcost
  constructor
  · rw [collectionOf, map_path_priced, List.map_map]
    exact List.mem_map.2 ⟨f, hf, rfl⟩
  · exact hzero
  · intro k hk
    obtain ⟨d, -, rfl⟩ := exists_of_mem_components hk
    refine (Metrics.sum_filter _ fun e he hpath => ?_).symm
    exact hzero e (List.mem_of_mem_filter he) (by simpa using hpath)
  · intro k hk
    obtain ⟨d, -, rfl⟩ := exists_of_mem_components hk
    rfl

end Collection

/-- Other bytes in a source file change no more than its own metrics and the components above it;
a file that cannot be decoded adds nothing. -/
theorem collect_overwrite {s : Site} {t : Tree} {config : Config Float} {f : Path}
    (hf : f ∈ s.sourceFiles t config.exclusion) (content : ByteArray) :
    ((s.content? t f).isSome → s.content? (s.overwrite t f content) f = some content) ∧
    s.sourceFiles (s.overwrite t f content) config.exclusion = s.sourceFiles t config.exclusion ∧
    s.componentDirectories (s.overwrite t f content) config.exclusion =
      s.componentDirectories t config.exclusion ∧
    (∀ c c', s.collect t config = .ok c → s.collect (s.overwrite t f content) config = .ok c' →
      c.Agrees f c') ∧
    ((s.content? t f).bind Collection.decode? = none → ∀ c, s.collect t config = .ok c →
      c.CountsNothing s.path f) := by
  have hfiles := s.sourceFiles_overwrite hf content
  refine ⟨fun h => s.content?_overwrite_self h content, hfiles, ?_, ?_, ?_⟩
  · rw [Site.componentDirectories, hfiles, Site.componentDirectories]
  · intro c c' hc hc'
    obtain ⟨-, -, -, rfl⟩ := Site.collect_eq_ok_iff.1 hc
    obtain ⟨-, -, -, rfl⟩ := Site.collect_eq_ok_iff.1 hc'
    rw [Site.contents, Site.contents, hfiles]
    apply Collection.agrees_collectionOf
    intro g hg hne
    exact (Site.content?_overwrite_of_ne hf hg hne content).symm
  · intro hcontent c hc
    obtain ⟨-, -, hgood, rfl⟩ := Site.collect_eq_ok_iff.1 hc
    exact Collection.countsNothing_collectionOf hf hcontent hgood

/-- A project with two components, one of them with two files. -/
def pairProject : Tree :=
  ⟨[(["p"], .directory), (["p", "lib"], .directory), (["p", "src"], .directory),
    (["p", "lib", "c.c"], .file "int c;\n".toUTF8), (["p", "src", "a.c"], .file "int a;\n".toUTF8),
    (["p", "src", "b.c"], .file "int b;\nint d;\n".toUTF8)]⟩

def pairSite : Site := ⟨[], "p"⟩

def pairFile : Path := Path.ofString "p/src/b.c"

/-- The same project with bytes that encode no text in one file. -/
def garbledProject : Tree := pairSite.overwrite pairProject pairFile ⟨#[255, 254]⟩

theorem collect_overwrite_garbled :
    ∃ c c', pairFile ∈ pairSite.sourceFiles pairProject (Config.default Float).exclusion ∧
      pairSite.collect pairProject (Config.default Float) = .ok c ∧
      pairSite.collect garbledProject (Config.default Float) = .ok c' ∧
      c.components.map (fun k => (k.name, k.fileCount, k.metrics.lines)) =
        [("lib", 1, 1), ("src", 2, 3)] ∧
      c'.components.map (fun k => (k.name, k.fileCount, k.metrics.lines)) =
        [("lib", 1, 1), ("src", 2, 1)] ∧
      c.Agrees pairFile c' ∧ c'.CountsNothing pairSite.path pairFile := by
  have hf : pairFile ∈ pairSite.sourceFiles pairProject (Config.default Float).exclusion := by
    decide +kernel
  have hbefore : (pairSite.collect pairProject (Config.default Float)).toOption.map
      (fun c => c.components.map fun k => (k.name, k.fileCount, k.metrics.lines)) =
        some [("lib", 1, 1), ("src", 2, 3)] := by
    decide +kernel
  have hafter : (pairSite.collect garbledProject (Config.default Float)).toOption.map
      (fun c => c.components.map fun k => (k.name, k.fileCount, k.metrics.lines)) =
        some [("lib", 1, 1), ("src", 2, 1)] := by
    decide +kernel
  obtain ⟨hcontent, hfiles, -, hagrees, -⟩ := collect_overwrite hf ⟨#[255, 254]⟩
  have hf' : pairFile ∈ pairSite.sourceFiles garbledProject (Config.default Float).exclusion := by
    rw [garbledProject, hfiles]
    exact hf
  obtain ⟨-, -, -, -, hnothing⟩ := collect_overwrite hf' ⟨#[255, 254]⟩
  have hundecodable :
      (pairSite.content? garbledProject pairFile).bind Collection.decode? = none := by
    rw [garbledProject, hcontent (by decide +kernel)]
    decide +kernel
  cases hc : pairSite.collect pairProject (Config.default Float) with
  | error e =>
    rw [hc] at hbefore
    cases hbefore
  | ok c =>
    cases hc' : pairSite.collect garbledProject (Config.default Float) with
    | error e =>
      rw [hc'] at hafter
      cases hafter
    | ok c' =>
      rw [hc] at hbefore
      rw [hc'] at hafter
      exact ⟨c, c', hf, rfl, rfl, Option.some.inj hbefore, Option.some.inj hafter,
        hagrees c c' hc hc', hnothing hundecodable c' hc'⟩

end CostGate
