import CostGate.Project.Collection
import CostGate.Proofs.Project.Discovery

/-!
# Where source files come from

A source file of a project is an entry of the tree below the place of the root. Its path is the
root continued by the names that lead there, and its content is looked up at that entry.
-/
namespace CostGate

/-- File systems have no names with slashes. -/
def Tree.Slashless (t : Tree) : Prop := ∀ entry ∈ t.entries, Path.Slashless entry.1

namespace Discovery

theorem mem_visibleFiles {t : Tree} {root : Place} {names : List String}
    (h : names ∈ visibleFiles t root) :
    names = [] ∨ ∃ entry, (root ++ names, entry) ∈ t.entries := by
  rw [visibleFiles] at h
  split at h
  · simp at h
  · obtain ⟨⟨place, entry⟩, hmem, hvisible⟩ := List.mem_filterMap.1 h
    dsimp only at hvisible
    split_ifs at hvisible with hcondition
    obtain ⟨rest, rfl⟩ := List.isPrefixOf_iff_prefix.1 hcondition.2.1
    simp only [List.drop_left, Option.some.injEq] at hvisible
    subst hvisible
    exact .inr ⟨entry, hmem⟩
  · exact .inl (List.mem_singleton.1 h)

theorem mem_sourceFiles {exclusion : Exclusion} {root f : Path} {names : List (List String)} :
    f ∈ sourceFiles exclusion root names ↔ (∃ n ∈ names, root.append n = f) ∧
      isSource f = true ∧ exclusion.excludes (root.relativeTo f).text = false := by
  rw [sourceFiles, mem_inOrder, List.mem_filter, List.mem_map, Bool.and_eq_true,
    Bool.not_eq_true']

end Discovery

namespace Site

variable {s : Site} {t : Tree} {exclusion : Exclusion}

theorem mem_sourceFiles {f : Path} :
    f ∈ s.sourceFiles t exclusion ↔ ∃ place, s.place? t = some place ∧
      (∃ names ∈ Discovery.visibleFiles t place, s.path.append names = f) ∧
        Discovery.isSource f = true ∧ exclusion.excludes (s.path.relativeTo f).text = false := by
  rw [sourceFiles]
  cases s.place? t with
  | none => simp
  | some place =>
    simp only [Discovery.sourceFilesOf, Discovery.mem_sourceFiles, Option.some.injEq,
      exists_eq_left']

theorem sourceFiles_pairwise (s : Site) (t : Tree) (exclusion : Exclusion) :
    (s.sourceFiles t exclusion).Pairwise fun p q => p.before q = true := by
  rw [sourceFiles]
  split
  · exact Discovery.inOrder_pairwise _
  · exact List.Pairwise.nil

/-- The source files of a project are below its root, under names without slashes. -/
theorem slashless_of_mem_sourceFiles (ht : t.Slashless) {f : Path}
    (hf : f ∈ s.sourceFiles t exclusion) :
    ∃ names, Path.Slashless names ∧ s.path.append names = f := by
  obtain ⟨place, -, ⟨names, hnames, hpath⟩, -⟩ := mem_sourceFiles.1 hf
  refine ⟨names, ?_, hpath⟩
  rcases Discovery.mem_visibleFiles hnames with rfl | ⟨entry, hentry⟩
  · intro name hname
    simp at hname
  · intro name hname
    exact ht _ hentry name (List.mem_append_right place hname)

end Site

end CostGate
