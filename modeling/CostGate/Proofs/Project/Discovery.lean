import CostGate.Project.Discovery
import CostGate.Proofs.Project.Path
import CostGate.Proofs.Text.Lowercase

/-!
# What discovery finds

Source files and component directories are found in order and once. The component directories are
those below the root with an implementation file right in them and a name without a test in it.
-/
namespace CostGate

namespace Discovery

theorem insert_pairwise {p : Path} {ps : List Path} (h : ps.Pairwise fun q r => q.before r = true) :
    (insert p ps).Pairwise fun q r => q.before r = true := by
  induction ps with
  | nil => exact List.pairwise_singleton _ p
  | cons q qs ih =>
    obtain ⟨hq, hqs⟩ := List.pairwise_cons.1 h
    rw [insert]
    split_ifs with hbefore heq
    · refine List.pairwise_cons.2 ⟨List.forall_mem_cons.2 ⟨hbefore, fun r hr => ?_⟩, h⟩
      exact Path.before_trans hbefore (hq r hr)
    · exact h
    · refine List.pairwise_cons.2 ⟨fun r hr => ?_, ih hqs⟩
      rcases mem_insert.1 hr with rfl | hr
      · exact Path.before_of_ne heq hbefore
      · exact hq r hr

theorem inOrder_pairwise (ps : List Path) :
    (inOrder ps).Pairwise fun q r => q.before r = true := by
  induction ps with
  | nil => exact List.Pairwise.nil
  | cons p ps ih => exact insert_pairwise ih

theorem insert_under (root p : Path) (ps : List Path) :
    insert (root.under p) (ps.map root.under) = (insert p ps).map root.under := by
  induction ps with
  | nil => rfl
  | cons q qs ih =>
    rw [List.map_cons, insert, insert, Path.before_under, ih]
    simp only [(Path.under_injective root).eq_iff]
    split_ifs <;> rfl

theorem inOrder_under (root : Path) (ps : List Path) :
    inOrder (ps.map root.under) = (inOrder ps).map root.under := by
  induction ps with
  | nil => rfl
  | cons p ps ih =>
    rw [List.map_cons, inOrder, List.foldr_cons, ← inOrder, ih, insert_under]
    rfl

/-- A directory with a name that has a test in it, in any letter case. -/
def NamesTests (directory : Path) : Prop :=
  ∃ name w, directory.fileName? = some name ∧ w <:+: name.toList ∧
    w.map Text.asciiLower = ['t', 'e', 's', 't']

theorem isPlain_test : ∀ x ∈ ['t', 'e', 's', 't'], Text.IsPlain x := by
  have ht : Text.IsPlain 't' := ⟨by decide, by decide, by decide, by decide +kernel⟩
  have he : Text.IsPlain 'e' := ⟨by decide, by decide, by decide, by decide +kernel⟩
  have hs : Text.IsPlain 's' := ⟨by decide, by decide, by decide, by decide +kernel⟩
  simp [ht, he, hs]

theorem speaksOfTests_iff {directory : Path} :
    speaksOfTests directory = true ↔ NamesTests directory := by
  rw [speaksOfTests, Text.occurs_iff, Text.lowercase, Text.plain_occurs_iff isPlain_test,
    NamesTests]
  cases directory.fileName? with
  | none =>
    simp
  | some name => simp

theorem speaksOfTests_append (root : Path) {names : List String} (h : names ≠ []) :
    speaksOfTests (root.append names) = speaksOfTests (.ofNames names) := by
  rw [speaksOfTests, speaksOfTests, Path.fileName?_append root h]

theorem founds?_of_length_lt (root : Path) {names : List String} (h : Path.Slashless names)
    (hlength : names.length < 2) : founds? root (root.append names) = none := by
  rw [founds?, Path.relativeTo_append, if_neg]
  rintro ⟨hslash, -⟩
  rw [List.contains_iff_mem, Path.slash_mem_text_iff h] at hslash
  omega

theorem founds?_append_concat (root : Path) {front : List String} {name : String}
    (h : Path.Slashless (front ++ [name])) (hfront : front ≠ []) :
    founds? root (root.append (front ++ [name])) =
      if Classification.kind (Path.ofNames (front ++ [name])).text.toList = .implementation ∧
          speaksOfTests (.ofNames front) = false then some (root.append front)
      else none := by
  have hlength : 2 ≤ (front ++ [name]).length := by
    have := List.length_pos_iff.2 hfront
    rw [List.length_append, List.length_singleton]
    omega
  have hslash : (Path.ofNames (front ++ [name])).text.toList.contains '/' = true :=
    List.contains_iff_mem.2 ((Path.slash_mem_text_iff h).2 hlength)
  rw [founds?, Path.relativeTo_append, Path.parent?_append_concat,
    ← speaksOfTests_append root hfront, hslash, Option.filter_some]
  by_cases hkind :
      Classification.kind (Path.ofNames (front ++ [name])).text.toList = .implementation
  · simp [hkind]
  · simp [hkind]

/-- The names below a root: too few for a directory among them, or a directory and a name. -/
theorem length_lt_or_eq_concat (names : List String) :
    names.length < 2 ∨ ∃ front name, front ≠ [] ∧ names = front ++ [name] := by
  rcases List.eq_nil_or_concat' names with rfl | ⟨front, name, rfl⟩
  · exact .inl (by decide)
  · by_cases hfront : front = []
    · subst hfront
      exact .inl (by simp)
    · exact .inr ⟨front, name, hfront, rfl⟩

/-- What is found at one root is found at every root. -/
theorem founds?_append (root : Path) {names : List String} (h : Path.Slashless names) :
    founds? root (root.append names) = (founds? ⟨[]⟩ (.ofNames names)).map root.under := by
  have hempty : Path.append ⟨[]⟩ names = .ofNames names := rfl
  rw [← hempty]
  rcases length_lt_or_eq_concat names with hlength | ⟨front, name, hfront, rfl⟩
  · rw [founds?_of_length_lt root h hlength, founds?_of_length_lt _ h hlength]
    rfl
  · rw [founds?_append_concat root h hfront, founds?_append_concat _ h hfront,
      apply_ite (Option.map root.under)]
    rfl

/-- The directory of a component: it lies below the root, an implementation file is right in it,
and its own name has no test in it. -/
structure IsComponent (root : Path) (files : List Path) (directory : Path) : Prop where
  isBelow : directory.IsBelow root
  implements : ∃ name, directory.append [name] ∈ files ∧
    Classification.kind (root.relativeTo (directory.append [name])).text.toList = .implementation
  not_namesTests : ¬ NamesTests directory

theorem founds?_eq_some_iff {root d : Path} {names : List String} (h : Path.Slashless names) :
    founds? root (root.append names) = some d ↔
      d.IsBelow root ∧ (∃ name, d.append [name] = root.append names) ∧
        Classification.kind (Path.ofNames names).text.toList = .implementation ∧
          ¬ NamesTests d := by
  rcases length_lt_or_eq_concat names with hlength | ⟨front, name, hfront, rfl⟩
  · rw [founds?_of_length_lt root h hlength]
    constructor
    · intro hnone
      simp at hnone
    · rintro ⟨hbelow, ⟨name, hname⟩, -⟩
      exact absurd (hbelow.two_le_length hname) (by omega)
  · rw [founds?_append_concat root h hfront, Path.exists_append_singleton_eq_iff,
      ← speaksOfTests_append root hfront]
    constructor
    · intro hsome
      split_ifs at hsome with hcondition
      obtain rfl := Option.some.inj hsome
      rw [← speaksOfTests_iff, Bool.not_eq_true]
      exact ⟨root.isBelow_append hfront, rfl, hcondition⟩
    · rintro ⟨-, rfl, hkind, hname⟩
      rw [← speaksOfTests_iff, Bool.not_eq_true] at hname
      rw [if_pos ⟨hkind, hname⟩]

theorem mem_components_iff {root d : Path} {files : List Path}
    (hfiles : ∀ f ∈ files, ∃ names, Path.Slashless names ∧ root.append names = f) :
    d ∈ components root files ↔ IsComponent root files d := by
  rw [components, mem_inOrder, List.mem_filterMap]
  constructor
  · rintro ⟨f, hf, hfounds⟩
    obtain ⟨names, hnames, rfl⟩ := hfiles f hf
    obtain ⟨hbelow, ⟨name, hname⟩, hkind, htests⟩ := (founds?_eq_some_iff hnames).1 hfounds
    refine ⟨hbelow, ⟨name, ?_, ?_⟩, htests⟩
    · rwa [hname]
    · rwa [hname, Path.relativeTo_append]
  · rintro ⟨hbelow, ⟨name, hmem, hkind⟩, htests⟩
    obtain ⟨names, hnames, heq⟩ := hfiles _ hmem
    refine ⟨_, hmem, ?_⟩
    rw [← heq, Path.relativeTo_append] at hkind
    rw [← heq]
    exact (founds?_eq_some_iff hnames).2 ⟨hbelow, ⟨name, heq.symm⟩, hkind, htests⟩

theorem components_pairwise (root : Path) (files : List Path) :
    (components root files).Pairwise fun p q => p.before q = true :=
  inOrder_pairwise _

end Discovery

end CostGate
