import CostGate.Project.Path
import Mathlib

/-!
# The theory of paths

Paths are in a linear order, which a common root does not change. The paths below a root are the
root continued by names; the directories that lead to such a path are the shorter continuations,
then the root and what leads to the root.
-/
namespace CostGate.Path

/-- Where a part stands among all parts. -/
def Part.key : Part → ℕ ×ₗ String
  | .name s => toLex (3, s)
  | p => toLex (p.rank, "")

theorem Part.key_injective : Function.Injective Part.key := by
  intro a b h
  cases a <;> cases b <;> simp_all [key, rank]

theorem Part.before_iff {a b : Part} : a.before b = true ↔ a.key < b.key := by
  cases a <;> cases b <;> simp [before, key, rank, Prod.Lex.toLex_lt_toLex]

theorem partsBefore_iff {as bs : List Part} :
    partsBefore as bs = true ↔ as.map Part.key < bs.map Part.key := by
  induction as generalizing bs with
  | nil => cases bs <;> simp [partsBefore]
  | cons a as ih =>
    cases bs with
    | nil => simp [partsBefore]
    | cons b bs =>
      rw [partsBefore, List.map_cons, List.map_cons, List.cons_lt_cons_iff, Bool.or_eq_true,
        Bool.and_eq_true, ih, Part.before_iff, Bool.not_eq_true', ← Bool.not_eq_true,
        Part.before_iff]
      rcases lt_trichotomy a.key b.key with hlt | heq | hgt
      · simp [hlt]
      · simp [heq]
      · simp [hgt, hgt.not_gt, hgt.ne']

def key (p : Path) : List (ℕ ×ₗ String) := p.parts.map Part.key

theorem key_injective : Function.Injective key := by
  rintro ⟨as⟩ ⟨bs⟩ h
  exact congrArg mk (List.map_injective_iff.2 Part.key_injective h)

theorem before_iff {p q : Path} : p.before q = true ↔ p.key < q.key := partsBefore_iff

theorem before_irrefl (p : Path) : ¬ p.before p = true := fun h => lt_irrefl _ (before_iff.1 h)

theorem before_trans {p q r : Path} (hpq : p.before q = true) (hqr : q.before r = true) :
    p.before r = true :=
  before_iff.2 ((before_iff.1 hpq).trans (before_iff.1 hqr))

theorem ne_of_before {p q : Path} (h : p.before q = true) : p ≠ q := by
  rintro rfl
  exact before_irrefl p h

theorem before_of_ne {p q : Path} (hne : p ≠ q) (h : ¬ p.before q = true) : q.before p = true := by
  rw [before_iff] at *
  exact lt_of_le_of_ne (not_lt.1 h) fun heq => hne (key_injective heq.symm)

/-- A path seen from a root, as it stands under that root. -/
def under (root p : Path) : Path := ⟨root.parts ++ p.parts⟩

theorem under_ofNames (root : Path) (names : List String) :
    root.under (ofNames names) = root.append names := rfl

theorem under_injective (root : Path) : Function.Injective root.under := by
  rintro ⟨as⟩ ⟨bs⟩ h
  rw [under, under, mk.injEq] at h
  exact congrArg mk (List.append_cancel_left h)

theorem append_append (root : Path) (names names' : List String) :
    (root.append names).append names' = root.append (names ++ names') := by
  simp [append]

@[simp] theorem append_nil (root : Path) : root.append [] = root := by simp [append]

theorem append_ne_self {root : Path} {names : List String} (h : names ≠ []) :
    root.append names ≠ root := by
  intro heq
  have hparts : root.parts ++ names.map Part.name = root.parts := congrArg parts heq
  exact h (List.map_eq_nil_iff.1 (List.append_right_eq_self.1 hparts))

theorem partsBefore_append (front as bs : List Part) :
    partsBefore (front ++ as) (front ++ bs) = partsBefore as bs := by
  induction front with
  | nil => rfl
  | cons a front ih =>
    have hirrefl : a.before a = false := by
      rw [← Bool.not_eq_true, Part.before_iff]
      exact lt_irrefl _
    rw [List.cons_append, List.cons_append, partsBefore, hirrefl, ih, Bool.false_or,
      Bool.not_false, Bool.true_and]

theorem before_under (root p q : Path) : (root.under p).before (root.under q) = p.before q :=
  partsBefore_append root.parts p.parts q.parts

theorem relativeTo_under (root p : Path) : root.relativeTo (root.under p) = p := by
  rw [relativeTo, under, dropParts?_append]
  rfl

theorem parent?_append_concat (root : Path) (names : List String) (name : String) :
    (root.append (names ++ [name])).parent? = some (root.append names) := by
  simp [parent?, append, List.getLast?_append]

/-- A path that goes on by one name tells the directory it goes on from. -/
theorem exists_append_singleton_eq_iff {root d : Path} {front : List String} {name : String} :
    (∃ n, d.append [n] = root.append (front ++ [name])) ↔ root.append front = d := by
  constructor
  · rintro ⟨n, hn⟩
    have hparent := congrArg parent? hn
    have hd := parent?_append_concat d [] n
    rw [List.nil_append, append_nil] at hd
    rw [hd, parent?_append_concat] at hparent
    exact (Option.some.inj hparent).symm
  · rintro rfl
    exact ⟨name, append_append root front [name]⟩

theorem fileName?_append_concat (root : Path) (names : List String) (name : String) :
    (root.append (names ++ [name])).fileName? = some name := by
  simp [fileName?, append, List.getLast?_append]

theorem fileName?_append (root : Path) {names : List String} (h : names ≠ []) :
    (root.append names).fileName? = (ofNames names).fileName? := by
  obtain ⟨front, name, rfl⟩ := (List.eq_nil_or_concat' names).resolve_left h
  rw [fileName?_append_concat]
  exact (fileName?_append_concat ⟨[]⟩ front name).symm

/-- The names between the slashes of a text, which have none in them. -/
def Slashless (names : List String) : Prop := ∀ name ∈ names, '/' ∉ name.toList

theorem text_ofNames (names : List String) : (ofNames names).text = "/".intercalate names := by
  unfold text ofNames
  rw [List.map_map]
  exact congrArg _ (List.map_id names)

/-- A slash in the text of a relative path tells that there is a directory in it. -/
theorem slash_mem_text_iff {names : List String} (h : Slashless names) :
    '/' ∈ (ofNames names).text.toList ↔ 2 ≤ names.length := by
  rw [text_ofNames]
  cases names with
  | nil => simp
  | cons first names =>
    cases names with
    | nil => simpa using h first List.mem_cons_self
    | cons second rest => simp

/-- The names of a relative path are what stands between the slashes of its text. -/
theorem splitOn_text {names : List String} (h : Slashless names) (hne : names ≠ []) :
    (ofNames names).text.toList.splitOn '/' = names.map String.toList := by
  have hlist : (ofNames names).text.toList = ['/'].intercalate (names.map String.toList) := by
    rw [text_ofNames]
    simp
  rw [hlist]
  apply List.splitOn_intercalate
  · simpa [Slashless] using h
  · simpa using hne

theorem eq_of_text_eq {names names' : List String} (h : Slashless names) (h' : Slashless names')
    (hne : names ≠ []) (hne' : names' ≠ [])
    (heq : (ofNames names).text = (ofNames names').text) : names = names' := by
  have hsplit : names.map String.toList = names'.map String.toList := by
    rw [← splitOn_text h hne, heq, splitOn_text h' hne']
  exact List.map_injective_iff.2 (fun _ _ => String.toList_injective) hsplit

theorem ancestors_of_none {p : Path} (h : p.parent? = none) : p.ancestors = [] := by
  rw [ancestors]
  split
  · rfl
  · simp_all

theorem ancestors_of_some {p q : Path} (h : p.parent? = some q) :
    p.ancestors = q :: q.ancestors := by
  rw [ancestors]
  split
  · simp_all
  · simp_all

theorem ancestors_append_concat (root : Path) (names : List String) (name : String) :
    (root.append (names ++ [name])).ancestors =
      root.append names :: (root.append names).ancestors :=
  ancestors_of_some (parent?_append_concat root names name)

theorem length_of_mem_ancestors {p q : Path} (h : q ∈ p.ancestors) :
    q.parts.length < p.parts.length := by
  induction p using ancestors.induct with
  | case1 p hparent =>
    rw [ancestors_of_none hparent] at h
    simp at h
  | case2 p r hparent ih =>
    rw [ancestors_of_some hparent] at h
    rcases List.mem_cons.1 h with rfl | hmem
    · exact length_parent? hparent
    · exact (ih hmem).trans (length_parent? hparent)

theorem nodup_ancestors (p : Path) : p.ancestors.Nodup := by
  induction p using ancestors.induct with
  | case1 p hparent =>
    rw [ancestors_of_none hparent]
    exact List.nodup_nil
  | case2 p q hparent ih =>
    rw [ancestors_of_some hparent]
    exact List.nodup_cons.2 ⟨fun hmem => (length_of_mem_ancestors hmem).false, ih⟩

/-- A path that goes on from a directory. -/
def IsBelow (p directory : Path) : Prop := directory.parts <+: p.parts ∧ p ≠ directory

instance (p directory : Path) : Decidable (p.IsBelow directory) :=
  inferInstanceAs (Decidable (_ ∧ _))

theorem isBelow_append (directory : Path) {names : List String} (h : names ≠ []) :
    (directory.append names).IsBelow directory :=
  ⟨List.prefix_append _ _, append_ne_self h⟩

theorem isBelow_iff {p directory : Path} :
    p.IsBelow directory ↔ ∃ rest, rest ≠ [] ∧ p.parts = directory.parts ++ rest := by
  constructor
  · rintro ⟨⟨rest, hrest⟩, hne⟩
    refine ⟨rest, ?_, hrest.symm⟩
    rintro rfl
    rw [List.append_nil] at hrest
    exact hne (congrArg mk hrest.symm)
  · rintro ⟨rest, hne, hrest⟩
    refine ⟨⟨rest, hrest.symm⟩, ?_⟩
    rintro rfl
    exact hne (List.append_right_eq_self.1 hrest.symm)

theorem IsBelow.length_lt {p directory : Path} (h : p.IsBelow directory) :
    directory.parts.length < p.parts.length := by
  obtain ⟨rest, hne, hrest⟩ := isBelow_iff.1 h
  have := List.length_pos_iff.2 hne
  rw [hrest, List.length_append]
  omega

theorem IsBelow.trans {p q r : Path} (hpq : p.IsBelow q) (hqr : q.IsBelow r) : p.IsBelow r := by
  refine ⟨hqr.1.trans hpq.1, ?_⟩
  rintro rfl
  exact absurd hpq.length_lt hqr.length_lt.not_gt

/-- What lies right in a directory below a root is two names or more away from the root. -/
theorem IsBelow.two_le_length {root d : Path} (h : d.IsBelow root) {name : String}
    {names : List String} (heq : d.append [name] = root.append names) : 2 ≤ names.length := by
  have hparts := congrArg (fun p : Path => p.parts.length) heq
  have hlt := h.length_lt
  simp only [append, List.length_append, List.length_map, List.length_singleton] at hparts
  omega

/-- A path is below the directory it is in, and below whatever that directory is below. -/
theorem isBelow_append_concat {root directory : Path} {names : List String} {name : String} :
    (root.append (names ++ [name])).IsBelow directory ↔
      directory = root.append names ∨ (root.append names).IsBelow directory := by
  have hparts : (root.append (names ++ [name])).parts =
      (root.append names).parts ++ [.name name] := by
    simp [append]
  constructor
  · intro h
    obtain ⟨rest, hne, hrest⟩ := isBelow_iff.1 h
    obtain ⟨front, last, rfl⟩ := (List.eq_nil_or_concat' rest).resolve_left hne
    rw [hparts, ← List.append_assoc] at hrest
    have hfront := (List.append_inj' hrest rfl).1
    by_cases hnil : front = []
    · rw [hnil, List.append_nil] at hfront
      exact .inl (congrArg mk hfront.symm)
    · exact .inr (isBelow_iff.2 ⟨front, hnil, hfront⟩)
  · rintro (rfl | h)
    · rw [← append_append]
      exact isBelow_append _ (List.cons_ne_nil name [])
    · obtain ⟨rest, -, hrest⟩ := isBelow_iff.1 h
      refine isBelow_iff.2 ⟨rest ++ [.name name], by simp, ?_⟩
      rw [hparts, hrest, List.append_assoc]

end CostGate.Path
