import CostGate.Proofs.Project.Sources

/-!
# Other bytes in a source file

A tree can have other bytes in the file at one place. Every text leads to the same place as before
then, and since no source file is an ignore file, the same source files are found.
-/
namespace CostGate

/-- An entry of a tree once the file at a place has other bytes. -/
def Entry.overwrite (p : Place) (content : ByteArray) (q : Place) : Entry → Entry
  | .file old => .file (if q = p then content else old)
  | e => e

namespace Tree

def overwrite (t : Tree) (p : Place) (content : ByteArray) : Tree :=
  if (t.content? p).isSome then ⟨t.entries.map fun (q, e) => (q, e.overwrite p content q)⟩ else t

variable {t : Tree} {p : Place}

theorem content?_eq_some_iff {content : ByteArray} :
    t.content? p = some content ↔ t.get? p = some (.file content) := by
  rw [content?]
  split
  · simp_all
  · simp_all

theorem lookup_map_overwrite (entries : List (Place × Entry)) (p : Place) (content : ByteArray)
    (q : Place) : (entries.map fun (r, e) => (r, e.overwrite p content r)).lookup q =
      (entries.lookup q).map (Entry.overwrite p content q) := by
  induction entries with
  | nil => rfl
  | cons entry rest ih =>
    obtain ⟨r, e⟩ := entry
    by_cases hr : q = r
    · subst hr
      simp
    · have hbeq : (q == r) = false := by simpa using hr
      simpa [List.lookup_cons, hbeq] using ih

theorem get?_overwrite (h : (t.content? p).isSome) (content : ByteArray) (q : Place) :
    (t.overwrite p content).get? q = (t.get? q).map (Entry.overwrite p content q) := by
  rw [overwrite, if_pos h, get?, get?]
  split_ifs
  · rfl
  · exact lookup_map_overwrite ..

theorem content?_overwrite_self (h : (t.content? p).isSome) (content : ByteArray) :
    (t.overwrite p content).content? p = some content := by
  obtain ⟨old, hold⟩ := Option.isSome_iff_exists.1 h
  rw [content?_eq_some_iff, get?_overwrite h, content?_eq_some_iff.1 hold, Option.map_some,
    Entry.overwrite, if_pos rfl]

theorem get?_overwrite_of_ne {q : Place} (hq : q ≠ p) (content : ByteArray) :
    (t.overwrite p content).get? q = t.get? q := by
  by_cases h : (t.content? p).isSome
  · have hid : Entry.overwrite p content q = id := by
      funext e
      cases e with
      | file old => rw [Entry.overwrite, if_neg hq, id]
      | directory => rfl
      | locked => rfl
    rw [get?_overwrite h, hid, Option.map_id, id]
  · rw [overwrite, if_neg h]

theorem walk_overwrite (t : Tree) (p : Place) (content : ByteArray) (q : Place)
    (pieces : List (List Char)) : (t.overwrite p content).walk q pieces = t.walk q pieces := by
  by_cases h : (t.content? p).isSome
  · induction pieces generalizing q with
    | nil => rfl
    | cons piece rest ih =>
      rw [walk, walk, get?_overwrite h]
      cases t.get? q with
      | none => rfl
      | some e =>
        cases e with
        | directory => exact ih (step q piece)
        | file old => rfl
        | locked => rfl
  · rw [overwrite, if_neg h]

theorem locate_overwrite (t : Tree) (p : Place) (content : ByteArray) (workingDirectory : Place)
    (text : String) :
    (t.overwrite p content).locate workingDirectory text = t.locate workingDirectory text := by
  rw [locate, locate]
  split
  · rfl
  · rw [walk_overwrite]
  · rw [walk_overwrite]

theorem isSome_get?_overwrite (t : Tree) (p : Place) (content : ByteArray) (q : Place) :
    ((t.overwrite p content).get? q).isSome = (t.get? q).isSome := by
  by_cases h : (t.content? p).isSome
  · rw [get?_overwrite h, Option.isSome_map]
  · rw [overwrite, if_neg h]

theorem rulesByDirectory_overwrite {kind : List String} (hp : ∀ directory, p ≠ directory ++ kind)
    (content : ByteArray) :
    Ignore.rulesByDirectory (t.overwrite p content) kind = Ignore.rulesByDirectory t kind := by
  rw [overwrite]
  split_ifs with h
  · rw [Ignore.rulesByDirectory, Ignore.rulesByDirectory, List.filterMap_map]
    refine List.filterMap_congr fun entry _ => ?_
    obtain ⟨q, e⟩ := entry
    cases e with
    | file old =>
      by_cases hq : q = p
      · subst hq
        simp [Entry.overwrite, hp]
      · simp [Entry.overwrite, hq]
    | directory => rfl
    | locked => rfl
  · rfl

end Tree

namespace Discovery

theorem isSource_append_concat (root : Path) (front : List String) (name : String) :
    isSource (root.append (front ++ [name])) = isSource (.ofNames [name]) := by
  rw [isSource, Path.extension?, Path.fileName?_append_concat]
  rfl

/-- No ignore file has the extension of a source file. -/
theorem ne_ignoreFile {place directory : Place} {name : String} {kind : List String}
    (hsource : isSource (.ofNames [name]) = true) (hkind : kind ∈ Ignore.kinds) :
    place ++ [name] ≠ directory ++ kind := by
  have hkinds : ∀ kind ∈ Ignore.kinds, ∃ front last, kind = front ++ [last] ∧
      isSource (.ofNames [last]) = false := by
    intro kind hkind
    fin_cases hkind
    · exact ⟨[], _, rfl, by decide⟩
    · exact ⟨[], _, rfl, by decide⟩
    · exact ⟨[], _, rfl, by decide⟩
    · exact ⟨[".git", "info"], _, rfl, by decide⟩
  obtain ⟨front, last, rfl, hlast⟩ := hkinds kind hkind
  intro heq
  rw [← List.append_assoc] at heq
  obtain rfl : name = last := List.singleton_injective (List.append_inj' heq rfl).2
  rw [hlast] at hsource
  cases hsource

theorem visibleFiles_overwrite {t : Tree} {place : Place} {root : Path} {names : List String}
    (hsource : isSource (root.append names) = true) (content : ByteArray) :
    visibleFiles (t.overwrite (place ++ names) content) place = visibleFiles t place := by
  by_cases h : (t.content? (place ++ names)).isSome
  · rcases List.eq_nil_or_concat' names with rfl | ⟨front, name, rfl⟩
    · rw [List.append_nil] at h ⊢
      obtain ⟨old, hold⟩ := Option.isSome_iff_exists.1 h
      rw [visibleFiles, visibleFiles, Tree.get?_overwrite h, Tree.content?_eq_some_iff.1 hold]
      rfl
    · rw [isSource_append_concat] at hsource
      have hplace : place ≠ place ++ (front ++ [name]) := by simp
      have hrules : Ignore.kinds.map (Ignore.rulesByDirectory
          (t.overwrite (place ++ (front ++ [name])) content)) =
            Ignore.kinds.map (Ignore.rulesByDirectory t) := by
        refine List.map_congr_left fun kind hkind => ?_
        refine Tree.rulesByDirectory_overwrite (fun directory => ?_) content
        rw [← List.append_assoc]
        exact ne_ignoreFile hsource hkind
      have hentry : ∀ q e, isFileEntry (Entry.overwrite (place ++ (front ++ [name])) content q e) =
          isFileEntry e := by
        intro q e
        cases e <;> rfl
      rw [visibleFiles, visibleFiles, Tree.get?_overwrite_of_ne hplace, hrules]
      rw [Tree.overwrite, if_pos h, List.filterMap_map]
      simp only [Function.comp_def, hentry]
  · rw [Tree.overwrite, if_neg h]

end Discovery

namespace Site

variable {s : Site} {t : Tree} {exclusion : Exclusion} {f : Path}

def fileAt (s : Site) (place : Place) (file : Path) : Place :=
  place ++ (s.path.relativeTo file).parts.map Path.Part.text

theorem fileAt_append (s : Site) (place : Place) (names : List String) :
    s.fileAt place (s.path.append names) = place ++ names := by
  rw [fileAt, Path.relativeTo_append, Path.ofNames, List.map_map]
  exact congrArg (place ++ ·) (List.map_id names)

def overwrite (s : Site) (t : Tree) (file : Path) (content : ByteArray) : Tree :=
  match s.place? t with
  | some place => t.overwrite (s.fileAt place file) content
  | none => t

theorem overwrite_eq {place : Place} (h : s.place? t = some place) (file : Path)
    (content : ByteArray) :
    s.overwrite t file content = t.overwrite (s.fileAt place file) content := by
  rw [overwrite, h]

theorem place?_overwrite (s : Site) (t : Tree) (file : Path) (content : ByteArray) :
    s.place? (s.overwrite t file content) = s.place? t := by
  rw [overwrite]
  split
  · rw [place?, place?, Tree.locate_overwrite]
    simp only [Tree.isSome_get?_overwrite]
  · rfl

theorem sourceFiles_overwrite (hf : f ∈ s.sourceFiles t exclusion) (content : ByteArray) :
    s.sourceFiles (s.overwrite t f content) exclusion = s.sourceFiles t exclusion := by
  obtain ⟨place, hplace, ⟨names, -, rfl⟩, hsource, -⟩ := mem_sourceFiles.1 hf
  rw [sourceFiles, sourceFiles, place?_overwrite, overwrite_eq hplace, hplace, fileAt_append]
  dsimp only
  rw [Discovery.sourceFilesOf, Discovery.sourceFilesOf, Discovery.visibleFiles_overwrite hsource]

theorem content?_eq (s : Site) (t : Tree) (file : Path) :
    s.content? t file = (s.place? t).bind fun place => t.content? (s.fileAt place file) := rfl

theorem content?_overwrite_self (h : (s.content? t f).isSome) (content : ByteArray) :
    s.content? (s.overwrite t f content) f = some content := by
  rw [content?_eq] at h
  obtain ⟨place, hplace⟩ := Option.isSome_iff_exists.1 (Option.isSome_of_isSome_bind h)
  rw [hplace] at h
  rw [content?_eq, place?_overwrite, overwrite_eq hplace, hplace]
  exact Tree.content?_overwrite_self h content

theorem content?_overwrite_of_ne {g : Path} (hf : f ∈ s.sourceFiles t exclusion)
    (hg : g ∈ s.sourceFiles t exclusion) (hne : g ≠ f) (content : ByteArray) :
    s.content? (s.overwrite t f content) g = s.content? t g := by
  obtain ⟨place, hplace, ⟨names, -, rfl⟩, -⟩ := mem_sourceFiles.1 hf
  obtain ⟨place', hplace', ⟨names', -, rfl⟩, -⟩ := mem_sourceFiles.1 hg
  obtain rfl : place' = place := Option.some.inj (hplace'.symm.trans hplace)
  have hplaces : place' ++ names' ≠ place' ++ names := fun h =>
    hne (congrArg s.path.append (List.append_cancel_left h))
  rw [content?_eq, content?_eq, place?_overwrite, overwrite_eq hplace, hplace, Option.bind_some,
    Option.bind_some, fileAt_append, fileAt_append, Tree.content?, Tree.content?,
    Tree.get?_overwrite_of_ne hplaces]

end Site

end CostGate
