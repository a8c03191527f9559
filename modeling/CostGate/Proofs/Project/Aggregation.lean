import CostGate.Project.Collection
import CostGate.Proofs.Project.Path

/-!
# Adding up files

Every file climbs from its directory to the root and is put into the slots that it meets. Since no
directory is met twice, a slot ends up with the files below its directory, each once and in order.
-/
namespace CostGate.Collection

open Number (Quantity)

variable {α : Type}

/-- A slot once a file has been put into the slots of some directories. -/
def Slot.receive (directories : List Path) (file : PricedFile α) (s : Slot α) : Slot α :=
  if s.directory ∈ directories then { s with files := s.files.push file } else s

theorem foldl_put {directories : List Path} (h : directories.Nodup) (file : PricedFile α)
    (slots : List (Slot α)) :
    directories.foldl (put file) slots = slots.map (Slot.receive directories file) := by
  induction directories generalizing slots with
  | nil => exact (List.map_id slots).symm
  | cons d ds ih =>
    obtain ⟨hd, hds⟩ := List.nodup_cons.1 h
    rw [List.foldl_cons, ih hds, put, List.map_map]
    refine List.map_congr_left fun s _ => ?_
    by_cases hs : s.directory = d
    · subst hs
      simp [Slot.receive, hd]
    · simp [Slot.receive, hs]

theorem distribute_eq (root : Path) (slots : List (Slot α)) (file : PricedFile α) :
    distribute root slots file = slots.map (Slot.receive (above root file.path) file) :=
  foldl_put ((Path.nodup_ancestors file.path).sublist (List.takeWhile_sublist _)) file slots

def members (root directory : Path) (files : List (PricedFile α)) : List (PricedFile α) :=
  files.filter fun f => directory ∈ above root f.path

theorem foldl_distribute (root : Path) (slots : List (Slot α)) (files : List (PricedFile α)) :
    files.foldl (distribute root) slots =
      slots.map fun s => ⟨s.directory, s.files ++ (members root s.directory files).toArray⟩ := by
  induction files generalizing slots with
  | nil => simp [members]
  | cons f fs ih =>
    rw [List.foldl_cons, ih, distribute_eq, List.map_map]
    refine List.map_congr_left fun s _ => ?_
    by_cases hs : s.directory ∈ above root f.path
    · simp [Slot.receive, members, hs]
    · simp [Slot.receive, members, hs]

/-- A component is made of the files that climb through its directory. -/
theorem aggregate_eq [Quantity α] (root : Path) (directories : List Path)
    (files : List (PricedFile α)) :
    aggregate root directories files =
      directories.map fun d => component root d (members root d files) := by
  rw [aggregate, foldl_distribute, List.map_map, List.map_map]
  refine List.map_congr_left fun d _ => ?_
  simp

theorem above_append_singleton (root : Path) (name : String) :
    above root (root.append [name]) = [] := by
  have h := Path.ancestors_append_concat root [] name
  rw [List.nil_append] at h
  rw [above, h, List.takeWhile_cons_of_neg]
  simp [Path.append]

theorem above_append_concat (root : Path) {names : List String} (h : names ≠ []) (name : String) :
    above root (root.append (names ++ [name])) =
      root.append names :: above root (root.append names) := by
  rw [above, Path.ancestors_append_concat, List.takeWhile_cons_of_pos, above]
  simpa using Path.append_ne_self h

theorem mem_above_append {root d : Path} {names : List String} (hnames : names ≠ []) :
    d ∈ above root (root.append names) ↔ d.IsBelow root ∧ (root.append names).IsBelow d := by
  induction names using List.reverseRecOn with
  | nil => exact absurd rfl hnames
  | append_singleton names name ih =>
    rw [Path.isBelow_append_concat]
    by_cases hne : names = []
    · subst hne
      rw [List.nil_append, above_append_singleton, Path.append_nil]
      constructor
      · intro h
        simp at h
      · rintro ⟨hd, rfl | hroot⟩
        · exact absurd rfl hd.2
        · exact absurd hd.length_lt hroot.length_lt.not_gt
    · rw [above_append_concat root hne, List.mem_cons, ih hne, or_and_left]
      refine and_congr_left fun _ => ⟨?_, .inr⟩
      rintro (rfl | hd)
      · exact root.isBelow_append hne
      · exact hd

/-- Between the root and a file, the directories above the file are those that it is below. -/
theorem mem_above_iff {root d f : Path} (hd : d.IsBelow root)
    (hf : ∃ names, root.append names = f) : d ∈ above root f ↔ f.IsBelow d := by
  obtain ⟨names, rfl⟩ := hf
  by_cases hnames : names = []
  · subst hnames
    rw [Path.append_nil]
    constructor
    · intro h
      have hlt := Path.length_of_mem_ancestors (List.takeWhile_sublist _ |>.subset h)
      exact absurd hd.length_lt hlt.not_gt
    · intro h
      exact absurd hd.length_lt h.length_lt.not_gt
  · rw [mem_above_append hnames, and_iff_right hd]

theorem members_eq {root d : Path} {files : List (PricedFile α)} (hd : d.IsBelow root)
    (hfiles : ∀ f ∈ files, ∃ names, root.append names = f.path) :
    members root d files = files.filter fun f => f.path.IsBelow d := by
  refine List.filter_congr fun f hf => ?_
  rw [decide_eq_decide]
  exact mem_above_iff hd (hfiles f hf)

end CostGate.Collection
