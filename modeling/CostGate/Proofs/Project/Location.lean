import CostGate.Project.Path
import CostGate.Project.Tree
import CostGate.Proofs.Text.Lines

/-!
# Files in a directory

The text of a directory, joined with a name, names the entry of that name in the directory. A new
file at a place where nothing stood changes none of the ways that led somewhere before.
-/
namespace CostGate

open Text (pieces pieces_append pieces_of_forall)

/-- A name of a file: it has no slash in it, and it is none of the texts that name no entry. -/
structure IsFileName (name : String) : Prop where
  slashless : '/' ∉ name.toList
  ne_nil : name.toList ≠ []
  ne_dot : name.toList ≠ ['.']
  ne_dots : name.toList ≠ ['.', '.']

namespace IsFileName

variable {name : String}

theorem pieces_eq (h : IsFileName name) : pieces (· == '/') name.toList = [name.toList] :=
  pieces_of_forall fun _ hc => beq_false_of_ne fun heq => h.slashless (heq ▸ hc)

theorem step_eq (h : IsFileName name) (p : Place) : Tree.step p name.toList = p ++ [name] := by
  rw [Tree.step.eq_4 p _ h.ne_nil h.ne_dot h.ne_dots, String.ofList_toList]

theorem ofText?_eq (h : IsFileName name) :
    Path.Part.ofText? name.toList = some (.name name) := by
  rw [Path.Part.ofText?.eq_4 _ h.ne_nil h.ne_dot h.ne_dots, String.ofList_toList]

end IsFileName

namespace Path

variable {directory name : String}

theorem toList_join (directory name : String) :
    (directory = "" ∧ (join directory name).toList = name.toList) ∨
      ∃ front, (directory.toList = front ++ ['/'] ∨ directory.toList = front) ∧
        (join directory name).toList = front ++ '/' :: name.toList := by
  by_cases hempty : directory = ""
  · subst hempty
    exact .inl ⟨rfl, by simp [join]⟩
  · by_cases hslash : directory.toList.getLast? = some '/'
    · obtain ⟨front, hfront⟩ := List.getLast?_eq_some_iff.1 hslash
      exact .inr ⟨front, .inl hfront, by simp [join, hfront]⟩
    · exact .inr ⟨directory.toList, .inr rfl, by simp [join, hslash, hempty]⟩

theorem fileName?_join (hname : IsFileName name) (directory : String) :
    (ofString (join directory name)).fileName? = some name := by
  have hlast (texts : List (List Char)) (front : List Part) :
      fileName? ⟨front ++ partsOf (texts ++ [name.toList])⟩ = some name := by
    rw [fileName?, partsOf, List.filterMap_append, List.filterMap_cons_some hname.ofText?_eq]
    simp
  rw [ofString, ofChars]
  rcases toList_join directory name with ⟨-, hjoin⟩ | ⟨front, -, hjoin⟩
  · rw [hjoin, hname.pieces_eq]
    split
    · next heq => cases heq
    · next heq => exact absurd (List.cons.inj heq).1 hname.ne_nil
    · next heq => exact absurd (List.cons.inj heq).1 hname.ne_dot
    · exact hlast [] []
  · obtain ⟨w, ws, hw⟩ := List.exists_cons_of_ne_nil (Text.pieces_ne_nil (· == '/') front)
    rw [hjoin, pieces_append (by rfl), hname.pieces_eq, hw, List.cons_append]
    split
    · next heq => cases heq
    · next texts heq =>
      obtain ⟨-, rfl⟩ := List.cons.inj heq
      simpa using hlast ws [.root]
    · next texts heq =>
      obtain ⟨-, rfl⟩ := List.cons.inj heq
      exact hlast ws [.here]
    · exact hlast (w :: ws) []

end Path

namespace Tree

variable {t : Tree}

theorem walk_append {p q : Place} {front : List (List Char)} (h : t.walk p front = .ok q)
    (back : List (List Char)) : t.walk p (front ++ back) = t.walk q back := by
  induction front generalizing p with
  | nil =>
    rw [walk, Except.ok.injEq] at h
    rw [List.nil_append, h]
  | cons piece front ih =>
    rw [walk] at h
    rw [List.cons_append, walk]
    split at h
    · exact ih h
    · cases h
    · cases h

theorem walk_append_slash {p q : Place} {front : List (List Char)}
    (h : t.walk p (front ++ [[]]) = .ok q) : t.walk p front = .ok q := by
  induction front generalizing p with
  | nil =>
    rw [List.nil_append, walk] at h
    split at h
    · exact h
    · cases h
    · cases h
  | cons piece front ih =>
    rw [List.cons_append, walk] at h
    rw [walk]
    split at h
    · exact ih h
    · cases h
    · cases h

theorem locate_of_pieces {text : String} {piece : List Char} {pieces : List (List Char)}
    (htext : Text.pieces (· == '/') text.toList = piece :: pieces)
    (hne : piece = [] → pieces ≠ []) (workingDirectory : Place) :
    t.locate workingDirectory text =
      if piece = [] then t.walk [] pieces else t.walk workingDirectory (piece :: pieces) := by
  rw [locate, htext]
  split
  · next heq =>
    obtain ⟨rfl, rfl⟩ := List.cons.inj heq
    exact absurd rfl (hne rfl)
  · next rest _ heq =>
    obtain ⟨rfl, rfl⟩ := List.cons.inj heq
    rw [if_pos rfl]
  · next hother =>
    rw [if_neg]
    rintro rfl
    exact hother pieces rfl

/-- The text of a file in a directory leads from the place of the directory to the file. -/
theorem locate_join {workingDirectory place : Place} {directory name : String}
    (hname : IsFileName name) (hplace : t.locate workingDirectory directory = .ok place)
    (hdirectory : t.get? place = some .directory) :
    t.locate workingDirectory (Path.join directory name) = .ok (place ++ [name]) := by
  have hstep {p : Place} {front : List (List Char)} (h : t.walk p front = .ok place) :
      t.walk p (front ++ [name.toList]) = .ok (place ++ [name]) := by
    rw [walk_append h, walk, hdirectory]
    exact congrArg Except.ok (hname.step_eq place)
  rcases Path.toList_join directory name with ⟨rfl, -⟩ | ⟨front, hfront, hjoin⟩
  · cases hplace
  obtain ⟨w, ws, hw⟩ := List.exists_cons_of_ne_nil (Text.pieces_ne_nil (· == '/') front)
  have hpieces :
      pieces (· == '/') (Path.join directory name).toList = w :: (ws ++ [name.toList]) := by
    rw [hjoin, pieces_append (by rfl), hname.pieces_eq, hw, List.cons_append]
  rw [locate_of_pieces hpieces (by simp)]
  rcases hfront with hfront | hfront
  · have hdir : pieces (· == '/') directory.toList = w :: (ws ++ [[]]) := by
      rw [hfront, pieces_append (by rfl), hw]
      rfl
    rw [locate_of_pieces hdir (by simp)] at hplace
    split_ifs at hplace ⊢ with hroot
    · exact hstep (walk_append_slash hplace)
    · rw [← List.cons_append] at hplace
      exact hstep (walk_append_slash hplace)
  · rw [← hfront] at hw
    have hne : w = [] → ws ≠ [] := by
      rintro rfl rfl
      rw [locate, hw] at hplace
      cases hplace
    rw [locate_of_pieces hw hne] at hplace
    split_ifs at hplace ⊢ with hroot
    · exact hstep hplace
    · exact hstep hplace

theorem find_join {workingDirectory place : Place} {directory name : String}
    (hname : IsFileName name) (hplace : t.locate workingDirectory directory = .ok place)
    (hdirectory : t.get? place = some .directory) :
    t.find workingDirectory (Path.join directory name) =
      (t.get? (place ++ [name])).elim (Except.error AccessError.missing) .ok := by
  cases hentry : t.get? (place ++ [name]) with
  | none => simp [find, locate_join hname hplace hdirectory, hentry, bind, Except.bind]
  | some e => simp [find, locate_join hname hplace hdirectory, hentry, bind, Except.bind]

/-- A way that leads somewhere passes directories only, so it does not pass a place where nothing
stands. -/
theorem walk_set {p q r : Place} {e : Entry} {pieces : List (List Char)} (hp : t.get? p = none)
    (h : t.walk q pieces = .ok r) : (t.set p e).walk q pieces = .ok r := by
  induction pieces generalizing q with
  | nil => exact h
  | cons piece pieces ih =>
    rw [walk] at h
    split at h
    · next hq =>
      have hne : q ≠ p := by
        rintro rfl
        rw [hp] at hq
        cases hq
      rw [walk, get?_set_of_ne hne, hq]
      exact ih h
    · cases h
    · cases h

theorem locate_set {workingDirectory p r : Place} {e : Entry} {text : String}
    (hp : t.get? p = none) (h : t.locate workingDirectory text = .ok r) :
    (t.set p e).locate workingDirectory text = .ok r := by
  rw [locate] at h ⊢
  split at h
  · cases h
  · exact walk_set hp h
  · exact walk_set hp h

end Tree

end CostGate
