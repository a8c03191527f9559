import CostGate.Proofs.Text.Lines
import CostGate.Report.Rendering

/-!
# Tables in Markdown

A table is a block between blank lines: a header, a rule with as many cells, and the rows. Bars part
the cells of a row, inside code too, unless a backslash stands before them. A row has as many cells
as it was written with if and only if none of them has such a bar.
-/
namespace CostGate.Markdown

open Document.Json (joinWith)
open Text (ended)

/-- The parts of a text between its separators. A separator is a bar that no backslash stands
before; `before` is the character in front of the text. -/
def parts (before : Char) : List Char → List (List Char)
  | [] => [[]]
  | c :: s =>
    if c = '|' ∧ before ≠ '\\' then [] :: parts c s else (parts c s).modifyHead (c :: ·)

def dropBlank : List (List Char) → List (List Char)
  | part :: next :: rest => if part.all (· == ' ') then next :: rest else part :: next :: rest
  | ps => ps

/-- The cells of a row. A bar at either end encloses the row. -/
def cells (row : List Char) : List (List Char) :=
  (dropBlank (dropBlank (parts ' ' row)).reverse).reverse

structure Table where
  header : List Char
  rows : List (List Char)
  deriving Repr, DecidableEq

def isRule (line : List Char) : Bool :=
  line.contains '-' && line.all fun c => ['|', '-', ':', ' '].contains c

def Table.ofBlock? : List (List Char) → Option Table
  | header :: rule :: rows =>
    if isRule rule ∧ (cells rule).length = (cells header).length then some ⟨header, rows⟩ else none
  | _ => none

/-- The blocks of lines between the blank lines of a text. -/
def blocks (text : List Char) : List (List (List Char)) := (text.splitOn '\n').splitOn []

def tables (text : List Char) : List Table := (blocks text).filterMap Table.ofBlock?

/-- Some bar of the text has no backslash before it. -/
def HasSeparator (s : List Char) : Prop :=
  ∃ before after, s = before ++ '|' :: after ∧ before.getLast? ≠ some '\\'

section

variable {s : List Char} {c x : Char}

theorem not_hasSeparator_of_not_mem (h : '|' ∉ s) : ¬ HasSeparator s := by
  rintro ⟨before, after, rfl, -⟩
  simp at h

theorem parts_ne_nil (x : Char) (s : List Char) : parts x s ≠ [] := by
  induction s generalizing x with
  | nil => simp [parts]
  | cons c s ih =>
    rw [parts]
    split_ifs
    · simp
    · simpa using ih c

theorem length_parts_cons (hc : c ≠ '|') (x : Char) (s : List Char) :
    (parts x (c :: s)).length = (parts c s).length := by
  rw [parts, if_neg fun h => hc h.1, List.length_modifyHead]

theorem length_parts_concat (hc : c ≠ '|') (x : Char) (s : List Char) :
    (parts x (s ++ [c])).length = (parts x s).length := by
  induction s generalizing x with
  | nil => rw [List.nil_append, length_parts_cons hc, parts, parts]
  | cons d s ih =>
    rw [List.cons_append, parts, parts]
    split_ifs
    · rw [List.length_cons, List.length_cons, ih]
    · rw [List.length_modifyHead, List.length_modifyHead, ih]

/-- There are several parts if some bar is a separator, the first one behind `x`. -/
theorem one_lt_length_parts_iff_getLast? (x : Char) (s : List Char) :
    1 < (parts x s).length ↔
      ∃ before after, s = before ++ '|' :: after ∧ (x :: before).getLast? ≠ some '\\' := by
  induction s generalizing x with
  | nil => simp [parts]
  | cons c s ih =>
    rw [parts]
    split_ifs with h
    · have hpos := List.length_pos_iff.2 (parts_ne_nil c s)
      simp only [List.length_cons]
      refine iff_of_true (by omega) ⟨[], s, ?_, by simpa using h.2⟩
      rw [h.1, List.nil_append]
    · rw [List.length_modifyHead, ih]
      constructor
      · rintro ⟨before, after, rfl, hlast⟩
        exact ⟨c :: before, after, rfl, by simpa using hlast⟩
      · rintro ⟨before, after, heq, hlast⟩
        cases before with
        | nil =>
          obtain ⟨hc, -⟩ := List.cons.inj heq
          exact absurd ⟨hc, by simpa using hlast⟩ h
        | cons d before =>
          obtain ⟨rfl, rfl⟩ := List.cons.inj heq
          exact ⟨before, after, rfl, by simpa using hlast⟩

theorem one_lt_length_parts_iff (hx : x ≠ '\\') : 1 < (parts x s).length ↔ HasSeparator s := by
  rw [one_lt_length_parts_iff_getLast?, HasSeparator]
  refine exists₂_congr fun before after => and_congr_right fun _ => not_congr ?_
  cases before with
  | nil => simpa using hx
  | cons c before => simp

theorem hasSeparator_code_iff (name : String) :
    HasSeparator (code name) ↔ HasSeparator name.toList := by
  have hback : '\x60' ≠ '|' := by decide
  rw [← one_lt_length_parts_iff (x := ' ') (by decide), code, List.cons_append,
    length_parts_cons hback, length_parts_concat hback, one_lt_length_parts_iff (by decide)]

end

def rowLine (cs : List (List Char)) : List Char :=
  ['|', ' '] ++ joinWith [' ', '|', ' '] cs ++ [' ', '|']

theorem row_eq (cs : List (List Char)) : row cs = rowLine cs ++ ['\n'] := by simp [row, rowLine]

def padded (c : List Char) : List Char := ' ' :: c ++ [' ']

theorem rowLine_eq_ended {cs : List (List Char)} (h : cs ≠ []) :
    rowLine cs = '|' :: ended '|' (cs.map padded) := by
  have hjoin : ' ' :: joinWith [' ', '|', ' '] cs ++ [' ', '|'] = ended '|' (cs.map padded) := by
    fun_induction joinWith [' ', '|', ' '] cs with
    | case1 => exact absurd rfl h
    | case2 c => simp [padded]
    | case3 c cs hcs ih =>
      have hne : cs ≠ [] := fun hnil => hcs hnil
      rw [List.map_cons, Text.ended_cons, ← ih hne]
      simp [padded]
  rw [← hjoin]
  simp [rowLine]

/-- A bar behind a blank parts a text, whatever stands before the blank. -/
theorem parts_append (x : Char) (s t : List Char) :
    parts x (s ++ ' ' :: '|' :: t) = parts x (s ++ [' ']) ++ parts '|' t := by
  induction s generalizing x with
  | nil => simp [parts]
  | cons c s ih =>
    rw [List.cons_append, List.cons_append, parts, parts, ih]
    split_ifs
    · rfl
    · obtain ⟨p, ps, hp⟩ := List.exists_cons_of_ne_nil (parts_ne_nil c (s ++ [' ']))
      rw [hp]
      rfl

theorem parts_ended (cs : List (List Char)) :
    parts '|' (ended '|' (cs.map padded)) = cs.flatMap (fun c => parts '|' (padded c)) ++ [[]] := by
  induction cs with
  | nil => rfl
  | cons c cs ih =>
    have hcell : padded c ++ '|' :: ended '|' (cs.map padded) =
        (' ' :: c) ++ ' ' :: '|' :: ended '|' (cs.map padded) := by
      simp [padded]
    rw [List.map_cons, Text.ended_cons, hcell, parts_append, ih, List.flatMap_cons,
      List.append_assoc]
    rfl

/-- The cells of a row are the parts of the cells that it was written with. -/
theorem cells_rowLine {cs : List (List Char)} (h : cs ≠ []) :
    cells (rowLine cs) = cs.flatMap fun c => parts '|' (padded c) := by
  have hfront {ps : List (List Char)} (hps : ps ≠ []) : dropBlank ([] :: ps) = ps := by
    obtain ⟨p, ps, rfl⟩ := List.exists_cons_of_ne_nil hps
    simp [dropBlank]
  have hne : (cs.flatMap fun c => parts '|' (padded c)) ≠ [] := by
    obtain ⟨c, cs, rfl⟩ := List.exists_cons_of_ne_nil h
    simp [parts_ne_nil]
  have hparts : parts ' ' (rowLine cs) =
      [] :: (cs.flatMap (fun c => parts '|' (padded c)) ++ [[]]) := by
    rw [rowLine_eq_ended h, parts, if_pos ⟨rfl, by decide⟩, parts_ended]
  rw [cells, hparts, hfront (by simp), List.reverse_append, List.reverse_singleton,
    List.singleton_append, hfront (by simpa using hne), List.reverse_reverse]

theorem length_parts_padded (c : List Char) :
    (parts '|' (padded c)).length = (parts ' ' c).length := by
  have hblank : ' ' ≠ '|' := by decide
  rw [padded, List.cons_append, length_parts_cons hblank, length_parts_concat hblank]

/-- Cells are never lost. A row has more of them than it was written with if one has a separator. -/
theorem length_cells_rowLine_iff {cs : List (List Char)} (h : cs ≠ []) :
    (cells (rowLine cs)).length = cs.length ↔ ∀ c ∈ cs, ¬ HasSeparator c := by
  have hsum (cs : List (List Char)) :
      cs.length ≤ (cs.flatMap fun c => parts '|' (padded c)).length ∧
        ((cs.flatMap fun c => parts '|' (padded c)).length = cs.length ↔
          ∀ c ∈ cs, ¬ HasSeparator c) := by
    induction cs with
    | nil => simp
    | cons c cs ih =>
      obtain ⟨hle, hiff⟩ := ih
      have hpos := List.length_pos_iff.2 (parts_ne_nil ' ' c)
      rw [List.forall_mem_cons, ← hiff, ← one_lt_length_parts_iff (x := ' ') (by decide),
        List.flatMap_cons, List.length_append, length_parts_padded, List.length_cons]
      omega
  rw [cells_rowLine h]
  exact (hsum cs).2

example : (cells "| a|b | 1 |".toList).length = 3 ∧ (cells "| a\\|b | 1 |".toList).length = 2 := by
  decide

end CostGate.Markdown
