import CostGate.Text.Lines
import Mathlib

/-!
# Lines that are not blank

A line feed cuts the lines of a text in two. Blanks around a line are no part of what is left once
the lines are trimmed, and neither are blank lines, so the trimmed lines that are not blank depend
on the text between the blanks only.
-/
namespace CostGate.Text

theorem pieces_append {p : Char → Bool} {c : Char} (hc : p c = true) (s t : List Char) :
    pieces p (s ++ c :: t) = pieces p s ++ pieces p t := by
  induction s with
  | nil => simp [pieces, hc]
  | cons x s ih =>
    obtain ⟨w, ws, hw⟩ := List.exists_cons_of_ne_nil (pieces_ne_nil p s)
    by_cases hx : p x = true
    · simp [pieces, hx, ih]
    · simp [pieces, hx, ih, hw]

theorem pieces_of_forall {p : Char → Bool} {s : List Char} (h : ∀ c ∈ s, p c = false) :
    pieces p s = [s] := by
  induction s with
  | nil => rfl
  | cons c s ih =>
    obtain ⟨hc, hs⟩ := List.forall_mem_cons.1 h
    simp [pieces, hc, ih hs]

/-- A text consists of its first line and, behind a line feed, the others. -/
theorem line_cases (s : List Char) :
    '\n' ∉ s ∨ ∃ line rest, '\n' ∉ line ∧ s = line ++ '\n' :: rest := by
  by_cases h : '\n' ∈ s
  · obtain ⟨line, rest, heq, hline⟩ := List.eq_append_cons_of_mem h
    exact .inr ⟨line, rest, hline, heq⟩
  · exact .inl h

theorem line_induction {P : List Char → Prop} (last : ∀ line, '\n' ∉ line → P line)
    (more : ∀ line rest, '\n' ∉ line → P rest → P (line ++ '\n' :: rest)) (s : List Char) :
    P s := by
  induction hn : s.length using Nat.strong_induction_on generalizing s with
  | _ n ih =>
    rcases line_cases s with h | ⟨line, rest, hline, rfl⟩
    · exact last s h
    · refine more line rest hline (ih rest.length ?_ rest rfl)
      rw [List.length_append, List.length_cons] at hn
      omega

theorem trimStart_append_of_blank {front : List Char} (h : ∀ c ∈ front, isBlank c = true)
    (s : List Char) : trimStart (front ++ s) = trimStart s :=
  List.dropWhile_append_of_pos h

theorem trimStart_of_not_blank {c : Char} (hc : isBlank c = false) (s : List Char) :
    trimStart (c :: s) = c :: s :=
  List.dropWhile_cons_of_neg (by simp [hc])

theorem trimEnd_append_of_blank {back : List Char} (h : ∀ c ∈ back, isBlank c = true)
    (s : List Char) : trimEnd (s ++ back) = trimEnd s := by
  rw [trimEnd, List.reverse_append, List.dropWhile_append_of_pos, trimEnd]
  exact fun c hc => h c (List.mem_reverse.1 hc)

theorem trimEnd_append_cons {c : Char} (hc : isBlank c = false) (s t : List Char) :
    trimEnd (s ++ c :: t) = s ++ c :: trimEnd t := by
  rw [trimEnd, trimEnd, List.reverse_append, List.reverse_cons, List.append_assoc,
    List.dropWhile_append]
  split_ifs with h
  · rw [List.isEmpty_iff.1 h]
    simp [List.dropWhile_cons_of_neg, hc]
  · simp

theorem trimEnd_eq_nil_iff {s : List Char} : trimEnd s = [] ↔ ∀ c ∈ s, isBlank c = true := by
  simp [trimEnd, List.dropWhile_eq_nil_iff]

/-- A text is blank, or its blanks end at a character that is not. -/
theorem blank_cases (s : List Char) :
    (∀ c ∈ s, isBlank c = true) ∨ ∃ front c rest, (∀ x ∈ front, isBlank x = true) ∧
      isBlank c = false ∧ s = front ++ c :: rest := by
  induction s with
  | nil => exact .inl (by simp)
  | cons x s ih =>
    by_cases hx : isBlank x = true
    · rcases ih with h | ⟨front, c, rest, hfront, hc, rfl⟩
      · exact .inl (List.forall_mem_cons.2 ⟨hx, h⟩)
      · exact .inr ⟨x :: front, c, rest, List.forall_mem_cons.2 ⟨hx, hfront⟩, hc, rfl⟩
    · exact .inr ⟨[], x, s, by simp, by simpa using hx, rfl⟩

theorem trim_of_blank {s : List Char} (h : ∀ c ∈ s, isBlank c = true) : trim s = [] := by
  have hstart : trimStart s = [] := List.dropWhile_eq_nil_iff.2 h
  rw [trim, hstart]
  rfl

/-- It does not matter which side is trimmed first. -/
theorem trimStart_trimEnd (s : List Char) : trimStart (trimEnd s) = trim s := by
  rcases blank_cases s with h | ⟨front, c, rest, hfront, hc, rfl⟩
  · rw [trimEnd_eq_nil_iff.2 h, trim_of_blank h]
    rfl
  · rw [trim, trimEnd_append_cons hc, trimStart_append_of_blank hfront,
      trimStart_append_of_blank hfront, trimStart_of_not_blank hc, trimStart_of_not_blank hc]
    exact (trimEnd_append_cons hc [] rest).symm

theorem trimStart_trim (s : List Char) : trimStart (trim s) = trim s := by
  rw [← trimStart_trimEnd]
  exact List.dropWhile_idempotent isBlank _

theorem trimEnd_trim (s : List Char) : trimEnd (trim s) = trim s :=
  List.rdropWhile_idempotent isBlank _

theorem trimEnd_eq_of_suffix {s t : List Char} (h : t <:+ s) (hs : trimEnd s = s) :
    trimEnd t = t := by
  rw [trimEnd, ← List.rdropWhile, List.rdropWhile_eq_self_iff] at hs ⊢
  intro ht
  rw [h.getLast ht]
  exact hs (h.ne_nil ht)

theorem trim_append_of_blank_left {front : List Char} (h : ∀ c ∈ front, isBlank c = true)
    (s : List Char) : trim (front ++ s) = trim s := by
  rw [trim, trimStart_append_of_blank h, trim]

theorem trim_append_of_blank_right {back : List Char} (h : ∀ c ∈ back, isBlank c = true)
    (s : List Char) : trim (s ++ back) = trim s := by
  rw [← trimStart_trimEnd, trimEnd_append_of_blank h, trimStart_trimEnd]

theorem trim_cons {c : Char} (hc : isBlank c = false) (s : List Char) :
    trim (c :: s) = c :: trimEnd s := by
  rw [trim, trimStart_of_not_blank hc]
  exact trimEnd_append_cons hc [] s

theorem trim_infix_self (s : List Char) : trim s <:+: s := by
  have hend (t : List Char) : trimEnd t <+: t := by
    rw [trimEnd, ← List.reverse_suffix, List.reverse_reverse]
    exact List.dropWhile_suffix _
  exact (hend _).isInfix.trans (List.dropWhile_suffix _).isInfix

theorem trim_dropReturn (line : List Char) : trim (dropReturn line) = trim line := by
  rw [dropReturn]
  split
  · next before h =>
    rw [List.reverse_eq_cons_iff.1 h]
    exact (trim_append_of_blank_right (List.forall_mem_singleton.2 (by decide)) _).symm
  · rfl

/-- The trimmed lines of a text that are not blank. -/
def contentLines (s : List Char) : List (List Char) :=
  ((lines s).map trim).filter fun line => !line.isEmpty

theorem contentLines_eq (s : List Char) :
    contentLines s = ((pieces (· == '\n') s).map trim).filter fun line => !line.isEmpty := by
  rw [contentLines, lines]
  generalize pieces (· == '\n') s = ls
  induction ls using linesOf.induct with
  | case1 => rfl
  | case2 last hempty =>
    rw [List.isEmpty_iff.1 hempty]
    rfl
  | case3 last hempty => rw [linesOf, if_neg hempty]
  | case4 line more hmore ih =>
    rw [linesOf.eq_3 _ _ hmore, List.map_cons, List.map_cons, List.filter_cons, List.filter_cons,
      trim_dropReturn, ih]

theorem contentLines_append (s t : List Char) :
    contentLines (s ++ '\n' :: t) = contentLines s ++ contentLines t := by
  rw [contentLines_eq, pieces_append (by rfl), List.map_append, List.filter_append,
    ← contentLines_eq, ← contentLines_eq]

theorem contentLines_of_not_mem {s : List Char} (h : '\n' ∉ s) :
    contentLines s = if trim s = [] then [] else [trim s] := by
  have hpieces : pieces (· == '\n') s = [s] :=
    pieces_of_forall fun c hc => beq_false_of_ne fun heq => h (heq ▸ hc)
  rw [contentLines_eq, hpieces]
  by_cases htrim : trim s = []
  · simp [htrim]
  · simp [htrim]

theorem infix_of_mem_contentLines {line s : List Char} (h : line ∈ contentLines s) :
    line <:+: s := by
  induction s using line_induction with
  | last s hs =>
    rw [contentLines_of_not_mem hs] at h
    split_ifs at h
    · simp at h
    · rw [List.mem_singleton.1 h]
      exact trim_infix_self s
  | more first rest hfirst ih =>
    rw [contentLines_append, List.mem_append, contentLines_of_not_mem hfirst] at h
    rcases h with h | h
    · split_ifs at h
      · simp at h
      · rw [List.mem_singleton.1 h]
        exact (trim_infix_self first).trans (List.prefix_append _ _).isInfix
    · exact (ih h).trans ((List.suffix_cons '\n' rest).trans (List.suffix_append _ _)).isInfix

/-- Blanks within a line. -/
def IsPadding (s : List Char) : Prop := ∀ c ∈ s, isBlank c = true ∧ c ≠ '\n'

instance (s : List Char) : Decidable (IsPadding s) :=
  List.decidableBAll (fun c => isBlank c = true ∧ c ≠ '\n') s

theorem isPadding_nil : IsPadding [] := by simp [IsPadding]

variable {front back : List Char}

theorem IsPadding.isBlank (h : IsPadding front) : ∀ c ∈ front, isBlank c = true :=
  fun c hc => (h c hc).1

theorem IsPadding.not_mem (h : IsPadding front) : '\n' ∉ front := fun hmem => (h _ hmem).2 rfl

theorem contentLines_of_isPadding (h : IsPadding front) : contentLines front = [] := by
  rw [contentLines_of_not_mem h.not_mem, if_pos (trim_of_blank h.isBlank)]

theorem contentLines_append_left (h : IsPadding front) (s : List Char) :
    contentLines (front ++ s) = contentLines s := by
  have hline {line : List Char} (hline : '\n' ∉ line) :
      contentLines (front ++ line) = contentLines line := by
    have hmem : '\n' ∉ front ++ line := by
      rw [List.mem_append, not_or]
      exact ⟨h.not_mem, hline⟩
    rw [contentLines_of_not_mem hmem, contentLines_of_not_mem hline,
      trim_append_of_blank_left h.isBlank]
  rcases line_cases s with hs | ⟨line, rest, hl, rfl⟩
  · exact hline hs
  · rw [← List.append_assoc, contentLines_append, contentLines_append, hline hl]

theorem contentLines_append_right (h : IsPadding back) (s : List Char) :
    contentLines (s ++ back) = contentLines s := by
  induction s using line_induction with
  | last s hs =>
    have hmem : '\n' ∉ s ++ back := by
      rw [List.mem_append, not_or]
      exact ⟨hs, h.not_mem⟩
    rw [contentLines_of_not_mem hmem, contentLines_of_not_mem hs,
      trim_append_of_blank_right h.isBlank]
  | more line rest _ ih =>
    rw [List.append_assoc, List.cons_append, contentLines_append, ih, contentLines_append]

def unlines (ls : List (List Char)) : List Char := ['\n'].intercalate ls

@[simp] theorem unlines_singleton (line : List Char) : unlines [line] = line := by
  simp [unlines, List.intercalate]

@[simp] theorem unlines_cons_cons (line next : List Char) (ls : List (List Char)) :
    unlines (line :: next :: ls) = line ++ '\n' :: unlines (next :: ls) := by
  simp [unlines, List.intercalate]

theorem contentLines_unlines (ls : List (List Char)) :
    contentLines (unlines ls) = ls.flatMap contentLines := by
  induction ls with
  | nil => rfl
  | cons line ls ih =>
    cases ls with
    | nil => simp
    | cons next ls => rw [unlines_cons_cons, contentLines_append, ih, ← List.flatMap_cons]

section Ended

variable {α : Type}

/-- Parts, each with a mark behind it. -/
def ended (mark : α) (parts : List (List α)) : List α := parts.flatMap (· ++ [mark])

@[simp] theorem ended_nil (mark : α) : ended mark [] = [] := rfl

@[simp] theorem ended_cons (mark : α) (part : List α) (parts : List (List α)) :
    ended mark (part :: parts) = part ++ mark :: ended mark parts := by
  simp [ended]

@[simp] theorem ended_append (mark : α) (xs ys : List (List α)) :
    ended mark (xs ++ ys) = ended mark xs ++ ended mark ys :=
  List.flatMap_append

/-- Ended parts are cut apart at their marks; nothing stands behind the last one. -/
theorem splitOn_ended [BEq α] [LawfulBEq α] {mark : α} {parts : List (List α)}
    (h : ∀ part ∈ parts, mark ∉ part) : (ended mark parts).splitOn mark = parts ++ [[]] := by
  induction parts with
  | nil => rfl
  | cons part parts ih =>
    obtain ⟨hpart, hparts⟩ := List.forall_mem_cons.1 h
    have hfirst : part.splitOnP (· == mark) = [part] :=
      List.splitOnP_eq_singleton fun x hx => beq_false_of_ne fun heq => hpart (heq ▸ hx)
    have hcut := List.splitOnP_append_cons (p := (· == mark)) part (ended mark parts)
      (beq_self_eq_true mark)
    rw [List.splitOn_eq_splitOnP] at ih ⊢
    rw [ended_cons, hcut, hfirst, ih hparts, List.singleton_append, List.cons_append]

end Ended

end CostGate.Text
