import CostGate.Proofs.Source.Comment
import CostGate.Source.Measure

/-!
# Layout and comments

Edits of a source text that touch its line ends, the blanks around its lines, its blank lines and
its comments. A comment may be put in wherever no block comment is open. No sequence of such edits
changes the effective lines of the text, so none changes its metrics.
-/
namespace CostGate.Source

open Text
open Number (Quantity)

/-- Lines that are nothing but a comment. -/
inductive IsComment : CommentStyle → List Char → Prop where
  | hash {indent rest : List Char} (hindent : IsPadding indent) (hrest : '\n' ∉ rest) :
      IsComment .hash (indent ++ '#' :: rest)
  | slashes {indent rest : List Char} (hindent : IsPadding indent) (hrest : '\n' ∉ rest) :
      IsComment .slashes (indent ++ '/' :: '/' :: rest)
  /-- The body may contain line feeds. -/
  | block {indent body after : List Char} (hindent : IsPadding indent)
      (hbody : ¬ ['*', '/'] <:+: body) (hafter : IsPadding after) :
      IsComment .slashes (indent ++ ('/' :: '*' :: body ++ '*' :: '/' :: after))

/-- An edit of a text that consists of parts between some of its line feeds. -/
inductive Edit (style : CommentStyle) : List Char → List Char → Prop where
  /-- A carriage return is put in front of the line feeds. -/
  | lineEnds (ls : List (List Char)) : Edit style (unlines ls) (['\r', '\n'].intercalate ls)
  /-- Blanks are put at the start and at the end of a line. -/
  | padding (xs ys : List (List Char)) (line : List Char) {front back : List Char}
      (hfront : IsPadding front) (hback : IsPadding back) :
      Edit style (unlines (xs ++ line :: ys)) (unlines (xs ++ (front ++ line ++ back) :: ys))
  /-- A blank line is put in. -/
  | blankLine (xs ys : List (List Char)) {line : List Char} (hline : IsPadding line) :
      Edit style (unlines (xs ++ ys)) (unlines (xs ++ line :: ys))
  /-- A comment is put in on lines of its own. -/
  | comment (xs ys : List (List Char)) {comment : List Char}
      (hclosed : opensBlock style (unlines xs) = false) (hcomment : IsComment style comment) :
      Edit style (unlines (xs ++ ys)) (unlines (xs ++ comment :: ys))
  /-- A block comment is put in at the start of a line. -/
  | blockInFront (xs ys : List (List Char)) (line : List Char) {body : List Char}
      (hstyle : style = .slashes) (hclosed : opensBlock style (unlines xs) = false)
      (hline : '\n' ∉ body) (hbody : ¬ ['*', '/'] <:+: body) :
      Edit style (unlines (xs ++ line :: ys))
        (unlines (xs ++ ('/' :: '*' :: body ++ '*' :: '/' :: line) :: ys))

theorem effectiveLines_congr {s t : List Char} (h : contentLines s = contentLines t)
    (style : CommentStyle) : effectiveLines style s = effectiveLines style t := by
  cases style with
  | hash => rw [effectiveLines_hash, effectiveLines_hash, h]
  | slashes => rw [effectiveLines_slashes, effectiveLines_slashes, reading, reading, h]

theorem contentLines_lineEnds (ls : List (List Char)) :
    contentLines (['\r', '\n'].intercalate ls) = ls.flatMap contentLines := by
  induction ls with
  | nil => rfl
  | cons line ls ih =>
    cases ls with
    | nil => simp [List.intercalate]
    | cons next ls =>
      have hreturn : IsPadding ['\r'] := by
        intro c hc
        rw [List.mem_singleton.1 hc]
        decide
      have hcons : ['\r', '\n'].intercalate (line :: next :: ls) =
          (line ++ ['\r']) ++ '\n' :: ['\r', '\n'].intercalate (next :: ls) := by
        simp [List.intercalate]
      rw [hcons, contentLines_append, contentLines_append_right hreturn, ih, ← List.flatMap_cons]

/-- Parts of a text that are read alike from outside a block may stand for one another behind
lines that leave no block open. -/
theorem effectiveLines_unlines_congr {xs : List (List Char)}
    (hclosed : opensBlock .slashes (unlines xs) = false) (old new : List (List Char))
    (h : reading false (unlines old) = reading false (unlines new)) (ys : List (List Char)) :
    effectiveLines .slashes (unlines (xs ++ (old ++ ys))) =
      effectiveLines .slashes (unlines (xs ++ (new ++ ys))) := by
  rw [opensBlock_slashes, reading] at hclosed
  simp only [reading, contentLines_unlines, Prod.mk.injEq] at h hclosed
  simp only [effectiveLines_slashes, reading, contentLines_unlines, List.flatMap_append,
    codeLines_append, hclosed, h]

theorem reading_comment {comment : List Char} (h : IsComment .slashes comment) :
    reading false comment = ([], false) := by
  cases h with
  | slashes hindent hrest =>
    rw [reading, contentLines_append_left hindent]
    exact reading_lineComment hrest
  | block hindent hbody hafter =>
    rw [reading, contentLines_append_left hindent]
    refine (reading_block hbody _).trans ?_
    rw [reading, contentLines_of_isPadding hafter]
    rfl

theorem contentLines_hashComment {comment : List Char} (h : IsComment .hash comment) :
    ∃ rest, contentLines comment = ['#' :: rest] := by
  cases h with
  | @hash indent rest hindent hrest =>
    have hmem : '\n' ∉ '#' :: rest := by simpa using hrest
    refine ⟨trimEnd rest, ?_⟩
    rw [contentLines_append_left hindent, contentLines_of_not_mem hmem, trim_cons (by decide)]
    simp

theorem effectiveLines_edit {style : CommentStyle} {s t : List Char} (h : Edit style s t) :
    effectiveLines style s = effectiveLines style t := by
  cases h with
  | lineEnds ls =>
    apply effectiveLines_congr
    rw [contentLines_unlines, contentLines_lineEnds]
  | padding xs ys line hfront hback =>
    apply effectiveLines_congr
    simp only [contentLines_unlines, List.flatMap_append, List.flatMap_cons]
    rw [contentLines_append_right hback, contentLines_append_left hfront]
  | blankLine xs ys hline =>
    apply effectiveLines_congr
    simp only [contentLines_unlines, List.flatMap_append, List.flatMap_cons]
    rw [contentLines_of_isPadding hline, List.nil_append]
  | @comment xs ys comment hclosed hcomment =>
    cases style with
    | hash =>
      obtain ⟨rest, hrest⟩ := contentLines_hashComment hcomment
      simp only [effectiveLines_hash, contentLines_unlines, List.flatMap_append, List.flatMap_cons,
        List.filter_append, hrest]
      rfl
    | slashes =>
      refine effectiveLines_unlines_congr hclosed [] [comment] ?_ ys
      rw [unlines_singleton, reading_comment hcomment]
      rfl
  | @blockInFront xs ys line body hstyle hclosed _ hbody =>
    subst hstyle
    refine effectiveLines_unlines_congr hclosed [line] [_] ?_ ys
    rw [unlines_singleton, unlines_singleton]
    exact (reading_block hbody line).symm

theorem effectiveLines_edited {style : CommentStyle} {s t : List Char}
    (h : Relation.EqvGen (Edit style) s t) : effectiveLines style s = effectiveLines style t := by
  induction h with
  | rel s t hedit => exact effectiveLines_edit hedit
  | refl s => rfl
  | symm s t _ ih => exact ih.symm
  | trans s t u _ _ ih ih' => exact ih.trans ih'

/-- Texts that edits of layout and comments lead to from one another have the same metrics. -/
theorem measure_edited {α : Type} [Quantity α] (weights : IncludeWeights α) {style : CommentStyle}
    {s t : List Char} (h : Relation.EqvGen (Edit style) s t) :
    measure weights style s = measure weights style t := by
  rw [measure, effectiveLines_edited h, measure]

/-- Two lines of code. -/
def bareSource : List (List Char) := [['a', ';'], ['b', ';']]

/-- The same code behind a block over two lines, with blanks, a blank line and two more comments. -/
def dressedSource : List (List Char) :=
  [['/', '*', '/', '\n', '*', '*', '/'], [' ', 'a', ';', '\t'], [], ['/', '/', '*'],
    ['/', '*', '*', '/', 'b', ';']]

theorem measure_edited_dressed :
    Relation.EqvGen (Edit .slashes) (unlines bareSource) (['\r', '\n'].intercalate dressedSource) ∧
      measure (IncludeWeights.default Float) .slashes (unlines bareSource) =
        measure (IncludeWeights.default Float) .slashes (['\r', '\n'].intercalate dressedSource) ∧
      effectiveLines .slashes (['\r', '\n'].intercalate dressedSource) = bareSource := by
  have hhead : IsComment .slashes ['/', '*', '/', '\n', '*', '*', '/'] :=
    .block (isPadding_nil) (by decide : ¬ ['*', '/'] <:+: ['/', '\n', '*']) isPadding_nil
  have hnote : IsComment .slashes ['/', '/', '*'] :=
    .slashes isPadding_nil (by decide : '\n' ∉ ['*'])
  have hblank : Edit .slashes (unlines [['a', ';'], ['b', ';']])
      (unlines [[' ', 'a', ';', '\t'], ['b', ';']]) :=
    .padding [] [['b', ';']] ['a', ';'] (by decide : IsPadding [' ']) (by decide : IsPadding ['\t'])
  have hline : Edit .slashes (unlines [[' ', 'a', ';', '\t'], ['b', ';']])
      (unlines [[' ', 'a', ';', '\t'], [], ['b', ';']]) :=
    .blankLine [[' ', 'a', ';', '\t']] [['b', ';']] isPadding_nil
  have hslashes : Edit .slashes (unlines [[' ', 'a', ';', '\t'], [], ['b', ';']])
      (unlines [[' ', 'a', ';', '\t'], [], ['/', '/', '*'], ['b', ';']]) :=
    .comment [[' ', 'a', ';', '\t'], []] [['b', ';']] (by decide +kernel) hnote
  have hfront : Edit .slashes (unlines [[' ', 'a', ';', '\t'], [], ['/', '/', '*'], ['b', ';']])
      (unlines [[' ', 'a', ';', '\t'], [], ['/', '/', '*'], ['/', '*', '*', '/', 'b', ';']]) :=
    .blockInFront [[' ', 'a', ';', '\t'], [], ['/', '/', '*']] [] ['b', ';'] rfl (by decide +kernel)
      (by decide : '\n' ∉ []) (by decide)
  have hblock : Edit .slashes
      (unlines [[' ', 'a', ';', '\t'], [], ['/', '/', '*'], ['/', '*', '*', '/', 'b', ';']])
      (unlines dressedSource) :=
    .comment [] [[' ', 'a', ';', '\t'], [], ['/', '/', '*'], ['/', '*', '*', '/', 'b', ';']]
      (by decide +kernel) hhead
  have hedited : Relation.EqvGen (Edit .slashes) (unlines bareSource)
      (['\r', '\n'].intercalate dressedSource) :=
    .trans _ _ _ (.rel _ _ hblank) <| .trans _ _ _ (.rel _ _ hline) <|
      .trans _ _ _ (.rel _ _ hslashes) <| .trans _ _ _ (.rel _ _ hfront) <|
      .trans _ _ _ (.rel _ _ hblock) (.rel _ _ (.lineEnds dressedSource))
  exact ⟨hedited, measure_edited _ hedited, by decide +kernel⟩

end CostGate.Source
