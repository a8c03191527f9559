import CostGate.Proofs.Text.Lines
import CostGate.Proofs.Text.Occurrence
import CostGate.Source.Comment

/-!
# Reading a text with comments

What a text yields is determined by its lines that are not blank, read from a block state on. A
block comment is passed over whatever it contains: its opening leads into the block state, its end
leads out of it, and what follows the end is read as if the comment had not been there.
-/
namespace CostGate.Source

open Text

/-- What the lines of a text with slash comments yield from a block state on, and the block state
that they lead to. -/
def reading (inBlock : Bool) (s : List Char) : List (List Char) × Bool :=
  (codeLines inBlock (contentLines s), blockAfter inBlock (contentLines s))

/-- Whether a block comment is open behind a text. -/
def opensBlock : CommentStyle → List Char → Bool
  | .hash, _ => false
  | .slashes, s => blockAfter false ((lines s).map trim)

theorem codeLines_filter (inBlock : Bool) (ls : List (List Char)) :
    codeLines inBlock (ls.filter fun line => !line.isEmpty) = codeLines inBlock ls := by
  induction ls generalizing inBlock with
  | nil => rfl
  | cons line ls ih =>
    by_cases h : line.isEmpty
    · simp [codeLines, h, ih]
    · simp [codeLines, h, ih]

theorem blockAfter_filter (inBlock : Bool) (ls : List (List Char)) :
    blockAfter inBlock (ls.filter fun line => !line.isEmpty) = blockAfter inBlock ls := by
  induction ls generalizing inBlock with
  | nil => rfl
  | cons line ls ih =>
    by_cases h : line.isEmpty
    · simp [blockAfter, h, ih]
    · simp [blockAfter, h, ih]

theorem blockAfter_append (inBlock : Bool) (xs ys : List (List Char)) :
    blockAfter inBlock (xs ++ ys) = blockAfter (blockAfter inBlock xs) ys := by
  induction xs generalizing inBlock with
  | nil => rfl
  | cons line xs ih =>
    by_cases h : line.isEmpty
    · simp [blockAfter, h, ih]
    · simp [blockAfter, h, ih]

theorem effectiveLines_slashes (s : List Char) :
    effectiveLines .slashes s = (reading false s).1 :=
  (codeLines_filter false _).symm

theorem opensBlock_slashes (s : List Char) : opensBlock .slashes s = (reading false s).2 :=
  (blockAfter_filter false _).symm

theorem effectiveLines_hash (s : List Char) :
    effectiveLines .hash s = (contentLines s).filter fun line => line.head? != some '#' := by
  rw [contentLines, List.filter_filter]
  exact List.filter_congr fun line _ => Bool.and_comm _ _

theorem reading_append (inBlock : Bool) (s t : List Char) :
    reading inBlock (s ++ '\n' :: t) =
      ((reading inBlock s).1 ++ (reading (reading inBlock s).2 t).1,
        (reading (reading inBlock s).2 t).2) := by
  rw [reading, contentLines_append, codeLines_append, blockAfter_append]
  rfl

theorem codeOf_nil (inBlock : Bool) : codeOf inBlock [] = (none, inBlock) := by
  cases inBlock <;> simp [codeOf, afterBlock?, splitOnce?]

theorem reading_of_not_mem {s : List Char} (h : '\n' ∉ s) (inBlock : Bool) :
    reading inBlock s = ((codeOf inBlock (trim s)).1.toList, (codeOf inBlock (trim s)).2) := by
  rw [reading, contentLines_of_not_mem h]
  split_ifs with hblank
  · rw [hblank, codeOf_nil]
    rfl
  · have hline : (trim s).isEmpty = false := by simpa using hblank
    rcases hcode : codeOf inBlock (trim s) with ⟨code, next⟩
    cases code <;> simp [codeLines, blockAfter, hline, hcode]

theorem isBlank_star : isBlank '*' = false := by decide

theorem isBlank_slash : isBlank '/' = false := by decide

theorem afterBlock?_eq_none {s : List Char} (h : ¬ ['*', '/'] <:+: s) :
    afterBlock? s = none := by
  rw [afterBlock?, splitOnce?_eq_none_iff.2 h, Option.map_none]

/-- The first end of a block comment is the one behind a text without one. -/
theorem afterBlock?_append {body : List Char} (h : ¬ ['*', '/'] <:+: body) (s : List Char) :
    afterBlock? (body ++ '*' :: '/' :: s) = some s := by
  induction body with
  | nil => simp [afterBlock?, splitOnce?, dropFront?]
  | cons c body ih =>
    have htail : ¬ ['*', '/'] <:+: body := fun hbody => h (List.infix_cons_iff.2 (.inr hbody))
    have hstart : dropFront? ['*', '/'] (c :: (body ++ '*' :: '/' :: s)) = none := by
      rw [Option.eq_none_iff_forall_not_mem]
      intro tail htail
      have heq := dropFront?_eq_some_iff.1 htail
      cases body with
      | nil => simp at heq
      | cons d body =>
        simp only [List.cons_append, List.nil_append, List.cons.injEq] at heq
        obtain ⟨rfl, rfl, -⟩ := heq
        exact h ⟨[], body, rfl⟩
    have ih := ih htail
    rw [afterBlock?, Option.map_eq_some_iff] at ih
    obtain ⟨⟨before, tail⟩, hsplit, rfl⟩ := ih
    rw [List.cons_append, afterBlock?, splitOnce?, hstart]
    simp [hsplit]

theorem afterBlock?_trimStart (s : List Char) : afterBlock? (trimStart s) = afterBlock? s := by
  induction s with
  | nil => rfl
  | cons c s ih =>
    by_cases hc : isBlank c = true
    · have hne : '*' ≠ c := by
        rintro rfl
        rw [isBlank_star] at hc
        cases hc
      rw [trimStart, List.dropWhile_cons_of_pos hc, ← trimStart, ih, afterBlock?, afterBlock?,
        splitOnce?, dropFront?, if_neg hne, Option.map_map]
      rfl
    · rw [trimStart_of_not_blank (by simpa using hc)]

theorem codeOf_true_of_none {s : List Char} (h : afterBlock? s = none) :
    codeOf true s = (none, true) := by
  rw [codeOf.eq_def, if_pos rfl]
  split
  · rfl
  · next tail htail => rw [h] at htail; cases htail

theorem codeOf_true_of_some {s tail : List Char} (h : afterBlock? s = some tail) :
    codeOf true s = codeOf false (trimStart tail) := by
  rw [codeOf.eq_def, if_pos rfl]
  split
  · next hnone => rw [h] at hnone; cases hnone
  · next tail' htail => rw [h] at htail; rw [Option.some.inj htail]

theorem codeOf_true_trimStart (s : List Char) : codeOf true (trimStart s) = codeOf true s := by
  have htrim := afterBlock?_trimStart s
  cases h : afterBlock? s with
  | none => rw [codeOf_true_of_none h, codeOf_true_of_none (htrim.trans h)]
  | some tail => rw [codeOf_true_of_some h, codeOf_true_of_some (htrim.trans h)]

theorem reading_opening (s : List Char) : reading false ('/' :: '*' :: s) = reading true s := by
  have hline {line : List Char} (hline : '\n' ∉ line) :
      reading false ('/' :: '*' :: line) = reading true line := by
    have hmem : '\n' ∉ '/' :: '*' :: line := by simpa using hline
    have htrim : trim ('/' :: '*' :: line) = '/' :: '*' :: trimEnd line := by
      rw [trim_cons isBlank_slash]
      exact congrArg _ (trimEnd_append_cons isBlank_star [] line)
    have hcode : codeOf false ('/' :: '*' :: trimEnd line) = codeOf true (trimEnd line) := by
      rw [codeOf, if_neg Bool.false_ne_true]
    rw [reading_of_not_mem hmem, reading_of_not_mem hline, htrim, hcode, ← trimStart_trimEnd,
      codeOf_true_trimStart]
  rcases line_cases s with hs | ⟨line, rest, hl, rfl⟩
  · exact hline hs
  · have hcons : '/' :: '*' :: (line ++ '\n' :: rest) = ('/' :: '*' :: line) ++ '\n' :: rest := rfl
    rw [hcons, reading_append, reading_append, hline hl]

theorem reading_true_of_open {s : List Char} (h : ¬ ['*', '/'] <:+: s) :
    reading true s = ([], true) := by
  have hlines : ∀ line ∈ contentLines s, codeOf true line = (none, true) := fun line hline =>
    codeOf_true_of_none (afterBlock?_eq_none fun hend =>
      h (hend.trans (infix_of_mem_contentLines hline)))
  rw [reading]
  generalize contentLines s = ls at hlines
  induction ls with
  | nil => rfl
  | cons line ls ih =>
    obtain ⟨hline, hls⟩ := List.forall_mem_cons.1 hlines
    by_cases hempty : line.isEmpty
    · simpa [codeLines, blockAfter, hempty] using ih hls
    · simpa [codeLines, blockAfter, hempty, hline] using ih hls

/-- Behind the end of a block a text is read as if there had been none. -/
theorem reading_closing {body : List Char} (h : ¬ ['*', '/'] <:+: body) (s : List Char) :
    reading true (body ++ '*' :: '/' :: s) = reading false s := by
  induction body using line_induction with
  | last body hbody =>
    have hline {line : List Char} (hline : '\n' ∉ line) :
        reading true (body ++ '*' :: '/' :: line) = reading false line := by
      have hmem : '\n' ∉ body ++ '*' :: '/' :: line := by simp [hbody, hline]
      have htrim : trimEnd (body ++ '*' :: '/' :: line) = body ++ '*' :: '/' :: trimEnd line := by
        rw [trimEnd_append_cons isBlank_star]
        exact congrArg (body ++ '*' :: ·) (trimEnd_append_cons isBlank_slash [] line)
      have hcode : codeOf true (trim (body ++ '*' :: '/' :: line)) = codeOf false (trim line) := by
        rw [← trimStart_trimEnd, codeOf_true_trimStart, htrim,
          codeOf_true_of_some (afterBlock?_append h _), trimStart_trimEnd]
      rw [reading_of_not_mem hmem, reading_of_not_mem hline, hcode]
    rcases line_cases s with hs | ⟨line, rest, hl, rfl⟩
    · exact hline hs
    · have hassoc : body ++ '*' :: '/' :: (line ++ '\n' :: rest) =
          (body ++ '*' :: '/' :: line) ++ '\n' :: rest := by simp
      rw [hassoc, reading_append, hline hl, ← reading_append]
  | more line rest _ ih =>
    have hfront : ¬ ['*', '/'] <:+: line := fun hend =>
      h (hend.trans (List.prefix_append _ _).isInfix)
    have hback : ¬ ['*', '/'] <:+: rest := fun hend =>
      h (hend.trans ((List.suffix_cons '\n' rest).trans (List.suffix_append _ _)).isInfix)
    rw [List.append_assoc, List.cons_append, reading_append, reading_true_of_open hfront,
      ih hback]
    rfl

theorem reading_block {body : List Char} (h : ¬ ['*', '/'] <:+: body) (s : List Char) :
    reading false ('/' :: '*' :: body ++ '*' :: '/' :: s) = reading false s :=
  (reading_opening _).trans (reading_closing h s)

theorem reading_lineComment {rest : List Char} (h : '\n' ∉ rest) :
    reading false ('/' :: '/' :: rest) = ([], false) := by
  have hmem : '\n' ∉ '/' :: '/' :: rest := by simpa using h
  have htrim : trim ('/' :: '/' :: rest) = '/' :: '/' :: trimEnd rest := by
    rw [trim_cons isBlank_slash]
    exact congrArg _ (trimEnd_append_cons isBlank_slash [] rest)
  have hcode : codeOf false ('/' :: '/' :: trimEnd rest) = (none, false) := by
    rw [codeOf, if_neg Bool.false_ne_true]
  rw [reading_of_not_mem hmem, htrim, hcode]
  rfl

theorem codeOf_of_ne {c : Char} (hc : c ≠ '/') (s : List Char) :
    codeOf false (c :: s) = (some (trimEnd (c :: s)), false) := by
  rw [codeOf.eq_4 _ _ (by simp) (by simp [hc]) (by simp [hc]), if_neg Bool.false_ne_true]

/-- A line that yields code leaves no block open. -/
theorem codeOf_of_some {inBlock : Bool} {s code : List Char} {next : Bool}
    (h : codeOf inBlock s = (some code, next)) : next = false := by
  induction inBlock, s using codeOf.induct with
  | case1 s hnone =>
    rw [codeOf_true_of_none hnone] at h
    cases h
  | case2 s tail htail ih =>
    rw [codeOf_true_of_some htail] at h
    exact ih h
  | case3 inBlock hclosed =>
    rw [codeOf, if_neg hclosed] at h
    cases h
  | case4 inBlock hclosed =>
    rw [codeOf, if_neg hclosed] at h
    cases h
  | case5 inBlock hclosed body ih =>
    rw [codeOf, if_neg hclosed] at h
    exact ih h
  | case6 inBlock hclosed s hnil hline hblock =>
    rw [codeOf.eq_4 _ _ hnil hline hblock, if_neg hclosed] at h
    exact (Prod.mk.inj h).2.symm

/-- A line that yields code leaves no block open, whatever its code contains: a block comment that
starts behind code is a part of the code, and the lines below are read as a text of their own. -/
theorem effectiveLines_behind_code (xs ys : List (List Char)) {line code : List Char} {next : Bool}
    (hline : '\n' ∉ line)
    (hcode : codeOf (opensBlock .slashes (unlines xs)) (trim line) = (some code, next)) :
    opensBlock .slashes (unlines (xs ++ [line])) = false ∧
      effectiveLines .slashes (unlines (xs ++ line :: ys)) =
        effectiveLines .slashes (unlines xs) ++ code :: effectiveLines .slashes (unlines ys) := by
  obtain rfl : next = false := codeOf_of_some hcode
  have hread : reading (reading false (unlines xs)).2 line = ([code], false) := by
    rw [opensBlock_slashes] at hcode
    rw [reading_of_not_mem hline, hcode]
    rfl
  simp only [reading, contentLines_unlines, Prod.mk.injEq] at hread
  constructor
  · rw [opensBlock_slashes, reading, contentLines_unlines, List.flatMap_append, blockAfter_append]
    simpa using hread.2
  · simp only [effectiveLines_slashes, reading, contentLines_unlines, List.flatMap_append,
      List.flatMap_cons, codeLines_append, hread, List.singleton_append]

/-- The lines of a comment that starts behind code are effective lines. -/
theorem effectiveLines_behind_code_open :
    opensBlock .slashes (unlines [['a', ';', ' ', '/', '*']]) = false ∧
      effectiveLines .slashes (unlines [['a', ';', ' ', '/', '*'], ['b', ' ', '*', '/']]) =
        [['a', ';', ' ', '/', '*'], ['b', ' ', '*', '/']] := by
  have hcode : codeOf (opensBlock .slashes (unlines [])) (trim ['a', ';', ' ', '/', '*']) =
      (some ['a', ';', ' ', '/', '*'], false) := by
    decide +kernel
  have h := effectiveLines_behind_code [] [['b', ' ', '*', '/']] (by decide) hcode
  exact ⟨h.1, h.2.trans (by decide +kernel)⟩

end CostGate.Source
