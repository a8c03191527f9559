import CostGate.Proofs.Source.Comment

/-!
# The parts of a line

A line with slash comments is a sequence of block comments, each with the blanks behind it, and
then code, a comment up to the line end, a block that the line leaves open, or nothing. A line that
begins inside a block begins with the rest of a comment. Every trimmed line has exactly one such
decomposition, and it tells what the line yields.
-/
namespace CostGate.Source

open Text

/-- The parts of a line, by the block state that it begins in. -/
inductive LineParts : Bool → Type where
  | code (c : List Char) : LineParts false
  | nothing : LineParts false
  /-- Two slashes and a text. -/
  | lineComment (t : List Char) : LineParts false
  /-- The start of a block. -/
  | blockStart (rest : LineParts true) : LineParts false
  /-- A text that does not leave the block. -/
  | inside (t : List Char) : LineParts true
  /-- A text up to the end of the block, the blanks behind the end, and what follows. -/
  | blockEnd (body gap : List Char) (rest : LineParts false) : LineParts true

/-- All the blanks in front of a text. -/
def IsGap (gap rest : List Char) : Prop :=
  (∀ x ∈ gap, isBlank x = true) ∧ ∀ x ∈ rest.head?, isBlank x = false

namespace LineParts

variable {inBlock : Bool}

def text : {inBlock : Bool} → LineParts inBlock → List Char
  | _, code c => c
  | _, nothing => []
  | _, lineComment t => '/' :: '/' :: t
  | _, blockStart rest => '/' :: '*' :: rest.text
  | _, inside t => t
  | _, blockEnd body gap rest => body ++ '*' :: '/' :: (gap ++ rest.text)

/-- Code is not empty and starts no comment, a block ends at its first end, and the blanks behind
a comment are all there are in front of the next part. -/
def WellFormed : {inBlock : Bool} → LineParts inBlock → Prop
  | _, code c => c ≠ [] ∧ ¬ ['/', '/'] <+: c ∧ ¬ ['/', '*'] <+: c
  | _, nothing => True
  | _, lineComment _ => True
  | _, blockStart rest => rest.WellFormed
  | _, inside t => ¬ ['*', '/'] <:+: t
  | _, blockEnd body gap rest => ¬ ['*', '/'] <:+: body ∧ IsGap gap rest.text ∧ rest.WellFormed

/-- The code of a line with these parts, and whether the line leaves a block open. -/
def outcome : {inBlock : Bool} → LineParts inBlock → Option (List Char) × Bool
  | _, code c => (some c, false)
  | _, nothing => (none, false)
  | _, lineComment _ => (none, false)
  | _, blockStart rest => rest.outcome
  | _, inside _ => (none, true)
  | _, blockEnd _ _ rest => rest.outcome

end LineParts

theorem IsGap.trimStart_append {gap rest : List Char} (h : IsGap gap rest) :
    trimStart (gap ++ rest) = rest := by
  rw [trimStart_append_of_blank h.1]
  cases rest with
  | nil => rfl
  | cons c rest => exact trimStart_of_not_blank (h.2 c rfl) rest

theorem IsGap.unique {gap rest gap' rest' : List Char} (h : IsGap gap rest) (h' : IsGap gap' rest')
    (heq : gap ++ rest = gap' ++ rest') : gap = gap' ∧ rest = rest' := by
  have hrest : rest = rest' := by rw [← h.trimStart_append, heq, h'.trimStart_append]
  exact ⟨List.append_cancel_right (heq.trans (hrest ▸ rfl)), hrest⟩

theorem isGap_takeWhile (s : List Char) : IsGap (s.takeWhile isBlank) (trimStart s) := by
  refine ⟨fun _ => List.mem_takeWhile_imp, fun x hx => ?_⟩
  have hhead := List.head?_dropWhile_not isBlank s
  rw [← trimStart, Option.mem_def.1 hx] at hhead
  exact hhead

/-- Up to the first end of a block there is no other. -/
theorem exists_of_afterBlock? {s tail : List Char} (h : afterBlock? s = some tail) :
    ∃ body, ¬ ['*', '/'] <:+: body ∧ s = body ++ '*' :: '/' :: tail := by
  rw [afterBlock?, Option.map_eq_some_iff] at h
  obtain ⟨⟨body, tail⟩, hsplit, rfl⟩ := h
  refine ⟨body, not_infix_of_splitOnce? (by simp) hsplit, ?_⟩
  rw [splitOnce?_eq_some hsplit, List.append_assoc]
  rfl

theorem blockEnd_unique {body s body' s' : List Char} (h : ¬ ['*', '/'] <:+: body)
    (h' : ¬ ['*', '/'] <:+: body') (heq : body ++ '*' :: '/' :: s = body' ++ '*' :: '/' :: s') :
    body = body' ∧ s = s' := by
  have hafter : some s = some s' := by
    rw [← afterBlock?_append h, heq, afterBlock?_append h']
  obtain rfl := Option.some.inj hafter
  exact ⟨List.append_cancel_right heq, rfl⟩

namespace LineParts

variable {inBlock : Bool}

theorem text_suffix_blockStart (rest : LineParts true) : rest.text <:+ (blockStart rest).text :=
  List.suffix_append ['/', '*'] _

theorem text_suffix_blockEnd (body gap : List Char) (rest : LineParts false) :
    rest.text <:+ (blockEnd body gap rest).text :=
  ⟨body ++ '*' :: '/' :: gap, by simp [text]⟩

theorem codeOf_text {parts : LineParts inBlock} (h : parts.WellFormed)
    (hend : trimEnd parts.text = parts.text) : codeOf inBlock parts.text = parts.outcome := by
  induction parts with
  | code c =>
    obtain ⟨hne, hline, hblock⟩ := h
    rw [text] at hend ⊢
    rw [codeOf.eq_4 _ _ hne (fun t ht => hline ⟨t, ht.symm⟩) (fun t ht => hblock ⟨t, ht.symm⟩),
      if_neg Bool.false_ne_true, hend]
    rfl
  | nothing => exact codeOf_nil false
  | lineComment t =>
    rw [text, codeOf, if_neg Bool.false_ne_true]
    rfl
  | blockStart rest ih =>
    have hrest := trimEnd_eq_of_suffix (text_suffix_blockStart rest) hend
    rw [text, codeOf, if_neg Bool.false_ne_true, ih h hrest]
    rfl
  | inside t => exact codeOf_true_of_none (afterBlock?_eq_none h)
  | blockEnd body gap rest ih =>
    obtain ⟨hbody, hgap, hwell⟩ := h
    have hrest := trimEnd_eq_of_suffix (text_suffix_blockEnd body gap rest) hend
    rw [text, codeOf_true_of_some (afterBlock?_append hbody _), hgap.trimStart_append,
      ih hwell hrest]
    rfl

theorem ne_of_wellFormed_code {c t : List Char} (h : (code c).WellFormed) :
    c ≠ '/' :: '/' :: t ∧ c ≠ '/' :: '*' :: t :=
  ⟨fun heq => h.2.1 ⟨t, heq.symm⟩, fun heq => h.2.2 ⟨t, heq.symm⟩⟩

theorem ne_of_wellFormed_inside {t body s : List Char} (h : (inside t).WellFormed) :
    t ≠ body ++ '*' :: '/' :: s := by
  rintro rfl
  exact h ⟨body, s, by simp⟩

/-- Two decompositions of one line are the same. -/
theorem text_injective {p q : LineParts inBlock} (hp : p.WellFormed) (hq : q.WellFormed)
    (h : p.text = q.text) : p = q := by
  induction p with
  | code c =>
    cases q with
    | code d => exact congrArg code h
    | nothing => exact absurd h hp.1
    | lineComment t => exact absurd h (ne_of_wellFormed_code hp).1
    | blockStart rest => exact absurd h (ne_of_wellFormed_code hp).2
  | nothing =>
    cases q with
    | code d => exact absurd h.symm hq.1
    | _ => simp_all [text]
  | lineComment t =>
    cases q with
    | code d => exact absurd h.symm (ne_of_wellFormed_code hq).1
    | _ => simp_all [text]
  | blockStart rest ih =>
    cases q with
    | code d => exact absurd h.symm (ne_of_wellFormed_code hq).2
    | blockStart rest' => rw [ih hp hq (List.cons.inj (List.cons.inj h).2).2]
    | _ => simp_all [text]
  | inside t =>
    cases q with
    | inside u => exact congrArg inside h
    | blockEnd body gap rest => exact absurd h (ne_of_wellFormed_inside hp)
  | blockEnd body gap rest ih =>
    cases q with
    | inside t => exact absurd h.symm (ne_of_wellFormed_inside hq)
    | blockEnd body' gap' rest' =>
      obtain ⟨rfl, hbehind⟩ := blockEnd_unique hp.1 hq.1 h
      obtain ⟨rfl, hrest⟩ := hp.2.1.unique hq.2.1 hbehind
      rw [ih hp.2.2 hq.2.2 hrest]

/-- Every line has a decomposition, unless it starts with a blank outside a block. -/
theorem exists_text_eq {s : List Char} (hs : inBlock = true ∨ trimStart s = s) :
    ∃ parts : LineParts inBlock, parts.WellFormed ∧ parts.text = s := by
  -- Behind the end of a block the text is trimmed, so the condition holds again there.
  induction inBlock, s using codeOf.induct with
  | case1 s hnone =>
    have hinside := splitOnce?_eq_none_iff.1 (Option.map_eq_none_iff.1 hnone)
    exact ⟨inside s, hinside, rfl⟩
  | case2 s tail htail ih =>
    obtain ⟨rest, hrest, htext⟩ := ih (.inr (List.dropWhile_idempotent isBlank tail))
    obtain ⟨body, hbody, rfl⟩ := exists_of_afterBlock? htail
    refine ⟨blockEnd body (tail.takeWhile isBlank) rest, ⟨hbody, ?_, hrest⟩, ?_⟩
    · rw [htext]
      exact isGap_takeWhile tail
    · rw [text, htext, trimStart, List.takeWhile_append_dropWhile]
  | case3 inBlock hclosed =>
    obtain rfl := Bool.eq_false_of_not_eq_true hclosed
    exact ⟨nothing, trivial, rfl⟩
  | case4 inBlock hclosed t =>
    obtain rfl := Bool.eq_false_of_not_eq_true hclosed
    exact ⟨lineComment t, trivial, rfl⟩
  | case5 inBlock hclosed body ih =>
    obtain rfl := Bool.eq_false_of_not_eq_true hclosed
    obtain ⟨rest, hrest, rfl⟩ := ih (.inl rfl)
    exact ⟨blockStart rest, hrest, rfl⟩
  | case6 inBlock hclosed s hnil hline hblock =>
    obtain rfl := Bool.eq_false_of_not_eq_true hclosed
    refine ⟨code s, ⟨hnil, ?_, ?_⟩, rfl⟩
    · rintro ⟨t, rfl⟩
      exact hline t rfl
    · rintro ⟨t, rfl⟩
      exact hblock t rfl

end LineParts

/-- A trimmed line has exactly one decomposition from either block state, and the decomposition
tells the code of the line and the block state behind it. -/
theorem codeOf_decomposes {line : List Char} (hline : trim line = line) (inBlock : Bool) :
    (∃! parts : LineParts inBlock, parts.WellFormed ∧ parts.text = line) ∧
      ∀ parts : LineParts inBlock, parts.WellFormed → parts.text = line →
        codeOf inBlock line = parts.outcome := by
  have hstart : trimStart line = line := hline ▸ trimStart_trim line
  have hend : trimEnd line = line := hline ▸ trimEnd_trim line
  refine ⟨?_, ?_⟩
  · obtain ⟨parts, hparts, htext⟩ : ∃ parts : LineParts inBlock, parts.WellFormed ∧ _ :=
      LineParts.exists_text_eq (.inr hstart)
    refine ⟨parts, ⟨hparts, htext⟩, fun other hother => ?_⟩
    exact LineParts.text_injective hother.1 hparts (hother.2.trans htext.symm)
  · rintro parts hparts rfl
    exact LineParts.codeOf_text hparts hend

/-- Inside a block the first end counts, and a slash behind the start of a block is no end. -/
theorem codeOf_decomposes_chained :
    trim ['a', '*', '*', '/', ' ', '/', '*', '/', '*', '/', 'x'] =
        ['a', '*', '*', '/', ' ', '/', '*', '/', '*', '/', 'x'] ∧
      codeOf true ['a', '*', '*', '/', ' ', '/', '*', '/', '*', '/', 'x'] = (some ['x'], false) ∧
      codeOf false ['/', '*', '/'] = (none, true) := by
  have hcode : (LineParts.code ['x']).WellFormed := by simp [LineParts.WellFormed]
  have hx : isBlank 'x' = false := by decide
  have hspace : isBlank ' ' = true := by decide
  have hgap : IsGap [' '] ['/', '*', '/', '*', '/', 'x'] := by simp [IsGap, hspace, isBlank_slash]
  have hinner : (LineParts.blockEnd ['/'] [] (.code ['x'])).WellFormed :=
    ⟨by decide, by simp [IsGap, LineParts.text, hx], hcode⟩
  refine ⟨by decide, ?_, ?_⟩
  · exact (codeOf_decomposes (by decide) true).2
      (.blockEnd ['a', '*'] [' '] (.blockStart (.blockEnd ['/'] [] (.code ['x']))))
      ⟨by decide, hgap, hinner⟩ rfl
  · exact (codeOf_decomposes (by decide) false).2 (.blockStart (.inside ['/']))
      (by decide : ¬ ['*', '/'] <:+: ['/']) rfl

end CostGate.Source
