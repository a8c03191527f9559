import CostGate.Proofs.Source.Comment
import CostGate.Source.Measure

/-!
# Text behind an include target

The target of an include is looked for in all that follows on the line, first between double
quotes, then between single ones, then between angle brackets. A target between double quotes is
found whatever stands behind it. A target between angle brackets is found unless a comment behind
it has two quotes of one kind: then what they enclose is taken for the target.
-/
namespace CostGate.Source

open Text
open Number (Quantity)

variable {c q r : Char} {s t inside : List Char}

theorem between?_eq_some_iff :
    between? q r s = some inside ↔
      ∃ front back, s = front ++ q :: (inside ++ r :: back) ∧ q ∉ front ∧ r ∉ inside := by
  simp only [between?, bind, Option.bind_eq_some_iff, Prod.exists, splitOnce?_singleton_iff,
    Option.some.injEq]
  constructor
  · rintro ⟨front, tail, ⟨rfl, hfront⟩, inside, back, ⟨rfl, hinside⟩, rfl⟩
    exact ⟨front, back, rfl, hfront, hinside⟩
  · rintro ⟨front, back, rfl, hfront, hinside⟩
    exact ⟨front, _, ⟨rfl, hfront⟩, inside, back, ⟨rfl, hinside⟩, rfl⟩

theorem between?_append_of_not_mem {front : List Char} (h : q ∉ front) (s : List Char) :
    between? q r (front ++ s) = between? q r s := by
  rw [between?, splitOnce?_append_left h, between?]
  cases splitOnce? [q] s <;> rfl

theorem between?_trimEnd (hr : isBlank r = false) (s : List Char) :
    between? q r (trimEnd s) = between? q r s := by
  ext inside
  simp only [between?_eq_some_iff]
  constructor
  · rintro ⟨front, back, heq, hfront, hinside⟩
    obtain ⟨blanks, hblanks⟩ : trimEnd s <+: s := List.rdropWhile_prefix isBlank s
    refine ⟨front, back ++ blanks, ?_, hfront, hinside⟩
    rw [← hblanks, heq]
    simp
  · rintro ⟨front, back, rfl, hfront, hinside⟩
    refine ⟨front, trimEnd back, ?_, hfront, hinside⟩
    have happend := trimEnd_append_cons hr (front ++ q :: inside) back
    simpa using happend

/-- Nothing stands between two signs of one kind unless there are two. -/
theorem between?_self_eq_none_iff : between? q q s = none ↔ s.count q < 2 := by
  rw [← not_iff_not, not_lt, ← ne_eq, Option.ne_none_iff_exists']
  simp only [between?_eq_some_iff]
  constructor
  · rintro ⟨inside, front, back, rfl, -, -⟩
    simp only [List.count_append, List.count_cons_self]
    omega
  · intro h
    have hmem : q ∈ s := List.count_pos_iff.1 (by omega)
    obtain ⟨front, tail, rfl, hfront⟩ := List.eq_append_cons_of_mem hmem
    rw [List.count_append, List.count_eq_zero_of_not_mem hfront, List.count_cons_self] at h
    have htail : q ∈ tail := List.count_pos_iff.1 (by omega)
    obtain ⟨inside, back, rfl, hinside⟩ := List.eq_append_cons_of_mem htail
    exact ⟨inside, front, back, rfl, hfront, hinside⟩

def includeWord : List Char := "#include ".toList

def includeLine (opening closing : Char) (target : List Char) : List Char :=
  includeWord ++ opening :: (target ++ [closing])

def commented (line comment : List Char) : List Char := line ++ " // ".toList ++ comment

theorem includeWord_eq :
    includeWord = '#' :: (['i', 'n', 'c', 'l', 'u', 'd', 'e'] ++ [' ']) := by
  decide

theorem trim_include (hc : isBlank c = false) (s : List Char) :
    trim (includeWord ++ c :: s) = includeWord ++ c :: trimEnd s := by
  rw [includeWord_eq, List.cons_append, trim_cons (by decide), trimEnd_append_cons hc]
  rfl

theorem effectiveLines_include (hc : isBlank c = false) (h : '\n' ∉ c :: s) :
    effectiveLines .slashes (includeWord ++ c :: s) = [includeWord ++ c :: trimEnd s] := by
  have hmem : '\n' ∉ includeWord ++ c :: s := by
    rw [List.mem_append, not_or]
    exact ⟨by decide, h⟩
  have hend : trimEnd (includeWord ++ c :: trimEnd s) = includeWord ++ c :: trimEnd s := by
    rw [trimEnd_append_cons hc]
    exact congrArg (includeWord ++ c :: ·) (List.rdropWhile_idempotent isBlank s)
  have hcode : codeOf false (includeWord ++ c :: trimEnd s) =
      (some (includeWord ++ c :: trimEnd s), false) := by
    rw [includeWord_eq, List.cons_append] at hend ⊢
    rw [codeOf_of_ne (by decide), hend]
  rw [effectiveLines_slashes, reading_of_not_mem hmem, trim_include hc, hcode]
  rfl

theorem directiveText?_include (hc : isBlank c = false) (s : List Char) :
    directiveText? (includeWord ++ c :: s) = some (c :: s) := by
  have hword : afterWord? "include" (['i', 'n', 'c', 'l', 'u', 'd', 'e'] ++ ' ' :: c :: s) =
      some (' ' :: c :: s) := dropFront?_eq_some_iff.2 (by rfl)
  have hstart : trimStart (['i', 'n', 'c', 'l', 'u', 'd', 'e'] ++ ' ' :: c :: s) =
      ['i', 'n', 'c', 'l', 'u', 'd', 'e'] ++ ' ' :: c :: s := trimStart_of_not_blank (by decide) _
  have htarget : trimStart (' ' :: c :: s) = c :: s := by
    rw [trimStart, List.dropWhile_cons_of_pos (by decide)]
    exact trimStart_of_not_blank hc s
  have htext : preprocessor? (includeWord ++ c :: s) = some (c :: s) := by
    rw [includeWord_eq, List.cons_append, List.append_assoc, List.singleton_append, preprocessor?,
      hstart, hword, Option.some_or, Option.bind_eq_bind, Option.bind_some, htarget]
    rfl
  rw [directiveText?, htext, Option.some_or]

/-- Between quotes, of whichever kind is there twice. -/
def quoted? (s : List Char) : Option (List Char) := (between? '"' '"' s).or (between? '\'' '\'' s)

/-- A target is what is quoted, whatever blanks stand around it. -/
theorem target_eq (s : List Char) :
    target s =
      ((quoted? (trimStart s)).or (between? '<' '>' (trimStart s))).getD
        (dropStops (firstWord (trim s))) := by
  rw [target, trim, between?_trimEnd (by decide), between?_trimEnd (by decide),
    between?_trimEnd (by decide), ← Option.or_assoc, quoted?]

theorem target_trim (s : List Char) : target (trim s) = target s := by
  rw [target, trim, trimStart_trim, trimEnd_trim, target]

theorem quoted?_append {front : List Char} (hdouble : '"' ∉ front) (hsingle : '\'' ∉ front)
    (s : List Char) : quoted? (front ++ s) = quoted? s := by
  rw [quoted?, between?_append_of_not_mem hdouble, between?_append_of_not_mem hsingle, quoted?]

structure IsPlainTarget (t : List Char) : Prop where
  double : '"' ∉ t
  single : '\'' ∉ t
  opening : '<' ∉ t
  closing : '>' ∉ t
  lineFeed : '\n' ∉ t

/-- A target between double quotes is found whatever stands behind it. -/
theorem target_quoted (ht : '"' ∉ t) (rest : List Char) :
    target ('"' :: (t ++ '"' :: rest)) = t := by
  have hbetween : between? '"' '"' ('"' :: (t ++ '"' :: rest)) = some t :=
    between?_eq_some_iff.2 ⟨[], rest, rfl, by simp, ht⟩
  rw [target_eq, trimStart_of_not_blank (by decide), quoted?, hbetween]
  rfl

/-- What is quoted behind a target between angle brackets goes before the target. -/
theorem target_angled (ht : IsPlainTarget t) (rest : List Char) :
    target ('<' :: (t ++ '>' :: rest)) = (quoted? rest).getD t := by
  have hbetween : between? '<' '>' ('<' :: (t ++ '>' :: rest)) = some t :=
    between?_eq_some_iff.2 ⟨[], rest, rfl, by simp, ht.closing⟩
  have hquoted : quoted? ('<' :: (t ++ '>' :: rest)) = quoted? rest := by
    have happend : quoted? ('<' :: (t ++ ['>']) ++ rest) = quoted? rest :=
      quoted?_append (by simp [ht.double]) (by simp [ht.single]) rest
    simpa using happend
  rw [target_eq, trimStart_of_not_blank (by decide), hquoted, hbetween]
  cases quoted? rest <;> rfl

/-- Metrics with the counts of one include of a target. -/
def CountsInclude {α : Type} [Quantity α] (weights : IncludeWeights α) (t : List Char)
    (m : Metrics α) : Prop :=
  m.dependencies = 1 ∧ m.includes = 0.0 + includeWeight weights t

theorem countsInclude_measure {α : Type} [Quantity α] (weights : IncludeWeights α)
    (hc : isBlank c = false) (h : '\n' ∉ c :: s) :
    CountsInclude weights (target (c :: s)) (measure weights .slashes (includeWord ++ c :: s)) := by
  have htarget : directiveTarget? (includeWord ++ c :: trimEnd s) = some (target (c :: s)) := by
    rw [directiveTarget?, directiveText?_include hc, Option.map_some, ← trim_cons hc, target_trim]
  rw [measure, effectiveLines_include hc h]
  constructor
  · simp [Tally.ofLines, Tally.addLine, Tally.metrics, Tally.zero, htarget]
  · simp only [Tally.ofLines, List.foldl_cons, List.foldl_nil, Tally.addLine, Tally.metrics,
      Tally.zero, htarget]

/-- Metrics with the same directives. -/
def SameIncludes {α : Type} (m n : Metrics α) : Prop :=
  m.dependencies = n.dependencies ∧ m.includes = n.includes

theorem CountsInclude.same {α : Type} [Quantity α] {weights : IncludeWeights α}
    {m n : Metrics α} (hm : CountsInclude weights t m) (hn : CountsInclude weights t n) :
    SameIncludes m n :=
  ⟨hm.1.trans hn.1.symm, hm.2.trans hn.2.symm⟩

section

variable {α : Type} [Quantity α] (weights : IncludeWeights α) {rest : List Char}

theorem countsInclude_quoted (ht : IsPlainTarget t) (hrest : '\n' ∉ rest) :
    CountsInclude weights t (measure weights .slashes (includeLine '"' '"' t ++ rest)) := by
  have hfeed : '\n' ∉ '"' :: (t ++ '"' :: rest) := by simp [ht.lineFeed, hrest]
  have h := countsInclude_measure weights (by decide) hfeed
  rw [target_quoted ht.double] at h
  simpa [includeLine] using h

theorem countsInclude_angled (ht : IsPlainTarget t) (hrest : '\n' ∉ rest) :
    CountsInclude weights ((quoted? rest).getD t)
      (measure weights .slashes (includeLine '<' '>' t ++ rest)) := by
  have hfeed : '\n' ∉ '<' :: (t ++ '>' :: rest) := by simp [ht.lineFeed, hrest]
  have h := countsInclude_measure weights (by decide) hfeed
  rw [target_angled ht] at h
  simpa [includeLine] using h

end

/-- A comment behind an include changes nothing if the target stands between double quotes or the
comment has no two quotes of one kind. If it has, what they enclose is counted instead. -/
theorem measure_include_comment {α : Type} [Quantity α] (weights : IncludeWeights α)
    {t comment : List Char} (ht : IsPlainTarget t) (hcomment : '\n' ∉ comment) :
    SameIncludes (measure weights .slashes (commented (includeLine '"' '"' t) comment))
        (measure weights .slashes (includeLine '"' '"' t)) ∧
      (comment.count '"' < 2 → comment.count '\'' < 2 →
        SameIncludes (measure weights .slashes (commented (includeLine '<' '>' t) comment))
          (measure weights .slashes (includeLine '<' '>' t))) ∧
      ∀ other, quoted? comment = some other →
        CountsInclude weights other
          (measure weights .slashes (commented (includeLine '<' '>' t) comment)) := by
  have hfeed : '\n' ∉ " // ".toList ++ comment := by
    rw [List.mem_append, not_or]
    exact ⟨by decide, hcomment⟩
  have hquoted : quoted? (" // ".toList ++ comment) = quoted? comment :=
    quoted?_append (by decide) (by decide) comment
  have hangled := countsInclude_angled weights ht hfeed
  rw [hquoted, ← List.append_assoc, ← commented] at hangled
  refine ⟨?_, fun hdouble hsingle => ?_, fun other hother => ?_⟩
  · have hcommented := countsInclude_quoted weights ht hfeed
    rw [← List.append_assoc, ← commented] at hcommented
    have hplain := countsInclude_quoted weights ht (List.not_mem_nil)
    rw [List.append_nil] at hplain
    exact hcommented.same hplain
  · have hnone : quoted? comment = none := by
      rw [quoted?, between?_self_eq_none_iff.2 hdouble, between?_self_eq_none_iff.2 hsingle]
      rfl
    have hplain := countsInclude_angled weights ht (List.not_mem_nil)
    rw [List.append_nil] at hplain
    rw [hnone] at hangled
    exact hangled.same hplain
  · rw [hother] at hangled
    exact hangled

/-- A word in quotes behind a qualified target makes it count as one that is not. -/
theorem measure_include_comment_redirected :
    IsPlainTarget ['a', '/', 'b'] ∧
      (measure (.default Float) .slashes (includeLine '<' '>' ['a', '/', 'b'])).includes = 0.25 ∧
      (measure (.default Float) .slashes
        (commented (includeLine '<' '>' ['a', '/', 'b']) ['"', 'x', '"'])).includes = 0.0 := by
  have htarget : IsPlainTarget ['a', '/', 'b'] := by constructor <;> decide
  obtain ⟨-, -, hredirected⟩ :=
    measure_include_comment (.default Float) htarget (by decide : '\n' ∉ ['"', 'x', '"'])
  refine ⟨htarget, by decide +kernel, (hredirected ['x'] (by decide)).2.trans ?_⟩
  decide +kernel

end CostGate.Source
