import CostGate.Proofs.Report.Layout

/-!
# Colour

Control sequences are all that colour adds to the console report. A reader who deletes them from
the coloured report is left with the report without colour, which has none.
-/
namespace CostGate.Console

open Number (numeral takeDigits)
open Document.Json (Stops numeral_ne_nil stops_cons takeDigits_append takeDigits_numeral)

/-- What follows a control sequence at the front of a text. The sequence is an escape character, a
bracket, one or more digits, and the letter m. -/
def dropSequence? : List Char → Option (List Char)
  | '\x1b' :: '[' :: s =>
    match takeDigits s with
    | (_ :: _, 'm' :: rest) => some rest
    | _ => none
  | _ => none

theorem length_dropSequence? {s rest : List Char} (h : dropSequence? s = some rest) :
    rest.length < s.length := by
  unfold dropSequence? at h
  split at h
  · next s =>
    split at h
    · next tail hdigits =>
      obtain rfl := Option.some.inj h
      have hle : (takeDigits s).2.length ≤ s.length := (List.dropWhile_sublist _).length_le
      rw [hdigits, List.length_cons] at hle
      simp only [List.length_cons]
      omega
    · cases h
  · cases h

theorem dropSequence?_of_ne {c : Char} (h : c ≠ '\x1b') (s : List Char) :
    dropSequence? (c :: s) = none := by
  simp [dropSequence?, h]

theorem dropSequence?_sequence (style : Style) (rest : List Char) :
    dropSequence? (style.sequence ++ rest) = some rest := by
  have hstops : Stops ('m' :: rest) := stops_cons.2 (by decide)
  obtain ⟨d, ds, hnumeral⟩ := List.exists_cons_of_ne_nil (numeral_ne_nil style.number)
  have hdigits : takeDigits (numeral style.number ++ 'm' :: rest) = (d :: ds, 'm' :: rest) := by
    rw [takeDigits_append hstops, takeDigits_numeral, hnumeral]
    rfl
  have hsequence : style.sequence ++ rest =
      '\x1b' :: '[' :: (numeral style.number ++ 'm' :: rest) := by
    simp [Style.sequence]
  rw [hsequence, dropSequence?, hdigits]
  rfl

/-- A text without its control sequences. -/
def unstyled : List Char → List Char
  | [] => []
  | c :: s =>
    match _h : dropSequence? (c :: s) with
    | some rest => unstyled rest
    | none => c :: unstyled s
termination_by s => s.length
decreasing_by
  · exact length_dropSequence? _h
  · exact Nat.lt_succ_self _

theorem unstyled_append {s : List Char} (h : '\x1b' ∉ s) (rest : List Char) :
    unstyled (s ++ rest) = s ++ unstyled rest := by
  induction s with
  | nil => rfl
  | cons c s ih =>
    rw [List.mem_cons, not_or] at h
    have hnone := dropSequence?_of_ne (Ne.symm h.1) (s ++ rest)
    rw [List.cons_append, unstyled, hnone]
    exact congrArg (c :: ·) (ih h.2)

theorem unstyled_sequence (style : Style) (rest : List Char) :
    unstyled (style.sequence ++ rest) = unstyled rest := by
  have hsome := dropSequence?_sequence style rest
  obtain ⟨c, s, hcons⟩ : ∃ c s, style.sequence ++ rest = c :: s := ⟨_, _, rfl⟩
  rw [hcons] at hsome ⊢
  rw [unstyled, hsome]

theorem unstyled_chars {ps : List Piece} (h : ∀ p ∈ ps, p.Avoids '\x1b') (color : Bool) :
    unstyled (chars color ps) = chars false ps := by
  have hstyle (s : Style) (rest : List Char) :
      unstyled ((Piece.style s).chars color ++ rest) = unstyled rest := by
    rw [Piece.chars]
    split_ifs
    · exact unstyled_sequence s rest
    · rfl
  induction ps with
  | nil => rw [chars_nil, chars_nil, unstyled]
  | cons p ps ih =>
    obtain ⟨hp, hps⟩ := List.forall_mem_cons.1 h
    cases p with
    | text s => rw [chars_cons, chars_cons, Piece.chars, Piece.chars, unstyled_append hp, ih hps]
    | style s =>
      rw [chars_cons, chars_cons, hstyle, ih hps, Piece.chars, if_neg (by decide), List.nil_append]

theorem escape_not_mem_chars {ps : List Piece} (h : ∀ p ∈ ps, p.Avoids '\x1b') :
    '\x1b' ∉ chars false ps := by
  rw [chars, List.mem_flatMap]
  rintro ⟨p, hp, hmem⟩
  cases p with
  | text s => exact h _ hp hmem
  | style s => exact List.not_mem_nil hmem

theorem render_eq_chars (r : Report Float) (top : ℕ) (color : Bool) :
    render r top color = chars color ((lines r top).flatMap (· ++ [.text ['\n']])) := by
  rw [render_eq_ended]
  induction lines r top with
  | nil => rfl
  | cons line ls ih =>
    rw [List.map_cons, Text.ended_cons, ih]
    simp [Piece.chars]

/-- Deleting the control sequences of the coloured report gives the report without colour, and that
has no escape character. A number of warnings that wraps around is the same in both. -/
theorem unstyled_render {r : Report Float} (hr : r.Avoids '\x1b') (top : ℕ) :
    unstyled (render r top true) = render r top false ∧ '\x1b' ∉ render r top false := by
  have hpieces : ∀ p ∈ (lines r top).flatMap (· ++ [.text ['\n']]), p.Avoids '\x1b' := by
    simp only [List.forall_mem_flatMap, List.forall_mem_append, List.forall_mem_singleton]
    exact fun line hline => ⟨avoids_of_mem_lines (by decide) hr top line hline, by simp⟩
  simp only [render_eq_chars]
  exact ⟨unstyled_chars hpieces true, escape_not_mem_chars hpieces⟩

theorem unstyled_render_sample :
    unstyled (render .sample 2 true) = render .sample 2 false ∧ '\x1b' ∉ render .sample 2 false :=
  unstyled_render (by decide) 2

end CostGate.Console
