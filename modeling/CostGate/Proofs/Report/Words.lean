import CostGate.Proofs.Report.Colour

/-!
# The words of a line

A line of the console report is read word by word. Blanks and control sequences stand between words
and are passed over, so a line reads alike with and without colour.
-/
namespace CostGate.Console

open Number (fixed numeral padLeft)

/-- A character that neither parts words nor starts a control sequence. -/
def isMark (c : Char) : Bool := c != ' ' && c != '\x1b'

/-- A text behind the blanks and control sequences in front of it. -/
def skip : List Char → List Char
  | [] => []
  | c :: s =>
    if c = ' ' then skip s
    else match _h : dropSequence? (c :: s) with
      | some rest => skip rest
      | none => c :: s
termination_by s => s.length
decreasing_by
  · exact Nat.lt_succ_self _
  · exact length_dropSequence? _h

/-- The first character of a line that is no blank and in no control sequence. -/
def lead (line : List Char) : Option Char := (skip line).head?

def nextWord (s : List Char) : List Char × List Char :=
  ((skip s).takeWhile isMark, (skip s).dropWhile isMark)

def firstWords : ℕ → List Char → List (List Char)
  | 0, _ => []
  | n + 1, s => (nextWord s).1 :: firstWords n (nextWord s).2

@[simp] theorem skip_nil : skip [] = [] := by rw [skip]

@[simp] theorem skip_blank (s : List Char) : skip (' ' :: s) = skip s := by rw [skip, if_pos rfl]

theorem skip_of_isMark {c : Char} (h : isMark c = true) (s : List Char) :
    skip (c :: s) = c :: s := by
  rw [isMark, Bool.and_eq_true, bne_iff_ne, bne_iff_ne] at h
  rw [skip, if_neg h.1, dropSequence?_of_ne h.2]

@[simp] theorem skip_style (style : Style) (color : Bool) (s : List Char) :
    skip ((Piece.style style).chars color ++ s) = skip s := by
  rw [Piece.chars]
  split_ifs
  · have hsome := dropSequence?_sequence style s
    obtain ⟨c, t, hcons⟩ : ∃ c t, style.sequence ++ s = c :: t := ⟨_, _, rfl⟩
    rw [hcons] at hsome ⊢
    have hblank : c ≠ ' ' := by
      rintro rfl
      rw [dropSequence?_of_ne (by decide)] at hsome
      cases hsome
    rw [skip, if_neg hblank, hsome]
  · rfl

@[simp] theorem skip_padLeft (width : ℕ) (w s : List Char) :
    skip (padLeft width w ++ s) = skip (w ++ s) := by
  rw [padLeft, List.append_assoc]
  induction width - w.length with
  | zero => rfl
  | succ n ih => rw [List.replicate_succ, List.cons_append, skip_blank, ih]

theorem lead_of_nextWord {c : Char} {w s : List Char} (h : (nextWord s).1 = c :: w) :
    lead s = some c := by
  obtain ⟨t, ht⟩ : c :: w <+: skip s := h ▸ List.takeWhile_prefix isMark
  rw [lead, ← ht]
  rfl

def IsWord (w : List Char) : Prop := w ≠ [] ∧ ∀ c ∈ w, isMark c = true

instance (w : List Char) : Decidable (IsWord w) :=
  inferInstanceAs (Decidable (w ≠ [] ∧ ∀ c ∈ w, isMark c = true))

/-- A word ends in front of a text. -/
def Parts (s : List Char) : Prop := ∀ c ∈ s.head?, isMark c = false

@[simp] theorem parts_blank (s : List Char) : Parts (' ' :: s) := by simp [Parts, isMark]

@[simp] theorem parts_style {s : List Char} (h : Parts s) (style : Style) (color : Bool) :
    Parts ((Piece.style style).chars color ++ s) := by
  rw [Piece.chars]
  split_ifs
  · simp [Parts, Style.sequence, isMark]
  · exact h

theorem isMark_of_isNumeric {c : Char} (h : Number.isNumeric c = true) : isMark c = true := by
  rw [isMark, Bool.and_eq_true, bne_iff_ne, bne_iff_ne]
  constructor <;> rintro rfl <;> exact absurd h (by decide)

theorem isWord_numeral (n : ℕ) : IsWord (numeral n) := by
  refine ⟨Document.Json.numeral_ne_nil n, fun c hc => isMark_of_isNumeric ?_⟩
  exact Number.isNumeric_of_isNumberPart (Document.Json.isNumberPart_of_mem_numeral hc)

theorem isWord_fixed (places : ℕ) (x : Float) : IsWord (fixed places x) :=
  ⟨Number.fixed_ne_nil places x, fun _ hc => isMark_of_isNumeric (Number.isNumeric_of_mem_fixed hc)⟩

section

variable {w s t : List Char} (hw : IsWord w)
include hw

theorem skip_append : skip (w ++ s) = w ++ s := by
  obtain ⟨hne, hmarks⟩ := hw
  obtain ⟨c, w, rfl⟩ := List.exists_cons_of_ne_nil hne
  exact skip_of_isMark (hmarks c List.mem_cons_self) (w ++ s)

theorem lead_of_skip (h : skip t = w ++ s) : lead t = w.head? := by
  rw [lead, h, List.head?_append_of_ne_nil _ hw.1]

/-- The word that comes first behind blanks and control sequences is read. -/
theorem nextWord_of_skip (h : skip t = skip (w ++ s)) (hs : Parts s) : nextWord t = (w, s) := by
  have hstop : s.takeWhile isMark = [] ∧ s.dropWhile isMark = s := by
    cases s with
    | nil => exact ⟨rfl, rfl⟩
    | cons c s =>
      have hc : isMark c = false := hs c rfl
      simp [hc]
  rw [nextWord, h, skip_append hw, List.takeWhile_append_of_pos hw.2,
    List.dropWhile_append_of_pos hw.2, hstop.1, hstop.2, List.append_nil]

end

end CostGate.Console
