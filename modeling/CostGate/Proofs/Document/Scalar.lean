import CostGate.Document.Json
import CostGate.Document.JsonText
import Mathlib

/-!
# Texts and numbers in JSON

What the writer makes of a text or of a number is read back, whatever stands behind it. A text ends
with its quote. A number has no end of its own: it has to stand in front of something with which no
number goes on.
-/
namespace CostGate.Document.Json

open Document (Value)
open Number (numeral ofDigits takeDigits takeSign)

theorem hexDigit?_hexDigit : ∀ n < 16, Text.hexDigit? (hexDigit n) = some n := by decide

theorem hexUnit?_hexDigits {n : Nat} (h : n < 32) (rest : List Char) :
    hexUnit? ('0' :: '0' :: hexDigit (n / 16) :: hexDigit (n % 16) :: rest) = some (n, rest) := by
  have hzero : Text.hexDigit? '0' = some 0 := by decide
  have hhigh := hexDigit?_hexDigit (n / 16) (by omega)
  have hlow := hexDigit?_hexDigit (n % 16) (by omega)
  rw [hexUnit?, hzero, hhigh, hlow]
  simp only [Option.bind_eq_bind, Option.bind_some, Option.some.injEq, Prod.mk.injEq, and_true]
  omega

theorem Piece.ofUnit_toNat {c : Char} (h : c.toNat < 32) : Piece.ofUnit c.toNat = .char c := by
  rw [Piece.ofUnit, if_neg (by omega), Char.ofNat_toNat]

theorem pieces?_escape (c : Char) (fuel : Nat) (rest : List Char) :
    pieces? (fuel + 1) (escape c ++ rest) =
      (pieces? fuel rest).map fun (ps, rest) => (.char c :: ps, rest) := by
  have hletter {e : Char} (hu : e ≠ 'u') (he : escaped? e = some c) :
      pieces? (fuel + 1) (['\\', e] ++ rest) =
        (pieces? fuel rest).map fun (ps, rest) => (.char c :: ps, rest) := by
    rw [List.cons_append, List.cons_append, List.nil_append, pieces?, if_neg (by decide),
      if_pos rfl]
    simp only [if_neg hu, he]
    cases pieces? fuel rest <;> rfl
  rw [escape]
  split_ifs with hquote hback hbackspace htab hline hpage hreturn hcontrol
  iterate 7 exact hletter (by decide) (by subst_vars; decide)
  · simp only [List.cons_append, List.nil_append]
    rw [pieces?, if_neg (by decide), if_pos rfl]
    simp only [↓reduceIte, hexUnit?_hexDigits hcontrol, Option.bind_eq_bind, Option.bind_some,
      Piece.ofUnit_toNat hcontrol]
    cases pieces? fuel rest <;> rfl
  · rw [List.cons_append, List.nil_append, pieces?.eq_def]
    simp only [if_neg hquote, if_neg hback, if_neg hcontrol]
    cases pieces? fuel rest <;> rfl

theorem pieces?_flatMap_escape {fuel : Nat} {s : List Char} (h : (s.flatMap escape).length < fuel)
    (rest : List Char) :
    pieces? fuel (s.flatMap escape ++ '"' :: rest) = some (s.map .char, rest) := by
  induction s generalizing fuel with
  | nil =>
    obtain ⟨fuel, rfl⟩ := Nat.exists_eq_add_of_lt h
    rfl
  | cons c s ih =>
    have hpos : 0 < (escape c).length := by
      rw [escape]
      split_ifs <;> simp
    rw [List.flatMap_cons, List.length_append] at h
    obtain ⟨fuel, rfl⟩ : ∃ n, fuel = n + 1 := ⟨fuel - 1, by omega⟩
    rw [List.flatMap_cons, List.append_assoc, pieces?_escape, ih (by omega)]
    rfl

theorem joinPieces_map_char (s : List Char) : joinPieces (s.map .char) = some s := by
  induction s with
  | nil => rfl
  | cons c s ih => rw [List.map_cons, joinPieces, ih]; rfl

/-- Every text is read as it was, whatever follows its closing quote. -/
theorem string?_escape (s rest : List Char) :
    string? (s.flatMap escape ++ '"' :: rest) = some (some s, rest) := by
  rw [string?, pieces?_flatMap_escape (by simp only [List.length_append]; omega)]
  simp [joinPieces_map_char]

def isNumberPart (c : Char) : Bool :=
  Text.isAsciiDigit c || c == '.' || c == 'e' || c == 'E' || c == '+' || c == '-'

/-- Nothing with which a number could go on stands at the front. -/
def Stops (rest : List Char) : Prop := ∀ c ∈ rest.head?, isNumberPart c = false

theorem stops_nil : Stops [] := by simp [Stops]

theorem stops_cons {c : Char} {rest : List Char} : Stops (c :: rest) ↔ isNumberPart c = false := by
  simp [Stops]

theorem Stops.head_ne {c d : Char} {rest : List Char} (h : Stops (c :: rest))
    (hd : isNumberPart d = true) : c ≠ d := by
  rintro rfl
  rw [stops_cons, hd] at h
  cases h

theorem Stops.not_digit {c : Char} {rest : List Char} (h : Stops (c :: rest)) :
    Text.isAsciiDigit c = false := by
  simp only [stops_cons, isNumberPart, Bool.or_eq_false_iff] at h
  exact h.1.1.1.1.1

section

variable {rest : List Char} (hrest : Stops rest)
include hrest

theorem takeDigits_append (s : List Char) :
    takeDigits (s ++ rest) = ((takeDigits s).1, (takeDigits s).2 ++ rest) := by
  induction s with
  | nil =>
    cases rest with
    | nil => rfl
    | cons c rest => simp [takeDigits, hrest.not_digit]
  | cons c s ih =>
    simp only [takeDigits, Prod.mk.injEq] at ih
    cases hc : Text.isAsciiDigit c
    · simp [takeDigits, hc]
    · simpa [takeDigits, hc] using ih

theorem takeSign_append (s : List Char) :
    takeSign (s ++ rest) = ((takeSign s).1, (takeSign s).2 ++ rest) := by
  cases s with
  | cons c s =>
    by_cases hminus : c = '-'
    · subst hminus
      rfl
    · by_cases hplus : c = '+'
      · subst hplus
        rfl
      · simp [takeSign, hminus, hplus]
  | nil =>
    cases rest with
    | nil => rfl
    | cons c rest =>
      simp [takeSign, hrest.head_ne (d := '-') (by decide), hrest.head_ne (d := '+') (by decide)]

omit hrest in
theorem exponent?_eq (s : List Char) :
    exponent? s = if (takeDigits (takeSign s).2).1.isEmpty then none
      else some (if (takeSign s).1 then -(ofDigits (takeDigits (takeSign s).2).1 : Int)
        else ofDigits (takeDigits (takeSign s).2).1, (takeDigits (takeSign s).2).2) := by
  cases s with
  | nil => rfl
  | cons c s =>
    by_cases hminus : c = '-'
    · subst hminus
      rfl
    · by_cases hplus : c = '+'
      · subst hplus
        rfl
      · simp [exponent?, takeSign, hminus, hplus]

theorem exponent?_append (s : List Char) :
    exponent? (s ++ rest) = (exponent? s).map fun p => (p.1, p.2 ++ rest) := by
  simp only [exponent?_eq, takeSign_append hrest, takeDigits_append hrest]
  split_ifs <;> rfl

omit hrest in
def markedExponent? (s : List Char) : Option (Option Int × List Char) :=
  match s with
  | 'e' :: rest => (exponent? rest).map fun (n, rest) => (some n, rest)
  | 'E' :: rest => (exponent? rest).map fun (n, rest) => (some n, rest)
  | _ => some (none, s)

theorem markedExponent?_append (s : List Char) :
    markedExponent? (s ++ rest) = (markedExponent? s).map fun p => (p.1, p.2 ++ rest) := by
  cases s with
  | cons c s =>
    by_cases hlower : c = 'e'
    · subst hlower
      simp [markedExponent?, exponent?_append hrest, Function.comp_def]
    · by_cases hupper : c = 'E'
      · subst hupper
        simp [markedExponent?, exponent?_append hrest, Function.comp_def]
      · simp [markedExponent?, hlower, hupper]
  | nil =>
    cases rest with
    | nil => rfl
    | cons c rest =>
      simp [markedExponent?, hrest.head_ne (d := 'e') (by decide),
        hrest.head_ne (d := 'E') (by decide)]

omit hrest in
/-- The value of a number without a fraction, in front of its exponent. -/
def unfractioned? (negative : Bool) (integer s : List Char) : Option (Value × List Char) :=
  (markedExponent? s).bind fun (exponent, rest) => match exponent with
    | none => some (wholeValue negative integer, rest)
    | some n => some (realValue negative (Leading.ofParts integer []) n, rest)

theorem unfractioned?_append (negative : Bool) (integer s : List Char) :
    unfractioned? negative integer (s ++ rest) =
      (unfractioned? negative integer s).map fun p => (p.1, p.2 ++ rest) := by
  rw [unfractioned?, unfractioned?, markedExponent?_append hrest]
  rcases markedExponent? s with _ | ⟨_ | n, more⟩ <;> rfl

omit hrest in
theorem unsigned?_eq (negative : Bool) (s : List Char) :
    unsigned? negative s =
      if (takeDigits s).1.isEmpty ∨
          ((takeDigits s).1.length ≠ 1 ∧ (takeDigits s).1.head? = some '0') then none
      else match (takeDigits s).2 with
        | '.' :: rest =>
          if (takeDigits rest).1.isEmpty then none
          else (markedExponent? (takeDigits rest).2).bind fun (exponent, more) =>
            some (realValue negative (Leading.ofParts (takeDigits s).1 (takeDigits rest).1)
              (exponent.getD 0), more)
        | _ => unfractioned? negative (takeDigits s).1 (takeDigits s).2 :=
  rfl

/-- A number is read alike in front of whatever stops it. -/
theorem unsigned?_append (negative : Bool) (s : List Char) :
    unsigned? negative (s ++ rest) = (unsigned? negative s).map fun p => (p.1, p.2 ++ rest) := by
  simp only [unsigned?_eq, takeDigits_append hrest]
  generalize (takeDigits s).1 = integer, (takeDigits s).2 = t
  have hwhole := unfractioned?_append hrest negative integer t
  split_ifs
  · rfl
  cases t with
  | cons c t =>
    by_cases hpoint : c = '.'
    · subst hpoint
      simp only [List.cons_append, takeDigits_append hrest]
      split_ifs
      · rfl
      · simp [markedExponent?_append hrest, Option.bind_map, Option.map_bind]
    · simpa [hpoint] using hwhole
  | nil =>
    cases rest with
    | nil => simp
    | cons c rest => simpa [hrest.head_ne (d := '.') (by decide)] using hwhole

end

section

variable {s r : List Char}

theorem takeDigits_suffix (s : List Char) : (takeDigits s).2 <:+ s := List.dropWhile_suffix _

theorem takeSign_suffix (s : List Char) : (takeSign s).2 <:+ s := by
  unfold takeSign
  split <;> simp

theorem exponent?_suffix {n : Int} (h : exponent? s = some (n, r)) : r <:+ s := by
  rw [exponent?_eq] at h
  split_ifs at h <;> cases h <;> exact (takeDigits_suffix _).trans (takeSign_suffix s)

theorem markedExponent?_suffix {n : Option Int} (h : markedExponent? s = some (n, r)) :
    r <:+ s := by
  unfold markedExponent? at h
  split at h
  · obtain ⟨⟨k, more⟩, hk, h⟩ := Option.map_eq_some_iff.1 h
    cases h
    exact (exponent?_suffix hk).trans (List.suffix_cons _ _)
  · obtain ⟨⟨k, more⟩, hk, h⟩ := Option.map_eq_some_iff.1 h
    cases h
    exact (exponent?_suffix hk).trans (List.suffix_cons _ _)
  · cases h
    exact List.suffix_rfl

theorem unsigned?_suffix {negative : Bool} {v : Value} (h : unsigned? negative s = some (v, r)) :
    r <:+ s := by
  rw [unsigned?_eq] at h
  refine .trans ?_ (takeDigits_suffix s)
  split_ifs at h
  split at h
  · next rest heq =>
    split_ifs at h
    obtain ⟨⟨n, more⟩, hn, h⟩ := Option.bind_eq_some_iff.1 h
    cases h
    rw [heq]
    exact (markedExponent?_suffix hn).trans ((takeDigits_suffix rest).trans (List.suffix_cons _ _))
  · obtain ⟨⟨_ | n, more⟩, hn, h⟩ := Option.bind_eq_some_iff.1 h <;> cases h <;>
      exact markedExponent?_suffix hn

end

section

variable {fuel : Nat} {s rest : List Char} {x : Float}

theorem value?_minus (fuel : Nat) (s : List Char) :
    value? (fuel + 1) ('-' :: s) = unsigned? true s :=
  rfl

theorem value?_of_isAsciiDigit {c : Char} (hc : Text.isAsciiDigit c = true) (fuel : Nat)
    (s : List Char) : value? (fuel + 1) (c :: s) = unsigned? false (c :: s) := by
  have hne {d : Char} (hd : Text.isAsciiDigit d = false) : c ≠ d := by
    rintro rfl
    rw [hc] at hd
    cases hd
  have h1 := hne (d := '"') (by decide)
  have h2 := hne (d := '[') (by decide)
  have h3 := hne (d := '\x7b') (by decide)
  have h4 := hne (d := 't') (by decide)
  have h5 := hne (d := 'f') (by decide)
  have h6 := hne (d := 'n') (by decide)
  have h7 := hne (d := '-') (by decide)
  simp [value?, h1, h2, h3, h4, h5, h6, h7]

theorem head_of_unsigned? {negative : Bool} {p : Value × List Char}
    (h : unsigned? negative s = some p) : ∃ c t, s = c :: t ∧ Text.isAsciiDigit c = true := by
  rw [unsigned?_eq] at h
  cases s with
  | nil => simp [takeDigits] at h
  | cons c t =>
    refine ⟨c, t, rfl, ?_⟩
    by_contra hc
    simp [takeDigits, hc] at h

theorem word?_ne_real {letters s r : List Char} {v : Value} (hv : v ≠ .real x) :
    word? letters v s ≠ some (.real x, r) := by
  rw [word?]
  split_ifs <;> simp [hv]

theorem value?_eq_real {r : List Char} (h : value? (fuel + 1) s = some (.real x, r)) :
    (∃ t, s = '-' :: t ∧ unsigned? true t = some (.real x, r)) ∨
      unsigned? false s = some (.real x, r) := by
  rw [value?.eq_def] at h
  simp only at h
  split at h
  · cases h
  · obtain ⟨⟨chars, rest⟩, -, h⟩ := Option.bind_eq_some_iff.1 h
    cases chars <;> cases h
  · split at h
    · cases h
    · obtain ⟨⟨items, rest⟩, -, h⟩ := Option.bind_eq_some_iff.1 h
      cases h
  · split at h
    · cases h
    · obtain ⟨⟨_ | fields, rest⟩, -, h⟩ := Option.bind_eq_some_iff.1 h <;> cases h
  · exact absurd h (word?_ne_real (by simp))
  · exact absurd h (word?_ne_real (by simp))
  · exact absurd h (word?_ne_real (by simp))
  · exact .inl ⟨_, rfl, h⟩
  · exact .inr h

theorem value?_append_of_parse? (h : parse? s = some (.real x)) (hs : ∀ c ∈ s, isSpace c = false)
    (hrest : Stops rest) (fuel : Nat) : value? (fuel + 1) (s ++ rest) = some (.real x, rest) := by
  have hskip : skipSpace s = s := by
    cases s with
    | nil => rfl
    | cons c s => simp [skipSpace, hs c]
  rw [parse?, hskip] at h
  split at h
  · next v r hv =>
    split_ifs at h with hr
    cases h
    have hnil (hsuffix : r <:+ s) : r = [] := by
      cases r with
      | nil => rfl
      | cons c r => simp [skipSpace, hs c (hsuffix.mem (by simp))] at hr
    rcases value?_eq_real hv with ⟨t, rfl, ht⟩ | ht
    · obtain rfl := hnil ((unsigned?_suffix ht).trans (List.suffix_cons _ _))
      rw [List.cons_append, value?_minus, unsigned?_append hrest, ht]
      rfl
    · obtain rfl := hnil (unsigned?_suffix ht)
      obtain ⟨c, t, rfl, hc⟩ := head_of_unsigned? ht
      rw [List.cons_append, value?_of_isAsciiDigit hc, ← List.cons_append,
        unsigned?_append hrest, ht]
      rfl
  · cases h

end

theorem isAsciiDigit_of_mem_numeral {n : Nat} {c : Char} (h : c ∈ numeral n) :
    Text.isAsciiDigit c = true := by
  have hdigit := Nat.isDigit_of_mem_toDigits (by decide) (by decide) h
  simpa [Char.isDigit, Text.isAsciiDigit, Text.between, Char.le_def] using hdigit

theorem numeral_ne_nil (n : Nat) : numeral n ≠ [] := Nat.toDigits_ne_nil

theorem head?_numeral {n : Nat} (h : 0 < n) : (numeral n).head? ≠ some '0' := by
  induction n using Nat.strongRecOn with
  | ind n ih =>
    rw [numeral, Nat.toDigits_eq_if (by decide)]
    split_ifs with hlt
    · have hdigit : ∀ d < 10, 0 < d → d.digitChar ≠ '0' := by decide
      simpa using hdigit n hlt h
    · have hhead := ih (n / 10) (by omega) (by omega)
      rw [numeral] at hhead
      cases hdigits : Nat.toDigits 10 (n / 10) with
      | nil => exact absurd hdigits Nat.toDigits_ne_nil
      | cons d ds => rwa [hdigits] at hhead

theorem ofDigits_numeral (n : Nat) : ofDigits (numeral n) = n := by
  rw [ofDigits, numeral]
  exact Nat.ofDigitChars_eq_foldl.symm.trans Nat.ofDigitChars_ten_toDigits

theorem takeDigits_numeral (n : Nat) : takeDigits (numeral n) = (numeral n, []) := by
  have hall : ∀ c ∈ numeral n, Text.isAsciiDigit c = true := fun c => isAsciiDigit_of_mem_numeral
  rw [takeDigits, List.takeWhile_eq_self_iff.2 hall, List.dropWhile_eq_nil_iff.2 hall]

theorem unsigned?_numeral (negative : Bool) (n : Nat) :
    unsigned? negative (numeral n) = some (wholeValue negative (numeral n), []) := by
  rw [unsigned?_eq, takeDigits_numeral, if_neg]
  · rfl
  · rintro (h | ⟨hlength, hhead⟩)
    · exact numeral_ne_nil n (List.isEmpty_iff.1 h)
    · refine head?_numeral (Nat.pos_of_ne_zero ?_) hhead
      rintro rfl
      exact hlength rfl

/-- A whole number that fits into sixty-four bits, with or without a sign. -/
def IsWord (n : Int) : Prop := -((UInt64.size / 2 : Nat) : Int) ≤ n ∧ n < UInt64.size

theorem value?_integer {n : Int} (h : IsWord n) {rest : List Char} (hrest : Stops rest)
    (fuel : Nat) : value? (fuel + 1) (integer n ++ rest) = some (.whole n, rest) := by
  obtain ⟨c, t, hct⟩ := List.exists_cons_of_ne_nil (numeral_ne_nil n.natAbs)
  have hc : Text.isAsciiDigit c = true :=
    isAsciiDigit_of_mem_numeral (n := n.natAbs) (by simp [hct])
  have hread (negative : Bool) : unsigned? negative (numeral n.natAbs ++ rest) =
      some (wholeValue negative (numeral n.natAbs), rest) := by
    rw [unsigned?_append hrest, unsigned?_numeral]
    rfl
  obtain ⟨hlow, hhigh⟩ := h
  rw [integer]
  split_ifs with hneg
  · rw [List.append_assoc, List.cons_append, List.nil_append, value?_minus, hread, wholeValue,
      ofDigits_numeral]
    simp only [if_true]
    rw [if_neg (by omega)]
    simp only [Option.some.injEq, Prod.mk.injEq, Value.whole.injEq, and_true]
    omega
  · rw [List.nil_append, hct, List.cons_append, value?_of_isAsciiDigit hc, ← List.cons_append,
      ← hct, hread, wholeValue, ofDigits_numeral]
    simp only [Bool.false_eq_true, if_false]
    rw [if_pos (by omega)]
    simp only [Option.some.injEq, Prod.mk.injEq, Value.whole.injEq, and_true]
    omega

theorem isNumberPart_of_isAsciiDigit {c : Char} (h : Text.isAsciiDigit c = true) :
    isNumberPart c = true := by
  simp [isNumberPart, h]

theorem isNumberPart_of_mem_numeral {n : Nat} {c : Char} (h : c ∈ numeral n) :
    isNumberPart c = true :=
  isNumberPart_of_isAsciiDigit (isAsciiDigit_of_mem_numeral h)

theorem isNumberPart_of_mem_zeros {n : Nat} {c : Char} (h : c ∈ Number.zeros n) :
    isNumberPart c = true := by
  rw [List.eq_of_mem_replicate h]
  decide

theorem isNumberPart_of_mem_pointed {ds : List Char} (hds : ∀ c ∈ ds, isNumberPart c = true)
    {places : Nat} {c : Char} (h : c ∈ Number.pointed ds places) : isNumberPart c = true := by
  have hpadded : ∀ c ∈ Number.zeros (places + 1 - ds.length) ++ ds, isNumberPart c = true := by
    intro c hc
    rcases List.mem_append.1 hc with hc | hc
    · exact isNumberPart_of_mem_zeros hc
    · exact hds c hc
  rcases List.mem_append.1 h with h | h
  · exact hpadded c (List.mem_of_mem_take h)
  · rcases List.mem_cons.1 h with rfl | h
    · decide
    · exact hpadded c (List.mem_of_mem_drop h)

theorem isNumberPart_of_mem_scientific {d : Number.Decimal} {c : Char} (h : c ∈ d.scientific) :
    isNumberPart c = true := by
  have hds : ∀ c ∈ numeral d.digits, isNumberPart c = true := fun c => isNumberPart_of_mem_numeral
  rw [Number.Decimal.scientific] at h
  generalize numeral d.digits = ds at h hds
  dsimp only at h
  have hsign :
      isNumberPart (if (ds.length : Int) + d.exponent - 1 < 0 then '-' else '+') = true := by
    split_ifs <;> decide
  generalize (if (ds.length : Int) + d.exponent - 1 < 0 then '-' else '+') = sign at h hsign
  split_ifs at h
  · simp only [List.mem_append] at h
    rcases h with (h | h) | h
    · exact hds c h
    · exact isNumberPart_of_mem_zeros h
    · exact List.all_eq_true.1 (by decide : ['.', '0'].all isNumberPart = true) c h
  · exact isNumberPart_of_mem_pointed hds h
  · rcases List.mem_append.1 h with h | h
    · split at h
      · simp only [List.mem_cons] at h hds
        rcases h with h | rfl | h | h
        · exact hds c (.inl h)
        · decide
        · exact hds c (.inr (.inl h))
        · exact hds c (.inr (.inr h))
      · exact hds c h
    · rcases List.mem_cons.1 h with rfl | h
      · decide
      · rcases List.mem_cons.1 h with rfl | h
        · exact hsign
        · exact isNumberPart_of_mem_numeral h

theorem isSpace_iff {c : Char} : isSpace c = true ↔ c = ' ' ∨ c = '\n' ∨ c = '\t' ∨ c = '\r' := by
  simp [isSpace, or_assoc]

theorem isSpace_of_isNumberPart {c : Char} (h : isNumberPart c = true) : isSpace c = false := by
  by_contra hspace
  rcases isSpace_iff.1 (Bool.not_eq_false _ ▸ hspace) with rfl | rfl | rfl | rfl <;>
    exact absurd h (by decide)

theorem isSpace_of_mem_data {x : Float} {c : Char} (h : c ∈ Number.data x) : isSpace c = false := by
  rw [Number.data, Number.signed] at h
  have hword {word : List Char} (hword : word.all (!isSpace ·) = true) (hc : c ∈ word) :
      isSpace c = false := by
    simpa using List.all_eq_true.1 hword c hc
  split at h
  · exact hword (by decide) h
  · next negative _ => exact hword (by cases negative <;> decide) h
  · next negative m _ =>
    refine isSpace_of_isNumberPart ?_
    rcases List.mem_append.1 h with h | h
    · cases negative
      · cases h
      · rw [List.mem_singleton.1 h]
        decide
    · split_ifs at h
      · exact List.all_eq_true.1 (by decide : ['0', '.', '0'].all isNumberPart = true) c h
      · exact isNumberPart_of_mem_scientific h

end CostGate.Document.Json
