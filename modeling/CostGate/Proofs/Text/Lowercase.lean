import CostGate.Proofs.Text.Occurrence
import CostGate.Text.Case

/-!
# Words in the lower case of a text

Most ASCII letters are the lower case of ASCII letters only. A word of such letters occurs in the
lower case of a text where the text spells it in some letter case, and nowhere else.
-/
namespace CostGate.Text

theorem between_iff {lo hi c : Char} :
    between lo hi c = true ↔ lo.toNat ≤ c.toNat ∧ c.toNat ≤ hi.toNat := by
  rw [between, Bool.and_eq_true, decide_eq_true_iff, decide_eq_true_iff]
  rfl

def lowerAt (before : List Char) (c : Char) (rest : List Char) : List Char :=
  if c = 'Σ' then [if meetsCased before && !meetsCased rest then 'ς' else 'σ'] else lowerOf c

theorem lowercaseAfter_cons (before : List Char) (c : Char) (rest : List Char) :
    lowercaseAfter before (c :: rest) =
      lowerAt before c rest ++ lowercaseAfter (c :: before) rest :=
  rfl

/-- An ASCII character that no other character than its own ASCII capital is mapped to. -/
structure IsPlain (x : Char) : Prop where
  isAscii : isAscii x = true
  pos : 0 < x.toNat
  ne_dotted : x ≠ 'i'
  ne_shifted : ∀ s ∈ Table.lowerShifts,
    ¬ (s.span.first + s.distance ≤ x.toNat ∧ x.toNat ≤ s.span.last + s.distance)

theorem isAscii_of_asciiLower {c : Char} (h : isAscii (asciiLower c) = true) :
    isAscii c = true := by
  rw [asciiLower] at h
  split_ifs at h with hupper
  · have hle : c.toNat ≤ 'Z'.toNat := (between_iff.1 hupper).2
    exact decide_eq_true (hle.trans_lt (by decide))
  · exact h

theorem lowerAt_of_asciiLower {before rest : List Char} {c x : Char} (hx : isAscii x = true)
    (h : asciiLower c = x) : lowerAt before c rest = [x] := by
  subst h
  have hc := isAscii_of_asciiLower hx
  rw [lowerAt, if_neg, lowerOf, if_pos hc]
  rintro rfl
  exact absurd hc (by decide)

theorem lowerAt_ne_nil (before : List Char) (c : Char) (rest : List Char) :
    lowerAt before c rest ≠ [] := by
  rw [lowerAt, lowerOf]
  split_ifs
  · simp
  · simp
  · simp
  · simp
  · split <;> simp

theorem target?_ne {x n m : ℕ} {shifts : List Shift}
    (h : ∀ s ∈ shifts, ¬ (s.span.first + s.distance ≤ x ∧ x ≤ s.span.last + s.distance))
    (hm : Shift.target? shifts n = some m) (hpos : 0 < x) : m ≠ x := by
  induction shifts with
  | nil => simp [Shift.target?] at hm
  | cons s rest ih =>
    obtain ⟨hs, hrest⟩ := List.forall_mem_cons.1 h
    rw [Shift.target?] at hm
    split_ifs at hm with hlt hhas
    · rw [Option.some.injEq] at hm
      simp only [Span.has, Bool.and_eq_true, decide_eq_true_eq] at hhas
      omega
    · exact ih hrest hm

theorem eq_of_mem_lowerAt {before rest : List Char} {c x : Char} (hx : IsPlain x)
    (h : x ∈ lowerAt before c rest) : asciiLower c = x := by
  have hascii : ∀ {d : Char}, isAscii d = false → x ≠ d := by
    rintro d hd rfl
    rw [hx.isAscii] at hd
    exact absurd hd (by decide)
  rw [lowerAt] at h
  split_ifs at h with hsigma hfinal
  · exact absurd (List.mem_singleton.1 h) (hascii (by decide))
  · exact absurd (List.mem_singleton.1 h) (hascii (by decide))
  rw [lowerOf] at h
  split_ifs at h with hc hdotted
  · exact (List.mem_singleton.1 h).symm
  · simp only [List.mem_cons, List.not_mem_nil, or_false] at h
    exact absurd (h.resolve_left hx.ne_dotted) (hascii (by decide))
  · rw [Bool.not_eq_true] at hc
    cases htarget : Shift.target? Table.lowerShifts c.toNat with
    | none =>
      rw [htarget] at h
      exact absurd (List.mem_singleton.1 h) (hascii hc)
    | some n =>
      rw [htarget] at h
      have hx' := congrArg Char.toNat (List.mem_singleton.1 h)
      rw [Char.toNat_ofNat] at hx'
      split_ifs at hx' with hvalid
      · exact absurd hx'.symm (target?_ne hx.ne_shifted htarget hx.pos)
      · exact absurd hx' hx.pos.ne'

/-- A plain letter at the front of a lower case text stands for one letter of the text. -/
theorem plain_cons_starts_iff {before rest word : List Char} {c x : Char} (hx : IsPlain x) :
    x :: word <+: lowercaseAfter before (c :: rest) ↔
      asciiLower c = x ∧ word <+: lowercaseAfter (c :: before) rest := by
  rw [lowercaseAfter_cons]
  constructor
  · intro h
    have hc : asciiLower c = x := by
      obtain ⟨y, ys, hy⟩ := List.exists_cons_of_ne_nil (lowerAt_ne_nil before c rest)
      rw [hy, List.cons_append, List.cons_prefix_cons] at h
      exact eq_of_mem_lowerAt hx (by rw [hy, h.1]; exact List.mem_cons_self)
    rw [lowerAt_of_asciiLower hx.isAscii hc, List.singleton_append, List.cons_prefix_cons] at h
    exact ⟨hc, h.2⟩
  · rintro ⟨hc, h⟩
    rw [lowerAt_of_asciiLower hx.isAscii hc, List.singleton_append, List.cons_prefix_cons]
    exact ⟨rfl, h⟩

theorem plain_starts_iff {before s word : List Char} (hword : ∀ x ∈ word, IsPlain x) :
    word <+: lowercaseAfter before s ↔ ∃ w, w <+: s ∧ w.map asciiLower = word := by
  induction s generalizing before word with
  | nil => simp [lowercaseAfter, eq_comm]
  | cons c rest ih =>
    cases word with
    | nil => simp
    | cons x word =>
      obtain ⟨hx, hword⟩ := List.forall_mem_cons.1 hword
      rw [plain_cons_starts_iff hx, ih hword]
      constructor
      · rintro ⟨hc, w, hw, rfl⟩
        exact ⟨c :: w, List.cons_prefix_cons.2 ⟨rfl, hw⟩, by rw [List.map_cons, hc]⟩
      · rintro ⟨w, hw, hmap⟩
        cases w with
        | nil => simp at hmap
        | cons d w =>
          obtain ⟨rfl, hrest⟩ := List.cons_prefix_cons.1 hw
          obtain ⟨hc, hmap⟩ := List.cons.inj hmap
          exact ⟨hc, w, hrest, hmap⟩

theorem occurs_behind {x : Char} {word front rest : List Char} (hx : x ∉ front)
    (h : x :: word <:+: front ++ rest) : x :: word <:+: rest := by
  induction front with
  | nil => exact h
  | cons y front ih =>
    rw [List.mem_cons, not_or] at hx
    obtain ⟨hy, hfront⟩ := hx
    rw [List.cons_append, List.infix_cons_iff] at h
    rcases h with hstart | hlater
    · exact absurd (List.cons_prefix_cons.1 hstart).1 hy
    · exact ih hfront hlater

/-- What is not in front of a lower case text is behind the lower case of its first character. -/
theorem plain_occurs_cons_iff {before rest word : List Char} {c x : Char} (hx : IsPlain x) :
    x :: word <:+: lowercaseAfter before (c :: rest) ↔
      x :: word <+: lowercaseAfter before (c :: rest) ∨
        x :: word <:+: lowercaseAfter (c :: before) rest := by
  obtain ⟨y, ys, hy⟩ := List.exists_cons_of_ne_nil (lowerAt_ne_nil before c rest)
  have hys : x ∉ ys := by
    intro hmem
    have hc : asciiLower c = x :=
      eq_of_mem_lowerAt hx (by rw [hy]; exact List.mem_cons_of_mem y hmem)
    rw [lowerAt_of_asciiLower hx.isAscii hc, List.cons.injEq] at hy
    rw [← hy.2] at hmem
    exact List.not_mem_nil hmem
  rw [lowercaseAfter_cons, hy, List.cons_append, List.infix_cons_iff]
  exact or_congr_right ⟨occurs_behind hys, List.infix_append_of_infix_right⟩

/-- A word of plain letters occurs in the lower case of a text if the text has it in some letter
case. -/
theorem plain_occurs_iff {before s word : List Char} (hword : ∀ x ∈ word, IsPlain x) :
    word <:+: lowercaseAfter before s ↔ ∃ w, w <:+: s ∧ w.map asciiLower = word := by
  cases word with
  | nil => simp
  | cons x word =>
    induction s generalizing before with
    | nil => simp [lowercaseAfter]
    | cons c rest ih =>
      rw [plain_occurs_cons_iff (hword x List.mem_cons_self), ih, plain_starts_iff hword,
        ← exists_or]
      refine exists_congr fun w => ?_
      rw [List.infix_cons_iff, or_and_right]

theorem isAsciiLower_asciiLower {c : Char} (h : isAsciiUpper c = true) :
    isAsciiLower (asciiLower c) = true := by
  rw [asciiLower, if_pos h]
  obtain ⟨hlow, hhigh⟩ : 65 ≤ c.toNat ∧ c.toNat ≤ 90 := between_iff.1 h
  have hvalue : (Char.ofNat (c.toNat + 32)).toNat = c.toNat + 32 := by
    rw [Char.toNat_ofNat, if_pos (.inl (by omega))]
  refine between_iff.2 ?_
  rw [hvalue]
  exact ⟨show 97 ≤ c.toNat + 32 by omega, show c.toNat + 32 ≤ 122 by omega⟩

theorem isAscii_of_isAsciiLower {c : Char} (h : isAsciiLower c = true) : isAscii c = true := by
  have hle : c.toNat ≤ 122 := (between_iff.1 h).2
  exact decide_eq_true (by omega)

theorem isAscii_asciiLower {c : Char} (h : isAscii c = true) : isAscii (asciiLower c) = true := by
  by_cases hupper : isAsciiUpper c = true
  · exact isAscii_of_isAsciiLower (isAsciiLower_asciiLower hupper)
  · rwa [asciiLower, if_neg hupper]

theorem lowercaseAfter_of_isAscii {before s : List Char} (h : ∀ c ∈ s, isAscii c = true) :
    lowercaseAfter before s = s.map asciiLower := by
  induction s generalizing before with
  | nil => rfl
  | cons c s ih =>
    obtain ⟨hc, hs⟩ := List.forall_mem_cons.1 h
    rw [lowercaseAfter_cons, lowerAt_of_asciiLower (isAscii_asciiLower hc) rfl, ih hs]
    rfl

theorem lowercase_of_isAscii {s : List Char} (h : ∀ c ∈ s, isAscii c = true) :
    lowercase s = s.map asciiLower :=
  lowercaseAfter_of_isAscii h

end CostGate.Text
