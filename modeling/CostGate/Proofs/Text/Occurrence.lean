import CostGate.Text.Lines
import Mathlib

/-!
# Occurrences in a text

A text is cut at the first occurrence of another one. Where that is follows from what stands
before it: nothing before the cut contains the other text.
-/
namespace CostGate.Text

variable {pat s t before tail : List Char}

theorem isSome_dropFront? : (dropFront? pat s).isSome = true ↔ pat <+: s := by
  rw [Option.isSome_iff_exists]
  constructor
  · rintro ⟨tail, htail⟩
    exact ⟨tail, (dropFront?_eq_some_iff.1 htail).symm⟩
  · rintro ⟨tail, htail⟩
    exact ⟨tail, dropFront?_eq_some_iff.2 htail.symm⟩

theorem occurs_iff : occurs pat s = true ↔ pat <:+: s := by
  induction s with
  | nil => simp [occurs, splitOnce?, apply_ite Option.isSome]
  | cons c rest ih =>
    rw [List.infix_cons_iff, ← ih, ← isSome_dropFront?, occurs, splitOnce?, occurs]
    cases dropFront? pat (c :: rest) with
    | some tail => simp
    | none => simp

theorem splitOnce?_eq_none_iff : splitOnce? pat s = none ↔ ¬ pat <:+: s := by
  rw [← occurs_iff, occurs, Option.not_isSome_iff_eq_none]

/-- What does not have the first character of a text is passed over. -/
theorem splitOnce?_append_left {c : Char} {front : List Char} (h : c ∉ front) (pat s : List Char) :
    splitOnce? (c :: pat) (front ++ s) =
      (splitOnce? (c :: pat) s).map fun (before, tail) => (front ++ before, tail) := by
  induction front with
  | nil => exact Option.map_id'.symm
  | cons x front ih =>
    rw [List.mem_cons, not_or] at h
    rw [List.cons_append, splitOnce?, dropFront?, if_neg h.1]
    dsimp only
    rw [ih h.2, Option.map_map]
    rfl

theorem splitOnce?_append {c : Char} (h : c ∉ s) (pat t : List Char) :
    splitOnce? (c :: pat) (s ++ (c :: pat ++ t)) = some (s, t) := by
  have hsome : dropFront? (c :: pat) (c :: pat ++ t) = some t := dropFront?_eq_some_iff.2 rfl
  rw [splitOnce?_append_left h, List.cons_append, splitOnce?, ← List.cons_append, hsome]
  simp

/-- What stands before the first occurrence of a text does not contain the text. -/
theorem not_infix_of_splitOnce? (hpat : pat ≠ []) (h : splitOnce? pat s = some (before, tail)) :
    ¬ pat <:+: before := by
  induction s generalizing before with
  | nil =>
    rw [splitOnce?, if_neg (by simpa using hpat)] at h
    cases h
  | cons c rest ih =>
    rw [splitOnce?] at h
    split at h
    · obtain ⟨rfl, rfl⟩ := Prod.mk.inj (Option.some.inj h)
      simpa using hpat
    · next hnone =>
      obtain ⟨⟨front, back⟩, hsplit, heq⟩ := Option.map_eq_some_iff.1 h
      obtain ⟨rfl, rfl⟩ := Prod.mk.inj heq
      intro hinfix
      rcases List.infix_cons_iff.1 hinfix with hstart | hlater
      · rw [splitOnce?_eq_some hsplit, ← Option.not_isSome_iff_eq_none, isSome_dropFront?] at hnone
        refine hnone (hstart.trans ?_)
        rw [← List.cons_append, ← List.cons_append, List.append_assoc]
        exact List.prefix_append _ _
      · exact ih hsplit hlater

theorem splitOnce?_singleton_iff {c : Char} :
    splitOnce? [c] s = some (before, tail) ↔ s = before ++ c :: tail ∧ c ∉ before := by
  constructor
  · intro h
    have hbefore := not_infix_of_splitOnce? (List.cons_ne_nil c []) h
    refine ⟨by simpa using splitOnce?_eq_some h, fun hmem => hbefore ?_⟩
    obtain ⟨front, back, rfl⟩ := List.append_of_mem hmem
    exact ⟨front, back, by simp⟩
  · rintro ⟨rfl, hc⟩
    exact splitOnce?_append hc [] tail

end CostGate.Text
