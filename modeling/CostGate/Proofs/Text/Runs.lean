import CostGate.Text.Lines
import Mathlib

/-!
# Runs

The runs of a text are its longest stretches of characters of one class. What is added up over
them can be read off run by run: the first run is what the text starts with, and the others are
those of the text behind it.
-/
namespace CostGate.Text

/-- The longest stretches of characters at which `p` holds, in the order of the text. -/
def runs (p : Char → Bool) : List Char → List (List Char)
  | [] => []
  | c :: rest =>
    if p c then (c :: rest.takeWhile p) :: runs p (rest.dropWhile p) else runs p rest
termination_by s => s.length
decreasing_by
  · exact Nat.lt_succ_of_le (List.dropWhile_sublist p).length_le
  · exact Nat.lt_succ_self _

variable {p : Char → Bool} {c : Char}

@[simp] theorem runs_nil : runs p [] = [] := by rw [runs]

theorem runs_cons_of_pos (h : p c = true) (s : List Char) :
    runs p (c :: s) = (c :: s.takeWhile p) :: runs p (s.dropWhile p) := by
  rw [runs, if_pos h]

theorem runs_cons_of_neg (h : p c = false) (s : List Char) : runs p (c :: s) = runs p s := by
  rw [runs, if_neg (Bool.not_eq_true _ ▸ h)]

theorem runs_append_of_forall {front : List Char} (h : ∀ x ∈ front, p x = false) (s : List Char) :
    runs p (front ++ s) = runs p s := by
  induction front with
  | nil => rfl
  | cons x front ih =>
    obtain ⟨hx, hfront⟩ := List.forall_mem_cons.1 h
    rw [List.cons_append, runs_cons_of_neg hx, ih hfront]

theorem not_mem_takeWhile (h : p c = false) (s : List Char) : c ∉ s.takeWhile p := by
  intro hmem
  rw [List.mem_takeWhile_imp hmem] at h
  cases h

theorem takeWhile_beq_eq_nil {s : List Char} (h : s.head? ≠ some c) :
    s.takeWhile (· == c) = [] := by
  cases s with
  | nil => rfl
  | cons x s =>
    rw [List.head?_cons, ne_eq, Option.some.injEq] at h
    exact List.takeWhile_cons_of_neg (by simpa using h)

theorem beq_eq_false_of_not_mem {front : List Char} (h : c ∉ front) :
    ∀ x ∈ front, (x == c) = false := by
  intro x hx
  rw [beq_eq_false_iff_ne]
  rintro rfl
  exact h hx

def sumOverRuns (p : Char → Bool) (f : List Char → ℕ) (s : List Char) : ℕ := ((runs p s).map f).sum

variable {f : List Char → ℕ}

theorem sumOverRuns_append_of_forall {front : List Char} (h : ∀ x ∈ front, p x = false)
    (s : List Char) : sumOverRuns p f (front ++ s) = sumOverRuns p f s := by
  rw [sumOverRuns, runs_append_of_forall h, sumOverRuns]

theorem sumOverRuns_cons_of_neg (h : p c = false) (s : List Char) :
    sumOverRuns p f (c :: s) = sumOverRuns p f s := by
  rw [sumOverRuns, runs_cons_of_neg h, sumOverRuns]

theorem sumOverRuns_cons_of_pos (h : p c = true) (s : List Char) :
    sumOverRuns p f (c :: s) = f (c :: s.takeWhile p) + sumOverRuns p f (s.dropWhile p) := by
  rw [sumOverRuns, runs_cons_of_pos h, List.map_cons, List.sum_cons, sumOverRuns]

/-- What a text starts with is its first run, or adds nothing. -/
theorem sumOverRuns_eq (hf : f [] = 0) (s : List Char) :
    sumOverRuns p f s = f (s.takeWhile p) + sumOverRuns p f (s.dropWhile p) := by
  cases s with
  | nil => rw [List.takeWhile_nil, List.dropWhile_nil, hf, Nat.zero_add]
  | cons c s =>
    cases hc : p c with
    | true =>
      rw [sumOverRuns_cons_of_pos hc, List.takeWhile_cons_of_pos hc, List.dropWhile_cons_of_pos hc]
    | false =>
      rw [List.takeWhile_cons_of_neg (by simp [hc]), List.dropWhile_cons_of_neg (by simp [hc]), hf,
        Nat.zero_add]

/-- A stretch in front of a text lengthens its first run. -/
theorem sumOverRuns_append {front s : List Char} {k : ℕ} (hf : f [] = 0)
    (hfront : ∀ x ∈ front, p x = true)
    (h : f (front ++ s.takeWhile p) = k + f (s.takeWhile p)) :
    sumOverRuns p f (front ++ s) = k + sumOverRuns p f s := by
  rw [sumOverRuns_eq hf, List.takeWhile_append_of_pos hfront, List.dropWhile_append_of_pos hfront,
    h, Nat.add_assoc, ← sumOverRuns_eq hf]

end CostGate.Text
