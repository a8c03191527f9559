import CostGate.Proofs.Document.Json
import CostGate.Proofs.Text.Uppercase
import CostGate.Report.Rendering

/-!
# The characters of a report

What is rendered of a report are its strings, written numbers, and fixed texts. Numbers are written
with a few characters only, so most characters of a rendering come from the strings or from the
fixed texts.
-/
namespace CostGate

theorem Document.Json.not_mem_joinWith {c : Char} {separator : List Char} (hs : c ∉ separator)
    {parts : List (List Char)} (h : ∀ part ∈ parts, c ∉ part) : c ∉ joinWith separator parts := by
  induction parts with
  | nil => simp [joinWith]
  | cons part parts ih =>
    obtain ⟨hpart, hrest⟩ := List.forall_mem_cons.1 h
    by_cases hmore : parts = []
    · simpa [hmore, joinWith] using hpart
    · rw [Document.Json.joinWith_cons hmore, List.mem_append, List.mem_append, not_or, not_or]
      exact ⟨hpart, hs, ih hrest⟩

namespace Number

open Document.Json (isNumberPart isNumberPart_of_mem_numeral isNumberPart_of_mem_pointed
  numeral_ne_nil)

/-- A character with which counts and numbers with fixed places are written. -/
def isNumeric (c : Char) : Bool := isNumberPart c || ['N', 'a', 'i', 'n', 'f'].contains c

theorem isNumeric_of_isNumberPart {c : Char} (h : isNumberPart c = true) : isNumeric c = true := by
  simp [isNumeric, h]

theorem isNumeric_of_mem_fixed {places : ℕ} {x : Float} {c : Char} (h : c ∈ fixed places x) :
    isNumeric c = true := by
  have hword {word : List Char} (hword : word.all isNumeric = true) (hc : c ∈ word) :
      isNumeric c = true :=
    List.all_eq_true.1 hword c hc
  have hpointed {n : ℕ} (hc : c ∈ pointed (numeral n) places) : isNumeric c = true :=
    isNumeric_of_isNumberPart
      (isNumberPart_of_mem_pointed (fun _ => isNumberPart_of_mem_numeral) hc)
  rw [fixed, signed] at h
  split at h
  · exact hword (by decide) h
  · next negative _ => exact hword (by cases negative <;> decide) h
  · next negative _ _ =>
    rcases List.mem_append.1 h with h | h
    · exact hword (by cases negative <;> decide) h
    · split_ifs at h <;> exact hpointed h

theorem fixed_ne_nil (places : ℕ) (x : Float) : fixed places x ≠ [] := by
  rw [fixed, signed]
  split
  · simp
  · simp
  · split_ifs <;> simp [pointed]

section

variable {c : Char} (h : isNumeric c = false)
include h

theorem not_mem_numeral (n : ℕ) : c ∉ numeral n := by
  intro hmem
  rw [isNumeric_of_isNumberPart (isNumberPart_of_mem_numeral hmem)] at h
  cases h

theorem not_mem_fixed (places : ℕ) (x : Float) : c ∉ fixed places x := by
  intro hmem
  rw [isNumeric_of_mem_fixed hmem] at h
  cases h

end

theorem not_mem_padLeft {c : Char} {s : List Char} (hc : c ≠ ' ') (hs : c ∉ s) (width : ℕ) :
    c ∉ padLeft width s := by
  rw [padLeft, List.mem_append, not_or]
  exact ⟨fun h => hc (List.eq_of_mem_replicate h), hs⟩

end Number

open Number (isNumeric)

theorem Text.IsControl.isNumeric_eq_false {c : Char} (hc : Text.IsControl c) :
    isNumeric c = false := by
  by_contra h
  have hle : 32 ≤ c.toNat := by
    rw [Bool.not_eq_false, Number.isNumeric, Document.Json.isNumberPart] at h
    simp only [Bool.or_eq_true, beq_iff_eq, List.contains_eq_mem, List.mem_cons, List.not_mem_nil,
      or_false, decide_eq_true_eq] at h
    rcases h with (((((h | rfl) | rfl) | rfl) | rfl) | rfl) | (rfl | rfl | rfl | rfl | rfl)
    · exact le_trans (by decide) (Text.between_iff.1 h).1
    all_goals decide
  exact absurd hc.2 (Nat.not_lt.2 hle)

namespace Report

def strings (r : Report Float) : List String :=
  [r.header.generatedAt, r.header.generator, r.header.formatVersion, r.header.environment,
    r.header.branch, r.compliance.level] ++
    (r.violations ++ r.isolation.mustIsolate ++ r.isolation.shouldReview).map (·.path) ++
    r.components.map (·.path)

/-- No string of the report has the character. -/
def Avoids (c : Char) (r : Report Float) : Prop := ∀ s ∈ r.strings, c ∉ s.toList

instance (c : Char) (r : Report Float) : Decidable (r.Avoids c) :=
  inferInstanceAs (Decidable (∀ s ∈ r.strings, c ∉ s.toList))

namespace Avoids

variable {c : Char} {r : Report Float} (h : r.Avoids c)
include h

theorem generatedAt : c ∉ r.header.generatedAt.toList := h _ (by simp [strings])

theorem generator : c ∉ r.header.generator.toList := h _ (by simp [strings])

theorem formatVersion : c ∉ r.header.formatVersion.toList := h _ (by simp [strings])

theorem environment : c ∉ r.header.environment.toList := h _ (by simp [strings])

theorem branch : c ∉ r.header.branch.toList := h _ (by simp [strings])

theorem level : c ∉ r.compliance.level.toList := h _ (by simp [strings])

theorem violation {v : Violation Float} (hv : v ∈ r.violations) : c ∉ v.path.toList :=
  h _ (by simp [strings, List.mem_map_of_mem hv])

theorem isolated {v : Violation Float} (hv : v ∈ r.isolation.mustIsolate) : c ∉ v.path.toList :=
  h _ (by simp [strings, List.mem_map_of_mem hv])

theorem reviewed {v : Violation Float} (hv : v ∈ r.isolation.shouldReview) : c ∉ v.path.toList :=
  h _ (by simp [strings, List.mem_map_of_mem hv])

theorem component {a : Assessment Float} (ha : a ∈ r.components) : c ∉ a.path.toList :=
  h _ (by simp [strings, List.mem_map_of_mem ha])

end Avoids

/-- A report with violations of every severity. -/
def sample : Report Float where
  header :=
    { generatedAt := "2026-01-15T09:30:00Z", generator := "archgate", formatVersion := "1.0"
      environment := "ci", branch := "main", threshold := 0.6, autonomousLimit := 0.5 }
  summary := ⟨6, 3, 1, 1, 2, 1, 50.0, true, 14⟩
  violations :=
    [⟨"src/core", 1.3, 0.6, .emergency, 2.1667⟩, ⟨"src/net", 0.9, 0.6, .critical, 1.5⟩,
    ⟨"src/ui", 0.7, 0.6, .warning, 1.1667⟩]
  compliance := ⟨false, true, "emergency"⟩
  isolation :=
    ⟨[⟨"src/core", 1.3, 0.6, .emergency, 2.1667⟩, ⟨"src/net", 0.9, 0.6, .critical, 1.5⟩],
    [⟨"src/ui", 0.7, 0.6, .warning, 1.1667⟩]⟩
  components :=
    [⟨"src/core", 1.3, .governance, .emergency⟩, ⟨"src/net", 0.9, .governance, .critical⟩,
    ⟨"src/ui", 0.7, .governance, .warning⟩, ⟨"src/util", 0.55, .warning, .warning⟩,
    ⟨"src/cli", 0.2, .autonomous, .autonomous⟩, ⟨"src/log", 0.1, .autonomous, .autonomous⟩]

end Report

end CostGate
