import CostGate.Pattern.Basic
import Mathlib

/-!
# What patterns describe

A pattern describes parts of texts, each between what stands in front of it and what stands behind
it. A search finds a match exactly where some part of the text is described: the places that are
reached from a place are the ends of the described parts that begin there.
-/
namespace CostGate.Pattern

/-- A property of a part of a text, given the text in front of it and the text behind it. -/
abbrev Description := List Char → List Char → List Char → Prop

namespace Description

def followedBy (R S : Description) : Description := fun before part after =>
  ∃ front back, part = front ++ back ∧ R before front (back ++ after) ∧
    S (before ++ front) back after

def times (R : Description) : ℕ → Description
  | 0 => fun _ part _ => part = []
  | n + 1 => R.followedBy (R.times n)

/-- A description holds of the part of a text between two places. -/
def Spans (R : Description) (s : List Char) (i k : ℕ) : Prop :=
  ∃ before part after, s = before ++ (part ++ after) ∧ before.length = i ∧
    (before ++ part).length = k ∧ R before part after

end Description

/-- The parts of texts that a pattern describes. A bound of repetitions below the least number is
none. -/
def Describes : Pattern → Description
  | empty => fun _ part _ => part = []
  | one has => fun _ part _ => ∃ c, has c = true ∧ part = [c]
  | condition k => fun before part after =>
    part = [] ∧ k.holdsBetween before.getLast? after.head? = true
  | sequence p q => p.Describes.followedBy q.Describes
  | choice p q => fun before part after =>
    p.Describes before part after ∨ q.Describes before part after
  | repeated p least most => fun before part after =>
    ∃ n, least ≤ n ∧ (∀ bound ∈ most, n ≤ max least bound) ∧
      p.Describes.times n before part after

namespace Description

variable {R S : Description} {s : List Char} {i j k m n : ℕ}

theorem Spans.le (h : R.Spans s i k) : i ≤ k ∧ k ≤ s.length := by
  obtain ⟨before, part, after, rfl, rfl, rfl, -⟩ := h
  simp only [List.length_append]
  omega

theorem spans_followedBy :
    (R.followedBy S).Spans s i k ↔ ∃ j, R.Spans s i j ∧ S.Spans s j k := by
  constructor
  · rintro ⟨before, part, after, rfl, rfl, rfl, front, back, rfl, hR, hS⟩
    refine ⟨_, ⟨before, front, back ++ after, by simp, rfl, rfl, hR⟩, ?_⟩
    exact ⟨before ++ front, back, after, by simp, rfl, by simp, hS⟩
  · rintro ⟨j, ⟨before, front, rest, rfl, rfl, rfl, hR⟩, before', back, after, hs, hbefore, rfl, hS⟩
    rw [← List.append_assoc] at hs
    obtain ⟨rfl, rfl⟩ := List.append_inj hs hbefore.symm
    exact ⟨before, front ++ back, after, by simp, rfl, by simp, front, back, rfl, hR, hS⟩

theorem spans_times_zero : (R.times 0).Spans s i k ↔ i = k ∧ k ≤ s.length := by
  constructor
  · rintro ⟨before, part, after, rfl, rfl, rfl, rfl⟩
    simp
  · rintro ⟨rfl, hle⟩
    exact ⟨s.take i, [], s.drop i, by simp, by simpa using hle, by simpa using hle, rfl⟩

theorem spans_times_succ :
    (R.times (n + 1)).Spans s i k ↔ ∃ j, R.Spans s i j ∧ (R.times n).Spans s j k :=
  spans_followedBy

theorem spans_times_add :
    (R.times (m + n)).Spans s i k ↔ ∃ j, (R.times m).Spans s i j ∧ (R.times n).Spans s j k := by
  induction m generalizing i with
  | zero =>
    rw [Nat.zero_add]
    constructor
    · intro h
      exact ⟨i, spans_times_zero.2 ⟨rfl, h.le.1.trans h.le.2⟩, h⟩
    · rintro ⟨j, hij, h⟩
      obtain ⟨rfl, -⟩ := spans_times_zero.1 hij
      exact h
  | succ m ih =>
    rw [Nat.succ_add, spans_times_succ]
    simp only [ih, spans_times_succ]
    constructor
    · rintro ⟨i', hR, j, hm, hn⟩
      exact ⟨j, ⟨i', hR, hm⟩, hn⟩
    · rintro ⟨j, ⟨i', hR, hm⟩, hn⟩
      exact ⟨i', hR, j, hm, hn⟩

/-- Empty parts can be left out, and the others are no more than the characters. -/
theorem exists_times_le (h : (R.times n).Spans s i k) :
    ∃ m, m ≤ n ∧ m ≤ k - i ∧ (R.times m).Spans s i k := by
  induction n generalizing i with
  | zero => exact ⟨0, le_rfl, Nat.zero_le _, h⟩
  | succ n ih =>
    obtain ⟨j, hR, hn⟩ := spans_times_succ.1 h
    obtain ⟨m, hmn, hmk, hm⟩ := ih hn
    rcases hR.le.1.eq_or_lt with rfl | hlt
    · exact ⟨m, by omega, hmk, hm⟩
    · have := hm.le
      exact ⟨m + 1, by omega, by omega, spans_times_succ.2 ⟨j, hR, hm⟩⟩

end Description

open Description

/-- A step from places to places leads to the ends of the parts that a description holds of. -/
def Follows (step : List ℕ → List ℕ) (R : Description) (s : List Char) : Prop :=
  ∀ is, (∀ i ∈ is, i ≤ s.length) → ∀ k, k ∈ step is ↔ ∃ i ∈ is, R.Spans s i k

section Steps

variable {step step' : List ℕ → List ℕ} {R S : Description} {s : List Char}
  {is seen fresh : List ℕ} {k n : ℕ}

namespace Follows

theorem le_length (h : Follows step R s) (his : ∀ i ∈ is, i ≤ s.length) :
    ∀ k ∈ step is, k ≤ s.length := by
  intro k hk
  obtain ⟨i, -, hspans⟩ := (h is his k).1 hk
  exact hspans.le.2

theorem followedBy (h : Follows step R s) (h' : Follows step' S s) :
    Follows (fun is => step' (step is)) (R.followedBy S) s := by
  intro is his k
  rw [h' _ (h.le_length his)]
  simp only [h is his, spans_followedBy]
  constructor
  · rintro ⟨j, ⟨i, hi, hR⟩, hS⟩
    exact ⟨i, hi, j, hR, hS⟩
  · rintro ⟨i, hi, j, hR, hS⟩
    exact ⟨j, ⟨i, hi, hR⟩, hS⟩

theorem afterSteps (h : Follows step R s) (n : ℕ) :
    Follows (afterSteps step n) (R.times n) s := by
  induction n with
  | zero =>
    intro is his k
    simp only [Pattern.afterSteps, spans_times_zero]
    constructor
    · intro hk
      exact ⟨k, hk, rfl, his k hk⟩
    · rintro ⟨i, hi, rfl, -⟩
      exact hi
  | succ n ih => exact h.followedBy ih

end Follows

/-- Places that have been seen, of which only the fresh ones can lead to places not seen yet. -/
structure Frontier (R : Description) (s : List Char) (seen fresh : List ℕ) : Prop where
  inside : ∀ i ∈ seen, i ≤ s.length
  seen_of_fresh : ∀ i ∈ fresh, i ∈ seen
  settled : ∀ i ∈ seen, i ∉ fresh → ∀ k, R.Spans s i k → k ∈ seen

namespace Frontier

/-- One step from the fresh places finds all new places that one step leads to. -/
theorem mem_next (hfrontier : Frontier R s seen fresh) (h : Follows step R s) :
    k ∈ union seen (without (step fresh) seen) ↔ k ∈ seen ∨ ∃ i ∈ seen, R.Spans s i k := by
  have hstep := h fresh fun i hi => hfrontier.inside i (hfrontier.seen_of_fresh i hi)
  rw [mem_union]
  constructor
  · rintro (hk | hk)
    · exact .inl hk
    · obtain ⟨i, hi, hspans⟩ := (hstep k).1 (mem_of_mem_without hk)
      exact .inr ⟨i, hfrontier.seen_of_fresh i hi, hspans⟩
  · rintro (hk | ⟨i, hi, hspans⟩)
    · exact .inl hk
    · by_cases hif : i ∈ fresh
      · exact (mem_without_or ((hstep k).2 ⟨i, hif, hspans⟩)).symm
      · exact .inl (hfrontier.settled i hi hif k hspans)

/-- With each step the new places become the fresh ones. -/
theorem next (hfrontier : Frontier R s seen fresh) (h : Follows step R s) :
    Frontier R s (union seen (without (step fresh) seen)) (without (step fresh) seen) where
  inside := by
    intro k hk
    rcases (hfrontier.mem_next h).1 hk with hk | ⟨i, -, hspans⟩
    · exact hfrontier.inside k hk
    · exact hspans.le.2
  seen_of_fresh := fun k hk => mem_union.2 (.inr hk)
  settled := by
    intro i hi hnot k hspans
    exact (hfrontier.mem_next h).2 (.inr ⟨i, (mem_union.1 hi).resolve_right hnot, hspans⟩)

/-- Places that one step does not leave are not left by several. -/
theorem mem_of_closed (hclosed : ∀ i ∈ seen, ∀ k, R.Spans s i k → k ∈ seen) {i : ℕ}
    (hi : i ∈ seen) (h : (R.times n).Spans s i k) : k ∈ seen := by
  induction n generalizing i with
  | zero =>
    obtain ⟨rfl, -⟩ := spans_times_zero.1 h
    exact hi
  | succ n ih =>
    obtain ⟨j, hR, hn⟩ := spans_times_succ.1 h
    exact ih (hclosed i hi j hR) hn

theorem exists_times_succ_iff :
    (∃ m, m ≤ n + 1 ∧ ∃ i ∈ seen, (R.times m).Spans s i k) ↔
      ∃ m, m ≤ n ∧ ∃ j, (j ∈ seen ∨ ∃ i ∈ seen, R.Spans s i j) ∧ (R.times m).Spans s j k := by
  constructor
  · rintro ⟨m, hm, i, hi, hspans⟩
    cases m with
    | zero => exact ⟨0, Nat.zero_le _, i, .inl hi, hspans⟩
    | succ m =>
      obtain ⟨j, hR, hspans⟩ := spans_times_succ.1 hspans
      exact ⟨m, Nat.le_of_succ_le_succ hm, j, .inr ⟨i, hi, hR⟩, hspans⟩
  · rintro ⟨m, hm, j, hj | ⟨i, hi, hR⟩, hspans⟩
    · exact ⟨m, hm.trans n.le_succ, j, hj, hspans⟩
    · exact ⟨m + 1, Nat.succ_le_succ hm, i, hi, spans_times_succ.2 ⟨j, hR, hspans⟩⟩

theorem mem_withinSteps (hfrontier : Frontier R s seen fresh) (h : Follows step R s) :
    k ∈ withinSteps step n seen fresh ↔
      ∃ m, m ≤ n ∧ ∃ i ∈ seen, (R.times m).Spans s i k := by
  induction n generalizing seen fresh with
  | zero =>
    rw [withinSteps]
    constructor
    · intro hk
      exact ⟨0, le_rfl, k, hk, spans_times_zero.2 ⟨rfl, hfrontier.inside k hk⟩⟩
    · rintro ⟨m, hm, i, hi, hspans⟩
      obtain rfl := Nat.le_zero.1 hm
      obtain ⟨rfl, -⟩ := spans_times_zero.1 hspans
      exact hi
  | succ n ih =>
    rw [withinSteps]
    split_ifs with hempty
    · have hclosed : ∀ i ∈ seen, ∀ k, R.Spans s i k → k ∈ seen := by
        intro i hi k hspans
        have hk := (hfrontier.mem_next h).2 (.inr ⟨i, hi, hspans⟩)
        rw [List.isEmpty_iff.1 hempty, mem_union] at hk
        exact hk.resolve_right List.not_mem_nil
      constructor
      · intro hk
        exact ⟨0, Nat.zero_le _, k, hk, spans_times_zero.2 ⟨rfl, hfrontier.inside k hk⟩⟩
      · rintro ⟨m, -, i, hi, hspans⟩
        exact mem_of_closed hclosed hi hspans
    · rw [ih (hfrontier.next h), exists_times_succ_iff]
      simp only [hfrontier.mem_next h]

end Frontier

/-- A repetition without bound needs no more steps than the text has characters. -/
theorem Follows.repeated (h : Follows step R s) (least : ℕ) (most : Option ℕ) (is : List ℕ)
    (his : ∀ i ∈ is, i ≤ s.length) (k : ℕ) :
    k ∈ withinSteps step (most.elim (s.length + 1) fun most => min (most - least) (s.length + 1))
        (Pattern.afterSteps step least is) (Pattern.afterSteps step least is) ↔
      ∃ i ∈ is, ∃ n, least ≤ n ∧ (∀ bound ∈ most, n ≤ max least bound) ∧
        (R.times n).Spans s i k := by
  have hleast := h.afterSteps least
  have hfrontier : Frontier R s (Pattern.afterSteps step least is)
      (Pattern.afterSteps step least is) :=
    ⟨hleast.le_length his, fun _ hi => hi, fun _ hi hnot => absurd hi hnot⟩
  rw [hfrontier.mem_withinSteps h]
  simp only [hleast is his]
  constructor
  · rintro ⟨m, hm, j, ⟨i, hi, hfront⟩, hback⟩
    refine ⟨i, hi, least + m, by omega, ?_, spans_times_add.2 ⟨j, hfront, hback⟩⟩
    rintro bound ⟨⟩
    simp only [Option.elim_some] at hm
    omega
  · rintro ⟨i, hi, n, hle, hbound, hspans⟩
    obtain ⟨n, rfl⟩ := Nat.exists_eq_add_of_le hle
    obtain ⟨j, hfront, hback⟩ := spans_times_add.1 hspans
    obtain ⟨m, hmn, hmk, hback⟩ := exists_times_le hback
    refine ⟨m, ?_, j, ⟨i, hi, hfront⟩, hback⟩
    have hlength := hback.le
    cases most with
    | none =>
      rw [Option.elim_none]
      omega
    | some bound =>
      have hn := hbound bound rfl
      rw [Option.elim_some]
      omega

end Steps

theorem Condition.holds_append (k : Condition) (before after : List Char) :
    k.holds (before ++ after).toArray before.length =
      k.holdsBetween before.getLast? after.head? := by
  have hnext : (before ++ after).toArray[before.length]? = after.head? := by
    rw [List.getElem?_toArray, List.getElem?_append_right le_rfl, Nat.sub_self,
      List.head?_eq_getElem?]
  have hbefore : (if before.length = 0 then none
      else (before ++ after).toArray[before.length - 1]?) = before.getLast? := by
    rcases List.eq_nil_or_concat before with rfl | ⟨front, c, rfl⟩
    · rfl
    · simp
  rw [holds, hnext, hbefore]

section Spans

variable {s : List Char} {i k : ℕ}

theorem spans_empty : empty.Describes.Spans s i k ↔ i = k ∧ k ≤ s.length :=
  spans_times_zero (R := empty.Describes)

theorem spans_one {has : Char → Bool} :
    (one has).Describes.Spans s i k ↔ s[i]?.any has = true ∧ k = i + 1 := by
  constructor
  · rintro ⟨before, part, after, rfl, rfl, rfl, c, hc, rfl⟩
    simp [hc]
  · rintro ⟨hany, rfl⟩
    obtain ⟨c, hc, hhas⟩ := (Option.any_eq_true _ _).1 hany
    obtain ⟨hlt, rfl⟩ := List.getElem?_eq_some_iff.1 hc
    refine ⟨s.take i, [s[i]], s.drop (i + 1), ?_, ?_, ?_, s[i], hhas, rfl⟩
    · rw [List.singleton_append, ← List.drop_eq_getElem_cons hlt, List.take_append_drop]
    · simpa using hlt.le
    · simpa using hlt

theorem spans_condition {c : Condition} :
    (condition c).Describes.Spans s i k ↔ (i ≤ s.length ∧ c.holds s.toArray i = true) ∧ k = i := by
  constructor
  · rintro ⟨before, part, after, rfl, rfl, rfl, rfl, hc⟩
    rw [List.nil_append, Condition.holds_append]
    simp [hc]
  · rintro ⟨⟨hle, hc⟩, rfl⟩
    refine ⟨s.take k, [], s.drop k, by simp, by simpa using hle, by simpa using hle, rfl, ?_⟩
    rw [← Condition.holds_append]
    simpa [hle] using hc

theorem spans_choice {p q : Pattern} : (choice p q).Describes.Spans s i k ↔
    p.Describes.Spans s i k ∨ q.Describes.Spans s i k := by
  constructor
  · rintro ⟨before, part, after, hs, hi, hk, hp | hq⟩
    · exact .inl ⟨before, part, after, hs, hi, hk, hp⟩
    · exact .inr ⟨before, part, after, hs, hi, hk, hq⟩
  · rintro (⟨before, part, after, hs, hi, hk, hp⟩ | ⟨before, part, after, hs, hi, hk, hq⟩)
    · exact ⟨before, part, after, hs, hi, hk, .inl hp⟩
    · exact ⟨before, part, after, hs, hi, hk, .inr hq⟩

theorem spans_repeated {p : Pattern} {least : ℕ} {most : Option ℕ} :
    (repeated p least most).Describes.Spans s i k ↔ ∃ n, least ≤ n ∧
      (∀ bound ∈ most, n ≤ max least bound) ∧ (p.Describes.times n).Spans s i k := by
  constructor
  · rintro ⟨before, part, after, hs, hi, hk, n, hleast, hmost, hn⟩
    exact ⟨n, hleast, hmost, before, part, after, hs, hi, hk, hn⟩
  · rintro ⟨n, hleast, hmost, before, part, after, hs, hi, hk, hn⟩
    exact ⟨before, part, after, hs, hi, hk, n, hleast, hmost, hn⟩

end Spans

variable {s : List Char}

/-- The places that a pattern leads to are the ends of the parts that it describes. -/
theorem follows_reach (p : Pattern) : Follows (p.reach s.toArray) p.Describes s := by
  induction p with
  | empty =>
    intro is his k
    simp only [reach, spans_empty]
    constructor
    · intro hk
      exact ⟨k, hk, rfl, his k hk⟩
    · rintro ⟨i, hi, rfl, -⟩
      exact hi
  | one has =>
    intro is his k
    simp only [reach, spans_one, List.mem_map, List.mem_filter, List.getElem?_toArray]
    constructor
    · rintro ⟨i, ⟨hi, hhas⟩, rfl⟩
      exact ⟨i, hi, hhas, rfl⟩
    · rintro ⟨i, hi, hhas, rfl⟩
      exact ⟨i, ⟨hi, hhas⟩, rfl⟩
  | condition c =>
    intro is his k
    simp only [reach, spans_condition, List.mem_filter]
    constructor
    · rintro ⟨hk, hc⟩
      exact ⟨k, hk, ⟨his k hk, hc⟩, rfl⟩
    · rintro ⟨i, hi, ⟨-, hc⟩, rfl⟩
      exact ⟨hi, hc⟩
  | sequence p q ihp ihq => exact ihp.followedBy ihq
  | choice p q ihp ihq =>
    intro is his k
    simp only [reach, mem_union, ihp is his, ihq is his, spans_choice, and_or_left, exists_or]
  | repeated p least most ih =>
    intro is his k
    simp only [spans_repeated]
    rw [← ih.repeated least most is his]
    cases most <;> rfl

/-- A search succeeds if some part of the text is described. -/
theorem isMatch_iff {p : Pattern} :
    p.isMatch s = true ↔ ∃ before part after, s = before ++ (part ++ after) ∧
      p.Describes before part after := by
  have hreach := follows_reach (s := s) p (List.range (s.length + 1)) (by
    intro i hi
    exact Nat.lt_succ_iff.1 (List.mem_range.1 hi))
  rw [isMatch, Bool.not_eq_true', List.isEmpty_eq_false_iff_exists_mem]
  constructor
  · rintro ⟨k, hk⟩
    obtain ⟨i, -, before, part, after, hs, -, -, hp⟩ := (hreach k).1 hk
    exact ⟨before, part, after, hs, hp⟩
  · rintro ⟨before, part, after, hs, hp⟩
    refine ⟨(before ++ part).length, (hreach _).2 ⟨before.length, ?_, before, part, after, hs, rfl,
      rfl, hp⟩⟩
    rw [List.mem_range, hs, List.length_append]
    omega

end CostGate.Pattern
