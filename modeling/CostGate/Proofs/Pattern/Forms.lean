import CostGate.Proofs.Pattern.Meaning

/-!
# Forms of patterns

What the usual forms of patterns describe: words, choices of words, runs of characters of a class,
optional parts, and parts tied to the ends of the text.
-/
namespace CostGate.Pattern

open Description

variable {p : Pattern} {before part after : List Char}

def word (w : String) : Pattern :=
  match w.toList with
  | [] => .empty
  | c :: cs => cs.foldl (fun p d => .sequence p (.one (· == d))) (.one (· == c))

def oneOf : List String → Pattern
  | [] => .empty
  | w :: ws => ws.foldl (fun p v => .choice p (word v)) (word w)

theorem describes_sequence_one {front : List Char} {c : Char}
    (h : ∀ before part after, p.Describes before part after ↔ part = front) :
    (sequence p (one (· == c))).Describes before part after ↔ part = front ++ [c] := by
  constructor
  · rintro ⟨front', back, rfl, hfront, d, hd, rfl⟩
    rw [(h ..).1 hfront, beq_iff_eq.1 hd]
  · rintro rfl
    exact ⟨front, [c], rfl, (h ..).2 rfl, c, beq_self_eq_true c, rfl⟩

theorem describes_foldl_sequence {front cs : List Char}
    (h : ∀ before part after, p.Describes before part after ↔ part = front) :
    (cs.foldl (fun p d => sequence p (one (· == d))) p).Describes before part after ↔
      part = front ++ cs := by
  induction cs generalizing p front with
  | nil => rw [List.foldl_nil, h, List.append_nil]
  | cons c cs ih =>
    rw [List.foldl_cons, ih fun _ _ _ => describes_sequence_one h, List.append_assoc,
      List.singleton_append]

theorem describes_word {w : String} :
    (word w).Describes before part after ↔ part = w.toList := by
  rw [word]
  cases w.toList with
  | nil => rfl
  | cons c cs =>
    refine (describes_foldl_sequence fun before part after => ?_ : _ ↔ part = [c] ++ cs)
    constructor
    · rintro ⟨d, hd, rfl⟩
      rw [beq_iff_eq.1 hd]
    · rintro rfl
      exact ⟨c, beq_self_eq_true c, rfl⟩

theorem describes_choice {q : Pattern} : (choice p q).Describes before part after ↔
    p.Describes before part after ∨ q.Describes before part after :=
  Iff.rfl

theorem describes_foldl_choice {ws : List String} :
    (ws.foldl (fun p w => choice p (word w)) p).Describes before part after ↔
      p.Describes before part after ∨ ∃ w ∈ ws, part = w.toList := by
  induction ws generalizing p with
  | nil => simp
  | cons w ws ih =>
    rw [List.foldl_cons, ih, describes_choice, describes_word, List.exists_mem_cons_iff, or_assoc]

theorem describes_oneOf {ws : List String} (hws : ws ≠ []) :
    (oneOf ws).Describes before part after ↔ ∃ w ∈ ws, part = w.toList := by
  obtain ⟨w, ws, rfl⟩ := List.exists_cons_of_ne_nil hws
  rw [oneOf, describes_foldl_choice, describes_word, List.exists_mem_cons_iff]

theorem times_describes_one {has : Char → Bool} {n : ℕ} :
    (one has).Describes.times n before part after ↔
      part.length = n ∧ ∀ c ∈ part, has c = true := by
  induction n generalizing before part with
  | zero =>
    rw [times, List.length_eq_zero_iff]
    constructor
    · rintro rfl
      simp
    · exact And.left
  | succ n ih =>
    constructor
    · rintro ⟨front, back, rfl, ⟨c, hc, rfl⟩, hback⟩
      obtain ⟨hlength, hall⟩ := ih.1 hback
      simpa [hlength, hc] using hall
    · rintro ⟨hlength, hall⟩
      obtain ⟨c, cs, rfl⟩ := List.exists_cons_of_length_eq_add_one hlength
      obtain ⟨hc, hall⟩ := List.forall_mem_cons.1 hall
      exact ⟨[c], cs, rfl, ⟨c, hc, rfl⟩, ih.2 ⟨by simpa using hlength, hall⟩⟩

theorem describes_run {has : Char → Bool} {least : ℕ} :
    (repeated (one has) least none).Describes before part after ↔
      least ≤ part.length ∧ ∀ c ∈ part, has c = true := by
  constructor
  · rintro ⟨n, hn, -, htimes⟩
    obtain ⟨rfl, hall⟩ := times_describes_one.1 htimes
    exact ⟨hn, hall⟩
  · rintro ⟨hn, hall⟩
    exact ⟨part.length, hn, nofun, times_describes_one.2 ⟨rfl, hall⟩⟩

theorem times_one_iff {R : Description} :
    R.times 1 before part after ↔ R before part after := by
  constructor
  · rintro ⟨front, back, rfl, hR, rfl⟩
    simpa using hR
  · intro hR
    exact ⟨part, [], by simp, by simpa using hR, rfl⟩

theorem describes_optional :
    (repeated p 0 (some 1)).Describes before part after ↔
      part = [] ∨ p.Describes before part after := by
  constructor
  · rintro ⟨n, -, hn, htimes⟩
    obtain rfl | rfl := Nat.le_one_iff_eq_zero_or_eq_one.1 (hn 1 rfl)
    · exact .inl htimes
    · exact .inr (times_one_iff.1 htimes)
  · rintro (hpart | hp)
    · exact ⟨0, le_rfl, fun _ _ => Nat.zero_le _, hpart⟩
    · refine ⟨1, Nat.zero_le 1, ?_, times_one_iff.2 hp⟩
      rintro bound ⟨⟩
      exact le_rfl

theorem describes_textStart :
    (condition .textStart).Describes before part after ↔ part = [] ∧ before = [] := by
  have hstart : before.getLast?.isNone = true ↔ before = [] := by
    rw [Option.isNone_iff_eq_none, List.getLast?_eq_none_iff]
  exact and_congr_right fun _ => hstart

theorem describes_textEnd :
    (condition .textEnd).Describes before part after ↔ part = [] ∧ after = [] := by
  have hend : after.head?.isNone = true ↔ after = [] := by
    rw [Option.isNone_iff_eq_none, List.head?_eq_none_iff]
  exact and_congr_right fun _ => hend

theorem describes_fromStart :
    (sequence (condition .textStart) p).Describes before part after ↔
      before = [] ∧ p.Describes [] part after := by
  constructor
  · rintro ⟨front, back, rfl, hstart, hp⟩
    obtain ⟨rfl, rfl⟩ := describes_textStart.1 hstart
    exact ⟨rfl, hp⟩
  · rintro ⟨rfl, hp⟩
    exact ⟨[], part, rfl, describes_textStart.2 ⟨rfl, rfl⟩, hp⟩

theorem describes_toEnd :
    (sequence p (condition .textEnd)).Describes before part after ↔
      after = [] ∧ p.Describes before part [] := by
  constructor
  · rintro ⟨front, back, rfl, hp, hend⟩
    obtain ⟨rfl, rfl⟩ := describes_textEnd.1 hend
    rw [List.append_nil] at hp ⊢
    exact ⟨rfl, hp⟩
  · rintro ⟨rfl, hp⟩
    exact ⟨part, [], (List.append_nil part).symm, hp, describes_textEnd.2 ⟨rfl, rfl⟩⟩

theorem describes_sequence_assoc {q r : Pattern} :
    (sequence (sequence p q) r).Describes before part after ↔
      (sequence p (sequence q r)).Describes before part after := by
  constructor
  · rintro ⟨_, back, rfl, ⟨front, middle, rfl, hp, hq⟩, hr⟩
    refine ⟨front, middle ++ back, List.append_assoc .., ?_, middle, back, rfl, hq, ?_⟩
    · rwa [List.append_assoc]
    · rwa [List.append_assoc]
  · rintro ⟨front, _, rfl, hp, middle, back, rfl, hq, hr⟩
    refine ⟨front ++ middle, back, (List.append_assoc ..).symm, ⟨front, middle, rfl, ?_, hq⟩, ?_⟩
    · rwa [← List.append_assoc]
    · rwa [← List.append_assoc]

theorem isMatch_sequence_assoc {q r : Pattern} {s : List Char} :
    (sequence (sequence p q) r).isMatch s = true ↔
      (sequence p (sequence q r)).isMatch s = true := by
  simp only [isMatch_iff, describes_sequence_assoc]

end CostGate.Pattern
