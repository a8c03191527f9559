import CostGate.Proofs.Text.Runs
import CostGate.Source.Measure

/-!
# Complexity by runs

The scan of a line adds up what the runs of the line are worth, each by itself: the runs of word
characters by the words in them, the runs of an operator sign by their length. The scan can stop
in the middle of a run; all that matters of the text before that point is whether it ends with a
colon, because a run of colons is worth something only as a whole.
-/
namespace CostGate.Source

open Text (beq_eq_false_of_not_mem runs sumOverRuns takeWhile_beq_eq_nil)
open Number (ofCount)

/-- The word in a run of word characters, behind the digits in front of it. -/
def wordOf (run : List Char) : List Char := run.dropWhile fun c => !startsWord c

def wordQuarters : List Char → ℕ :=
  sumOverRuns continuesWord fun run => keywordQuarters (wordOf run)

def pairQuarters (sign : Char) : List Char → ℕ :=
  sumOverRuns (· == sign) fun run => logicalQuarters * (run.length / 2)

/-- The quarters of the colons of a text that stand alone. -/
def colonQuarters : List Char → ℕ :=
  sumOverRuns (· == ':') fun run => if run.length = 1 then conditionalQuarters else 0

/-- Where the next run of colons is looked for in a text behind the character `before`. -/
def freshColons (before : Option Char) (s : List Char) : List Char :=
  if before = some ':' then s.dropWhile (· == ':') else s

/-- What the runs of a text behind the character `before` are worth. -/
def runQuarters (before : Option Char) (s : List Char) : ℕ :=
  wordQuarters s + pairQuarters '&' s + pairQuarters '|' s + conditionalQuarters * s.count '?' +
    colonQuarters (freshColons before s)

variable {c sign : Char}

theorem continuesWord_of_startsWord (h : startsWord c = true) : continuesWord c = true := by
  simp only [startsWord, continuesWord, Text.isAlphanumeric, Bool.or_eq_true] at h ⊢
  exact h.imp_left .inl

theorem wordQuarters_cons_of_startsWord (h : startsWord c = true) (s : List Char) :
    wordQuarters (c :: s) =
      keywordQuarters (c :: s.takeWhile continuesWord) +
        wordQuarters (s.dropWhile continuesWord) := by
  have hword : wordOf (c :: s.takeWhile continuesWord) = c :: s.takeWhile continuesWord :=
    List.dropWhile_cons_of_neg (by simp [h])
  rw [wordQuarters, Text.sumOverRuns_cons_of_pos (continuesWord_of_startsWord h), hword]

/-- A character that starts no word is passed over, also where it belongs to a run. -/
theorem wordQuarters_cons_of_not_startsWord (h : startsWord c = false) (s : List Char) :
    wordQuarters (c :: s) = wordQuarters s := by
  cases hc : continuesWord c with
  | false => exact Text.sumOverRuns_cons_of_neg hc s
  | true =>
    have hword : wordOf ([c] ++ s.takeWhile continuesWord) = wordOf (s.takeWhile continuesWord) :=
      List.dropWhile_cons_of_pos (by simp [h])
    have happend : wordQuarters ([c] ++ s) = 0 + wordQuarters s :=
      Text.sumOverRuns_append rfl (List.forall_mem_singleton.2 hc) (by rw [hword, Nat.zero_add])
    exact happend.trans (Nat.zero_add _)

theorem pairQuarters_append_of_not_mem {front : List Char} (h : sign ∉ front) (s : List Char) :
    pairQuarters sign (front ++ s) = pairQuarters sign s :=
  Text.sumOverRuns_append_of_forall (beq_eq_false_of_not_mem h) s

theorem pairQuarters_cons_of_ne (h : c ≠ sign) (s : List Char) :
    pairQuarters sign (c :: s) = pairQuarters sign s :=
  Text.sumOverRuns_cons_of_neg (p := (· == sign)) (beq_false_of_ne h) s

theorem pairQuarters_pair (s : List Char) :
    pairQuarters sign (sign :: sign :: s) = logicalQuarters + pairQuarters sign s := by
  have hlength : ([sign, sign] ++ s.takeWhile (· == sign)).length =
      (s.takeWhile (· == sign)).length + 2 := by simp
  change pairQuarters sign ([sign, sign] ++ s) = _
  refine Text.sumOverRuns_append rfl (by simp) ?_
  rw [hlength, Nat.add_div_right _ two_pos, Nat.mul_succ, Nat.add_comm]

theorem pairQuarters_cons_of_head? {s : List Char} (h : ¬ (c = sign ∧ s.head? = some sign)) :
    pairQuarters sign (c :: s) = pairQuarters sign s := by
  by_cases hc : c = sign
  · subst hc
    have hrun : s.takeWhile (· == c) = [] := takeWhile_beq_eq_nil fun hnext => h ⟨rfl, hnext⟩
    have happend : pairQuarters c ([c] ++ s) = 0 + pairQuarters c s := by
      refine Text.sumOverRuns_append rfl (by simp) ?_
      simp [hrun]
    exact happend.trans (Nat.zero_add _)
  · exact pairQuarters_cons_of_ne hc s

/-- Behind a colon a run of colons has been looked at already. -/
theorem freshColons_colon (s : List Char) :
    freshColons (some ':') (':' :: s) = freshColons (some ':') s := by
  rw [freshColons, freshColons, if_pos rfl, if_pos rfl, List.dropWhile_cons_of_pos rfl]

theorem freshColons_of_ne {before : Option Char} (h : before ≠ some ':') (s : List Char) :
    freshColons before s = s :=
  if_neg h

/-- A colon that another one follows is worth nothing, and neither is that one. -/
theorem colonQuarters_freshColons_pair (before : Option Char) (s : List Char) :
    colonQuarters (freshColons before (':' :: ':' :: s)) =
      colonQuarters (freshColons (some ':') s) := by
  by_cases hbefore : before = some ':'
  · rw [hbefore, freshColons_colon, freshColons_colon]
  · have hrun : (':' :: (':' :: s).takeWhile (· == ':')).length ≠ 1 := by
      rw [List.takeWhile_cons_of_pos rfl]
      simp
    rw [freshColons_of_ne hbefore, colonQuarters, Text.sumOverRuns_cons_of_pos rfl, if_neg hrun,
      Nat.zero_add, List.dropWhile_cons_of_pos rfl]
    rfl

theorem colonQuarters_single {s : List Char} (h : s.head? ≠ some ':') :
    colonQuarters (':' :: s) = conditionalQuarters + colonQuarters (freshColons (some ':') s) := by
  rw [colonQuarters, Text.sumOverRuns_cons_of_pos rfl, takeWhile_beq_eq_nil h]
  rfl

theorem freshColons_cons_of_ne (h : c ≠ ':') (before : Option Char) (s : List Char) :
    freshColons before (c :: s) = c :: s := by
  rw [freshColons, List.dropWhile_cons_of_neg (by simpa using h), ite_self]

theorem colonQuarters_append_of_not_mem {front : List Char} (h : ':' ∉ front) (s : List Char) :
    colonQuarters (front ++ s) = colonQuarters s :=
  Text.sumOverRuns_append_of_forall (beq_eq_false_of_not_mem h) s

theorem colonQuarters_freshColons (h : c ≠ ':') (before : Option Char) (s : List Char) :
    colonQuarters (freshColons before (c :: s)) = colonQuarters (freshColons (some c) s) := by
  rw [freshColons_cons_of_ne h, freshColons_of_ne (by simpa using h)]
  exact Text.sumOverRuns_cons_of_neg (p := (· == ':')) (beq_false_of_ne h) s

theorem runQuarters_nil (before : Option Char) : runQuarters before [] = 0 := by
  have hfresh : freshColons before [] = [] := ite_self _
  rw [runQuarters, hfresh]
  simp [wordQuarters, pairQuarters, colonQuarters, sumOverRuns]

theorem runQuarters_word (hc : startsWord c = true) (before : Option Char) (s : List Char) :
    runQuarters before (c :: s) =
      keywordQuarters (c :: s.takeWhile continuesWord) +
        runQuarters (some c) (s.dropWhile continuesWord) := by
  have hcolon : c ≠ ':' := by
    rintro rfl
    exact absurd hc (by decide)
  have hsplit : c :: s = (c :: s.takeWhile continuesWord) ++ s.dropWhile continuesWord := by
    rw [List.cons_append, List.takeWhile_append_dropWhile]
  have hmem {sign : Char} (hsign : continuesWord sign = false) :
      sign ∉ c :: s.takeWhile continuesWord := by
    rw [← List.takeWhile_cons_of_pos (continuesWord_of_startsWord hc)]
    exact Text.not_mem_takeWhile hsign _
  rw [runQuarters, wordQuarters_cons_of_startsWord hc, freshColons_cons_of_ne hcolon, hsplit,
    pairQuarters_append_of_not_mem (hmem (by decide)),
    pairQuarters_append_of_not_mem (hmem (by decide)), List.count_append,
    List.count_eq_zero_of_not_mem (hmem (by decide)), Nat.zero_add,
    colonQuarters_append_of_not_mem (hmem (by decide)), runQuarters,
    freshColons_of_ne (by simpa using hcolon)]
  omega

theorem runQuarters_pair (hsign : sign = '&' ∨ sign = '|') (before : Option Char) (s : List Char) :
    runQuarters before (sign :: sign :: s) = logicalQuarters + runQuarters (some sign) s := by
  have hword : startsWord sign = false := by rcases hsign with rfl | rfl <;> decide
  have hquestion : sign ≠ '?' := by rcases hsign with rfl | rfl <;> decide
  have hcolon : sign ≠ ':' := by rcases hsign with rfl | rfl <;> decide
  rw [runQuarters, wordQuarters_cons_of_not_startsWord hword,
    wordQuarters_cons_of_not_startsWord hword, List.count_cons_of_ne hquestion,
    List.count_cons_of_ne hquestion, colonQuarters_freshColons hcolon,
    colonQuarters_freshColons hcolon, runQuarters]
  rcases hsign with rfl | rfl
  · rw [pairQuarters_pair, pairQuarters_cons_of_ne (by decide), pairQuarters_cons_of_ne (by decide)]
    omega
  · rw [pairQuarters_pair, pairQuarters_cons_of_ne (by decide), pairQuarters_cons_of_ne (by decide)]
    omega

theorem runQuarters_question (before : Option Char) (s : List Char) :
    runQuarters before ('?' :: s) = conditionalQuarters + runQuarters (some '?') s := by
  rw [runQuarters, wordQuarters_cons_of_not_startsWord (by decide),
    pairQuarters_cons_of_ne (by decide), pairQuarters_cons_of_ne (by decide), List.count_cons_self,
    colonQuarters_freshColons (by decide), runQuarters, Nat.mul_succ]
  omega

/-- Of the text behind a colon only the colons depend on it. -/
theorem runQuarters_colon (before : Option Char) (s : List Char) :
    runQuarters before (':' :: s) + colonQuarters (freshColons (some ':') s) =
      runQuarters (some ':') s + colonQuarters (freshColons before (':' :: s)) := by
  rw [runQuarters, wordQuarters_cons_of_not_startsWord (by decide),
    pairQuarters_cons_of_ne (by decide), pairQuarters_cons_of_ne (by decide),
    List.count_cons_of_ne (by decide), runQuarters]
  omega

theorem runQuarters_other {s : List Char} (hword : startsWord c = false)
    (hand : ¬ (c = '&' ∧ s.head? = some '&')) (hor : ¬ (c = '|' ∧ s.head? = some '|'))
    (hquestion : c ≠ '?') (hcolon : c ≠ ':') (before : Option Char) :
    runQuarters before (c :: s) = runQuarters (some c) s := by
  rw [runQuarters, wordQuarters_cons_of_not_startsWord hword, pairQuarters_cons_of_head? hand,
    pairQuarters_cons_of_head? hor, List.count_cons_of_ne hquestion,
    colonQuarters_freshColons hcolon, runQuarters]

/-- The scan adds up what the runs are worth, wherever it stands. -/
theorem quartersAfter_eq (before : Option Char) (s : List Char) :
    quartersAfter before s = runQuarters before s := by
  -- A word and a pair of signs are scanned whole, a run of colons by twos: of the character before
  -- it is enough to know whether it is a colon, and `freshColons` keeps that.
  fun_induction quartersAfter before s with
  | case1 before => exact (runQuarters_nil before).symm
  | case2 before c rest hc ih => rw [ih, runQuarters_word hc]
  | case3 before c rest _ hpair ih =>
    obtain ⟨rfl, hnext⟩ := hpair
    obtain ⟨s, rfl⟩ := List.head?_eq_some_iff.1 hnext
    rw [ih, runQuarters_pair (.inl rfl), List.tail_cons]
  | case4 before c rest _ _ hpair ih =>
    obtain ⟨rfl, hnext⟩ := hpair
    obtain ⟨s, rfl⟩ := List.head?_eq_some_iff.1 hnext
    rw [ih, runQuarters_pair (.inr rfl), List.tail_cons]
  | case5 before rest _ _ _ ih => rw [ih, runQuarters_question]
  | case6 before rest hnext _ _ _ _ ih =>
    obtain ⟨s, rfl⟩ := List.head?_eq_some_iff.1 hnext
    have hfirst := runQuarters_colon before (':' :: s)
    have hsecond := runQuarters_colon (some ':') s
    rw [colonQuarters_freshColons_pair] at hfirst
    rw [freshColons_colon] at hfirst hsecond
    rw [ih, List.tail_cons]
    omega
  | case7 rest hnext _ _ _ _ ih =>
    have hcolon := runQuarters_colon (some ':') rest
    rw [freshColons_colon] at hcolon
    rw [ih]
    omega
  | case8 before rest hnext hbefore _ _ _ _ ih =>
    have hcolon := runQuarters_colon before rest
    rw [freshColons_of_ne hbefore, colonQuarters_single hnext] at hcolon
    rw [ih]
    omega
  | case9 before c rest hc hand hor hquestion hcolon ih =>
    rw [ih, runQuarters_other (by simpa using hc) hand hor hquestion hcolon]

def keywordWeight (word : List Char) : ℚ := ofCount (keywordQuarters word) * 0.25

theorem sumOverRuns_mul_quarter (p : Char → Bool) (f : List Char → ℕ) (s : List Char) :
    (sumOverRuns p f s : ℚ) * 0.25 = ((runs p s).map fun run => (f run : ℚ) * 0.25).sum := by
  rw [sumOverRuns]
  induction runs p s with
  | nil => norm_num
  | cons run runs ih =>
    rw [List.map_cons, List.sum_cons, List.map_cons, List.sum_cons, Nat.cast_add, add_mul, ih]

end CostGate.Source
