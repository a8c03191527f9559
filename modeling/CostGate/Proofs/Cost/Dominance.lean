import CostGate.Cost.Price
import CostGate.Proofs.Number.Exact

/-!
# The dominant phase

Each phase has a share of the final cost of some files. In exact arithmetic the dominant phase is
the one with the largest share, the earliest of several. It depends on the proportions of the shares
alone, so neither the order of the files nor a change of the unit of cost matters.
-/
namespace CostGate

open Number

/-- A running maximum that only a larger value replaces ends at the first of the largest values. -/
theorem argmax_cons_eq_foldl {β : Type} (f : β → ℚ) (first : β) (rest : List β) :
    (first :: rest).argmax f =
      some (rest.foldl (fun best x => if f best < f x then x else best) first) := by
  have hfold : ∀ best, rest.foldl (List.argAux fun x y => f y < f x) (some best) =
      some (rest.foldl (fun best x => if f best < f x then x else best) best) := by
    induction rest with
    | nil => intro best; rfl
    | cons x rest ih =>
      intro best
      rw [List.foldl_cons, List.foldl_cons, ← ih]
      congr 1
      simp only [List.argAux]
      split_ifs <;> rfl
  exact hfold first

theorem total_rat (xs : List ℚ) : total xs = xs.sum := by
  have hzero : (0.0 : ℚ) = 0 := by norm_num
  unfold total
  rw [hzero, List.sum_eq_foldl]

/-- The final cost of all files of a phase. -/
def shareOf (costs : List (Phase × ℚ)) (p : Phase) : ℚ :=
  ((costs.filter fun entry => entry.1 = p).map (·.2)).sum

theorem costOfPhase_eq (costs : List (Phase × ℚ)) (p : Phase) :
    costOfPhase costs p = shareOf costs p :=
  total_rat _

theorem shareOf_cons (q : Phase) (cost : ℚ) (costs : List (Phase × ℚ)) (p : Phase) :
    shareOf ((q, cost) :: costs) p = (if q = p then cost else 0) + shareOf costs p := by
  by_cases h : q = p <;> simp [shareOf, h]

theorem sum_shareOf (costs : List (Phase × ℚ)) :
    (Phase.all.map (shareOf costs)).sum = (costs.map (·.2)).sum := by
  induction costs with
  | nil => simp [shareOf, Phase.all]
  | cons entry costs ih =>
    obtain ⟨q, cost⟩ := entry
    have hone : (Phase.all.map fun p => if q = p then cost else 0).sum = cost := by
      cases q <;> simp [Phase.all]
    have hcons : shareOf ((q, cost) :: costs) =
        fun p => (if q = p then cost else 0) + shareOf costs p :=
      funext (shareOf_cons q cost costs)
    rw [hcons, List.sum_map_add, hone, ih, List.map_cons, List.sum_cons]

theorem shareOf_perm {costs costs' : List (Phase × ℚ)} (h : costs'.Perm costs) (p : Phase) :
    shareOf costs' p = shareOf costs p :=
  ((h.filter _).map _).sum_eq

theorem shareOf_scaled (costs : List (Phase × ℚ)) (k : ℚ) (p : Phase) :
    shareOf (costs.map fun entry => (entry.1, k * entry.2)) p = k * shareOf costs p := by
  induction costs with
  | nil => simp [shareOf]
  | cons entry costs ih =>
    rw [List.map_cons, shareOf_cons, ih, shareOf_cons, mul_add, mul_ite, mul_zero]

/-- The earliest phase with the largest share. -/
structure Dominates (costs : List (Phase × ℚ)) (p : Phase) : Prop where
  le : ∀ q, shareOf costs q ≤ shareOf costs p
  lt : ∀ q, Phase.all.idxOf q < Phase.all.idxOf p → shareOf costs q < shareOf costs p

theorem Phase.mem_all (p : Phase) : p ∈ all := by
  cases p <;> decide

theorem dominates_iff {costs : List (Phase × ℚ)} {p : Phase} :
    Dominates costs p ↔ Phase.all.argmax (shareOf costs) = some p := by
  rw [List.argmax_eq_some_iff]
  constructor
  · rintro ⟨hle, hlt⟩
    refine ⟨p.mem_all, fun q _ => hle q, fun q _ hq => ?_⟩
    by_contra hearlier
    exact (hlt q (not_le.1 hearlier)).not_ge hq
  · rintro ⟨-, hle, hearliest⟩
    refine ⟨fun q => hle q q.mem_all, fun q hearlier => ?_⟩
    by_contra hlt
    exact (hearliest q q.mem_all (not_lt.1 hlt)).not_gt hearlier

theorem dominantPhase_eq (costs : List (Phase × ℚ)) :
    dominantPhase costs = if (costs.map (·.2)).sum ≤ 0 then .implementation
      else Phase.all.foldl
        (fun best p => if shareOf costs best < shareOf costs p then p else best) .design := by
  have hzero : (0.0 : ℚ) = 0 := by norm_num
  have hshares : costOfPhase costs = shareOf costs := funext (costOfPhase_eq costs)
  unfold dominantPhase
  dsimp only
  rw [total_rat, hshares, sum_shareOf, hzero]

/-- With a positive cost, the dominant phase is the earliest with the largest share. -/
theorem dominantPhase_eq_iff {costs : List (Phase × ℚ)} (h : 0 < (costs.map (·.2)).sum)
    {p : Phase} : dominantPhase costs = p ↔ Dominates costs p := by
  have hfirst : Phase.all = .design :: Phase.all.tail := rfl
  rw [dominates_iff, dominantPhase_eq, if_neg h.not_ge, hfirst, argmax_cons_eq_foldl,
    List.foldl_cons, if_neg (lt_irrefl _), Option.some_inj]

theorem dominates_congr {costs costs' : List (Phase × ℚ)} {k : ℚ} (hk : 0 < k)
    (h : ∀ p, shareOf costs' p = k * shareOf costs p) (p : Phase) :
    Dominates costs' p ↔ Dominates costs p := by
  constructor
  · rintro ⟨hle, hlt⟩
    simp only [h, mul_le_mul_iff_right₀ hk, mul_lt_mul_iff_right₀ hk] at hle hlt
    exact ⟨hle, hlt⟩
  · rintro ⟨hle, hlt⟩
    constructor
    · intro q
      rw [h, h]
      exact mul_le_mul_of_nonneg_left (hle q) hk.le
    · intro q hearlier
      rw [h, h]
      exact mul_lt_mul_of_pos_left (hlt q hearlier) hk

/-- Proportional shares have one dominant phase. -/
theorem dominantPhase_congr {costs costs' : List (Phase × ℚ)} {k : ℚ} (hk : 0 < k)
    (h : ∀ p, shareOf costs' p = k * shareOf costs p) :
    dominantPhase costs' = dominantPhase costs := by
  have hsum : (costs'.map (·.2)).sum = k * (costs.map (·.2)).sum := by
    rw [← sum_shareOf, ← sum_shareOf, ← List.sum_map_mul_left, funext h]
  rcases le_or_gt (costs.map (·.2)).sum 0 with hle | hpos
  · have hle' : (costs'.map (·.2)).sum ≤ 0 := by
      rw [hsum]
      exact mul_nonpos_of_nonneg_of_nonpos hk.le hle
    rw [dominantPhase_eq, dominantPhase_eq, if_pos hle, if_pos hle']
  · have hpos' : 0 < (costs'.map (·.2)).sum := by
      rw [hsum]
      exact mul_pos hk hpos
    rw [dominantPhase_eq_iff hpos', dominates_congr hk h, ← dominantPhase_eq_iff hpos]

/-- Files without cost are implementation. Otherwise the dominant phase is the earliest with the
largest share of the cost, in whatever order the files come and whatever the unit of cost. -/
theorem dominantPhase_earliest {costs : List (Phase × ℚ)} (h : ∀ entry ∈ costs, 0 ≤ entry.2) :
    ((costs.map (·.2)).sum = 0 → dominantPhase costs = .implementation) ∧
      ((costs.map (·.2)).sum ≠ 0 → ∀ p, dominantPhase costs = p ↔ Dominates costs p) ∧
      (∀ costs', costs'.Perm costs → dominantPhase costs' = dominantPhase costs) ∧
      ∀ k : ℚ, 0 < k →
        dominantPhase (costs.map fun entry => (entry.1, k * entry.2)) = dominantPhase costs := by
  have hnonneg : 0 ≤ (costs.map (·.2)).sum := by
    apply List.sum_nonneg
    simpa using fun cost p hmem => h (p, cost) hmem
  refine ⟨?_, ?_, ?_, ?_⟩
  · intro hzero
    rw [dominantPhase_eq, if_pos hzero.le]
  · intro hne p
    exact dominantPhase_eq_iff (lt_of_le_of_ne hnonneg hne.symm)
  · intro costs' hperm
    apply dominantPhase_congr one_pos
    intro p
    rw [shareOf_perm hperm, one_mul]
  · intro k hk
    exact dominantPhase_congr hk (shareOf_scaled costs k)

/-- Validation and deployment have equal shares; the file of deployment comes first. -/
def tiedCosts : List (Phase × ℚ) :=
  [(.deployment, 3 / 10), (.validation, 1 / 10), (.design, 1 / 4), (.validation, 1 / 5)]

theorem dominantPhase_earliest_tied :
    shareOf tiedCosts .validation = shareOf tiedCosts .deployment ∧
      dominantPhase tiedCosts = .validation ∧
      dominantPhase (tiedCosts.map fun entry => (entry.1, 1000 * entry.2)) = .validation := by
  have hnonneg : ∀ entry ∈ tiedCosts, 0 ≤ entry.2 := by decide +kernel
  have hne : (tiedCosts.map (·.2)).sum ≠ 0 := by decide +kernel
  have hdominates : Dominates tiedCosts .validation := by
    constructor
    · intro q
      cases q <;> decide +kernel
    · intro q
      cases q <;> decide +kernel
  obtain ⟨-, hlargest, -, hscaled⟩ := dominantPhase_earliest hnonneg
  have hphase := (hlargest hne .validation).2 hdominates
  refine ⟨?_, hphase, (hscaled 1000 (by norm_num)).trans hphase⟩
  decide +kernel

end CostGate
