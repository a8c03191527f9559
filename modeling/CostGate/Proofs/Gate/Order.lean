import CostGate.Gate.Violation
import CostGate.Proofs.Number.Lawful

/-!
# The order of violations

Sorting keeps the violations and puts higher ratios first, and equal ratios in the order of their
paths. Ratios have to be defined for that; on them the order is total.
-/
namespace CostGate.Violation

open Number Number.LawfulQuantity

variable {α : Type} [Quantity α]

/-- A violation that may be reported in front of another one. -/
def Precedes (v w : Violation α) : Prop :=
  w.ratio < v.ratio ∨ (w.ratio ≤ v.ratio ∧ v.ratio ≤ w.ratio ∧ v.path ≤ w.path)

theorem insertReversed_perm (v : Violation α) (ws : List (Violation α)) :
    (insertReversed v ws).Perm (v :: ws) := by
  induction ws with
  | nil => exact List.Perm.refl _
  | cons w ws ih =>
    rw [insertReversed]
    split_ifs
    · exact (ih.cons w).trans (List.Perm.swap v w ws)
    · exact List.Perm.refl _

theorem foldl_insertReversed_perm (vs acc : List (Violation α)) :
    (vs.foldl (fun sorted v => insertReversed v sorted) acc).Perm (vs ++ acc) := by
  induction vs generalizing acc with
  | nil => exact List.Perm.refl _
  | cons v vs ih =>
    have hinsert := (insertReversed_perm v acc).append_left vs
    exact (ih _).trans (hinsert.trans List.perm_middle)

theorem sort_perm (vs : List (Violation α)) : (sort vs).Perm vs := by
  have h := foldl_insertReversed_perm vs []
  rw [List.append_nil] at h
  exact (List.reverse_perm _).trans h

@[simp] theorem length_sort (vs : List (Violation α)) : (sort vs).length = vs.length :=
  (sort_perm vs).length_eq

@[simp] theorem mem_sort {v : Violation α} {vs : List (Violation α)} : v ∈ sort vs ↔ v ∈ vs :=
  (sort_perm vs).mem_iff

variable [LawfulQuantity α]

theorem Precedes.trans {u v w : Violation α} (huv : Precedes u v) (hvw : Precedes v w) :
    Precedes u w := by
  rcases huv with huv | ⟨huv, huv', hpath⟩
  · rcases hvw with hvw | ⟨hvw, -, -⟩
    · exact .inl (lt_of_lt_of_le hvw (le_of_lt huv))
    · exact .inl (lt_of_le_of_lt hvw huv)
  · rcases hvw with hvw | ⟨hvw, hvw', hpath'⟩
    · exact .inl (lt_of_lt_of_le hvw huv)
    · exact .inr ⟨le_trans hvw huv, le_trans huv' hvw', hpath.trans hpath'⟩

theorem precedes_of_before {v w : Violation α} (hv : isUndefined v.ratio = false)
    (hw : isUndefined w.ratio = false) :
    if v.before w then Precedes v w else Precedes w v := by
  by_cases hgt : w.ratio < v.ratio
  · rw [before, if_pos hgt, if_pos rfl]
    exact .inl hgt
  by_cases hlt : v.ratio < w.ratio
  · rw [before, if_neg hgt, if_pos hlt, if_neg Bool.false_ne_true]
    exact .inl hlt
  have hle := le_of_not_lt hw hv hgt
  have hge := le_of_not_lt hv hw hlt
  rw [before, if_neg hgt, if_neg hlt]
  split_ifs with hpath <;> rw [decide_eq_true_iff] at hpath
  · exact .inr ⟨hge, hle, hpath.le⟩
  · exact .inr ⟨hle, hge, not_lt.1 hpath⟩

theorem insertReversed_pairwise {v : Violation α} {ws : List (Violation α)}
    (hv : isUndefined v.ratio = false) (hws : ∀ w ∈ ws, isUndefined w.ratio = false)
    (h : ws.Pairwise fun w u => Precedes u w) :
    (insertReversed v ws).Pairwise fun w u => Precedes u w := by
  induction ws with
  | nil => exact List.pairwise_singleton _ v
  | cons w ws ih =>
    obtain ⟨hw, hrest⟩ := List.pairwise_cons.1 h
    have hdecide := precedes_of_before hv (hws w List.mem_cons_self)
    rw [insertReversed]
    split_ifs with hbefore
    · rw [if_pos hbefore] at hdecide
      refine List.pairwise_cons.2 ⟨fun u hu => ?_, ?_⟩
      · rcases List.mem_cons.1 ((insertReversed_perm v ws).mem_iff.1 hu) with rfl | hu
        · exact hdecide
        · exact hw u hu
      · exact ih (fun u hu => hws u (List.mem_cons_of_mem w hu)) hrest
    · rw [if_neg hbefore] at hdecide
      refine List.pairwise_cons.2 ⟨fun u hu => ?_, h⟩
      rcases List.mem_cons.1 hu with rfl | hu
      · exact hdecide
      · exact (hw u hu).trans hdecide

theorem foldl_insertReversed_pairwise {vs acc : List (Violation α)}
    (hvs : ∀ v ∈ vs, isUndefined v.ratio = false) (hacc : ∀ w ∈ acc, isUndefined w.ratio = false)
    (h : acc.Pairwise fun w u => Precedes u w) :
    (vs.foldl (fun sorted v => insertReversed v sorted) acc).Pairwise fun w u => Precedes u w := by
  induction vs generalizing acc with
  | nil => exact h
  | cons v vs ih =>
    obtain ⟨hv, hvs⟩ := List.forall_mem_cons.1 hvs
    refine ih hvs (fun w hw => ?_) (insertReversed_pairwise hv hacc h)
    rcases List.mem_cons.1 ((insertReversed_perm v acc).mem_iff.1 hw) with rfl | hw
    · exact hv
    · exact hacc w hw

theorem sort_pairwise {vs : List (Violation α)} (h : ∀ v ∈ vs, isUndefined v.ratio = false) :
    (sort vs).Pairwise Precedes :=
  List.pairwise_reverse.2 (foldl_insertReversed_pairwise h (by simp) List.Pairwise.nil)

theorem before_eq_false_of_precedes {v w : Violation α} (h : Precedes w v) :
    v.before w = false := by
  rcases h with hlt | ⟨hle, hge, hpath⟩
  · rw [before, if_neg (not_lt_of_le (le_of_lt hlt)), if_pos hlt]
  · rw [before, if_neg (not_lt_of_le hge), if_neg (not_lt_of_le hle)]
    exact decide_eq_false hpath.not_gt

theorem insertReversed_of_precedes {v : Violation α} {ws : List (Violation α)}
    (h : ∀ w ∈ ws, Precedes w v) : insertReversed v ws = v :: ws := by
  cases ws with
  | nil => rfl
  | cons w ws =>
    rw [insertReversed, before_eq_false_of_precedes (h w List.mem_cons_self),
      if_neg Bool.false_ne_true]

theorem foldl_insertReversed_of_pairwise {vs acc : List (Violation α)}
    (hvs : vs.Pairwise Precedes) (hacc : ∀ v ∈ vs, ∀ w ∈ acc, Precedes w v) :
    vs.foldl (fun sorted v => insertReversed v sorted) acc = vs.reverse ++ acc := by
  induction vs generalizing acc with
  | nil => rfl
  | cons v vs ih =>
    obtain ⟨hv, hvs⟩ := List.pairwise_cons.1 hvs
    obtain ⟨haccv, hacc⟩ := List.forall_mem_cons.1 hacc
    rw [List.foldl_cons, insertReversed_of_precedes haccv, ih hvs, List.reverse_cons,
      List.append_assoc, List.singleton_append]
    intro u hu
    exact List.forall_mem_cons.2 ⟨hv u hu, hacc u hu⟩

/-- What is in order stays as it is, equal violations included. -/
theorem sort_of_pairwise {vs : List (Violation α)} (h : vs.Pairwise Precedes) : sort vs = vs := by
  rw [sort, foldl_insertReversed_of_pairwise h (by simp), List.append_nil, List.reverse_reverse]

theorem Precedes.path_eq {v w : Violation α} (hvw : Precedes v w) (hwv : Precedes w v) :
    v.path = w.path := by
  rcases hvw with hlt | ⟨hle, hge, hpath⟩
  · rcases hwv with hlt' | ⟨hle', -, -⟩
    · exact absurd (le_of_lt hlt') (not_le_of_lt hlt)
    · exact absurd hle' (not_le_of_lt hlt)
  · rcases hwv with hlt' | ⟨-, -, hpath'⟩
    · exact absurd hle (not_le_of_lt hlt')
    · exact le_antisymm hpath hpath'

/-- Violations of different paths have one order only. -/
theorem sort_eq_sort_of_perm {vs ws : List (Violation α)} (hperm : vs.Perm ws)
    (hpaths : (vs.map (·.path)).Nodup) (hdefined : ∀ v ∈ vs, isUndefined v.ratio = false) :
    sort vs = sort ws := by
  have hdefined' : ∀ w ∈ ws, isUndefined w.ratio = false :=
    fun w hw => hdefined w (hperm.mem_iff.2 hw)
  have hsorted := (sort_perm vs).trans (hperm.trans (sort_perm ws).symm)
  refine List.Perm.eq_of_pairwise ?_ (sort_pairwise hdefined) (sort_pairwise hdefined') hsorted
  intro v w hv hw hvw hwv
  exact List.inj_on_of_nodup_map hpaths (mem_sort.1 hv) (hperm.mem_iff.2 (mem_sort.1 hw))
    (hvw.path_eq hwv)

end CostGate.Violation
