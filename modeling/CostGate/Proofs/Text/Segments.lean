import CostGate.Proofs.Text.Lines

/-!
# Segments of a path

The texts between the slashes of a path. A path is its segments with slashes in between, so a part
of the path that lies between slashes is a run of its segments, and the other way round.
-/
namespace CostGate.Text

def segments (path : List Char) : List (List Char) := pieces (· == '/') path

theorem segments_ne_nil (path : List Char) : segments path ≠ [] := pieces_ne_nil _ path

theorem segments_append_slash (s t : List Char) :
    segments (s ++ '/' :: t) = segments s ++ segments t :=
  pieces_append rfl s t

theorem segments_of_not_mem {s : List Char} (h : '/' ∉ s) : segments s = [s] :=
  pieces_of_forall fun _ hc => beq_false_of_ne fun heq => h (heq ▸ hc)

theorem segments_eq_splitOn (s : List Char) : segments s = s.splitOn '/' := by
  rw [segments, List.splitOn_eq_splitOnP]
  induction s with
  | nil => rfl
  | cons c s ih =>
    obtain ⟨w, ws, hw⟩ := List.exists_cons_of_ne_nil (pieces_ne_nil (· == '/') s)
    rw [List.splitOnP_cons_eq_if_modifyHead, ← ih, pieces, hw]
    rfl

theorem intercalate_segments (s : List Char) : ['/'].intercalate (segments s) = s := by
  rw [segments_eq_splitOn, List.intercalate_splitOn]

theorem intercalate_append {xs ys : List (List Char)} (hxs : xs ≠ []) (hys : ys ≠ []) :
    ['/'].intercalate (xs ++ ys) = ['/'].intercalate xs ++ '/' :: ['/'].intercalate ys := by
  induction xs with
  | nil => exact absurd rfl hxs
  | cons x xs ih =>
    rcases eq_or_ne xs [] with rfl | hne
    · rw [List.singleton_append, List.intercalate_cons_of_ne_nil hys, List.intercalate_singleton,
        List.append_assoc, List.singleton_append]
    · have happend : xs ++ ys ≠ [] := List.append_ne_nil_of_left_ne_nil hne _
      rw [List.cons_append, List.intercalate_cons_of_ne_nil happend,
        List.intercalate_cons_of_ne_nil hne, ih hne]
      simp only [List.append_assoc]

/-- Cutting the segments in two cuts the path at a slash. -/
theorem eq_of_segments_eq_append {path : List Char} {xs ys : List (List Char)}
    (h : segments path = xs ++ ys) (hxs : xs ≠ []) (hys : ys ≠ []) :
    path = ['/'].intercalate xs ++ '/' :: ['/'].intercalate ys := by
  rw [← intercalate_append hxs hys, ← h, intercalate_segments]

/-- The segments of a text are a run among those of a path, with more of them to follow, if the
text stands between slashes there or in front of the first one. -/
theorem segments_run_iff {text path : List Char} :
    (∃ before after, after ≠ [] ∧ segments path = before ++ segments text ++ after) ↔
      '/' :: text ++ ['/'] <:+: path ∨ text ++ ['/'] <+: path := by
  constructor
  · rintro ⟨before, after, hafter, h⟩
    have hpath := eq_of_segments_eq_append h (by simp [segments_ne_nil]) hafter
    rcases eq_or_ne before [] with rfl | hbefore
    · rw [List.nil_append, intercalate_segments] at hpath
      exact .inr ⟨_, by simpa using hpath.symm⟩
    · rw [intercalate_append hbefore (segments_ne_nil text), intercalate_segments] at hpath
      exact .inl ⟨_, _, by simpa using hpath.symm⟩
  · rintro (⟨before, after, rfl⟩ | ⟨after, rfl⟩)
    · have hpath : before ++ ('/' :: text ++ ['/']) ++ after =
          before ++ '/' :: (text ++ '/' :: after) := by simp
      refine ⟨segments before, segments after, segments_ne_nil after, ?_⟩
      rw [hpath, segments_append_slash, segments_append_slash, List.append_assoc]
    · refine ⟨[], segments after, segments_ne_nil after, ?_⟩
      rw [List.append_assoc, List.singleton_append, segments_append_slash, List.nil_append]

theorem segments_run_singleton_iff {text path : List Char} (h : '/' ∉ text) :
    (∃ before after, after ≠ [] ∧ segments path = before ++ segments text ++ after) ↔
      text ∈ (segments path).dropLast := by
  rw [segments_of_not_mem h]
  constructor
  · rintro ⟨before, after, hafter, heq⟩
    rw [heq, List.dropLast_append_of_ne_nil hafter]
    simp
  · intro hmem
    obtain ⟨before, after, heq⟩ := List.append_of_mem hmem
    refine ⟨before, after ++ [(segments path).getLast (segments_ne_nil path)], by simp, ?_⟩
    conv_lhs => rw [← List.dropLast_append_getLast (segments_ne_nil path), heq]
    simp

end CostGate.Text
