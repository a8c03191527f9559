import CostGate.Proofs.Text.Lines

/-!
# Words that go on

A text that is put together from two parts has the words of both, but where it is not cut between
them, the last word of the first part goes on in the first word of the second. The pieces between
separators are joined in this way, and so are the parts of a list that is split by a relation.
-/
namespace CostGate.Text

variable {α β : Type}

/-- Two lists of words that have been put together to a third one, where the last word of the first
list goes on in the first word of the second. -/
def Joined (xs ys zs : List (List α)) : Prop :=
  ∃ front w w' back, xs = front ++ [w] ∧ ys = w' :: back ∧ zs = front ++ (w ++ w') :: back

namespace Joined

variable {xs ys zs : List (List α)}

theorem length_add_one (h : Joined xs ys zs) : zs.length + 1 = xs.length + ys.length := by
  obtain ⟨front, w, w', back, rfl, rfl, rfl⟩ := h
  simp only [List.length_append, List.length_cons, List.length_nil]
  omega

theorem map (f : α → β) (h : Joined xs ys zs) :
    Joined (xs.map (List.map f)) (ys.map (List.map f)) (zs.map (List.map f)) := by
  obtain ⟨front, w, w', back, rfl, rfl, rfl⟩ := h
  exact ⟨front.map (List.map f), w.map f, w'.map f, back.map (List.map f), by simp, by simp,
    by simp⟩

theorem append (us vs : List (List α)) (h : Joined xs ys zs) :
    Joined (us ++ xs) (ys ++ vs) (us ++ (zs ++ vs)) := by
  obtain ⟨front, w, w', back, rfl, rfl, rfl⟩ := h
  exact ⟨us ++ front, w, w', back ++ vs, by simp, by simp, by simp⟩

end Joined

/-- Where no separator is, the last piece of what is in front goes on in the first piece of what
follows. -/
theorem exists_pieces_eq {p : Char → Bool} {a b : Char} (ha : p a = false) (hb : p b = false)
    (s t : List Char) :
    ∃ us u v vs, pieces p (s ++ [a]) = us ++ [u ++ [a]] ∧ pieces p (b :: t) = (b :: v) :: vs ∧
      pieces p (s ++ a :: b :: t) = us ++ (u ++ a :: b :: v) :: vs := by
  induction s with
  | nil =>
    obtain ⟨v, vs, ht⟩ := List.exists_cons_of_ne_nil (pieces_ne_nil p t)
    exact ⟨[], [], v, vs, by simp [pieces, ha], by simp [pieces, hb, ht],
      by simp [pieces, ha, hb, ht]⟩
  | cons c s ih =>
    obtain ⟨us, u, v, vs, hs, ht, hst⟩ := ih
    by_cases hc : p c = true
    · exact ⟨[] :: us, u, v, vs, by simp [pieces, hc, hs], ht, by simp [pieces, hc, hst]⟩
    · cases us with
      | nil =>
        exact ⟨[], c :: u, v, vs, by simp [pieces, hc, hs], ht, by simp [pieces, hc, hst]⟩
      | cons w us =>
        exact ⟨(c :: w) :: us, u, v, vs, by simp [pieces, hc, hs], ht,
          by simp [pieces, hc, hst]⟩

theorem flatten_pieces (p : Char → Bool) (s : List Char) :
    (pieces p s).flatten = s.filter fun c => !p c := by
  induction s with
  | nil => rfl
  | cons c s ih =>
    obtain ⟨w, ws, hw⟩ := List.exists_cons_of_ne_nil (pieces_ne_nil p s)
    rw [hw] at ih
    by_cases hc : p c = true
    · simp [pieces, hc, hw, ← ih]
    · simp [pieces, hc, hw, ← ih]

theorem flatten_flatMap_splitBy (r : α → α → Bool) (parts : List (List α)) :
    (parts.flatMap (List.splitBy r)).flatten = parts.flatten := by
  induction parts with
  | nil => rfl
  | cons part parts ih => simp [ih]

theorem splitBy_concat (r : α → α → Bool) (s : List α) (a : α) :
    ∃ front u, (s ++ [a]).splitBy r = front ++ [u ++ [a]] := by
  obtain ⟨front, w, h⟩ := (List.eq_nil_or_concat' ((s ++ [a]).splitBy r)).resolve_left (by simp)
  obtain ⟨u, c, rfl⟩ := (List.eq_nil_or_concat' w).resolve_left
    (List.ne_nil_of_mem_splitBy (by rw [h]; simp))
  have hflat : s ++ [a] = (front.flatten ++ u) ++ [c] := by
    simpa using (List.splitBy_eq_iff.1 h).1
  exact ⟨front, u, by rw [h, (List.append_inj' hflat rfl).2]⟩

theorem splitBy_cons (r : α → α → Bool) (b : α) (t : List α) :
    ∃ u back, (b :: t).splitBy r = (b :: u) :: back := by
  obtain ⟨w, back, h⟩ := List.exists_cons_of_ne_nil
    (List.splitBy_ne_nil (r := r) |>.2 (List.cons_ne_nil b t))
  obtain ⟨c, u, rfl⟩ := List.exists_cons_of_ne_nil
    (List.ne_nil_of_mem_splitBy (r := r) (l := b :: t) (m := w) (by rw [h]; simp))
  have hflat : b :: t = c :: (u ++ back.flatten) := by
    simpa using (List.splitBy_eq_iff.1 h).1
  exact ⟨u, back, by rw [h, (List.cons.inj hflat).1]⟩

/-- A list is not split between two related elements. -/
theorem splitBy_joined {r : α → α → Bool} {a b : α} (h : r a b = true) (s t : List α) :
    Joined ((s ++ [a]).splitBy r) ((b :: t).splitBy r) ((s ++ a :: b :: t).splitBy r) := by
  obtain ⟨front, u, hxs⟩ := splitBy_concat r s a
  obtain ⟨u', back, hys⟩ := splitBy_cons r b t
  obtain ⟨hflat, hnil, hwords, hends⟩ := List.splitBy_eq_iff.1 hxs
  obtain ⟨hflat', hnil', hwords', hends'⟩ := List.splitBy_eq_iff.1 hys
  refine ⟨front, u ++ [a], b :: u', back, hxs, hys, List.splitBy_eq_iff.2 ⟨?_, ?_, ?_, ?_⟩⟩
  · calc
      s ++ a :: b :: t = (s ++ [a]) ++ b :: t := by simp
      _ = (front ++ [u ++ [a]]).flatten ++ ((b :: u') :: back).flatten := by rw [hflat, hflat']
      _ = (front ++ (u ++ [a] ++ b :: u') :: back).flatten := by simp
  · simp only [List.mem_append, List.mem_cons, not_or] at hnil hnil' ⊢
    exact ⟨hnil.1, by simp, hnil'.2⟩
  · have hjoin : (u ++ [a] ++ b :: u').IsChain fun x y => r x y = true := by
      rw [List.isChain_append]
      exact ⟨hwords _ (by simp), hwords' _ (by simp), by simpa using h⟩
    intro m hm
    simp only [List.mem_append, List.mem_cons] at hm
    rcases hm with hm | rfl | hm
    · exact hwords m (by simp [hm])
    · exact hjoin
    · exact hwords' m (by simp [hm])
  · rw [List.isChain_append] at hends ⊢
    rw [List.isChain_cons] at hends' ⊢
    obtain ⟨hfront, -, hbefore⟩ := hends
    obtain ⟨hafter, hback⟩ := hends'
    refine ⟨hfront, ⟨fun m hm => ?_, hback⟩, fun m hm => ?_⟩
    · obtain ⟨_, hne, hsplit⟩ := hafter m hm
      exact ⟨by simp, hne, by simpa using hsplit⟩
    · obtain ⟨hne, _, hsplit⟩ := hbefore m hm (u ++ [a]) (by simp)
      simp only [List.head?_cons, Option.mem_def, Option.some.injEq, forall_eq']
      exact ⟨hne, by simp, by rwa [List.head_append_of_ne_nil]⟩

end CostGate.Text
