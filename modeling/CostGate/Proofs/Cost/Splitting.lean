import CostGate.Cost.Classification
import CostGate.Proofs.Text.Joining
import CostGate.Proofs.Text.Lowercase

/-!
# Splitting a path into words

The words of an ASCII path are its letters and digits in lower case: nothing is lost, added or
moved. Where one word ends and the next begins is told by the two characters that meet there. The
words with slashes in between are a path with the same words.
-/
namespace CostGate.Classification

open Text

/-- The words of a path in its own letter case. -/
def spelledWords (path : List Char) : List (List Char) :=
  (pieces (fun c => !isAlphanumeric c) path).flatMap (List.splitBy sameWord)

theorem words_eq (path : List Char) : words path = (spelledWords path).map lowercase := rfl

@[simp] theorem spelledWords_nil : spelledWords [] = [] := rfl

theorem flatten_spelledWords (path : List Char) :
    (spelledWords path).flatten = path.filter isAlphanumeric := by
  rw [spelledWords, flatten_flatMap_splitBy, flatten_pieces]
  simp only [Bool.not_not]

theorem ne_nil_of_mem_spelledWords {path w : List Char} (h : w ∈ spelledWords path) : w ≠ [] := by
  obtain ⟨piece, -, hw⟩ := List.mem_flatMap.1 h
  exact List.ne_nil_of_mem_splitBy hw

theorem mem_of_mem_spelledWords {path w : List Char} {c : Char} (h : w ∈ spelledWords path)
    (hc : c ∈ w) : c ∈ path ∧ isAlphanumeric c = true := by
  rw [← List.mem_filter, ← flatten_spelledWords]
  exact List.mem_flatten_of_mem h hc

/-- Whether a word ends between two neighbours: one of them is neither a letter nor a digit, or a
capital follows a small letter or a digit. -/
def Boundary (a b : Char) : Prop :=
  isAlphanumeric a = false ∨ isAlphanumeric b = false ∨
    (isLowercase a = true ∨ isAsciiDigit a = true) ∧ isUppercase b = true

instance (a b : Char) : Decidable (Boundary a b) :=
  inferInstanceAs (Decidable (_ ∨ _ ∨ (_ ∨ _) ∧ _))

theorem sameWord_eq_false_iff {a b : Char} :
    sameWord a b = false ↔
      (isLowercase a = true ∨ isAsciiDigit a = true) ∧ isUppercase b = true := by
  rw [sameWord, Bool.not_eq_false', Bool.and_eq_true, Bool.or_eq_true]

variable {a b c : Char}

theorem spelledWords_append_cons (hc : isAlphanumeric c = false) (s t : List Char) :
    spelledWords (s ++ c :: t) = spelledWords s ++ spelledWords t := by
  have hseparator : (!isAlphanumeric c) = true := by rw [hc]; rfl
  unfold spelledWords
  rw [pieces_append hseparator, List.flatMap_append]

/-- Where two letters or digits meet, the piece that has them is split like a text of its own. -/
theorem exists_spelledWords_eq (ha : isAlphanumeric a = true) (hb : isAlphanumeric b = true)
    (front back : List Char) :
    ∃ us u v vs, spelledWords (front ++ [a]) = us ++ (u ++ [a]).splitBy sameWord ∧
      spelledWords (b :: back) = (b :: v).splitBy sameWord ++ vs ∧
      spelledWords (front ++ a :: b :: back) =
        us ++ ((u ++ a :: b :: v).splitBy sameWord ++ vs) := by
  obtain ⟨us, u, v, vs, hfront, hback, hpath⟩ := exists_pieces_eq
    (p := fun c => !isAlphanumeric c) (a := a) (b := b) (by simp [ha]) (by simp [hb]) front back
  refine ⟨us.flatMap (List.splitBy sameWord), u, v, vs.flatMap (List.splitBy sameWord), ?_, ?_, ?_⟩
  · rw [spelledWords, hfront, List.flatMap_append, List.flatMap_singleton]
  · rw [spelledWords, hback, List.flatMap_cons]
  · rw [spelledWords, hpath, List.flatMap_append, List.flatMap_cons]

theorem spelledWords_of_boundary (h : Boundary a b) (front back : List Char) :
    spelledWords (front ++ a :: b :: back) =
      spelledWords (front ++ [a]) ++ spelledWords (b :: back) := by
  cases ha : isAlphanumeric a with
  | false =>
    rw [spelledWords_append_cons ha, spelledWords_append_cons ha, spelledWords_nil,
      List.append_nil]
  | true =>
    cases hb : isAlphanumeric b with
    | false =>
      have hback : spelledWords (b :: back) = spelledWords back :=
        spelledWords_append_cons hb [] back
      rw [hback, ← spelledWords_append_cons hb, List.append_assoc]
      rfl
    | true =>
      obtain ⟨us, u, v, vs, hfront, hback, hpath⟩ := exists_spelledWords_eq ha hb front back
      have hsplit : sameWord a b = false := by
        simpa [Boundary, ha, hb, ← sameWord_eq_false_iff] using h
      have hends : ∀ x ∈ (u ++ [a]).getLast?, sameWord x b = false := by simpa using hsplit
      rw [hfront, hback, hpath, ← List.singleton_append, ← List.append_assoc u,
        List.splitBy_append_cons v hends]
      simp only [List.append_assoc]

theorem spelledWords_joined (h : ¬ Boundary a b) (front back : List Char) :
    Joined (spelledWords (front ++ [a])) (spelledWords (b :: back))
      (spelledWords (front ++ a :: b :: back)) := by
  simp only [Boundary, not_or, Bool.not_eq_false, ← sameWord_eq_false_iff] at h
  obtain ⟨ha, hb, hsame⟩ := h
  obtain ⟨us, u, v, vs, hfront, hback, hpath⟩ := exists_spelledWords_eq ha hb front back
  rw [hfront, hback, hpath]
  exact (splitBy_joined hsame u v).append us vs

theorem words_append_cons (hc : isAlphanumeric c = false) (s t : List Char) :
    words (s ++ c :: t) = words s ++ words t := by
  rw [words_eq, spelledWords_append_cons hc, List.map_append, ← words_eq, ← words_eq]

section Ascii

def IsSmall (c : Char) : Prop := isAsciiLower c = true ∨ isAsciiDigit c = true

theorem IsSmall.isAscii (h : IsSmall c) : isAscii c = true := by
  rcases h with h | h
  · exact isAscii_of_isAsciiLower h
  · have hle : c.toNat ≤ 57 := (between_iff.1 h).2
    exact decide_eq_true (by omega)

theorem IsSmall.isAsciiUpper_eq_false (h : IsSmall c) : isAsciiUpper c = false := by
  by_contra hupper
  rw [Bool.not_eq_false] at hupper
  obtain ⟨hlow, hhigh⟩ : 65 ≤ c.toNat ∧ c.toNat ≤ 90 := between_iff.1 hupper
  rcases h with h | h
  · have hsmall : 97 ≤ c.toNat := (between_iff.1 h).1
    omega
  · have hdigit : c.toNat ≤ 57 := (between_iff.1 h).2
    omega

theorem IsSmall.isAlphanumeric (h : IsSmall c) : isAlphanumeric c = true := by
  rw [Text.isAlphanumeric, isAlphabetic, isNumeral, classify_of_isAscii h.isAscii,
    classify_of_isAscii h.isAscii, isAsciiLetter, h.isAsciiUpper_eq_false, Bool.false_or,
    Bool.or_eq_true]
  exact h

theorem IsSmall.isUppercase_eq_false (h : IsSmall c) : isUppercase c = false := by
  rw [isUppercase, classify_of_isAscii h.isAscii, h.isAsciiUpper_eq_false]

theorem IsSmall.asciiLower_eq (h : IsSmall c) : asciiLower c = c := by
  rw [asciiLower, h.isAsciiUpper_eq_false]
  rfl

theorem isSmall_asciiLower (hascii : isAscii c = true) (h : isAlphanumeric c = true) :
    IsSmall (asciiLower c) := by
  rw [isAlphanumeric, isAlphabetic, isNumeral, classify_of_isAscii hascii,
    classify_of_isAscii hascii, isAsciiLetter, Bool.or_eq_true, Bool.or_eq_true] at h
  by_cases hupper : isAsciiUpper c = true
  · exact .inl (isAsciiLower_asciiLower hupper)
  · rw [asciiLower, if_neg hupper]
    exact h.imp_left (Or.resolve_left · hupper)

theorem words_of_isSmall {w : List Char} (hne : w ≠ []) (h : ∀ c ∈ w, IsSmall c) :
    words w = [w] := by
  have hpieces : pieces (fun c => !isAlphanumeric c) w = [w] := by
    apply pieces_of_forall
    intro c hc
    rw [(h c hc).isAlphanumeric]
    rfl
  have hsplit : w.splitBy sameWord = [w] := by
    apply List.splitBy_of_isChain hne
    apply List.isChain_iff_forall_rel_of_append_cons_cons.2
    rintro a b front back rfl
    rw [sameWord, (h b (by simp)).isUppercase_eq_false, Bool.and_false]
    rfl
  have hlower : lowercase w = w := by
    rw [lowercase_of_isAscii fun c hc => (h c hc).isAscii]
    exact (List.map_congr_left fun c hc => (h c hc).asciiLower_eq).trans (List.map_id w)
  rw [words, hpieces, List.flatMap_singleton, hsplit, List.map_singleton, hlower]

theorem words_intercalate {ws : List (List Char)} (h : ∀ w ∈ ws, w ≠ [] ∧ ∀ c ∈ w, IsSmall c) :
    words (['/'].intercalate ws) = ws := by
  induction ws with
  | nil => rfl
  | cons w ws ih =>
    obtain ⟨⟨hne, hsmall⟩, hws⟩ := List.forall_mem_cons.1 h
    rcases eq_or_ne ws [] with rfl | hnil
    · rw [List.intercalate_singleton, words_of_isSmall hne hsmall]
    · rw [List.intercalate_cons_of_ne_nil hnil, List.append_assoc, List.singleton_append,
        words_append_cons (by decide), words_of_isSmall hne hsmall, ih hws, List.singleton_append]

variable {path : List Char} (hpath : ∀ c ∈ path, isAscii c = true)
include hpath

theorem words_eq_map_of_isAscii :
    words path = (spelledWords path).map (List.map asciiLower) := by
  apply List.map_congr_left
  intro w hw
  apply lowercase_of_isAscii
  intro c hc
  exact hpath c (mem_of_mem_spelledWords hw hc).1

theorem isSmall_of_mem_words {w : List Char} (h : w ∈ words path) :
    w ≠ [] ∧ ∀ c ∈ w, IsSmall c := by
  rw [words_eq_map_of_isAscii hpath] at h
  obtain ⟨v, hv, rfl⟩ := List.mem_map.1 h
  constructor
  · simpa using ne_nil_of_mem_spelledWords hv
  · intro c hc
    obtain ⟨d, hd, rfl⟩ := List.mem_map.1 hc
    obtain ⟨hmem, halphanumeric⟩ := mem_of_mem_spelledWords hv hd
    exact isSmall_asciiLower (hpath d hmem) halphanumeric

theorem flatten_words : (words path).flatten = (path.filter isAlphanumeric).map asciiLower := by
  rw [words_eq_map_of_isAscii hpath, ← List.map_flatten, flatten_spelledWords]

/-- A path that is cut in two has the words of both parts, unless the cut goes through a word. -/
theorem words_joined {front back : List Char} (h : path = front ++ a :: b :: back)
    (hab : ¬ Boundary a b) : Joined (words (front ++ [a])) (words (b :: back)) (words path) := by
  have hfront : front ++ [a] <+: path := ⟨b :: back, by simp [h]⟩
  have hback : b :: back <:+ path := ⟨front ++ [a], by simp [h]⟩
  rw [words_eq_map_of_isAscii fun c hc => hpath c (hfront.mem hc),
    words_eq_map_of_isAscii fun c hc => hpath c (hback.mem hc), words_eq_map_of_isAscii hpath, h]
  exact (spelledWords_joined hab front back).map asciiLower

theorem words_append_iff {front back : List Char} (h : path = front ++ a :: b :: back) :
    words path = words (front ++ [a]) ++ words (b :: back) ↔ Boundary a b := by
  constructor
  · intro hwords
    by_contra hab
    have hlength := (words_joined hpath h hab).length_add_one
    rw [hwords, List.length_append] at hlength
    omega
  · intro hab
    rw [h, words_eq, spelledWords_of_boundary hab, List.map_append, ← words_eq, ← words_eq]

/-- The split of an ASCII path into words loses nothing. Every word consists of small letters and
digits, and together they are the letters and digits of the path in lower case. Cutting the path in
two leaves its words as they are exactly if the cut is at a boundary; any other cut goes through
one word. The words with slashes in between are split into the same words again. -/
theorem words_lossless :
    (∀ w ∈ words path, w ≠ [] ∧ ∀ c ∈ w, isAsciiLower c = true ∨ isAsciiDigit c = true) ∧
      (words path).flatten = (path.filter isAlphanumeric).map asciiLower ∧
      (∀ front a b back, path = front ++ a :: b :: back →
        (words path = words (front ++ [a]) ++ words (b :: back) ↔ Boundary a b) ∧
        (¬ Boundary a b → Joined (words (front ++ [a])) (words (b :: back)) (words path))) ∧
      words (['/'].intercalate (words path)) = words path := by
  have hsmall : ∀ w ∈ words path, w ≠ [] ∧ ∀ c ∈ w, IsSmall c :=
    fun w => isSmall_of_mem_words hpath
  exact ⟨hsmall, flatten_words hpath,
    fun front a b back h => ⟨words_append_iff hpath h, words_joined hpath h⟩,
    words_intercalate hsmall⟩

end Ascii

/-- Capitals in a row, digits between letters, and separators of several kinds. -/
theorem words_lossless_mixed :
    words "src/k8sAPI_a1B2.cpp".toList = ["src".toList, "k8s".toList, "api".toList, "a1".toList,
        "b2".toList, "cpp".toList] ∧
      words "src/k8sAPI_a1B2.cpp".toList =
        words "src/k8s".toList ++ words "API_a1B2.cpp".toList ∧
      Joined (words "src/k8sA".toList) (words "PI_a1B2.cpp".toList)
        (words "src/k8sAPI_a1B2.cpp".toList) ∧
      words (['/'].intercalate (words "src/k8sAPI_a1B2.cpp".toList)) =
        words "src/k8sAPI_a1B2.cpp".toList := by
  have hascii : ∀ c ∈ "src/k8sAPI_a1B2.cpp".toList, isAscii c = true :=
    List.all_eq_true.1 (by decide +kernel)
  obtain ⟨-, -, hcut, hagain⟩ := words_lossless hascii
  have hboundary : Boundary 's' 'A' := by decide
  have hwithin : ¬ Boundary 'A' 'P' := by decide
  exact ⟨by decide +kernel, (hcut "src/k8".toList 's' 'A' _ rfl).1.2 hboundary,
    (hcut "src/k8s".toList 'A' 'P' _ rfl).2 hwithin, hagain⟩

end CostGate.Classification
