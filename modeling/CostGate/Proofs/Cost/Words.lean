import CostGate.Proofs.Cost.Splitting

/-!
# Words of joined paths

A slash ends every word, so a path that is put together from two parts has the words of both. Its
phase is then the phase of one of the parts, namely the one that is looked for first.
-/
namespace CostGate

namespace Phase

/-- The phases in the order in which they are looked for; implementation is what remains. -/
def precedence : List Phase := [validation, deployment, design, implementation]

def first (p q : Phase) : Phase := if precedence.idxOf p ≤ precedence.idxOf q then p else q

theorem mem_precedence (p : Phase) : p ∈ precedence := by
  cases p <;> decide

theorem idxOf_first (p q : Phase) :
    precedence.idxOf (p.first q) = min (precedence.idxOf p) (precedence.idxOf q) := by
  unfold first
  split_ifs with h
  · exact (min_eq_left h).symm
  · exact (min_eq_right (le_of_not_ge h)).symm

end Phase

section Search

variable {κ ω : Type}

theorem findIdx_or (p q : ω → Bool) (table : List ω) :
    (table.findIdx fun x => p x || q x) = min (table.findIdx p) (table.findIdx q) := by
  induction table with
  | nil => rfl
  | cons x table ih =>
    simp only [List.findIdx_cons, ih]
    cases p x <;> cases q x <;> simp only [Bool.or_true, Bool.or_false, cond_true, cond_false] <;>
      omega

theorem idxOf_find? [DecidableEq κ] {table : List (κ × ω)} {last : κ}
    (h : (table.map (·.1) ++ [last]).Nodup) (p : κ × ω → Bool) :
    (table.map (·.1) ++ [last]).idxOf (((table.find? p).map (·.1)).getD last) =
      table.findIdx p := by
  induction table with
  | nil => simp
  | cons entry table ih =>
    rw [List.map_cons, List.cons_append] at h ⊢
    obtain ⟨hentry, hrest⟩ := List.nodup_cons.1 h
    cases hp : p entry with
    | true => simp [List.findIdx_cons, hp]
    | false =>
      have hne : entry.1 ≠ ((table.find? p).map (·.1)).getD last := by
        intro heq
        apply hentry
        rw [heq]
        cases hfind : table.find? p with
        | none => simp
        | some found => simp [List.mem_map_of_mem (List.mem_of_find?_eq_some hfind)]
      simp [List.findIdx_cons, hp, List.idxOf_cons_ne _ hne, ih hrest]

end Search

namespace Classification

theorem words_append_slash (a b : List Char) : words (a ++ '/' :: b) = words a ++ words b :=
  words_append_cons (by decide) a b

theorem mentions_append_slash (a b : List Char) (vocabulary : List String) :
    mentions (a ++ '/' :: b) vocabulary = (mentions a vocabulary || mentions b vocabulary) := by
  unfold mentions
  rw [words_append_slash, List.any_append]

theorem mentions_of_subset {path : List Char} {vocabulary vocabulary' : List String}
    (h : vocabulary ⊆ vocabulary') (hmentions : mentions path vocabulary = true) :
    mentions path vocabulary' = true := by
  simp only [mentions, List.any_eq_true, List.contains_iff_mem] at *
  obtain ⟨w, hw, hmem⟩ := hmentions
  exact ⟨w, hw, h hmem⟩

theorem phase_eq (path : List Char) :
    phase path =
      ((phaseWords.find? fun entry => mentions path entry.2).map (·.1)).getD .implementation := by
  unfold phase
  cases phaseWords.find? fun entry => mentions path entry.2 <;> rfl

/-- The phase of a path is told by the place where the search for its words ends. -/
theorem idxOf_phase (path : List Char) :
    Phase.precedence.idxOf (phase path) =
      phaseWords.findIdx fun entry => mentions path entry.2 := by
  have hkeys : phaseWords.map (·.1) ++ [.implementation] = Phase.precedence := rfl
  rw [phase_eq, ← hkeys]
  exact idxOf_find? (by decide) _

theorem phase_append_slash (a b : List Char) :
    phase (a ++ '/' :: b) = (phase a).first (phase b) := by
  apply (List.idxOf_inj (Phase.mem_precedence _)).1
  simp only [Phase.idxOf_first, idxOf_phase, mentions_append_slash, findIdx_or]

/-- The words that mark a test are words of validation, the phase that is looked for first. -/
theorem phase_of_kind_test {path : List Char} (h : kind path = .test) :
    phase path = .validation := by
  have hmentions : mentions path testWords = true := by
    unfold kind at h
    split_ifs at h with hheader htest
    exact htest
  have hfirst : ∃ vocabulary rest, phaseWords = (.validation, vocabulary) :: rest ∧
      testWords ⊆ vocabulary :=
    ⟨_, _, rfl, by decide⟩
  obtain ⟨vocabulary, rest, htable, hsubset⟩ := hfirst
  have hfind : phaseWords.find? (fun entry => mentions path entry.2) =
      some (.validation, vocabulary) := by
    rw [htable]
    exact List.find?_cons_of_pos (mentions_of_subset hsubset hmentions)
  rw [phase_eq, hfind]
  rfl

/-- Paths are classified by their segments: joined by a slash, two paths keep their words, and the
phase of the whole is that of the part which is looked for first. In particular, whatever lies
below a directory of validation is validation. A test is validation wherever it lies. -/
theorem classification_append_slash (a b : List Char) :
    words (a ++ '/' :: b) = words a ++ words b ∧
      phase (a ++ '/' :: b) = (phase a).first (phase b) ∧
      (phase a = .validation → phase (a ++ '/' :: b) = .validation) ∧
      ∀ path, kind path = .test → phase path = .validation := by
  refine ⟨words_append_slash a b, phase_append_slash a b, ?_, fun path => phase_of_kind_test⟩
  intro h
  have hfirst : ∀ p, Phase.first .validation p = .validation := by
    intro p
    cases p <;> rfl
  rw [phase_append_slash, h, hfirst]

theorem classification_append_slash_moved :
    phase "docker/build.sh".toList = .deployment ∧
      words ("unitTests".toList ++ '/' :: "docker/build.sh".toList) =
        words "unitTests".toList ++ words "docker/build.sh".toList ∧
      phase ("unitTests".toList ++ '/' :: "docker/build.sh".toList) = .validation ∧
      kind "src/ApiSpec.java".toList = .test ∧ phase "src/ApiSpec.java".toList = .validation := by
  have hscript : phase "docker/build.sh".toList = .deployment := by decide +kernel
  have htests : phase "unitTests".toList = .validation := by decide +kernel
  have hspec : kind "src/ApiSpec.java".toList = .test := by decide +kernel
  obtain ⟨hwords, -, hmoved, htest⟩ :=
    classification_append_slash "unitTests".toList "docker/build.sh".toList
  exact ⟨hscript, hwords, hmoved htests, hspec, htest _ hspec⟩

end Classification

end CostGate
