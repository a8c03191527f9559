import CostGate.Proofs.Config.Exclusion

/-!
# Patterns across names

Patterns other than directory names between double stars compare texts and know no segments. A plain
path, with or without a double star behind it, also matches where the path goes on within the last
name; a file name behind a double star also matches at the end of a longer name; a star stands for
slashes as well, and for nothing where the texts around it overlap. Only a slash at the end of a
plain path keeps the match within that directory.
-/
namespace CostGate.Exclusion

open Text (splitOnce?_append splitOnce?_eq_none_iff)

variable {back directory file front path pattern : List Char}

/-- A path without stars that neither begins nor ends with a slash. -/
structure IsPlainPath (p : List Char) : Prop where
  starless : '*' ∉ p
  ne_nil : p ≠ []
  head : ¬ ['/'] <+: p
  last : ¬ ['/'] <:+ p

def IsAtOrBelow (directory path : List Char) : Prop :=
  path = directory ∨ directory ++ ['/'] <+: path

/-- A path goes on within the name that ends the given one. -/
def RunsOn (directory path : List Char) : Prop :=
  ∃ c rest, c ≠ '/' ∧ path = directory ++ c :: rest

def IsFileIn (file path : List Char) : Prop :=
  path = file ∨ '/' :: file <:+ path

/-- A path ends with the given one from within a name. -/
def RunsInto (file path : List Char) : Prop :=
  ∃ front c, c ≠ '/' ∧ path = front ++ c :: file

theorem prefix_iff : directory <+: path ↔ IsAtOrBelow directory path ∨ RunsOn directory path := by
  constructor
  · rintro ⟨rest, rfl⟩
    cases rest with
    | nil => exact .inl (.inl (List.append_nil _))
    | cons c rest =>
      by_cases hc : c = '/'
      · subst hc
        exact .inl (.inr ⟨rest, by simp⟩)
      · exact .inr ⟨c, rest, hc, rfl⟩
  · rintro ((rfl | hbelow) | ⟨c, rest, -, rfl⟩)
    · exact List.prefix_refl _
    · exact (List.prefix_append _ _).trans hbelow
    · exact List.prefix_append _ _

theorem suffix_iff : file <:+ path ↔ IsFileIn file path ∨ RunsInto file path := by
  constructor
  · rintro ⟨front, rfl⟩
    rcases List.eq_nil_or_concat front with rfl | ⟨front, c, rfl⟩
    · exact .inl (.inl rfl)
    · by_cases hc : c = '/'
      · subst hc
        exact .inl (.inr ⟨front, by simp⟩)
      · exact .inr ⟨front, c, hc, by simp⟩
  · rintro ((rfl | hin) | ⟨front, c, -, rfl⟩)
    · exact List.suffix_refl _
    · exact (List.suffix_cons _ _).trans hin
    · exact (List.suffix_cons _ _).trans (List.suffix_append _ _)

theorem no_doubleStar_of_not_mem (h : '*' ∉ pattern) : ¬ doubleStar <:+: pattern := fun hoccurs =>
  h (hoccurs.subset (by simp [doubleStar]))

theorem globMatches_starless (h : '*' ∉ pattern) :
    globMatches pattern path = true ↔ pattern <+: path := by
  have hnone : Text.splitOnce? ['*'] pattern = none :=
    splitOnce?_eq_none_iff.2 fun hoccurs => h (hoccurs.subset (by simp))
  have haround : aroundStar? pattern = none := by
    rw [aroundStar?, hnone]
    rfl
  rw [globMatches_of_no_doubleStar (no_doubleStar_of_not_mem h), haround]
  exact List.isPrefixOf_iff_prefix

theorem globMatches_below (h : IsPlainPath directory) :
    globMatches (directory ++ ['/', '*', '*']) path = true ↔ directory <+: path := by
  have hpattern : directory ++ ['/', '*', '*'] = (directory ++ ['/']) ++ (doubleStar ++ []) := by
    simp [doubleStar]
  have hfront : '*' ∉ directory ++ ['/'] := by simp [h.starless]
  have hcount : ((directory ++ ['/']) ++ (doubleStar ++ [])).count '*' < 4 := by
    simp [doubleStar, List.count_eq_zero_of_not_mem h.starless]
  rw [hpattern, globMatches_doubleStar hcount hfront (by decide), trimBack_append (by simp) h.last]
  simp [trimFront, endsLike, Text.splitOnce?, List.isPrefixOf_iff_prefix]

theorem globMatches_anywhere (h : IsPlainPath file) :
    globMatches (['*', '*', '/'] ++ file) path = true ↔ file <:+ path := by
  have hback : '*' ∉ '/' :: file := by simp [h.starless]
  have hcount : ([] ++ (doubleStar ++ '/' :: file)).count '*' < 4 := by
    simp [doubleStar, List.count_eq_zero_of_not_mem h.starless]
  have hnone : Text.splitOnce? ['*'] file = none :=
    splitOnce?_eq_none_iff.2 fun hoccurs => h.starless (hoccurs.subset (by simp))
  have htrim : trimFront ['/'] ('/' :: file).length ('/' :: file) = file :=
    trimFront_append h.head (Nat.succ_ne_zero _)
  change globMatches ([] ++ (doubleStar ++ '/' :: file)) path = true ↔ _
  rw [globMatches_doubleStar hcount (by simp) (no_doubleStar_of_not_mem hback), htrim, endsLike,
    hnone]
  simp [trimBack, trimFront, h.ne_nil, List.isSuffixOf_iff_suffix]

theorem RunsOn.not_isAtOrBelow (h : RunsOn directory path) : ¬ IsAtOrBelow directory path := by
  obtain ⟨c, rest, hc, rfl⟩ := h
  rintro (heq | hbelow)
  · simp at heq
  · rw [List.prefix_append_right_inj, List.cons_prefix_cons] at hbelow
    exact hc hbelow.1.symm

theorem RunsInto.not_isFileIn (h : RunsInto file path) : ¬ IsFileIn file path := by
  obtain ⟨front, c, hc, rfl⟩ := h
  rintro (heq | ⟨start, hin⟩)
  · have hlength := congrArg List.length heq
    simp only [List.length_append, List.length_cons] at hlength
    omega
  · have hwhole : start ++ ['/'] ++ file = front ++ [c] ++ file := by simpa using hin
    have hends : start ++ ['/'] = front ++ [c] := List.append_cancel_right hwhole
    exact hc (List.singleton_inj.1 (List.append_inj_right' hends rfl)).symm

/-- A plain path matches what is at or below it, and a file name behind a double star what is that
file in some directory. Unless the plain path has a slash behind it, each also matches the paths in
which a name runs on from the plain path, or runs into the file name. -/
theorem plainPatterns_iff (hdirectory : IsPlainPath directory) (hfile : IsPlainPath file)
    (path : List Char) :
    (globMatches directory path = true ↔ IsAtOrBelow directory path ∨ RunsOn directory path) ∧
      (globMatches (directory ++ ['/']) path = true ↔ directory ++ ['/'] <+: path) ∧
      (globMatches (directory ++ ['/', '*', '*']) path = true ↔
        IsAtOrBelow directory path ∨ RunsOn directory path) ∧
      (globMatches (['*', '*', '/'] ++ file) path = true ↔
        IsFileIn file path ∨ RunsInto file path) := by
  have hslash : '*' ∉ directory ++ ['/'] := by simp [hdirectory.starless]
  refine ⟨?_, globMatches_starless hslash, ?_, ?_⟩
  · exact (globMatches_starless hdirectory.starless).trans prefix_iff
  · exact (globMatches_below hdirectory).trans prefix_iff
  · exact (globMatches_anywhere hfile).trans suffix_iff

theorem plainPatterns_iff_generated :
    IsPlainPath "gen".toList ∧ IsPlainPath "util.c".toList ∧
      (globMatches "gen".toList "generated/my_util.c".toList = true ∧
        globMatches "gen/**".toList "generated/my_util.c".toList = true ∧
        ¬ IsAtOrBelow "gen".toList "generated/my_util.c".toList) ∧
      globMatches "**/util.c".toList "generated/my_util.c".toList = true ∧
        ¬ IsFileIn "util.c".toList "generated/my_util.c".toList := by
  have hgen : IsPlainPath "gen".toList := ⟨by decide, by decide, by decide, by decide⟩
  have hutil : IsPlainPath "util.c".toList := ⟨by decide, by decide, by decide, by decide⟩
  have hon : RunsOn "gen".toList "generated/my_util.c".toList :=
    ⟨'e', "rated/my_util.c".toList, by decide, by decide⟩
  have hinto : RunsInto "util.c".toList "generated/my_util.c".toList :=
    ⟨"generated/my".toList, '_', by decide, by decide⟩
  obtain ⟨hplain, -, hbelow, hanywhere⟩ :=
    plainPatterns_iff hgen hutil "generated/my_util.c".toList
  exact ⟨hgen, hutil, ⟨hplain.2 (.inr hon), hbelow.2 (.inr hon), hon.not_isAtOrBelow⟩,
    hanywhere.2 (.inr hinto), hinto.not_isFileIn⟩

/-- A path consists of two texts around a part of one segment. -/
def HoldsWithin (front back path : List Char) : Prop :=
  ∃ w, '/' ∉ w ∧ path = front ++ w ++ back

/-- A path consists of two texts around a part that reaches across segments. -/
def HoldsAcross (front back path : List Char) : Prop :=
  ∃ w, '/' ∈ w ∧ path = front ++ w ++ back

/-- A path begins and ends with texts that have a part of it in common. -/
def Overlaps (front back path : List Char) : Prop :=
  ∃ before common after, common ≠ [] ∧ front = before ++ common ∧ back = common ++ after ∧
    path = before ++ common ++ after

theorem HoldsWithin.not_holdsAcross (h : HoldsWithin front back path) :
    ¬ HoldsAcross front back path := by
  rintro ⟨v, hv, hpath⟩
  obtain ⟨w, hw, rfl⟩ := h
  rw [List.append_cancel_right_eq, List.append_cancel_left_eq] at hpath
  exact hw (hpath ▸ hv)

theorem HoldsWithin.not_overlaps (h : HoldsWithin front back path) :
    ¬ Overlaps front back path := by
  rintro ⟨before, common, after, hne, rfl, rfl, hpath⟩
  obtain ⟨w, -, rfl⟩ := h
  have hlength := congrArg List.length hpath
  have hpos := List.length_pos_iff.2 hne
  simp only [List.length_append] at hlength
  omega

theorem prefix_and_suffix_iff :
    front <+: path ∧ back <:+ path ↔
      HoldsWithin front back path ∨ HoldsAcross front back path ∨ Overlaps front back path := by
  have hpart (w : List Char) : HoldsWithin front back (front ++ w ++ back) ∨
      HoldsAcross front back (front ++ w ++ back) := by
    by_cases hw : '/' ∈ w
    · exact .inr ⟨w, hw, rfl⟩
    · exact .inl ⟨w, hw, rfl⟩
  constructor
  · rintro ⟨⟨rest, rfl⟩, ⟨start, hstart⟩⟩
    rcases List.append_eq_append_iff.1 hstart with ⟨common, rfl, rfl⟩ | ⟨w, rfl, rfl⟩
    · rcases eq_or_ne common [] with rfl | hne
      · exact .inl ⟨[], by simp, by simp⟩
      · exact .inr (.inr ⟨start, common, rest, hne, rfl, rfl, rfl⟩)
    · rw [← List.append_assoc]
      exact (hpart w).imp_right .inl
  · rintro (⟨w, -, rfl⟩ | ⟨w, -, rfl⟩ | ⟨before, common, after, -, rfl, rfl, rfl⟩)
    · exact ⟨⟨w ++ back, by simp⟩, List.suffix_append _ _⟩
    · exact ⟨⟨w ++ back, by simp⟩, List.suffix_append _ _⟩
    · exact ⟨List.prefix_append _ _, ⟨before, by simp⟩⟩

theorem no_doubleStar_around_star (hfront : '*' ∉ front) (hback : '*' ∉ back) :
    ¬ doubleStar <:+: front ++ '*' :: back := by
  intro h
  have hcount := h.sublist.count_le '*'
  rw [List.count_append, List.count_cons_self, List.count_eq_zero_of_not_mem hfront,
    List.count_eq_zero_of_not_mem hback] at hcount
  exact absurd hcount (by decide)

/-- A star stands for any text, slashes included, and for nothing where the texts around it
overlap. -/
theorem globMatches_star_iff (hfront : '*' ∉ front) (hback : '*' ∉ back) (path : List Char) :
    globMatches (front ++ '*' :: back) path = true ↔
      HoldsWithin front back path ∨ HoldsAcross front back path ∨ Overlaps front back path := by
  have hsplit : Text.splitOnce? ['*'] (front ++ '*' :: back) = some (front, back) :=
    splitOnce?_append hfront [] back
  have haround : aroundStar? (front ++ '*' :: back) = some (front, back) := by
    rw [aroundStar?, hsplit]
    simp [hback]
  rw [globMatches_of_no_doubleStar (no_doubleStar_around_star hfront hback), haround,
    ← prefix_and_suffix_iff, ← List.isPrefixOf_iff_prefix, ← List.isSuffixOf_iff_suffix]
  exact Bool.and_eq_true_iff

/-- A star takes in a directory, and the texts around another one share their only letter. -/
theorem globMatches_star_iff_across :
    '*' ∉ "msg".toList ∧ '*' ∉ "g.cc".toList ∧
      (globMatches "*g.cc".toList "api/msg.cc".toList = true ∧
        ¬ HoldsWithin [] "g.cc".toList "api/msg.cc".toList) ∧
      globMatches "msg*g.cc".toList "msg.cc".toList = true ∧
        ¬ HoldsWithin "msg".toList "g.cc".toList "msg.cc".toList := by
  have hacross : HoldsAcross [] "g.cc".toList "api/msg.cc".toList :=
    ⟨"api/ms".toList, by decide, by decide⟩
  have hoverlaps : Overlaps "msg".toList "g.cc".toList "msg.cc".toList :=
    ⟨"ms".toList, "g".toList, ".cc".toList, by decide, by decide, by decide, by decide⟩
  refine ⟨by decide, by decide, ⟨?_, fun h => h.not_holdsAcross hacross⟩, ?_,
    fun h => h.not_overlaps hoverlaps⟩
  · exact (globMatches_star_iff (by simp) (by decide) _).2 (.inr (.inl hacross))
  · exact (globMatches_star_iff (by decide) (by decide) _).2 (.inr (.inr hoverlaps))

end CostGate.Exclusion
