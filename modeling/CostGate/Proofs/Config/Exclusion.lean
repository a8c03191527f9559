import CostGate.Config.Exclusion
import CostGate.Proofs.Text.Occurrence
import CostGate.Proofs.Text.Segments

/-!
# Paths that a pattern excludes

How a pattern is taken apart, told by the stars in it. A name between double stars and slashes
matches exactly the paths with the segments of the name somewhere in front of their last segment;
by that and the end of a path the defaults are told.
-/
namespace CostGate.Exclusion

open Text (dropFront? splitOnce? splitOnce?_append splitOnce?_eq_none_iff segments)

variable {front back pattern path s : List Char}

theorem trimFront_of_not_prefix (h : ¬ front <+: s) (fuel : ℕ) : trimFront front fuel s = s := by
  cases fuel with
  | zero => rfl
  | succ fuel =>
    have hnone : dropFront? front s = none := by
      rwa [← Option.not_isSome_iff_eq_none, Text.isSome_dropFront?]
    rw [trimFront, hnone]

theorem trimFront_append (h : ¬ front <+: s) {fuel : ℕ} (hfuel : fuel ≠ 0) :
    trimFront front fuel (front ++ s) = s := by
  obtain ⟨fuel, rfl⟩ := Nat.exists_eq_succ_of_ne_zero hfuel
  have hsome : dropFront? front (front ++ s) = some s := Text.dropFront?_eq_some_iff.2 rfl
  rw [trimFront, hsome]
  exact trimFront_of_not_prefix h fuel

theorem trimBack_append (hback : back ≠ []) (h : ¬ back <:+ s) : trimBack back (s ++ back) = s := by
  rw [trimBack, List.reverse_append,
    trimFront_append (by rwa [List.reverse_prefix]) (by simp [hback]), List.reverse_reverse]

theorem four_le_count (hfront : ['*', '*', '/'] <+: pattern) (hback : ['/', '*', '*'] <:+ pattern) :
    4 ≤ pattern.count '*' := by
  obtain ⟨rest, rfl⟩ := hfront
  have hrest : ['/', '*', '*'] <:+ '/' :: rest := by
    rcases List.suffix_cons_iff.1 hback with heq | hback
    · exact absurd (List.cons.inj heq).1 (by decide)
    · rcases List.suffix_cons_iff.1 hback with heq | hback
      · exact absurd (List.cons.inj heq).1 (by decide)
      · exact hback
  have htwo : 2 ≤ ('/' :: rest).count '*' := hrest.sublist.count_le '*'
  change 4 ≤ (['*', '*'] ++ '/' :: rest).count '*'
  rw [List.count_append]
  exact Nat.add_le_add (by decide) htwo

theorem directoryName?_eq_none (h : pattern.count '*' < 4) : directoryName? pattern = none := by
  refine if_neg ?_
  rintro ⟨hfront, hback⟩
  have := four_le_count (List.isPrefixOf_iff_prefix.1 hfront) (List.isSuffixOf_iff_suffix.1 hback)
  omega

/-- What a double star leaves to compare, if it is the only one. -/
theorem globMatches_doubleStar (hcount : (front ++ (doubleStar ++ back)).count '*' < 4)
    (hfront : '*' ∉ front) (hback : ¬ doubleStar <:+: back) (path : List Char) :
    globMatches (front ++ (doubleStar ++ back)) path =
      ((trimBack ['/'] front).isPrefixOf path &&
        endsLike (trimFront ['/'] back.length back) path) := by
  have hsplit : splitOnce? doubleStar (front ++ (doubleStar ++ back)) = some (front, back) :=
    splitOnce?_append hfront ['*'] back
  have honly : Text.occurs doubleStar back = false := by
    rwa [← Bool.not_eq_true, Text.occurs_iff]
  have haround : aroundDoubleStar? (front ++ (doubleStar ++ back)) =
      some (trimBack ['/'] front, trimFront ['/'] back.length back) := by
    rw [aroundDoubleStar?, hsplit]
    simp [honly]
  rw [globMatches, directoryName?_eq_none hcount, haround]

theorem globMatches_of_no_doubleStar (h : ¬ doubleStar <:+: pattern) (path : List Char) :
    globMatches pattern path = match aroundStar? pattern with
      | some (front, back) => front.isPrefixOf path && back.isSuffixOf path
      | none => pattern.isPrefixOf path := by
  have hdirectory : directoryName? pattern = none := by
    refine if_neg ?_
    rintro ⟨hfront, -⟩
    exact h (((List.prefix_append doubleStar ['/']).trans
      (List.isPrefixOf_iff_prefix.1 hfront)).isInfix)
  have haround : aroundDoubleStar? pattern = none := by
    rw [aroundDoubleStar?, splitOnce?_eq_none_iff.2 h]
    rfl
  cases hstar : aroundStar? pattern with
  | none => simp only [globMatches, hdirectory, haround, hstar]
  | some around => simp only [globMatches, hdirectory, haround, hstar]

theorem leadsThrough_iff {name : List Char} :
    leadsThrough name path = true ↔
      '/' :: name ++ ['/'] <:+: path ∨ name ++ ['/'] <+: path := by
  rw [leadsThrough, Bool.or_eq_true, Text.occurs_iff, List.isPrefixOf_iff_prefix]

theorem directoryName?_append {name : List Char} (h : '*' ∉ name) :
    directoryName? (['*', '*', '/'] ++ name ++ ['/', '*', '*']) = some name := by
  have hfront : ¬ ['*', '*', '/'] <+: name ++ ['/', '*', '*'] := by
    intro hprefix
    cases name with
    | nil => simp at hprefix
    | cons c name => simp_all [List.cons_prefix_cons]
  have hback : ¬ ['/', '*', '*'] <:+ name := fun hsuffix =>
    h (hsuffix.subset (by simp))
  have hends : ['/', '*', '*'].isSuffixOf (['*', '*', '/'] ++ name ++ ['/', '*', '*']) = true :=
    List.isSuffixOf_iff_suffix.2 (List.suffix_append _ _)
  rw [directoryName?, if_pos ⟨by simp, hends⟩, List.append_assoc,
    trimFront_append hfront (by simp), trimBack_append (by simp) hback]

theorem globMatches_directory {name : List Char} (h : '*' ∉ name) :
    globMatches (['*', '*', '/'] ++ name ++ ['/', '*', '*']) path = true ↔
      ∃ before after, after ≠ [] ∧ segments path = before ++ segments name ++ after := by
  rw [globMatches, directoryName?_append h, Text.segments_run_iff]
  exact leadsThrough_iff

def vendoredNames : List String :=
  ["vendor", "node_modules", "third_party", "third-party", "build", "dist", "target"]

theorem defaults_eq :
    defaults = vendoredNames.map (fun name => "**/" ++ name ++ "/**") ++ ["**/*.min.js"] := by
  decide

theorem isName_of_mem_vendoredNames :
    ∀ name ∈ vendoredNames, '*' ∉ name.toList ∧ '/' ∉ name.toList := by
  decide

theorem globMatches_minified (path : List Char) :
    globMatches "**/*.min.js".toList path = ".min.js".toList.isSuffixOf path := by
  have hpattern : "**/*.min.js".toList =
      [] ++ (doubleStar ++ ['/', '*', '.', 'm', 'i', 'n', '.', 'j', 's']) := by decide
  rw [hpattern, globMatches_doubleStar (by decide) (by simp) (by decide)]
  exact Bool.and_true _

/-- The patterns in force by default are the defaults, and the last of them looks at the end of the
path only. -/
theorem excludes_default_iff (path : String) :
    Exclusion.default.excludes path = true ↔
      (∃ name ∈ vendoredNames, globMatches ("**/" ++ name ++ "/**").toList path.toList = true) ∨
        ".min.js".toList <:+ path.toList := by
  have hpatterns : Exclusion.default.patterns = defaults := rfl
  rw [excludes, hpatterns, defaults_eq, List.any_append, List.any_map, Bool.or_eq_true,
    List.any_eq_true, List.any_cons, List.any_nil, Bool.or_false, globMatches_minified,
    List.isSuffixOf_iff_suffix]
  rfl

/-- A path leads through a directory that is excluded in this way wherever the segments of its name
occur in front of the last segment of the path, and nowhere else. -/
theorem directoryPatterns_exact :
    (∀ name path : List Char, '*' ∉ name →
      (globMatches (['*', '*', '/'] ++ name ++ ['/', '*', '*']) path = true ↔
        ∃ before after, after ≠ [] ∧ segments path = before ++ segments name ++ after)) ∧
    ∀ path : String, Exclusion.default.excludes path = true ↔
      (∃ name ∈ vendoredNames, name.toList ∈ (segments path.toList).dropLast) ∨
        ".min.js".toList <:+ path.toList := by
  refine ⟨fun name path h => globMatches_directory h, fun path => ?_⟩
  rw [excludes_default_iff]
  refine or_congr_left (exists_congr fun name => and_congr_right fun hname => ?_)
  obtain ⟨hstar, hslash⟩ := isName_of_mem_vendoredNames name hname
  rw [String.toList_append, String.toList_append, ← Text.segments_run_singleton_iff hslash]
  exact globMatches_directory hstar

theorem directoryPatterns_exact_nested :
    '*' ∉ ['a', '/', 'b'] ∧
      globMatches (['*', '*', '/'] ++ ['a', '/', 'b'] ++ ['/', '*', '*'])
        ['x', '/', 'a', '/', 'b', '/', 'c'] = true ∧
      Exclusion.default.excludes "lib/vendor/zlib/inflate.c" = true := by
  refine ⟨by decide, ?_, ?_⟩
  · exact (directoryPatterns_exact.1 _ _ (by decide)).2
      ⟨[['x']], [['c']], by decide, by decide⟩
  · exact (directoryPatterns_exact.2 _).2 (.inl ⟨"vendor", by decide, by decide⟩)

end CostGate.Exclusion
