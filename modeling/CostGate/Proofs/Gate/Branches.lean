import CostGate.Proofs.Gate.Run
import CostGate.Proofs.Pattern.Forms

/-!
# Classes of branches

The default rules tell five classes of branch names apart by a word in front and by what stands
behind it. Words of different classes begin with different letters, so no name is of two classes:
which rule comes first does not matter, and each multiplier belongs to the names of its classes.
-/
namespace CostGate

open Number

inductive BranchClass where
  | mainLine
  | release
  | development
  | staging
  | shortLived
  deriving Repr, DecidableEq

namespace BranchClass

variable {k k' : BranchClass} {branch : String}

def words : BranchClass → List String
  | mainLine => ["main", "master"]
  | release => ["release", "hotfix"]
  | development => ["develop", "development", "dev"]
  | staging => ["staging", "stage"]
  | shortLived => ["feature", "feat", "bugfix", "fix"]

def separates (c : Char) : Bool := c == '/' || c == '-'

/-- What may stand behind the word of a name: nothing, a title in one line that can be left out, or
a title whose first character does not end the line. -/
def Allows : BranchClass → List Char → Prop
  | mainLine, tail | development, tail | staging, tail => tail = []
  | release, tail =>
    tail = [] ∨ ∃ c title, separates c = true ∧ '\n' ∉ title ∧ tail = c :: title
  | shortLived, tail => ∃ c d title, separates c = true ∧ d ≠ '\n' ∧ tail = c :: d :: title

/-- Whether a branch name is of a class. -/
def Has (k : BranchClass) (branch : String) : Prop :=
  ∃ w ∈ k.words, ∃ tail, branch.toList = w.toList ++ tail ∧ k.Allows tail

theorem words_ne_nil (k : BranchClass) : k.words ≠ [] := by
  cases k <;> exact List.cons_ne_nil _ _

theorem toList_ne_nil_of_mem_words {w : String} (hw : w ∈ k.words) : w.toList ≠ [] := by
  have hall : ∀ w ∈ k.words, w.toList ≠ [] := by cases k <;> decide
  exact hall w hw

theorem eq_of_head?_eq {w w' : String} (hw : w ∈ k.words) (hw' : w' ∈ k'.words)
    (h : w.toList.head? = w'.toList.head?) : k = k' := by
  have hall : ∀ w ∈ k.words, ∀ w' ∈ k'.words, w.toList.head? = w'.toList.head? → k = k' := by
    cases k <;> cases k' <;> decide
  exact hall w hw w' hw' h

theorem Has.unique (h : k.Has branch) (h' : k'.Has branch) : k = k' := by
  obtain ⟨w, hw, tail, hbranch, -⟩ := h
  obtain ⟨w', hw', tail', hbranch', -⟩ := h'
  apply eq_of_head?_eq hw hw'
  have hhead := congrArg List.head? (hbranch.symm.trans hbranch')
  rwa [List.head?_append_of_ne_nil _ (toList_ne_nil_of_mem_words hw),
    List.head?_append_of_ne_nil _ (toList_ne_nil_of_mem_words hw')] at hhead

/-- A class that allows nothing behind its words has no other names. -/
theorem has_iff_mem_words (h : ∀ tail, k.Allows tail ↔ tail = []) :
    k.Has branch ↔ branch ∈ k.words := by
  constructor
  · rintro ⟨w, hw, tail, hbranch, htail⟩
    rw [(h tail).1 htail, List.append_nil] at hbranch
    rwa [String.toList_inj.1 hbranch]
  · intro hbranch
    exact ⟨branch, hbranch, [], (List.append_nil _).symm, (h []).2 rfl⟩

def text : BranchClass → String
  | mainLine => "^(main|master)$"
  | release => "^(release|hotfix)([/-].*)?$"
  | development => "^(develop|development|dev)$"
  | staging => "^(staging|stage)$"
  | shortLived => "^(feature|feat|bugfix|fix)[/-].+"

def multiplier : BranchClass → Float
  | mainLine | release => 1.0
  | development => 1.2
  | staging => 1.1
  | shortLived => 1.7

def rule (k : BranchClass) : BranchRule Float := ⟨k.text, k.multiplier⟩

def all : List BranchClass := [mainLine, release, development, staging, shortLived]

theorem mem_all (k : BranchClass) : k ∈ all := by cases k <;> decide

theorem rules_default : BranchRule.defaults Float = all.map rule := rfl

section Patterns

open Pattern

def opening (k : BranchClass) : Pattern := sequence (condition .textStart) (oneOf k.words)

/-- At least `least` characters of one line. -/
def title (least : ℕ) : Pattern := repeated (one (· != '\n')) least none

def separated (least : ℕ) : Pattern := sequence (one separates) (title least)

/-- What the rule of a class says, once it has been read. -/
def pattern (k : BranchClass) : Pattern :=
  match k with
  | mainLine | development | staging => sequence k.opening (condition .textEnd)
  | release =>
    sequence (sequence k.opening (repeated (separated 0) 0 (some 1))) (condition .textEnd)
  | shortLived => sequence (sequence k.opening (one separates)) (title 1)

/-- What the rule of a class says about the text behind the word. -/
def closing : BranchClass → Pattern
  | mainLine | development | staging => condition .textEnd
  | release => sequence (repeated (separated 0) 0 (some 1)) (condition .textEnd)
  | shortLived => separated 1

theorem parse?_text (k : BranchClass) : Pattern.parse? k.text = some k.pattern := by
  cases k with
  | mainLine | development | staging => cbv
  | release | shortLived =>
    have hseparates : separates = fun c => c == '/' || c == '-' := rfl
    cbv
    simp [hseparates]

variable {before part after : List Char}

theorem describes_title {least : ℕ} :
    (title least).Describes before part after ↔ least ≤ part.length ∧ '\n' ∉ part := by
  rw [title, describes_run, ← List.forall_mem_ne']
  simp only [bne_iff_ne]

theorem describes_opening :
    k.opening.Describes before part after ↔ before = [] ∧ ∃ w ∈ k.words, part = w.toList := by
  rw [opening, describes_fromStart, describes_oneOf k.words_ne_nil]

/-- A pattern that begins with the words of a class matches the names with a word in front whose
rest begins with what the pattern describes behind it. -/
theorem isMatch_opening {q : Pattern} {s : List Char} :
    (sequence k.opening q).isMatch s = true ↔ ∃ w ∈ k.words, ∃ tail, s = w.toList ++ tail ∧
      ∃ part after, tail = part ++ after ∧ q.Describes w.toList part after := by
  rw [isMatch_iff]
  constructor
  · rintro ⟨_, _, after, rfl, front, part, rfl, hfront, hq⟩
    obtain ⟨rfl, w, hw, rfl⟩ := describes_opening.1 hfront
    exact ⟨w, hw, part ++ after, List.append_assoc .., part, after, rfl, hq⟩
  · rintro ⟨w, hw, _, rfl, part, after, rfl, hq⟩
    exact ⟨[], w.toList ++ part, after, (List.append_assoc ..).symm, w.toList, part, rfl,
      describes_opening.2 ⟨rfl, w, hw, rfl⟩, hq⟩

theorem describes_separated {least : ℕ} :
    (separated least).Describes before part after ↔
      ∃ c rest, separates c = true ∧ least ≤ rest.length ∧ '\n' ∉ rest ∧ part = c :: rest := by
  constructor
  · rintro ⟨_, rest, rfl, ⟨c, hc, rfl⟩, hrest⟩
    obtain ⟨hlength, hline⟩ := describes_title.1 hrest
    exact ⟨c, rest, hc, hlength, hline, rfl⟩
  · rintro ⟨c, rest, hc, hlength, hline, rfl⟩
    exact ⟨[c], rest, rfl, ⟨c, hc, rfl⟩, describes_title.2 ⟨hlength, hline⟩⟩

/-- Behind the word, the rule of a class describes some front part of the text there if its names
may have that text there. -/
theorem exists_describes_closing {front tail : List Char} :
    (∃ part after, tail = part ++ after ∧ k.closing.Describes front part after) ↔
      k.Allows tail := by
  cases k with
  | mainLine | development | staging =>
    constructor
    · rintro ⟨part, after, rfl, hend⟩
      obtain ⟨rfl, rfl⟩ := describes_textEnd.1 hend
      rfl
    · rintro rfl
      exact ⟨[], [], rfl, describes_textEnd.2 ⟨rfl, rfl⟩⟩
  | release =>
    constructor
    · rintro ⟨part, after, rfl, hpart⟩
      obtain ⟨rfl, hoptional⟩ := describes_toEnd.1 hpart
      rw [List.append_nil]
      rcases describes_optional.1 hoptional with hempty | htitle
      · exact .inl hempty
      · obtain ⟨c, rest, hc, -, hline, hpart⟩ := describes_separated.1 htitle
        exact .inr ⟨c, rest, hc, hline, hpart⟩
    · intro h
      refine ⟨tail, [], (List.append_nil tail).symm, describes_toEnd.2 ⟨rfl, ?_⟩⟩
      rcases h with hempty | ⟨c, rest, hc, hline, htail⟩
      · exact describes_optional.2 (.inl hempty)
      · exact describes_optional.2
          (.inr (describes_separated.2 ⟨c, rest, hc, Nat.zero_le _, hline, htail⟩))
  | shortLived =>
    -- of the title only the first character matters, since the text may go on behind the match
    constructor
    · rintro ⟨part, after, rfl, hpart⟩
      obtain ⟨c, rest, hc, hlength, hline, rfl⟩ := describes_separated.1 hpart
      obtain ⟨d, rest, rfl⟩ := List.exists_cons_of_length_pos hlength
      exact ⟨c, d, rest ++ after, hc, (List.ne_of_not_mem_cons hline).symm, rfl⟩
    · rintro ⟨c, d, rest, hc, hd, rfl⟩
      refine ⟨[c, d], rest, rfl, describes_separated.2 ⟨c, [d], hc, le_rfl, ?_, rfl⟩⟩
      simpa using hd.symm

theorem isMatch_pattern : k.pattern.isMatch branch.toList = true ↔ k.Has branch := by
  have hsplit : k.pattern.isMatch branch.toList = true ↔
      (sequence k.opening k.closing).isMatch branch.toList = true := by
    cases k with
    | mainLine | development | staging => rfl
    | release | shortLived => exact isMatch_sequence_assoc
  rw [hsplit, isMatch_opening, Has]
  simp only [exists_describes_closing]

end Patterns

def entry (k : BranchClass) : BranchTable.Rule Float := ⟨k.rule, k.pattern⟩

theorem readRules_map_rule (ks : List BranchClass) :
    BranchTable.readRules (ks.map rule) = .ok (ks.map entry) := by
  induction ks with
  | nil => rfl
  | cons k ks ih =>
    rw [List.map_cons, BranchTable.readRules, rule, parse?_text, ih]
    rfl

theorem pairwise_entry : (all.map entry).Pairwise fun r r' =>
    ¬ (r.pattern.isMatch branch.toList = true ∧ r'.pattern.isMatch branch.toList = true) := by
  have hall : all.Nodup := by decide
  rw [List.pairwise_map]
  refine hall.imp fun hne h => hne ?_
  exact (isMatch_pattern.1 h.1).unique (isMatch_pattern.1 h.2)

end BranchClass

namespace BranchTable

open BranchClass

def defaults : BranchTable Float := ⟨BranchClass.all.map entry, 1.3⟩

theorem ofConfig_default : ofConfig (Config.default Float) = .ok defaults := by
  rw [ofConfig, Config.default, rules_default, readRules_map_rule]
  rfl

section Lookup

variable {table : BranchTable Float} {k : BranchClass} {branch : String}

/-- In whatever order the rules of the classes stand, the rule of its class is found for a name. -/
theorem lookup_of_has (hrules : table.rules.Perm defaults.rules) (h : k.Has branch) :
    table.lookup branch = (k.multiplier, some k.text) := by
  have hmem : k.entry ∈ table.rules := hrules.mem_iff.2 (List.mem_map_of_mem k.mem_all)
  have hfound : (table.rules.find? fun r => r.pattern.isMatch branch.toList).isSome = true :=
    List.find?_isSome.2 ⟨k.entry, hmem, isMatch_pattern.2 h⟩
  obtain ⟨r, hr⟩ := Option.isSome_iff_exists.1 hfound
  obtain ⟨k', -, rfl⟩ := List.mem_map.1 (hrules.mem_iff.1 (List.mem_of_find?_eq_some hr))
  have hmatch : k'.pattern.isMatch branch.toList = true := by
    have := List.find?_some hr
    exact this
  obtain rfl := h.unique (isMatch_pattern.1 hmatch)
  rw [lookup, find?, hr]
  rfl

theorem lookup_of_not_has (hrules : table.rules.Perm defaults.rules)
    (h : ∀ k : BranchClass, ¬ k.Has branch) : table.lookup branch = (table.default, none) := by
  have hnone : table.rules.find? (fun r => r.pattern.isMatch branch.toList) = none := by
    rw [List.find?_eq_none]
    intro r hr hmatch
    obtain ⟨k, -, rfl⟩ := List.mem_map.1 (hrules.mem_iff.1 hr)
    exact h k (isMatch_pattern.1 hmatch)
  rw [lookup, find?, hnone]
  rfl

theorem lookup_perm (hrules : table.rules.Perm defaults.rules)
    (hdefault : table.default = defaults.default) :
    table.lookup branch = defaults.lookup branch := by
  by_cases h : ∃ k : BranchClass, k.Has branch
  · obtain ⟨k, hk⟩ := h
    rw [lookup_of_has hrules hk, lookup_of_has (.refl _) hk]
  · rw [not_exists] at h
    rw [lookup_of_not_has hrules h, lookup_of_not_has (.refl _) h, hdefault]

theorem lookup_eq_iff {x : Float} (hx : x ≠ defaults.default) :
    (defaults.lookup branch).1 = x ↔ ∃ k : BranchClass, k.Has branch ∧ k.multiplier = x := by
  by_cases h : ∃ k : BranchClass, k.Has branch
  · obtain ⟨k, hk⟩ := h
    rw [lookup_of_has (.refl _) hk]
    constructor
    · intro hmultiplier
      exact ⟨k, hk, hmultiplier⟩
    · rintro ⟨k', hk', rfl⟩
      rw [hk.unique hk']
  · rw [not_exists] at h
    rw [lookup_of_not_has (.refl _) h]
    constructor
    · intro heq
      exact absurd heq.symm hx
    · rintro ⟨k, hk, -⟩
      exact absurd hk (h k)

theorem lookup_eq_multiplier_iff (h : k ≠ .mainLine) (h' : k ≠ .release) :
    (defaults.lookup branch).1 = k.multiplier ↔ k.Has branch := by
  have hdefault : k.multiplier ≠ defaults.default := by cases k <;> decide
  have hunique : ∀ k' ∈ BranchClass.all, k'.multiplier = k.multiplier → k' = k := by
    cases k with
    | mainLine => exact absurd rfl h
    | release => exact absurd rfl h'
    | development | staging | shortLived => decide
  rw [lookup_eq_iff hdefault]
  constructor
  · rintro ⟨k', hk', heq⟩
    rwa [← hunique k' k'.mem_all heq]
  · intro hk
    exact ⟨k, hk, rfl⟩

theorem lookup_eq_one_iff : (defaults.lookup branch).1 = 1.0 ↔
    BranchClass.mainLine.Has branch ∨ BranchClass.release.Has branch := by
  rw [lookup_eq_iff (by decide)]
  constructor
  · rintro ⟨k, hk, heq⟩
    cases k with
    | mainLine => exact .inl hk
    | release => exact .inr hk
    | development | staging | shortLived => exact absurd heq (by decide)
  · rintro (hk | hk)
    · exact ⟨_, hk, rfl⟩
    · exact ⟨_, hk, rfl⟩

/-- A table gives a branch the multiplier of its class, and the default one to a branch of none. -/
structure Classifies (table : BranchTable Float) (branch : String) : Prop where
  strict_iff : (table.lookup branch).1 = 1.0 ↔
    branch = "main" ∨ branch = "master" ∨ BranchClass.release.Has branch
  development_iff : (table.lookup branch).1 = 1.2 ↔
    branch = "develop" ∨ branch = "development" ∨ branch = "dev"
  staging_iff : (table.lookup branch).1 = 1.1 ↔ branch = "staging" ∨ branch = "stage"
  shortLived_iff : (table.lookup branch).1 = 1.7 ↔ BranchClass.shortLived.Has branch
  otherwise : (∀ k : BranchClass, ¬ k.Has branch) →
    table.lookup branch = ((Config.default Float).defaultBranchMultiplier, none)

theorem classifies_defaults (branch : String) : defaults.Classifies branch where
  strict_iff := by
    rw [lookup_eq_one_iff, has_iff_mem_words fun _ => Iff.rfl]
    simp [words, or_assoc]
  development_iff := by
    rw [← show BranchClass.development.multiplier = 1.2 from rfl,
      lookup_eq_multiplier_iff (by decide) (by decide), has_iff_mem_words fun _ => Iff.rfl]
    simp [words]
  staging_iff := by
    rw [← show BranchClass.staging.multiplier = 1.1 from rfl,
      lookup_eq_multiplier_iff (by decide) (by decide), has_iff_mem_words fun _ => Iff.rfl]
    simp [words]
  shortLived_iff := lookup_eq_multiplier_iff (k := .shortLived) (by decide) (by decide)
  otherwise := lookup_of_not_has (.refl _)

end Lookup

def multipliers : List Float := defaults.default :: BranchClass.all.map multiplier

theorem lookup_mem_multipliers (branch : String) : (defaults.lookup branch).1 ∈ multipliers := by
  by_cases h : ∃ k : BranchClass, k.Has branch
  · obtain ⟨k, hk⟩ := h
    rw [lookup_of_has (.refl _) hk]
    exact List.mem_cons_of_mem _ (List.mem_map_of_mem k.mem_all)
  · rw [lookup_of_not_has (.refl _) (not_exists.1 h)]
    exact List.mem_cons_self

end BranchTable

section Threshold

open BranchTable

/-- The threshold of an environment under the default bases and a multiplier. -/
def defaultValue (environment : Environment) (multiplier : Float) : Float :=
  roundTo ((BaseThresholds.default Float).of environment * multiplier) 3

theorem defaultValue_bounds (environment : Environment) {m : Float} (hm : m ∈ multipliers) :
    isPositive (defaultValue environment m) = true ∧
      defaultValue environment 1.0 ≤ defaultValue environment m ∧
      defaultValue environment m ≤ defaultValue environment 1.7 := by
  have hall : ∀ m ∈ multipliers, isPositive (defaultValue environment m) = true ∧
      defaultValue environment 1.0 ≤ defaultValue environment m ∧
      defaultValue environment m ≤ defaultValue environment 1.7 := by
    cases environment <;> decide +kernel
  exact hall m hm

theorem resolve_default (context : Context) :
    ∃ t, Threshold.resolve (Config.default Float) context = .ok t ∧
      t.value = defaultValue context.environment (defaults.lookup context.branch).1 := by
  have hpositive := (defaultValue_bounds context.environment
    (lookup_mem_multipliers context.branch)).1
  rw [Threshold.resolve, ofConfig_default]
  dsimp only
  rw [Threshold.ofTable_eq]
  exact ⟨_, if_pos hpositive, rfl⟩

end Threshold

/-- No branch name matches two of the default rules, so their order does not matter, and each name
takes the multiplier of its class. In every environment the main line has the strictest threshold
and a short-lived branch the loosest one. -/
theorem default_branches_classified :
    ∃ table, BranchTable.ofConfig (Config.default Float) = .ok table ∧
      table.rules.map (·.rule) = BranchRule.defaults Float ∧
      ∀ branch,
        (table.rules.Pairwise fun r r' =>
          ¬ (r.pattern.isMatch branch.toList = true ∧ r'.pattern.isMatch branch.toList = true)) ∧
        (∀ rules, rules.Perm table.rules →
          BranchTable.lookup ⟨rules, table.default⟩ branch = table.lookup branch) ∧
        table.Classifies branch ∧
        ∀ environment, ∃ strictest t loosest,
          Threshold.resolve (Config.default Float) ⟨environment, "main"⟩ = .ok strictest ∧
          Threshold.resolve (Config.default Float) ⟨environment, branch⟩ = .ok t ∧
          Threshold.resolve (Config.default Float) ⟨environment, "feature/x"⟩ = .ok loosest ∧
          strictest.value ≤ t.value ∧ t.value ≤ loosest.value := by
  refine ⟨_, BranchTable.ofConfig_default, rfl, fun branch => ⟨BranchClass.pairwise_entry,
    fun rules hrules => BranchTable.lookup_perm hrules rfl, BranchTable.classifies_defaults branch,
    fun environment => ?_⟩⟩
  have hmain : (BranchTable.defaults.lookup "main").1 = 1.0 :=
    (BranchTable.classifies_defaults "main").strict_iff.2 (.inl rfl)
  have hfeature : (BranchTable.defaults.lookup "feature/x").1 = 1.7 :=
    (BranchTable.classifies_defaults "feature/x").shortLived_iff.2
      ⟨"feature", by decide, ['/', 'x'], by decide, '/', 'x', [], by decide, by decide, rfl⟩
  obtain ⟨strictest, hstrictest, hleast⟩ := resolve_default ⟨environment, "main"⟩
  obtain ⟨t, ht, hvalue⟩ := resolve_default ⟨environment, branch⟩
  obtain ⟨loosest, hloosest, hgreatest⟩ := resolve_default ⟨environment, "feature/x"⟩
  obtain ⟨-, hlower, hupper⟩ := defaultValue_bounds environment
    (BranchTable.lookup_mem_multipliers branch)
  refine ⟨strictest, t, loosest, hstrictest, ht, hloosest, ?_, ?_⟩
  · rwa [hleast, hvalue, hmain]
  · rwa [hvalue, hgreatest, hfeature]

end CostGate
