import CostGate.Proofs.Report.Sheet
import CostGate.Proofs.Report.Words

/-!
# Details of violations

The console report and the Markdown report show the violations one by one. Both are read row by
row. The Markdown report shows all violations, the console report as many as it is told to and the
number of the others.
-/
namespace CostGate

open Number (fixed numeral padLeft)

/-- What a row shows of a violation. -/
structure Detail where
  number : List Char
  name : List Char
  ratio : List Char
  cost : List Char
  deriving Repr, DecidableEq

def Violation.detail (n : ℕ) (v : Violation Float) : Detail :=
  ⟨numeral n, v.path.toList, fixed 4 v.ratio, fixed 4 v.cost⟩

def Report.details (r : Report Float) : List Detail :=
  r.violations.mapIdx fun i v => v.detail (i + 1)

variable {r : Report Float}

namespace Markdown

/-- The text in front of the first bar and the text behind it. -/
def front (s : List Char) : List Char × List Char :=
  (s.takeWhile (· != '|'), (s.dropWhile (· != '|')).drop 1)

/-- The text behind the last bar and the text in front of it. -/
def back (s : List Char) : List Char × List Char :=
  ((front s.reverse).1.reverse, (front s.reverse).2.reverse)

/-- A text without so many characters at either end. -/
def inner (n : ℕ) (s : List Char) : List Char := (s.drop n).rdrop n

/-- A row is read from both ends up to its name, in which bars may stand. -/
def readDetail (line : List Char) : Detail :=
  let (number, s) := front (line.drop 1)
  let (ratio, s) := back (s.rdrop 1)
  let (_, s) := back s
  let (cost, s) := back s
  let (_, name) := back s
  ⟨inner 1 number, inner 2 name, inner 1 ratio, inner 1 cost⟩

/-- The rows of the table that starts with numbers. -/
def shown (text : List Char) : List Detail :=
  let numbered := (tables text).find? fun t => (cells t.header).head? = some (padded ['#'])
  (numbered.elim [] (·.rows)).map readDetail

section

variable {c : List Char} (hc : '|' ∉ c) (s : List Char)
include hc

theorem front_append : front (c ++ '|' :: s) = (c, s) := by
  have hall : ∀ x ∈ c, (x != '|') = true := by
    intro x hx
    rw [bne_iff_ne]
    exact fun heq => hc (heq ▸ hx)
  rw [front, List.takeWhile_append_of_pos hall, List.dropWhile_append_of_pos hall]
  simp

theorem back_append : back (s ++ '|' :: c) = (c, s) := by
  have hreverse : (s ++ '|' :: c).reverse = c.reverse ++ '|' :: s.reverse := by simp
  rw [back, hreverse, front_append (by simpa using hc)]
  simp

end

theorem inner_padded (s : List Char) : inner 1 (padded s) = s := by simp [inner, padded, List.rdrop]

theorem readDetail_rowLine (n : ℕ) (v : Violation Float) :
    readDetail (rowLine (violationRow n v)) = v.detail n := by
  have hcell {c : List Char} (hc : IsPlain c) : '|' ∉ padded c := by simpa [padded] using hc.1
  have hnumber := hcell (isPlain_numeral n)
  have hseverity : '|' ∉ padded (severityBadge v.severity).toList :=
    hcell (by cases v.severity <;> decide)
  have hline : rowLine (violationRow n v) = '|' :: (padded (numeral n) ++ '|' ::
      (padded (code v.path) ++ '|' :: padded (severityBadge v.severity).toList ++ '|' ::
        padded (fixed 4 v.cost) ++ '|' :: padded (fixed 3 v.threshold) ++ '|' ::
          padded (fixed 4 v.ratio) ++ ['|'])) := by
    rw [rowLine_eq_ended (by simp [violationRow])]
    simp [violationRow]
  have hlast (s : List Char) : (s ++ ['|']).rdrop 1 = s := by simp [List.rdrop]
  have hname : inner 2 (padded (code v.path)) = v.path.toList := by
    simp [inner, padded, code, List.rdrop]
  rw [hline]
  simp only [readDetail, List.drop_one, List.tail_cons, front_append hnumber, hlast,
    back_append (hcell (isPlain_fixed 4 v.ratio)),
    back_append (hcell (isPlain_fixed 3 v.threshold)),
    back_append (hcell (isPlain_fixed 4 v.cost)), back_append hseverity, inner_padded, hname,
    Violation.detail]

theorem map_readDetail_rows :
    (violationsGrid r).rows.map (readDetail ∘ rowLine) = r.details := by
  refine List.ext_getElem (by simp [violationsGrid, Report.details]) ?_
  simp [violationsGrid, Report.details, readDetail_rowLine]

theorem shown_render (hr : r.Avoids '\n') : shown (render r) = r.details := by
  have hheader : (cells (headerGrid r).header).head? ≠ some (padded ['#']) :=
    show (cells headerFrame.header).head? ≠ some (padded ['#']) by decide
  have hsummary : (cells (summaryGrid r).header).head? ≠ some (padded ['#']) :=
    show (cells summaryFrame.header).head? ≠ some (padded ['#']) by decide
  have hviolations : (cells (violationsGrid r).header).head? = some (padded ['#']) :=
    show (cells violationsFrame.header).head? = some (padded ['#']) by decide
  have hcomponents : (cells (componentsGrid r).header).head? ≠ some (padded ['#']) :=
    show (cells componentsFrame.header).head? ≠ some (padded ['#']) by decide
  rw [shown, tables_render hr, grids]
  split_ifs with hv hc hc
  · simp [Grid.table, hheader, hsummary, Report.details, List.isEmpty_iff.1 hv]
  · simp [Grid.table, hheader, hsummary, hcomponents, Report.details, List.isEmpty_iff.1 hv]
  · simp [Grid.table, hheader, hsummary, hviolations, map_readDetail_rows]
  · simp [Grid.table, hheader, hsummary, hviolations, map_readDetail_rows]

end Markdown

namespace Console

/-- A row is read word by word. The name is all that follows the cost and two blanks. -/
def readDetail (line : List Char) : Detail :=
  let (number, s) := nextWord line
  let (_, s) := nextWord s
  let (ratio, s) := nextWord s
  let (cost, s) := nextWord s
  ⟨number, s.drop 2, ratio, cost⟩

/-- The rows below the header that starts with a number sign, up to a blank line. -/
def shown (text : List Char) : List Detail :=
  let table := (text.splitOn '\n').dropWhile fun line => lead line != some '#'
  ((table.drop 2).takeWhile (· != [])).map readDetail

/-- Some line says that there are so many more violations. -/
def Announces (text : List Char) (k : ℕ) : Prop :=
  ∃ line ∈ text.splitOn '\n', firstWords 3 line = ["...and".toList, numeral k, "more".toList]

theorem readDetail_rowLine (n : ℕ) (v : Violation Float) (color : Bool) :
    readDetail (chars color (rowLine n v)) = v.detail n := by
  have hnumber : nextWord (chars color (rowLine n v)) =
      (numeral n, chars color ((rowLine n v).drop 3)) :=
    nextWord_of_skip (isWord_numeral n) (by simp [rowLine, plain]) (by simp [rowLine, plain])
  have htag : nextWord (chars color ((rowLine n v).drop 3)) =
      ((severityTag v.severity).toList, chars color ((rowLine n v).drop 7)) :=
    nextWord_of_skip (by cases v.severity <;> simp [severityTag, IsWord, isMark])
      (by simp [rowLine, plain]) (by simp [rowLine, plain])
  have hratio : nextWord (chars color ((rowLine n v).drop 7)) =
      (fixed 4 v.ratio, chars color ((rowLine n v).drop 10)) :=
    nextWord_of_skip (isWord_fixed 4 v.ratio) (by simp [rowLine, plain]) (by simp [rowLine, plain])
  have hcost : nextWord (chars color ((rowLine n v).drop 10)) =
      (fixed 4 v.cost, chars color ((rowLine n v).drop 12)) :=
    nextWord_of_skip (isWord_fixed 4 v.cost) (by simp [rowLine, plain]) (by simp [rowLine, plain])
  simp only [readDetail, hnumber, htag, hratio, hcost]
  simp [rowLine, plain, Violation.detail]

/-- A line starts neither like the header of the table nor like the remainder. -/
def Unmarked (line : List Char) : Prop := lead line ≠ some '#' ∧ lead line ≠ some '.'

theorem unmarked_of_isWord {w s t : List Char} (hw : IsWord w) (h : skip t = skip (w ++ s))
    (hne : '#' ∉ w ∧ '.' ∉ w) : Unmarked t := by
  rw [Unmarked, lead_of_skip hw (h.trans (skip_append hw))]
  exact ⟨fun hhead => hne.1 (List.mem_of_head? hhead), fun hhead => hne.2 (List.mem_of_head? hhead)⟩

theorem unmarked_numeral {n : ℕ} {s t : List Char} (h : skip t = skip (numeral n ++ s)) :
    Unmarked t := by
  have hdigit {c : Char} (hc : c ∈ numeral n) : Text.isAsciiDigit c = true :=
    Document.Json.isAsciiDigit_of_mem_numeral hc
  exact unmarked_of_isWord (isWord_numeral n) h
    ⟨fun hmem => absurd (hdigit hmem) (by decide), fun hmem => absurd (hdigit hmem) (by decide)⟩

theorem unmarked_nil : Unmarked [] := by simp [Unmarked, lead]

variable (color : Bool)

theorem unmarked_of_mem_headingLines : ∀ line ∈ headingLines r, Unmarked (chars color line) := by
  simp [headingLines, Unmarked, lead, styled, plain, skip_of_isMark, isMark]

theorem unmarked_of_mem_overviewLines : ∀ line ∈ overviewLines r, Unmarked (chars color line) := by
  have hbreakdown : Unmarked (chars color (breakdownLine r)) := by
    refine unmarked_numeral (n := r.summary.emergency)
      (s := chars color ((breakdownLine r).drop 3)) ?_
    simp [breakdownLine, plain, count]
  have hsummary : Unmarked (chars color (styled .bold "SUMMARY")) ∧
      Unmarked (chars color (zonesLine r)) := by
    simp [zonesLine, Unmarked, lead, styled, plain, skip_of_isMark, isMark]
  rw [overviewLines]
  split_ifs <;> simp [hbreakdown, hsummary, unmarked_nil]

theorem unmarked_of_mem_isolationLines :
    ∀ line ∈ isolationLines r, Unmarked (chars color line) := by
  rw [isolationLines]
  split_ifs <;> simp [Unmarked, lead, styled, plain, skip_of_isMark, isMark]

theorem unmarked_of_mem_verdictLines : ∀ line ∈ verdictLines r, Unmarked (chars color line) := by
  rw [verdictLines]
  split_ifs <;> simp [Unmarked, lead, styled, plain, skip_of_isMark, isMark]

theorem unmarked_rowLine (n : ℕ) (v : Violation Float) :
    Unmarked (chars color (rowLine n v)) := by
  refine unmarked_numeral (n := n) (s := chars color ((rowLine n v).drop 3)) ?_
  simp [rowLine, plain]

theorem firstWords_remainderLine (hidden : ℕ) :
    firstWords 3 (chars color (remainderLine hidden)) =
      ["...and".toList, numeral hidden, "more".toList] := by
  have hand : nextWord (chars color (remainderLine hidden)) =
      ("...and".toList, ' ' :: chars color ((remainderLine hidden).drop 3)) :=
    nextWord_of_skip (by simp [IsWord, isMark]) (by simp [remainderLine, plain]) (by simp)
  have hcount : nextWord (' ' :: chars color ((remainderLine hidden).drop 3)) =
      (numeral hidden, chars color ((remainderLine hidden).drop 4)) :=
    nextWord_of_skip (isWord_numeral hidden) (by simp [remainderLine, plain, count])
      (by simp [remainderLine, plain])
  have hmore : nextWord (chars color ((remainderLine hidden).drop 4)) =
      ("more".toList, " (use --top or --format markdown)".toList ++
        chars color [.style .reset]) :=
    nextWord_of_skip (by simp [IsWord, isMark]) (by simp [remainderLine, plain]) (by simp)
  simp only [firstWords, hand, hcount, hmore]

variable (r) in
def before : List (List Char) := (headingLines r ++ overviewLines r).map (chars color)

variable (r) in
def behind : List (List Char) :=
  (isolationLines r ++ verdictLines r).map (chars color) ++ [[]]

theorem unmarked_of_mem_before : ∀ line ∈ before r color, Unmarked line := by
  simp only [before, List.map_append, List.forall_mem_append, List.forall_mem_map]
  exact ⟨unmarked_of_mem_headingLines color, unmarked_of_mem_overviewLines color⟩

theorem unmarked_of_mem_behind : ∀ line ∈ behind r color, Unmarked line := by
  simp only [behind, List.map_append, List.forall_mem_append, List.forall_mem_map]
  exact ⟨⟨unmarked_of_mem_isolationLines color, unmarked_of_mem_verdictLines color⟩,
    by simp [unmarked_nil]⟩

theorem splitOn_render_eq (hr : r.Avoids '\n') (top : ℕ) :
    (render r top color).splitOn '\n' =
      before r color ++ ((detailLines r top).map (chars color) ++ behind r color) := by
  rw [splitOn_render color hr, lines, before, behind]
  simp only [List.map_append, List.append_assoc]

variable (r) in
def rows (top : ℕ) : List (List Char) :=
  ((r.violations.take top).mapIdx fun i v => rowLine (i + 1) v).map (chars color)

theorem map_readDetail_rows (top : ℕ) : (rows r color top).map readDetail = r.details.take top := by
  refine List.ext_getElem (by simp [rows, Report.details]) ?_
  simp [rows, Report.details, readDetail_rowLine]

theorem forall_mem_rows {P : List Char → Prop}
    (h : ∀ n v, P (chars color (rowLine n v))) (top : ℕ) : ∀ line ∈ rows r color top, P line := by
  rw [rows, List.forall_mem_map]
  intro ps hps
  obtain ⟨i, _, rfl⟩ := List.mem_mapIdx.1 hps
  exact h _ _

theorem map_detailLines (h : r.violations ≠ []) (top : ℕ) :
    (detailLines r top).map (chars color) = tableLines.map (chars color) ++ (rows r color top ++
      ((remainderLines (r.violations.length - top)).map (chars color) ++ [[]])) := by
  rw [detailLines, if_neg (by simpa using h), rows]
  simp

/-- The table is found by its header, and its rows end at the first blank line. -/
theorem shown_render (hr : r.Avoids '\n') (top : ℕ) :
    shown (render r top color) = r.details.take top := by
  have hpass {ls : List (List Char)} (h : ∀ line ∈ ls, Unmarked line) :
      ∀ line ∈ ls, (lead line != some '#') = true :=
    fun line hline => bne_iff_ne.2 (h line hline).1
  rw [shown, splitOn_render_eq color hr]
  simp only [List.dropWhile_append_of_pos (hpass (unmarked_of_mem_before color))]
  by_cases hnone : r.violations = []
  · have hall := List.dropWhile_eq_nil_iff.2 (hpass (unmarked_of_mem_behind (r := r) color))
    rw [detailLines, if_pos (List.isEmpty_iff.2 hnone), List.map_nil, List.nil_append, hall]
    simp [Report.details, hnone]
  · obtain ⟨rest, hrest⟩ : ∃ rest, (remainderLines (r.violations.length - top)).map (chars color) ++
        ([[]] ++ behind r color) = [] :: rest := by
      rw [remainderLines]
      split_ifs <;> exact ⟨_, rfl⟩
    have hrows : ∀ line ∈ rows r color top, (line != []) = true :=
      forall_mem_rows color (fun n v => by simp [rowLine, plain]) top
    have hheader : lead (chars color (styled .dim "  #   SEV   RATIO    COST      COMPONENT")) =
        some '#' := by
      simp [lead, styled, plain, skip_of_isMark, isMark]
    rw [map_detailLines color hnone, List.append_assoc, List.append_assoc, List.append_assoc,
      hrest, tableLines, List.map_cons, List.cons_append,
      List.dropWhile_cons_of_neg (by simp [hheader])]
    simp only [List.map_cons, List.map_nil, List.cons_append, List.nil_append, List.drop_succ_cons,
      List.drop_zero]
    rw [List.takeWhile_append_of_pos hrows, List.takeWhile_cons_of_neg (by simp), List.append_nil,
      map_readDetail_rows]

theorem eq_remainderLine_of_mem_detailLines {top : ℕ} {line : List Char}
    (hline : line ∈ (detailLines r top).map (chars color)) (hlead : lead line = some '.') :
    0 < r.violations.length - top ∧
      line = chars color (remainderLine (r.violations.length - top)) := by
  have hmarked : ¬ Unmarked line := fun h => h.2 hlead
  have htable : ∀ line ∈ tableLines.map (chars color), lead line ≠ some '.' := by
    simp [tableLines, lead, styled, plain, skip_of_isMark, isMark]
  have hremainder {hidden : ℕ} (h : line ∈ (remainderLines hidden).map (chars color)) :
      0 < hidden ∧ line = chars color (remainderLine hidden) := by
    rw [remainderLines] at h
    split_ifs at h with hhidden
    · exact absurd h List.not_mem_nil
    · rw [List.map_cons, List.map_singleton, List.mem_cons, List.mem_singleton] at h
      exact ⟨Nat.pos_of_ne_zero hhidden, h.resolve_left fun hnil => hmarked (hnil ▸ unmarked_nil)⟩
  have hsome : r.violations ≠ [] := by
    intro hnil
    simp [detailLines, hnil] at hline
  rw [map_detailLines color hsome, List.mem_append, List.mem_append, List.mem_append] at hline
  rcases hline with h | h | h | h
  · exact absurd hlead (htable line h)
  · exact absurd (forall_mem_rows color (unmarked_rowLine color) top line h) hmarked
  · exact hremainder h
  · exact absurd (List.mem_singleton.1 h ▸ unmarked_nil) hmarked

/-- No line of the report but the remainder starts with a dot. -/
theorem eq_remainderLine_of_lead (hr : r.Avoids '\n') {top : ℕ} {line : List Char}
    (hline : line ∈ (render r top color).splitOn '\n') (hlead : lead line = some '.') :
    0 < r.violations.length - top ∧
      line = chars color (remainderLine (r.violations.length - top)) := by
  rw [splitOn_render_eq color hr, List.mem_append, List.mem_append] at hline
  rcases hline with h | h | h
  · exact absurd hlead (unmarked_of_mem_before color line h).2
  · exact eq_remainderLine_of_mem_detailLines color h hlead
  · exact absurd hlead (unmarked_of_mem_behind color line h).2

theorem announces_render_iff (hr : r.Avoids '\n') (top k : ℕ) :
    Announces (render r top color) k ↔ 0 < k ∧ k = r.violations.length - top := by
  constructor
  · rintro ⟨line, hline, hwords⟩
    have hlead : lead line = some '.' := by
      rw [firstWords] at hwords
      exact lead_of_nextWord (w := "..and".toList) (List.cons.inj hwords).1
    obtain ⟨hpos, rfl⟩ := eq_remainderLine_of_lead color hr hline hlead
    rw [firstWords_remainderLine] at hwords
    have hnumeral : numeral (r.violations.length - top) = numeral k :=
      (List.cons.inj (List.cons.inj hwords).2).1
    have hk := Function.LeftInverse.injective Document.Json.ofDigits_numeral hnumeral
    exact ⟨hk ▸ hpos, hk.symm⟩
  · rintro ⟨hpos, rfl⟩
    refine ⟨_, ?_, firstWords_remainderLine color _⟩
    have hsome : r.violations ≠ [] := by
      rintro hnil
      simp [hnil] at hpos
    rw [splitOn_render_eq color hr, map_detailLines color hsome, remainderLines,
      if_neg (Nat.ne_of_gt hpos)]
    simp

theorem warnings?_eq (overflow : Overflow) (s : Summary Float) :
    warnings? overflow s =
      if overflow = .fails ∧ s.violations < s.critical + s.emergency then none
      else some (warnings s) := by
  cases overflow with
  | wraps => exact (if_neg (fun h => Overflow.noConfusion h.1)).symm
  | fails =>
    unfold warnings? warnings
    by_cases hcritical : s.critical ≤ s.violations
    · rw [wordSub_of_le hcritical]
      by_cases hemergency : s.emergency ≤ s.violations - s.critical
      · rw [wordSub_of_le hemergency, if_neg (by omega)]
        simp [Overflow.sub?, hcritical, hemergency]
      · rw [if_pos ⟨rfl, by omega⟩]
        simp [Overflow.sub?, hcritical, hemergency]
    · rw [if_pos ⟨rfl, by omega⟩]
      simp [Overflow.sub?, hcritical]

theorem render?_eq (overflow : Overflow) (top : ℕ) :
    render? r overflow top color =
      if overflow = .fails ∧ 0 < r.summary.violations ∧
          r.summary.violations < r.summary.critical + r.summary.emergency then none
      else some (render r top color) := by
  unfold render?
  simp [warnings?_eq, and_left_comm]

end Console

/-- Both reports show the violations in their order, with their numbers, names, ratios and costs:
the Markdown report all of them, the console report the first ones. It says how many more there are
if there are more. A program whose counts wrap around always has a console report. One that checks
its arithmetic has none exactly if there are violations, but fewer than it counts as critical and as
emergencies. -/
theorem details_accounted (hr : r.Avoids '\n') (top : ℕ) (color : Bool) :
    let listed := Markdown.shown (Markdown.render r)
    listed = r.details ∧ listed.length = r.violations.length ∧
      Console.render? r .wraps top color = some (Console.render r top color) ∧
      (Console.render? r .fails top color = none ↔ 0 < r.summary.violations ∧
        r.summary.violations < r.summary.critical + r.summary.emergency) ∧
      ∀ overflow text, Console.render? r overflow top color = some text →
        let shown := Console.shown text
        shown = listed.take top ∧ shown.length = min top r.violations.length ∧
          (∀ k, Console.Announces text k ↔ 0 < k ∧ k = r.violations.length - top) ∧
          shown.length + (r.violations.length - top) = r.violations.length := by
  have hlength : r.details.length = r.violations.length := by simp [Report.details]
  have htake : (r.details.take top).length = min top r.violations.length := by
    rw [List.length_take, hlength]
  dsimp only
  rw [Markdown.shown_render hr]
  have hrender := Console.render?_eq (r := r) color
  refine ⟨rfl, hlength, by simp [hrender], by simp [hrender], ?_⟩
  intro overflow text htext
  rw [hrender] at htext
  split_ifs at htext
  obtain rfl := Option.some.inj htext
  rw [Console.shown_render color hr]
  exact ⟨rfl, htake, Console.announces_render_iff color hr top, by omega⟩

/-- The counts of the sample add up. With three critical violations and an emergency among three
violations they do not. -/
theorem details_accounted_truncated :
    let odd := { Report.sample with summary.critical := 3 }
    (Report.sample.Avoids '\n' ∧ ∃ text, Console.render? Report.sample .fails 2 true = some text ∧
      Console.shown text = Report.sample.details.take 2 ∧ Console.Announces text 1) ∧
    (odd.Avoids '\n' ∧ Console.render? odd .fails 2 true = none ∧
      ∃ text, Console.render? odd .wraps 2 true = some text ∧
        Console.shown text = odd.details.take 2 ∧ Console.Announces text 1) := by
  intro odd
  have hr : Report.sample.Avoids '\n' := by decide
  have hodd : odd.Avoids '\n' := by decide
  constructor
  · obtain ⟨hlisted, -, -, hnone, hshown⟩ := details_accounted hr 2 true
    obtain ⟨text, htext⟩ := Option.ne_none_iff_exists'.1 (mt hnone.1 (by decide))
    obtain ⟨htake, -, hmore, -⟩ := hshown .fails text htext
    exact ⟨hr, text, htext, hlisted ▸ htake, (hmore 1).2 ⟨by decide, rfl⟩⟩
  · obtain ⟨hlisted, -, hsome, hnone, hshown⟩ := details_accounted hodd 2 true
    obtain ⟨htake, -, hmore, -⟩ := hshown .wraps _ hsome
    exact ⟨hodd, hnone.2 (by decide), _, hsome, hlisted ▸ htake, (hmore 1).2 ⟨by decide, rfl⟩⟩

end CostGate
