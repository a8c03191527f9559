import CostGate.Proofs.Report.Strings
import CostGate.Proofs.Text.Lines

/-!
# The lines of the console report

The pieces of the console report, put together line by line. No line has a control character that
is not in a string of the report, so the report can be cut into its lines again.
-/
namespace CostGate.Console

open Document.Json (joinWith)
open Number (fixed numeral padLeft)
open Text (IsControl ended)

@[simp] theorem chars_nil (color : Bool) : chars color [] = [] := rfl

@[simp] theorem chars_cons (color : Bool) (p : Piece) (ps : List Piece) :
    chars color (p :: ps) = p.chars color ++ chars color ps :=
  rfl

@[simp] theorem chars_append (color : Bool) (ps qs : List Piece) :
    chars color (ps ++ qs) = chars color ps ++ chars color qs :=
  List.flatMap_append

@[simp] theorem Piece.chars_text (color : Bool) (s : List Char) : (text s).chars color = s := rfl

def Piece.Avoids (c : Char) : Piece → Prop
  | text s => c ∉ s
  | style _ => True

@[simp] theorem avoids_text {c : Char} {s : List Char} : (Piece.text s).Avoids c ↔ c ∉ s := Iff.rfl

@[simp] theorem avoids_style (c : Char) (s : Style) : (Piece.style s).Avoids c := trivial

theorem avoids_count {c : Char} (hc : IsControl c) (n : ℕ) : (count n).Avoids c :=
  Number.not_mem_numeral hc.isNumeric_eq_false n

theorem avoids_plain {c : Char} (hc : IsControl c) {s : String}
    (hs : s.toList.all (32 ≤ ·.toNat) = true) : (plain s).Avoids c := by
  intro hmem
  have hle : 32 ≤ c.toNat := by simpa using List.all_eq_true.1 hs c hmem
  exact absurd hc.2 (Nat.not_lt.2 hle)

variable (r : Report Float)

def headingLines : List (List Piece) :=
  [[], styled .bold "Architecture Governance",
  styled .dim "──────────────────────────────────────",
  [plain "Environment: ", plain r.header.environment, plain "  Branch: ", plain r.header.branch,
  plain "  Threshold: ", .text (fixed 3 r.header.threshold), plain "  Autonomous: ",
  .text (fixed 3 r.header.autonomousLimit)],
  [plain "Components: ", count r.summary.components, plain "  Files: ",
  count r.summary.filesScanned],
  []]

def zonesLine : List Piece :=
  let s := r.summary
  [plain "  Autonomous: ", count s.autonomous, plain "  Warning zone: ", count s.warningZone,
  plain "  Violations: ", count s.violations, plain " (", .text (fixed 2 s.percentage), plain "%)"]

def breakdownLine : List Piece :=
  let s := r.summary
  [plain "  ", .style (severityStyle .emergency), count s.emergency, plain " emergency",
  .style .reset, plain " | ", .style (severityStyle .critical), count s.critical,
  plain " critical", .style .reset, plain " | ", .style (severityStyle .warning),
  count (warnings s), plain " warning", .style .reset]

def overviewLines : List (List Piece) :=
  [styled .bold "SUMMARY", zonesLine r] ++
    (if 0 < r.summary.violations then [breakdownLine r] else []) ++ [[]]

def rowLine (n : ℕ) (v : Violation Float) : List Piece :=
  [plain "  ", .style .dim, .text (padLeft 3 (numeral n)), .style .reset, plain "  ",
  .style (severityStyle v.severity), plain (severityTag v.severity), .style .reset, plain "  ",
  .text (padLeft 6 (fixed 4 v.ratio)), plain "  ", .text (padLeft 8 (fixed 4 v.cost)), plain "  ",
  plain v.path]

def remainderLine (hidden : ℕ) : List Piece :=
  [plain "  ", .style .dim, plain "...and ", count hidden,
  plain " more (use --top or --format markdown)", .style .reset]

def remainderLines (hidden : ℕ) : List (List Piece) :=
  if hidden = 0 then [] else [[], remainderLine hidden]

def tableLines : List (List Piece) :=
  [styled .dim "  #   SEV   RATIO    COST      COMPONENT",
  styled .dim "  ─────────────────────────────────────────────────────────"]

def detailLines (top : ℕ) : List (List Piece) :=
  if r.violations.isEmpty then []
  else
    tableLines ++ (r.violations.take top).mapIdx (fun i v => rowLine (i + 1) v) ++
      remainderLines (r.violations.length - top) ++ [[]]

def isolationLines : List (List Piece) :=
  let paths := r.isolation.mustIsolate.map (·.path.toList)
  let review := r.isolation.shouldReview
  (if paths.isEmpty then []
  else [styled .bold "MUST ISOLATE" ++ [plain "  ", .text (joinWith [',', ' '] paths)]]) ++
  (if review.isEmpty then []
  else [styled .bold "SHOULD REVIEW" ++ [plain " ", count review.length, plain " component(s)"]])

def verdictLines : List (List Piece) :=
  let c := r.compliance
  [[], [plain "Status: ", .style (levelStyle c.level), .style .bold,
  .text (Text.uppercase c.level.toList), .style .reset, plain "  Compliant: ",
  plain (if c.compliant then "yes" else "no")]] ++
    (if c.emergencyAction then
      [styled .dim "Emergency action required: isolate the components above before merging."]
    else [])

def lines (top : ℕ) : List (List Piece) :=
  headingLines r ++ overviewLines r ++ detailLines r top ++ isolationLines r ++ verdictLines r

variable (color : Bool)

theorem chars_heading :
    chars color (heading r) = ended '\n' ((headingLines r).map (chars color)) := by
  simp [heading, headingLines, plain, styled, Piece.chars]

theorem chars_overview :
    chars color (overview r) = ended '\n' ((overviewLines r).map (chars color)) := by
  have hbreakdown : chars color (breakdown r) = chars color (breakdownLine r) ++ ['\n'] := by
    simp [breakdown, breakdownLine, plain, Piece.chars]
  rw [overview, overviewLines]
  split_ifs <;> simp [zonesLine, plain, styled, Piece.chars, hbreakdown]

theorem chars_rowsFrom (n : ℕ) (vs : List (Violation Float)) :
    chars color (rowsFrom n vs) =
      ended '\n' ((vs.mapIdx fun i v => rowLine (n + i) v).map (chars color)) := by
  induction vs generalizing n with
  | nil => rfl
  | cons v vs ih =>
    have hrow : chars color (row n v) = chars color (rowLine n v) ++ ['\n'] := by
      simp [row, rowLine, plain, Piece.chars]
    rw [rowsFrom, chars_append, hrow, ih]
    simp [Nat.add_assoc, Nat.add_comm 1]

theorem chars_details (top : ℕ) :
    chars color (details r top) = ended '\n' ((detailLines r top).map (chars color)) := by
  have hremainder (hidden : ℕ) : chars color (remainder hidden) =
      ended '\n' ((remainderLines hidden).map (chars color)) := by
    rw [remainder, remainderLines]
    split_ifs <;> simp [remainderLine, plain, Piece.chars]
  rw [details, detailLines]
  split_ifs
  · rfl
  · simp [tableLines, chars_rowsFrom, hremainder, styled, plain, Piece.chars, Nat.add_comm 1]

theorem chars_isolation :
    chars color (isolation r) = ended '\n' ((isolationLines r).map (chars color)) := by
  rw [isolation, isolationLines]
  split_ifs <;> simp [styled, plain, Piece.chars]

theorem chars_verdict :
    chars color (verdict r) = ended '\n' ((verdictLines r).map (chars color)) := by
  rw [verdict, verdictLines]
  split_ifs <;> simp [styled, plain, Piece.chars]

theorem render_eq_ended (top : ℕ) :
    render r top color = ended '\n' ((lines r top).map (chars color)) := by
  simp only [render, pieces, lines, chars_append, chars_heading, chars_overview, chars_details,
    chars_isolation, chars_verdict, List.map_append, Text.ended_append]

section Avoids

variable {c : Char} (hc : IsControl c)
include hc

variable {r} (hr : r.Avoids c)
include hr

theorem avoids_of_mem_headingLines : ∀ line ∈ headingLines r, ∀ p ∈ line, p.Avoids c := by
  have henvironment : (plain r.header.environment).Avoids c := hr.environment
  have hbranch : (plain r.header.branch).Avoids c := hr.branch
  simp [headingLines, styled, avoids_plain hc, avoids_count hc, henvironment, hbranch,
    Number.not_mem_fixed hc.isNumeric_eq_false]

omit hr in
theorem avoids_of_mem_overviewLines : ∀ line ∈ overviewLines r, ∀ p ∈ line, p.Avoids c := by
  rw [overviewLines]
  split_ifs <;>
    simp [zonesLine, breakdownLine, styled, avoids_plain hc, avoids_count hc,
      Number.not_mem_fixed hc.isNumeric_eq_false]

omit hr in
theorem avoids_of_mem_rowLine {v : Violation Float} (hv : c ∉ v.path.toList) (n : ℕ) :
    ∀ p ∈ rowLine n v, p.Avoids c := by
  have htag : (plain (severityTag v.severity)).Avoids c :=
    avoids_plain hc (by cases v.severity <;> simp [severityTag])
  have hpath : (plain v.path).Avoids c := hv
  have hblank : c ≠ ' ' := by
    rintro rfl
    exact absurd hc (by decide)
  have hnumeric := hc.isNumeric_eq_false
  simp [rowLine, avoids_plain hc, htag, hpath, Number.not_mem_padLeft hblank,
    Number.not_mem_numeral hnumeric, Number.not_mem_fixed hnumeric]

theorem avoids_of_mem_detailLines (top : ℕ) :
    ∀ line ∈ detailLines r top, ∀ p ∈ line, p.Avoids c := by
  have hremainder (hidden : ℕ) : ∀ line ∈ remainderLines hidden, ∀ p ∈ line, p.Avoids c := by
    rw [remainderLines]
    split_ifs <;> simp [remainderLine, avoids_plain hc, avoids_count hc]
  rw [detailLines]
  split_ifs
  · simp
  · simp only [tableLines, styled, List.forall_mem_append, List.forall_mem_cons]
    refine ⟨⟨⟨by simp [avoids_plain hc], fun line hline => ?_⟩, hremainder _⟩, by simp⟩
    obtain ⟨i, hi, rfl⟩ := List.mem_mapIdx.1 hline
    have hmem := List.mem_of_mem_take (List.getElem_mem hi)
    exact avoids_of_mem_rowLine hc (hr.violation hmem) (i + 1)

theorem avoids_of_mem_isolationLines : ∀ line ∈ isolationLines r, ∀ p ∈ line, p.Avoids c := by
  have hpaths : c ∉ joinWith [',', ' '] (r.isolation.mustIsolate.map (·.path.toList)) := by
    have hseparator : c ∉ [',', ' '] := by
      simpa [plain] using avoids_plain (s := ", ") hc (by simp)
    refine Document.Json.not_mem_joinWith hseparator fun part hpart => ?_
    obtain ⟨v, hv, rfl⟩ := List.mem_map.1 hpart
    exact hr.isolated hv
  rw [isolationLines]
  split_ifs <;> simp [styled, avoids_plain hc, avoids_count hc, hpaths]

theorem avoids_of_mem_verdictLines : ∀ line ∈ verdictLines r, ∀ p ∈ line, p.Avoids c := by
  have hlevel : c ∉ Text.uppercase r.compliance.level.toList :=
    hc.not_mem_uppercase hr.level
  rw [verdictLines]
  split_ifs <;> simp [styled, avoids_plain hc, hlevel]

/-- A line has no control character that the strings of the report do not have. -/
theorem avoids_of_mem_lines (top : ℕ) : ∀ line ∈ lines r top, ∀ p ∈ line, p.Avoids c := by
  simp only [lines, List.forall_mem_append]
  exact ⟨⟨⟨⟨avoids_of_mem_headingLines hc hr, avoids_of_mem_overviewLines hc⟩,
    avoids_of_mem_detailLines hc hr top⟩, avoids_of_mem_isolationLines hc hr⟩,
    avoids_of_mem_verdictLines hc hr⟩

end Avoids

theorem newline_not_mem_chars {ps : List Piece} (h : ∀ p ∈ ps, p.Avoids '\n') :
    '\n' ∉ chars color ps := by
  have hsequence (s : Style) : '\n' ∉ s.sequence := by cases s <;> decide
  rw [chars, List.mem_flatMap]
  rintro ⟨p, hp, hmem⟩
  cases p with
  | text s => exact h _ hp hmem
  | style s =>
    rw [Piece.chars] at hmem
    split_ifs at hmem
    · exact hsequence s hmem
    · exact List.not_mem_nil hmem

theorem splitOn_render {r} (hr : r.Avoids '\n') (top : ℕ) :
    (render r top color).splitOn '\n' = (lines r top).map (chars color) ++ [[]] := by
  rw [render_eq_ended, Text.splitOn_ended]
  intro line hline
  obtain ⟨ps, hps, rfl⟩ := List.mem_map.1 hline
  exact newline_not_mem_chars color (avoids_of_mem_lines (by decide) hr top ps hps)

end CostGate.Console
