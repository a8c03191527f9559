import CostGate.Proofs.Gate.Conservation
import CostGate.Proofs.Report.Colour

/-!
# The severities in the console report

The console report takes the critical violations and the emergencies from all violations, and says
that the others are warnings. Violations found by an evaluation are warnings, critical or
emergencies, so this leaves the warnings, and the printed counts add up.
-/
namespace CostGate

open Number (numeral fixed)
open Text (ended)

/-- Violations of some severity are warnings if they are neither critical nor emergencies. -/
theorem countSeverity_warning_add {vs : List (Violation Float)}
    (h : ∀ v ∈ vs, v.severity ≠ .autonomous) :
    countSeverity .emergency vs + countSeverity .critical vs + countSeverity .warning vs =
      vs.length := by
  unfold countSeverity
  induction vs with
  | nil => rfl
  | cons v vs ih =>
    obtain ⟨hv, hvs⟩ := List.forall_mem_cons.1 h
    rw [List.countP_cons, List.countP_cons, List.countP_cons, List.length_cons, ← ih hvs]
    cases hs : v.severity with
    | autonomous => exact absurd hs hv
    | warning => simp; omega
    | critical => simp; omega
    | emergency => simp; omega

namespace Console

def breakdownText (emergency critical warning : ℕ) : List Char :=
  [' ', ' '] ++ numeral emergency ++ " emergency | ".toList ++ numeral critical ++
    " critical | ".toList ++ numeral warning ++ " warning".toList

/-- A line of the text ends with the number of violations and a share in brackets, and the next one
has the numbers of each severity. -/
def Counts (text : List Char) (violations emergency critical warning : ℕ) : Prop :=
  ∃ before zones breakdown after front share,
    text = before ++ '\n' :: (zones ++ '\n' :: (breakdown ++ '\n' :: after)) ∧
    unstyled zones = front ++ "Violations: ".toList ++ numeral violations ++ " (".toList ++ share ∧
    unstyled breakdown = breakdownText emergency critical warning

variable {r : Report Float} (h : 0 < r.summary.violations)
include h

theorem counts_render (top : ℕ) (color : Bool) :
    Counts (render r top color) r.summary.violations r.summary.emergency r.summary.critical
      (warnings r.summary) := by
  have havoids := avoids_of_mem_overviewLines (r := r) (c := '\x1b') (by decide)
  have hzones := unstyled_chars (havoids (zonesLine r) (by simp [overviewLines])) color
  have hbreakdown := unstyled_chars (havoids (breakdownLine r) (by simp [overviewLines, h])) color
  refine ⟨ended '\n' ((headingLines r).map (chars color)) ++ chars color (styled .bold "SUMMARY"),
    chars color (zonesLine r), chars color (breakdownLine r),
    '\n' ::
      ended '\n' ((detailLines r top ++ isolationLines r ++ verdictLines r).map (chars color)),
    chars false ((zonesLine r).take 4) ++ [' ', ' '], chars false ((zonesLine r).drop 7), ?_,
    hzones.trans ?_, hbreakdown.trans ?_⟩
  · simp [render_eq_ended, lines, overviewLines, h]
  · simp [zonesLine, plain, count]
  · simp [breakdownLine, breakdownText, plain, count, Piece.chars]

end Console

/-- The subtractions of the console report are exact for the report of an evaluation. They leave the
number of warnings, and the printed counts add up to the number of violations. -/
theorem breakdown_adds_up {limits : Limits Float} {components : List (String × Float)}
    {threshold : Float} {filesScanned : ℕ} {ev : Evaluation Float}
    (hev : limits.evaluate components threshold filesScanned = .ok ev)
    (header : ReportHeader Float) :
    let r := Report.ofEvaluation ev header
    let s := r.summary
    s.critical + s.emergency ≤ s.violations ∧
      Console.warnings s = countSeverity .warning r.violations ∧
      s.emergency + s.critical + Console.warnings s = s.violations ∧
      s.violations = r.violations.length ∧
      ∀ top color, 0 < s.violations →
        Console.Counts (Console.render r top color) s.violations s.emergency s.critical
          (Console.warnings s) := by
  obtain ⟨hacceptable, heq⟩ := evaluate_eq_ok_iff.1 hev
  have haccounts : ev.Accounts components threshold := heq ▸ accounts_evaluationOf hacceptable
  have hcritical : ev.summary.critical = countSeverity .critical ev.violations := by
    rw [heq]
    rfl
  have hemergency : ev.summary.emergency = countSeverity .emergency ev.violations := by
    rw [heq]
    rfl
  have hadd := countSeverity_warning_add haccounts.severity_ne
  rw [← hcritical, ← hemergency, ← haccounts.violations_eq] at hadd
  have hwarnings : Console.warnings ev.summary = countSeverity .warning ev.violations := by
    have hexact : Console.wordSub ev.summary.violations ev.summary.critical =
        ev.summary.violations - ev.summary.critical := Console.wordSub_of_le (by omega)
    rw [Console.warnings, hexact, Console.wordSub_of_le (by omega)]
    omega
  exact ⟨haccounts.severe_le, hwarnings, hwarnings ▸ hadd, haccounts.violations_eq,
    fun top color h => Console.counts_render h top color⟩

/-- One violation of each severity. -/
theorem breakdown_adds_up_mixed :
    ∃ ev, (Limits.default Float).evaluate [("core", 1.3), ("api", 0.9), ("io", 0.7), ("ui", 0.2)]
        0.6 7 = .ok ev ∧
      countSeverity .warning ev.violations = 1 ∧
      Console.Counts (Console.render (.ofEvaluation ev Report.sample.header) 10 true) 3 1 1 1 := by
  obtain ⟨ev, hev⟩ : ∃ ev, (Limits.default Float).evaluate
      [("core", 1.3), ("api", 0.9), ("io", 0.7), ("ui", 0.2)] 0.6 7 = .ok ev :=
    ⟨_, evaluate_eq_ok_iff.2 ⟨⟨by decide, by decide⟩, rfl⟩⟩
  obtain ⟨-, hwarnings, -, -, hcounts⟩ := breakdown_adds_up hev Report.sample.header
  obtain ⟨hviolations, hemergency, hcritical, hone⟩ : ev.summary.violations = 3 ∧
      ev.summary.emergency = 1 ∧ ev.summary.critical = 1 ∧ Console.warnings ev.summary = 1 := by
    rw [(evaluate_eq_ok_iff.1 hev).2]
    decide +kernel
  have hprinted : Console.Counts (Console.render (.ofEvaluation ev Report.sample.header) 10 true)
      ev.summary.violations ev.summary.emergency ev.summary.critical
      (Console.warnings ev.summary) :=
    hcounts 10 true (hviolations ▸ Nat.succ_pos 2)
  rw [hviolations, hemergency, hcritical, hone] at hprinted
  exact ⟨ev, hev, hwarnings.symm.trans hone, hprinted⟩

end CostGate
