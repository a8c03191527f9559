import CostGate.Document.JsonText
import CostGate.Report.Basic

/-!
# The Markdown report

A record of a run in tables. Cells are written as they are, between bars with a blank on either
side.
-/
namespace CostGate.Markdown

open Document.Json (joinWith)
open Number (fixed numeral)

def row (cells : List (List Char)) : List Char :=
  ['|', ' '] ++ joinWith [' ', '|', ' '] cells ++ [' ', '|', '\n']

def texts (cells : List String) : List (List Char) := cells.map String.toList

/-- A name that stands for itself, between backquotes. -/
def code (s : String) : List Char := '\x60' :: s.toList ++ ['\x60']

def strong (s : String) : List Char := ['*', '*'] ++ s.toList ++ ['*', '*']

def levelSign (level : String) : String :=
  if level = Level.emergency.name then "🚨"
  else if level = Level.governance.name then "❌"
  else if level = Level.warning.name then "⚠️"
  else "✅"

def severityBadge : Severity → String
  | .emergency => "🚨 Emergency"
  | .critical => "🔴 Critical"
  | .warning => "🟡 Warning"
  | .autonomous => "🟢 Autonomous"

variable (r : Report Float)

def headerRow : List (List Char) :=
  let h := r.header
  [h.environment.toList, code h.branch, fixed 3 h.threshold, fixed 3 h.autonomousLimit]

def header : List Char :=
  let c := r.compliance
  "# ".toList ++ (levelSign c.level).toList ++ " Architecture Governance Report\n\n".toList ++
    strong ("Level: " ++ c.level) ++ " | ".toList ++
    strong ("Compliant: " ++ if c.compliant then "yes" else "no") ++ "\n\n".toList ++
    row (texts ["Environment", "Branch", "Threshold", "Autonomous limit"]) ++
    "|-------------|--------|-----------|------------------|\n".toList ++
    row (headerRow r) ++
    "\nGenerated: ".toList ++ r.header.generatedAt.toList ++ ['\n']

/-- The names and the values of the summary. -/
def summaryRows : List (List (List Char)) :=
  let s := r.summary
  [[strong "Components evaluated", numeral s.components],
  [strong "Files scanned", numeral s.filesScanned],
  [strong "Autonomous", numeral s.autonomous],
  [strong "Warning zone", numeral s.warningZone],
  [strong "Violations", numeral s.violations ++ [' ', '('] ++ fixed 2 s.percentage ++ ['%', ')']],
  [strong "Critical", numeral s.critical],
  [strong "Emergency", numeral s.emergency],
  [strong "Emergency action required",
    if s.emergencyAction then strong "yes" else "no".toList]]

def summary : List Char :=
  "## Summary\n\n".toList ++ row (texts ["Metric", "Value"]) ++ "|--------|-------|\n".toList ++
    (summaryRows r).flatMap row

/-- The cells of a violation with its number. -/
def violationRow (n : Nat) (v : Violation Float) : List (List Char) :=
  [numeral n, code v.path, (severityBadge v.severity).toList, fixed 4 v.cost,
  fixed 3 v.threshold, fixed 4 v.ratio]

/-- The rows of violations, the first of which has the given number. -/
def violationRowsFrom (n : Nat) : List (Violation Float) → List (List (List Char))
  | [] => []
  | v :: vs => violationRow n v :: violationRowsFrom (n + 1) vs

def violations : List Char :=
  "## Violations\n\n".toList ++
    if r.violations.isEmpty then "No component exceeds the governance threshold.\n".toList
    else
      row (texts ["#", "Component", "Severity", "Cost", "Threshold", "Ratio"]) ++
        "|---|-----------|----------|------|-----------|-------|\n".toList ++
        (violationRowsFrom 1 r.violations).flatMap row

def isolationItem (v : Violation Float) : List Char :=
  ['-', ' '] ++ code v.path ++ " (ratio ".toList ++ fixed 4 v.ratio ++ [',', ' '] ++
    v.severity.name.toList ++ [')', '\n']

/-- A tier under its title; an empty one is left out. -/
def tier (title : String) (vs : List (Violation Float)) : List Char :=
  if vs.isEmpty then []
  else "### ".toList ++ title.toList ++ "\n\n".toList ++ vs.flatMap isolationItem ++ ['\n']

def isolation : List Char :=
  let i := r.isolation
  "## Isolation Candidates\n\n".toList ++
    if i.mustIsolate.isEmpty ∧ i.shouldReview.isEmpty then "None.\n".toList
    else tier "Tier 1: must isolate" i.mustIsolate ++ tier "Tier 2: should review" i.shouldReview

/-- The cells of a component. The governance zone stands out. -/
def componentRow (a : Assessment Float) : List (List Char) :=
  [code a.path, fixed 4 a.cost,
  if a.zone = .governance then strong a.zone.name else a.zone.name.toList,
  a.severity.name.toList]

def components : List Char :=
  "## Component Audit\n\n".toList ++
    if r.components.isEmpty then "No components evaluated.\n".toList
    else
      row (texts ["Component", "Cost", "Zone", "Severity"]) ++
        "|-----------|------|------|----------|\n".toList ++
        (r.components.map componentRow).flatMap row

def footer : List Char :=
  "---\n\n*Generated by ".toList ++ r.header.generator.toList ++ " (report format ".toList ++
    r.header.formatVersion.toList ++ ")*\n".toList

def render : List Char :=
  header r ++ ['\n'] ++ summary r ++ ['\n'] ++ violations r ++ ['\n'] ++ isolation r ++ ['\n'] ++
    components r ++ ['\n'] ++ footer r

end CostGate.Markdown
