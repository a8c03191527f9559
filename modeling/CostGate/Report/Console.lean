import CostGate.Document.JsonText
import CostGate.Report.Basic
import CostGate.Text.Case

/-!
# The console report

A summary with the first violations in detail. The text is made of pieces; styles are pieces of
their own, so that colour is a choice of the rendering and not of the content.
-/
namespace CostGate.Console

open Document.Json (joinWith)
open Number (fixed numeral padLeft)

/-- The look of a text, up to the next reset. -/
inductive Style where
  | reset
  | bold
  | dim
  | red
  | lightRed
  | yellow
  | green
  deriving Repr, DecidableEq

/-- The number of a style in its control sequence. -/
def Style.number : Style → Nat
  | reset => 0
  | bold => 1
  | dim => 2
  | red => 31
  | lightRed => 91
  | yellow => 33
  | green => 32

def Style.sequence (s : Style) : List Char := '\x1b' :: '[' :: numeral s.number ++ ['m']

inductive Piece where
  | text (s : List Char)
  | style (s : Style)
  deriving Repr, DecidableEq

/-- The characters of a piece; without colour a style has none. -/
def Piece.chars (color : Bool) : Piece → List Char
  | text s => s
  | style s => if color then s.sequence else []

def chars (color : Bool) (ps : List Piece) : List Char := ps.flatMap (Piece.chars color)

def plain (s : String) : Piece := .text s.toList

def count (n : Nat) : Piece := .text (numeral n)

def styled (style : Style) (s : String) : List Piece := [.style style, plain s, .style .reset]

def severityStyle : Severity → Style
  | .emergency => .red
  | .critical => .lightRed
  | .warning => .yellow
  | .autonomous => .green

def severityTag : Severity → String
  | .emergency => "[E]"
  | .critical => "[C]"
  | .warning => "[W]"
  | .autonomous => "[A]"

def levelStyle (level : String) : Style :=
  if level = Level.emergency.name then .red
  else if level = Level.governance.name then .lightRed
  else if level = Level.warning.name then .yellow
  else .green

variable (r : Report Float)

def heading : List Piece :=
  plain "\n" :: styled .bold "Architecture Governance" ++ [plain "\n"] ++
    styled .dim "──────────────────────────────────────" ++
    [plain "\nEnvironment: ", plain r.header.environment, plain "  Branch: ",
    plain r.header.branch, plain "  Threshold: ", .text (fixed 3 r.header.threshold),
    plain "  Autonomous: ", .text (fixed 3 r.header.autonomousLimit), plain "\nComponents: ",
    count r.summary.components, plain "  Files: ", count r.summary.filesScanned, plain "\n\n"]

/-- What becomes of a difference of two counts that is below zero. Counts are machine words and wrap
around, unless the program is built to check its arithmetic and fails. -/
inductive Overflow where
  | wraps
  | fails
  deriving Repr, DecidableEq

/-- A difference of machine words, which wraps around. -/
def wordSub (a b : Nat) : Nat := if b ≤ a then a - b else a + UInt64.size - b

theorem wordSub_of_le {a b : Nat} (h : b ≤ a) : wordSub a b = a - b := if_pos h

def Overflow.sub? : Overflow → Nat → Nat → Option Nat
  | wraps, a, b => some (wordSub a b)
  | fails, a, b => if b ≤ a then some (a - b) else none

/-- The violations that are neither critical nor emergencies, provided that the counts add up. -/
def warnings (s : Summary Float) : Nat := wordSub (wordSub s.violations s.critical) s.emergency

def warnings? (overflow : Overflow) (s : Summary Float) : Option Nat :=
  (overflow.sub? s.violations s.critical).bind (overflow.sub? · s.emergency)

/-- How many violations there are of each severity. -/
def breakdown : List Piece :=
  let s := r.summary
  [plain "  ", .style (severityStyle .emergency), count s.emergency, plain " emergency",
  .style .reset, plain " | ", .style (severityStyle .critical), count s.critical,
  plain " critical", .style .reset, plain " | ", .style (severityStyle .warning),
  count (warnings s), plain " warning", .style .reset, plain "\n"]

def overview : List Piece :=
  let s := r.summary
  styled .bold "SUMMARY" ++
    [plain "\n  Autonomous: ", count s.autonomous, plain "  Warning zone: ", count s.warningZone,
    plain "  Violations: ", count s.violations, plain " (", .text (fixed 2 s.percentage),
    plain "%)\n"] ++
    (if 0 < s.violations then breakdown r else []) ++ [plain "\n"]

/-- The row of one violation with its number. -/
def row (n : Nat) (v : Violation Float) : List Piece :=
  [plain "  ", .style .dim, .text (padLeft 3 (numeral n)), .style .reset, plain "  ",
  .style (severityStyle v.severity), plain (severityTag v.severity), .style .reset, plain "  ",
  .text (padLeft 6 (fixed 4 v.ratio)), plain "  ", .text (padLeft 8 (fixed 4 v.cost)), plain "  ",
  plain v.path, plain "\n"]

/-- The rows of violations, the first of which has the given number. -/
def rowsFrom (n : Nat) : List (Violation Float) → List Piece
  | [] => []
  | v :: vs => row n v ++ rowsFrom (n + 1) vs

/-- What is said about violations that are not shown. -/
def remainder (hidden : Nat) : List Piece :=
  if hidden = 0 then []
  else [plain "\n  ", .style .dim, plain "...and ", count hidden,
    plain " more (use --top or --format markdown)", .style .reset, plain "\n"]

def details (top : Nat) : List Piece :=
  if r.violations.isEmpty then []
  else
    styled .dim "  #   SEV   RATIO    COST      COMPONENT" ++ [plain "\n"] ++
      styled .dim "  ─────────────────────────────────────────────────────────" ++ [plain "\n"] ++
      rowsFrom 1 (r.violations.take top) ++ remainder (r.violations.length - top) ++ [plain "\n"]

def isolation : List Piece :=
  let paths := r.isolation.mustIsolate.map (·.path.toList)
  let review := r.isolation.shouldReview
  (if paths.isEmpty then []
  else styled .bold "MUST ISOLATE" ++
    [plain "  ", .text (joinWith [',', ' '] paths), plain "\n"]) ++
  (if review.isEmpty then []
  else styled .bold "SHOULD REVIEW" ++ [plain " ", count review.length, plain " component(s)\n"])

def verdict : List Piece :=
  let c := r.compliance
  [plain "\nStatus: ", .style (levelStyle c.level), .style .bold,
  .text (Text.uppercase c.level.toList), .style .reset, plain "  Compliant: ",
  plain (if c.compliant then "yes" else "no"), plain "\n"] ++
    (if c.emergencyAction then
      styled .dim "Emergency action required: isolate the components above before merging." ++
        [plain "\n"]
    else [])

/-- The pieces of the whole report, with so many violations in detail. -/
def pieces (top : Nat) : List Piece :=
  heading r ++ overview r ++ details r top ++ isolation r ++ verdict r

/-- The console report of a program whose counts wrap around. -/
def render (top : Nat) (color : Bool) : List Char := chars color (pieces r top)

/-- The console report of a program with either arithmetic. The warnings are counted if there are
violations. -/
def render? (overflow : Overflow) (top : Nat) (color : Bool) : Option (List Char) :=
  if 0 < r.summary.violations ∧ warnings? overflow r.summary = none then none
  else some (render r top color)

end CostGate.Console
