import CostGate.Report.Console
import CostGate.Report.Format
import CostGate.Report.Markdown
import CostGate.Report.Value

/-!
# Rendering

A report in one of the output formats.
-/
namespace CostGate

structure ConsoleOptions where
  /-- How many violations are shown in detail. -/
  top : Nat
  color : Bool
  deriving Repr, DecidableEq

/-- The text of a report. The options matter for the console only. -/
def Report.render (r : Report Float) (format : OutputFormat) (options : ConsoleOptions) : String :=
  String.ofList (match format with
    | .console => Console.render r options.top options.color
    | .json => Document.Json.pretty 0 r.toValue
    | .markdown => Markdown.render r)

end CostGate
