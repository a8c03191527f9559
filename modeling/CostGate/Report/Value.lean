import CostGate.Document.Fields
import CostGate.Report.Basic

/-!
# Reports as document values

A report as a document, without the components that are not violations, and the report that such
a document describes.
-/
namespace CostGate

open Document (Value fieldsOf? required?)

namespace Severity

def ofName? (name : String) : Option Severity := all.find? fun s => s.name = name

theorem ofName?_name (s : Severity) : ofName? s.name = some s := by cases s <;> rfl

def ofValue? (v : Value) : Option Severity := v.toText?.bind ofName?

end Severity

namespace Violation

def fieldNames : List String := ["file_path", "cost", "threshold", "severity", "violation_ratio"]

def toValue (v : Violation Float) : Value :=
  .record (fieldNames.zip
    [.text v.path, .real v.cost, .real v.threshold, .text v.severity.name, .real v.ratio])

def ofValue? (v : Value) : Option (Violation Float) := do
  match ← fieldsOf? .refuse fieldNames v with
  | [path, cost, threshold, severity, ratio] =>
    some
      { path := ← required? Value.toText? path
        cost := ← required? Value.toReal? cost
        threshold := ← required? Value.toReal? threshold
        severity := ← required? Severity.ofValue? severity
        ratio := ← required? Value.toReal? ratio }
  | _ => none

end Violation

namespace Summary

def fieldNames : List String :=
  ["total_files", "total_violations", "critical_violations", "emergency_violations",
  "autonomous_components", "warning_zone_components", "violation_percentage",
  "emergency_action_required", "files_scanned"]

def toValue (s : Summary Float) : Value :=
  .record (fieldNames.zip
    [.whole s.components, .whole s.violations, .whole s.critical, .whole s.emergency,
    .whole s.autonomous, .whole s.warningZone, .real s.percentage, .flag s.emergencyAction,
    .whole s.filesScanned])

def ofValue? (v : Value) : Option (Summary Float) := do
  match ← fieldsOf? .refuse fieldNames v with
  | [components, violations, critical, emergency, autonomous, warningZone, percentage,
      emergencyAction, filesScanned] =>
    some
      { components := ← required? Value.toCount? components
        violations := ← required? Value.toCount? violations
        critical := ← required? Value.toCount? critical
        emergency := ← required? Value.toCount? emergency
        autonomous := ← required? Value.toCount? autonomous
        warningZone := ← required? Value.toCount? warningZone
        percentage := ← required? Value.toReal? percentage
        emergencyAction := ← required? Value.toFlag? emergencyAction
        filesScanned := ← required? Value.toCount? filesScanned }
  | _ => none

end Summary

namespace Isolation

def fieldNames : List String := ["must_isolate", "should_review"]

def toValue (i : Isolation Float) : Value :=
  .record (fieldNames.zip
    [.list (i.mustIsolate.map Violation.toValue), .list (i.shouldReview.map Violation.toValue)])

def ofValue? (v : Value) : Option (Isolation Float) := do
  match ← fieldsOf? .refuse fieldNames v with
  | [mustIsolate, shouldReview] =>
    some
      { mustIsolate := ← required? (Value.toList? Violation.ofValue?) mustIsolate
        shouldReview := ← required? (Value.toList? Violation.ofValue?) shouldReview }
  | _ => none

end Isolation

namespace ReportHeader

def fieldNames : List String :=
  ["generated_at", "generator", "format_version", "environment", "branch", "threshold",
  "autonomous_limit"]

def toValue (h : ReportHeader Float) : Value :=
  .record (fieldNames.zip
    [.text h.generatedAt, .text h.generator, .text h.formatVersion, .text h.environment,
    .text h.branch, .real h.threshold, .real h.autonomousLimit])

def ofValue? (v : Value) : Option (ReportHeader Float) := do
  match ← fieldsOf? .refuse fieldNames v with
  | [generatedAt, generator, formatVersion, environment, branch, threshold, autonomousLimit] =>
    some
      { generatedAt := ← required? Value.toText? generatedAt
        generator := ← required? Value.toText? generator
        formatVersion := ← required? Value.toText? formatVersion
        environment := ← required? Value.toText? environment
        branch := ← required? Value.toText? branch
        threshold := ← required? Value.toReal? threshold
        autonomousLimit := ← required? Value.toReal? autonomousLimit }
  | _ => none

end ReportHeader

namespace Compliance

def fieldNames : List String := ["compliant", "emergency_action_required", "governance_level"]

def toValue (c : Compliance) : Value :=
  .record (fieldNames.zip [.flag c.compliant, .flag c.emergencyAction, .text c.level])

def ofValue? (v : Value) : Option Compliance := do
  match ← fieldsOf? .refuse fieldNames v with
  | [compliant, emergencyAction, level] =>
    some
      { compliant := ← required? Value.toFlag? compliant
        emergencyAction := ← required? Value.toFlag? emergencyAction
        level := ← required? Value.toText? level }
  | _ => none

end Compliance

namespace Report

def fieldNames : List String :=
  ["metadata", "summary", "violations", "compliance_status", "isolation_candidates"]

/-- The document of a report. The components are left out. -/
def toValue (r : Report Float) : Value :=
  .record (fieldNames.zip
    [r.header.toValue, r.summary.toValue, .list (r.violations.map Violation.toValue),
    r.compliance.toValue, r.isolation.toValue])

/-- The report that a document describes, with no components. -/
def ofValue? (v : Value) : Option (Report Float) := do
  match ← fieldsOf? .refuse fieldNames v with
  | [header, summary, violations, compliance, isolation] =>
    some
      { header := ← required? ReportHeader.ofValue? header
        summary := ← required? Summary.ofValue? summary
        violations := ← required? (Value.toList? Violation.ofValue?) violations
        compliance := ← required? Compliance.ofValue? compliance
        isolation := ← required? Isolation.ofValue? isolation
        components := [] }
  | _ => none

end Report

end CostGate
