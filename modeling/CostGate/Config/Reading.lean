import CostGate.Config.Basic
import CostGate.Document.Fields

/-!
# Configurations as document values

A configuration is read from a document in which every setting may be missing, and written with
all of them.
-/
namespace CostGate

open Document (Value Surplus fieldsOf? fieldOr? required?)

namespace CostWeights

def fieldNames : List String := ["lines", "complexity", "dependency", "function", "include"]

def ofValue? (surplus : Surplus) (v : Value) : Option (CostWeights Float) := do
  let d := CostWeights.default Float
  match ← fieldsOf? surplus fieldNames v with
  | [lines, complexity, dependency, function, includes] =>
    some
      { lines := ← fieldOr? Value.toReal? d.lines lines
        complexity := ← fieldOr? Value.toReal? d.complexity complexity
        dependency := ← fieldOr? Value.toReal? d.dependency dependency
        function := ← fieldOr? Value.toReal? d.function function
        includes := ← fieldOr? Value.toReal? d.includes includes }
  | _ => none

def toValue (w : CostWeights Float) : Value :=
  .record (fieldNames.zip
    [.real w.lines, .real w.complexity, .real w.dependency, .real w.function, .real w.includes])

end CostWeights

namespace IncludeWeights

def fieldNames : List String := ["relative", "deep", "namespaced"]

def ofValue? (surplus : Surplus) (v : Value) : Option (IncludeWeights Float) := do
  let d := IncludeWeights.default Float
  match ← fieldsOf? surplus fieldNames v with
  | [relative, deep, namespaced] =>
    some
      { relative := ← fieldOr? Value.toReal? d.relative relative
        deep := ← fieldOr? Value.toReal? d.deep deep
        namespaced := ← fieldOr? Value.toReal? d.namespaced namespaced }
  | _ => none

def toValue (w : IncludeWeights Float) : Value :=
  .record (fieldNames.zip [.real w.relative, .real w.deep, .real w.namespaced])

end IncludeWeights

namespace KindMultipliers

def fieldNames : List String := ["implementation", "test", "header"]

def ofValue? (surplus : Surplus) (v : Value) : Option (KindMultipliers Float) := do
  let d := KindMultipliers.default Float
  match ← fieldsOf? surplus fieldNames v with
  | [implementation, test, header] =>
    some
      { implementation := ← fieldOr? Value.toReal? d.implementation implementation
        test := ← fieldOr? Value.toReal? d.test test
        header := ← fieldOr? Value.toReal? d.header header }
  | _ => none

def toValue (m : KindMultipliers Float) : Value :=
  .record (fieldNames.zip [.real m.implementation, .real m.test, .real m.header])

end KindMultipliers

namespace PhaseMultipliers

def fieldNames : List String := ["design", "implementation", "validation", "deployment"]

def ofValue? (surplus : Surplus) (v : Value) : Option (PhaseMultipliers Float) := do
  let d := PhaseMultipliers.default Float
  match ← fieldsOf? surplus fieldNames v with
  | [design, implementation, validation, deployment] =>
    some
      { design := ← fieldOr? Value.toReal? d.design design
        implementation := ← fieldOr? Value.toReal? d.implementation implementation
        validation := ← fieldOr? Value.toReal? d.validation validation
        deployment := ← fieldOr? Value.toReal? d.deployment deployment }
  | _ => none

def toValue (m : PhaseMultipliers Float) : Value :=
  .record (fieldNames.zip
    [.real m.design, .real m.implementation, .real m.validation, .real m.deployment])

end PhaseMultipliers

namespace BaseThresholds

def fieldNames : List String := ["development", "test", "ci", "production"]

def ofValue? (surplus : Surplus) (v : Value) : Option (BaseThresholds Float) := do
  let d := BaseThresholds.default Float
  match ← fieldsOf? surplus fieldNames v with
  | [development, test, ci, production] =>
    some
      { development := ← fieldOr? Value.toReal? d.development development
        test := ← fieldOr? Value.toReal? d.test test
        ci := ← fieldOr? Value.toReal? d.ci ci
        production := ← fieldOr? Value.toReal? d.production production }
  | _ => none

def toValue (t : BaseThresholds Float) : Value :=
  .record (fieldNames.zip [.real t.development, .real t.test, .real t.ci, .real t.production])

end BaseThresholds

namespace Limits

def fieldNames : List String :=
  ["autonomous", "critical_multiplier", "emergency_multiplier", "emergency_count",
  "emergency_percentage"]

def ofValue? (surplus : Surplus) (v : Value) : Option (Limits Float) := do
  let d := Limits.default Float
  match ← fieldsOf? surplus fieldNames v with
  | [autonomous, critical, emergency, count, percentage] =>
    some
      { autonomous := ← fieldOr? Value.toReal? d.autonomous autonomous
        criticalMultiplier := ← fieldOr? Value.toReal? d.criticalMultiplier critical
        emergencyMultiplier := ← fieldOr? Value.toReal? d.emergencyMultiplier emergency
        emergencyCount := ← fieldOr? Value.toCount? d.emergencyCount count
        emergencyPercentage := ← fieldOr? Value.toReal? d.emergencyPercentage percentage }
  | _ => none

def toValue (l : Limits Float) : Value :=
  .record (fieldNames.zip
    [.real l.autonomous, .real l.criticalMultiplier, .real l.emergencyMultiplier,
    .whole l.emergencyCount, .real l.emergencyPercentage])

end Limits

namespace BranchRule

def fieldNames : List String := ["pattern", "multiplier"]

/-- Both fields of a branch rule are required. -/
def ofValue? (surplus : Surplus) (v : Value) : Option (BranchRule Float) := do
  match ← fieldsOf? surplus fieldNames v with
  | [pattern, multiplier] =>
    some
      { pattern := ← required? Value.toText? pattern
        multiplier := ← required? Value.toReal? multiplier }
  | _ => none

def toValue (r : BranchRule Float) : Value :=
  .record (fieldNames.zip [.text r.pattern, .real r.multiplier])

end BranchRule

namespace Exclusion

def fieldNames : List String := ["paths", "skip_defaults"]

def ofValue? (surplus : Surplus) (v : Value) : Option Exclusion := do
  let d := Exclusion.default
  match ← fieldsOf? surplus fieldNames v with
  | [paths, skipDefaults] =>
    some
      { paths := ← fieldOr? (Value.toList? Value.toText?) d.paths paths
        skipDefaults := ← fieldOr? Value.toFlag? d.skipDefaults skipDefaults }
  | _ => none

def toValue (e : Exclusion) : Value :=
  .record (fieldNames.zip [.list (e.paths.map .text), .flag e.skipDefaults])

end Exclusion

namespace Config

def fieldNames : List String :=
  ["weights", "includes", "file_types", "phases", "thresholds", "limits", "branches",
  "default_branch_multiplier", "exclude", "report"]

/-- How many violations a console report details, from its own record. -/
def topOfValue? (surplus : Surplus) (v : Value) : Option Nat := do
  match ← fieldsOf? surplus ["top"] v with
  | [top] => fieldOr? Value.toCount? (Config.default Float).top top
  | _ => none

/-- The configuration that a document describes. -/
def ofValue? (surplus : Surplus) (v : Value) : Option (Config Float) := do
  let d := Config.default Float
  match ← fieldsOf? surplus fieldNames v with
  | [weights, includes, fileTypes, phases, thresholds, limits, branches, multiplier, exclusion,
      report] =>
    some
      { weights := ← fieldOr? (CostWeights.ofValue? surplus) d.weights weights
        includes := ← fieldOr? (IncludeWeights.ofValue? surplus) d.includes includes
        fileTypes := ← fieldOr? (KindMultipliers.ofValue? surplus) d.fileTypes fileTypes
        phases := ← fieldOr? (PhaseMultipliers.ofValue? surplus) d.phases phases
        thresholds := ← fieldOr? (BaseThresholds.ofValue? surplus) d.thresholds thresholds
        limits := ← fieldOr? (Limits.ofValue? surplus) d.limits limits
        branches :=
          ← fieldOr? (Value.toList? (BranchRule.ofValue? surplus)) d.branches branches
        defaultBranchMultiplier :=
          ← fieldOr? Value.toReal? d.defaultBranchMultiplier multiplier
        exclusion := ← fieldOr? (Exclusion.ofValue? surplus) d.exclusion exclusion
        top := ← fieldOr? (topOfValue? surplus) d.top report }
  | _ => none

/-- The document of a configuration, with all settings. -/
def toValue (c : Config Float) : Value :=
  .record (fieldNames.zip
    [c.weights.toValue, c.includes.toValue, c.fileTypes.toValue, c.phases.toValue,
    c.thresholds.toValue, c.limits.toValue, .list (c.branches.map BranchRule.toValue),
    .real c.defaultBranchMultiplier, c.exclusion.toValue, .record [("top", .whole c.top)]])

end Config

end CostGate
