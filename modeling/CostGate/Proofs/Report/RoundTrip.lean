import CostGate.Proofs.Document.Json
import CostGate.Report.Rendering

/-!
# Reports read back

The JSON text of a report describes the report, without the components that are no violations. Texts
may have any characters and lists any length; counts have to fit into sixty-four bits, and doubles
have to be finite ones that are read as they are written.
-/
namespace CostGate

open Document (Value fieldsOf? onlyField? required?)
open Document.Json (Legible ReadsBack)

namespace Document

theorem fieldsNamed_zip_of_not_mem {name : String} {names : List String} (h : name ∉ names)
    (values : List Value) : Value.fieldsNamed name (names.zip values) = [] := by
  rw [Value.fieldsNamed, List.map_eq_nil_iff, List.filter_eq_nil_iff]
  rintro ⟨other, v⟩ hmem heq
  rw [beq_iff_eq] at heq
  exact h (heq ▸ (List.of_mem_zip hmem).1)

theorem fieldsNamed_cons (name : String) (f : String × Value) (fields : List (String × Value)) :
    Value.fieldsNamed name (f :: fields) =
      if f.1 = name then f.2 :: Value.fieldsNamed name fields
      else Value.fieldsNamed name fields := by
  by_cases h : f.1 = name <;> simp [Value.fieldsNamed, h]

theorem mapM_onlyField?_cons {names : List String} {f : String × Value}
    (h : f.1 ∉ names) (fields : List (String × Value)) :
    names.mapM (onlyField? (f :: fields)) = names.mapM (onlyField? fields) := by
  induction names with
  | nil => rfl
  | cons name names ih =>
    obtain ⟨hname, hnames⟩ := not_or.1 (List.mem_cons.not.1 h)
    have hother : onlyField? (f :: fields) name = onlyField? fields name := by
      rw [onlyField?, fieldsNamed_cons, if_neg hname, onlyField?]
    rw [List.mapM_cons, List.mapM_cons, hother, ih hnames]

theorem fieldsOf?_zip {names : List String} {values : List Value} (hnames : names.Nodup)
    (hlength : names.length = values.length) (surplus : Surplus) :
    fieldsOf? surplus names (.record (names.zip values)) = some (values.map some) := by
  rw [fieldsOf?]
  induction names generalizing values with
  | nil => cases values with
    | nil => rfl
    | cons => cases hlength
  | cons name names ih => cases values with
    | nil => cases hlength
    | cons v values =>
      obtain ⟨hname, hnames⟩ := List.nodup_cons.1 hnames
      have hfirst : onlyField? ((name, v) :: names.zip values) name = some (some v) := by
        rw [onlyField?, fieldsNamed_cons, if_pos rfl, fieldsNamed_zip_of_not_mem hname]
      rw [List.zip_cons_cons, List.mapM_cons, hfirst, mapM_onlyField?_cons hname,
        ih hnames (by simpa using hlength)]
      rfl

theorem required?_bind {β γ : Type} {read : Value → Option β} {v : Value} {x : β}
    (h : read v = some x) (f : β → Option γ) : (required? read (some v) >>= f) = f x := by
  rw [required?, h]
  rfl

theorem toCount?_whole {n : Nat} (h : n < UInt64.size) : Value.toCount? (.whole n) = some n := by
  rw [Value.toCount?, if_pos ⟨Int.natCast_nonneg n, Int.ofNat_lt.2 h⟩, Int.toNat_natCast]

theorem toList?_map {β : Type} {read : Value → Option β} {write : β → Value} {items : List β}
    (h : ∀ x ∈ items, read (write x) = some x) :
    Value.toList? read (.list (items.map write)) = some items := by
  rw [Value.toList?]
  induction items with
  | nil => rfl
  | cons x items ih =>
    rw [List.map_cons, List.mapM_cons, h x (by simp), ih fun y hy => h y (by simp [hy])]
    rfl

end Document

open Document (fieldsOf?_zip required?_bind toCount?_whole toList?_map)

theorem Severity.ofValue?_name (s : Severity) : Severity.ofValue? (.text s.name) = some s :=
  ofName?_name s

theorem Violation.ofValue?_toValue (v : Violation Float) : ofValue? v.toValue = some v := by
  rw [ofValue?, toValue, fieldsOf?_zip (by simp [fieldNames]) rfl]
  simp [required?, Value.toText?, Value.toReal?, Severity.ofValue?_name]

theorem Violation.toList?_toValue (vs : List (Violation Float)) :
    Value.toList? ofValue? (.list (vs.map toValue)) = some vs :=
  toList?_map fun v _ => ofValue?_toValue v

theorem Isolation.ofValue?_toValue (i : Isolation Float) : ofValue? i.toValue = some i := by
  rw [ofValue?, toValue, fieldsOf?_zip (by simp [fieldNames]) rfl]
  simp [required?, Violation.toList?_toValue]

theorem ReportHeader.ofValue?_toValue (h : ReportHeader Float) : ofValue? h.toValue = some h := by
  rw [ofValue?, toValue, fieldsOf?_zip (by simp [fieldNames]) rfl]
  simp [required?, Value.toText?, Value.toReal?]

theorem Compliance.ofValue?_toValue (c : Compliance) : ofValue? c.toValue = some c := by
  rw [ofValue?, toValue, fieldsOf?_zip (by simp [fieldNames]) rfl]
  simp [required?, Value.toText?, Value.toFlag?]

namespace Summary

def counts (s : Summary Float) : List Nat :=
  [s.components, s.violations, s.critical, s.emergency, s.autonomous, s.warningZone, s.filesScanned]

theorem ofValue?_toValue {s : Summary Float} (h : ∀ n ∈ s.counts, n < UInt64.size) :
    ofValue? s.toValue = some s := by
  have hcount {n : Nat} (hn : n ∈ s.counts) : Value.toCount? (.whole n) = some n :=
    toCount?_whole (h n hn)
  simp only [counts, List.mem_cons] at hcount
  rw [ofValue?, toValue, fieldsOf?_zip (by simp [fieldNames]) rfl, Option.bind_eq_bind,
    Option.bind_some]
  dsimp only [List.map]
  have hpercentage : Value.toReal? (.real s.percentage) = some s.percentage := rfl
  have haction : Value.toFlag? (.flag s.emergencyAction) = some s.emergencyAction := rfl
  iterate 6 rw [required?_bind (hcount (by simp))]
  rw [required?_bind hpercentage, required?_bind haction, required?_bind (hcount (by simp))]

end Summary

namespace Report

theorem ofValue?_toValue {r : Report Float} (h : ∀ n ∈ r.summary.counts, n < UInt64.size) :
    ofValue? r.toValue = some { r with components := [] } := by
  rw [ofValue?, toValue, fieldsOf?_zip (by simp [fieldNames]) rfl, Option.bind_eq_bind,
    Option.bind_some]
  dsimp only [List.map]
  rw [required?_bind (ReportHeader.ofValue?_toValue r.header),
    required?_bind (Summary.ofValue?_toValue h),
    required?_bind (Violation.toList?_toValue r.violations),
    required?_bind (Compliance.ofValue?_toValue r.compliance),
    required?_bind (Isolation.ofValue?_toValue r.isolation)]

end Report

namespace Document

theorem Json.Legible.zip {names : List String} {values : List Value} (h : ∀ v ∈ values, Legible v) :
    Legible (.record (names.zip values)) :=
  .record fun _ hf => h _ (List.of_mem_zip hf).2

theorem Json.Legible.count {n : Nat} (h : n < UInt64.size) : Legible (.whole n) :=
  .whole ⟨by omega, by omega⟩

end Document

namespace Violation

def floats (v : Violation Float) : List Float := [v.cost, v.threshold, v.ratio]

theorem legible_toValue {v : Violation Float} (h : ∀ x ∈ v.floats, Legible (.real x)) :
    Legible v.toValue := by
  simp only [floats, List.forall_mem_cons] at h
  exact .zip (by simp [Legible.text, h])

theorem legible_list {vs : List (Violation Float)}
    (h : ∀ v ∈ vs, ∀ x ∈ v.floats, Legible (.real x)) : Legible (.list (vs.map toValue)) := by
  refine .list fun value hvalue => ?_
  obtain ⟨v, hv, rfl⟩ := List.mem_map.1 hvalue
  exact legible_toValue (h v hv)

end Violation

namespace Report

def floats (r : Report Float) : List Float :=
  [r.header.threshold, r.header.autonomousLimit, r.summary.percentage] ++
    (r.violations ++ r.isolation.mustIsolate ++ r.isolation.shouldReview).flatMap Violation.floats

theorem legible_toValue {r : Report Float} (hfloats : ∀ x ∈ r.floats, Legible (.real x))
    (hcounts : ∀ n ∈ r.summary.counts, n < UInt64.size) : Legible r.toValue := by
  simp only [floats, List.forall_mem_append, List.forall_mem_cons, List.forall_mem_flatMap]
    at hfloats
  obtain ⟨⟨hthreshold, hlimit, hpercentage, -⟩, ⟨hviolations, hisolate⟩, hreview⟩ := hfloats
  have hcount {n : Nat} (hn : n ∈ r.summary.counts) : Legible (.whole n) := .count (hcounts n hn)
  simp only [Summary.counts, List.mem_cons] at hcount
  have hheader : Legible r.header.toValue := .zip (by simp [Legible.text, hthreshold, hlimit])
  have hsummary : Legible r.summary.toValue := .zip (by simp [Legible.flag, hpercentage, hcount])
  have hcompliance : Legible r.compliance.toValue := .zip (by simp [Legible.text, Legible.flag])
  have hisolation : Legible r.isolation.toValue :=
    .zip (by simp [Violation.legible_list hisolate, Violation.legible_list hreview])
  exact .zip (by
    simp [hheader, hsummary, Violation.legible_list hviolations, hcompliance, hisolation])

end Report

/-- The report is read back from its JSON text, without its components. -/
theorem Report.parse?_render {r : Report Float} (hfinite : ∀ x ∈ r.floats, x.isFinite = true)
    (hreads : ∀ x ∈ r.floats, ReadsBack x) (hcounts : ∀ n ∈ r.summary.counts, n < UInt64.size)
    (options : ConsoleOptions) :
    (Document.Json.parse? (r.render .json options).toList).bind Report.ofValue? =
      some { r with components := [] } := by
  have hlegible : Legible r.toValue :=
    r.legible_toValue (fun x hx => .real (hfinite x hx) (hreads x hx)) hcounts
  rw [render, String.toList_ofList, Document.Json.parse?_pretty hlegible, Option.bind_some,
    ofValue?_toValue hcounts]

def Report.escaped : Report Float where
  header :=
    { generatedAt := "2024-01-31T12:00:00Z", generator := "archgate", formatVersion := "1.0"
      environment := "ci", branch := "fix/\"quoted\"\\\u0001\n", threshold := 0.6
      autonomousLimit := 0.5 }
  summary := ⟨2, 1, 1, 0, 1, 0, 50.0, false, 3⟩
  violations := [⟨"src/größe\t", 1.0e-7, 0.6, .critical, 1.6667⟩]
  compliance := ⟨false, false, "critical"⟩
  isolation := ⟨[], [⟨"src/größe\t", 1.0e21, 0.6, .critical, -0.0⟩]⟩
  components := [⟨"src", 0.1, .autonomous, .autonomous⟩]

theorem Report.parse?_render_escaped :
    (Document.Json.parse? (Report.escaped.render .json ⟨10, false⟩).toList).bind Report.ofValue? =
      some { Report.escaped with components := [] } :=
  Report.parse?_render (by decide +kernel) (by decide +kernel) (by decide) ⟨10, false⟩

end CostGate
