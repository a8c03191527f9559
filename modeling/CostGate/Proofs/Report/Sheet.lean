import CostGate.Proofs.Report.Strings
import CostGate.Proofs.Report.Table

/-!
# The tables of the Markdown report

The Markdown report, put together block by block. Its tables are grids that are as wide as their
headers. A name with a bar widens the row that it stands in when the report is read again, and
nothing else does.
-/
namespace CostGate

/-- The names in the tables of a report. -/
def Report.tabulated (r : Report Float) : List String :=
  [r.header.environment, r.header.branch] ++ r.violations.map (·.path) ++ r.components.map (·.path)

namespace Markdown

open Number (fixed numeral)
open Text (ended)

def IsPlain (s : List Char) : Prop := '|' ∉ s ∧ '\n' ∉ s

instance (s : List Char) : Decidable (IsPlain s) :=
  inferInstanceAs (Decidable ('|' ∉ s ∧ '\n' ∉ s))

/-- The column names of a table and the rule below them. -/
structure Frame where
  columns : List String
  rule : String
  columns_ne_nil : columns ≠ [] := by decide
  isPlain_columns : ∀ name ∈ columns, IsPlain name.toList := by decide
  isRule_rule : isRule rule.toList = true := by decide
  length_cells_rule : (cells rule.toList).length = columns.length := by decide

def Frame.header (f : Frame) : List Char := rowLine (texts f.columns)

theorem Frame.length_cells_header (f : Frame) : (cells f.header).length = f.columns.length := by
  have hne : texts f.columns ≠ [] := by simpa [texts] using f.columns_ne_nil
  have hplain : ∀ c ∈ texts f.columns, ¬ HasSeparator c :=
    List.forall_mem_map.2 fun name hname =>
      not_hasSeparator_of_not_mem (f.isPlain_columns name hname).1
  rw [header, (length_cells_rowLine_iff hne).2 hplain, texts, List.length_map]

/-- What a table is written from. -/
structure Grid extends Frame where
  rows : List (List (List Char))
  length_of_mem_rows : ∀ cs ∈ rows, cs.length = columns.length

namespace Grid

variable (g : Grid)

def block : List (List Char) := g.header :: g.rule.toList :: g.rows.map rowLine

def table : Table := ⟨g.header, g.rows.map rowLine⟩

theorem ofBlock?_block : Table.ofBlock? g.block = some g.table := by
  have hwidth : (cells g.rule.toList).length = (cells g.header).length :=
    g.length_cells_rule.trans g.length_cells_header.symm
  rw [block, Table.ofBlock?, if_pos ⟨g.isRule_rule, hwidth⟩, table]

/-- The rows of a table are as wide as its header if no cell has a separator. -/
theorem length_cells_rows_iff :
    (∀ row ∈ g.table.rows, (cells row).length = (cells g.table.header).length) ↔
      ∀ cs ∈ g.rows, ∀ c ∈ cs, ¬ HasSeparator c := by
  rw [table, List.forall_mem_map]
  refine forall₂_congr fun cs hcs => ?_
  have hwidth : cs.length = g.columns.length := g.length_of_mem_rows cs hcs
  have hne : cs ≠ [] := by
    rw [← List.length_pos_iff, hwidth]
    exact List.length_pos_iff.2 g.columns_ne_nil
  rw [g.length_cells_header, ← hwidth]
  exact length_cells_rowLine_iff hne

end Grid

def headerFrame : Frame where
  columns := ["Environment", "Branch", "Threshold", "Autonomous limit"]
  rule := "|-------------|--------|-----------|------------------|"

def summaryFrame : Frame where
  columns := ["Metric", "Value"]
  rule := "|--------|-------|"

def violationsFrame : Frame where
  columns := ["#", "Component", "Severity", "Cost", "Threshold", "Ratio"]
  rule := "|---|-----------|----------|------|-----------|-------|"

def componentsFrame : Frame where
  columns := ["Component", "Cost", "Zone", "Severity"]
  rule := "|-----------|------|------|----------|"

variable (r : Report Float)

def headerGrid : Grid := { headerFrame with
  rows := [headerRow r]
  length_of_mem_rows := by simp [headerRow, headerFrame] }

def summaryGrid : Grid := { summaryFrame with
  rows := summaryRows r
  length_of_mem_rows := by simp [summaryRows, summaryFrame] }

def violationsGrid : Grid := { violationsFrame with
  rows := r.violations.mapIdx fun i v => violationRow (i + 1) v
  length_of_mem_rows := by
    intro cs hcs
    obtain ⟨i, _, rfl⟩ := List.mem_mapIdx.1 hcs
    rfl }

def componentsGrid : Grid := { componentsFrame with
  rows := r.components.map componentRow
  length_of_mem_rows := by simp [componentRow, componentsFrame] }

def headerBlocks : List (List (List Char)) :=
  let c := r.compliance
  [["# ".toList ++ (levelSign c.level).toList ++ " Architecture Governance Report".toList],
  [strong ("Level: " ++ c.level) ++ " | ".toList ++
    strong ("Compliant: " ++ if c.compliant then "yes" else "no")],
  (headerGrid r).block, ["Generated: ".toList ++ r.header.generatedAt.toList]]

/-- A title above a table, or above a line that stands for an empty one. -/
def tableBlocks (title nothing : String) (empty : Bool) (g : Grid) : List (List (List Char)) :=
  [[title.toList], if empty then [nothing.toList] else g.block]

def violationsBlocks : List (List (List Char)) :=
  tableBlocks "## Violations" "No component exceeds the governance threshold."
    r.violations.isEmpty (violationsGrid r)

def isolationLine (v : Violation Float) : List Char :=
  ['-', ' '] ++ code v.path ++ " (ratio ".toList ++ fixed 4 v.ratio ++ [',', ' '] ++
    v.severity.name.toList ++ [')']

def tierBlocks (title : String) (vs : List (Violation Float)) : List (List (List Char)) :=
  if vs.isEmpty then [] else [["### ".toList ++ title.toList], vs.map isolationLine]

/-- The tiers end with a blank line of their own, so an empty block stands behind them. -/
def isolationBlocks : List (List (List Char)) :=
  let i := r.isolation
  ["## Isolation Candidates".toList] ::
    if i.mustIsolate.isEmpty ∧ i.shouldReview.isEmpty then [["None.".toList]]
    else
      tierBlocks "Tier 1: must isolate" i.mustIsolate ++
        tierBlocks "Tier 2: should review" i.shouldReview ++ [[]]

def componentsBlocks : List (List (List Char)) :=
  tableBlocks "## Component Audit" "No components evaluated." r.components.isEmpty
    (componentsGrid r)

def footerBlocks : List (List (List Char)) :=
  [["---".toList],
  ["*Generated by ".toList ++ r.header.generator.toList ++ " (report format ".toList ++
    r.header.formatVersion.toList ++ ")*".toList]]

def sheet : List (List (List Char)) :=
  headerBlocks r ++ [["## Summary".toList], (summaryGrid r).block] ++ violationsBlocks r ++
    isolationBlocks r ++ componentsBlocks r ++ footerBlocks r

def grids : List Grid :=
  [headerGrid r, summaryGrid r] ++ (if r.violations.isEmpty then [] else [violationsGrid r]) ++
    (if r.components.isEmpty then [] else [componentsGrid r])

theorem flatMap_row (rows : List (List (List Char))) :
    rows.flatMap row = ended '\n' (rows.map rowLine) := by
  induction rows with
  | nil => rfl
  | cons cs rows ih => simp [ih, row_eq]

theorem row_append_eq_ended (g : Grid) :
    row (texts g.columns) ++ (g.rule.toList ++ '\n' :: g.rows.flatMap row) =
      ended '\n' g.block := by
  simp [Grid.block, Frame.header, row_eq, flatMap_row]

theorem header_eq : header r ++ ['\n'] = ended '\n' (ended [] (headerBlocks r)) := by
  unfold header headerBlocks
  simp [← row_append_eq_ended, headerGrid, headerFrame]

theorem summary_eq :
    summary r ++ ['\n'] = ended '\n' (ended [] [["## Summary".toList], (summaryGrid r).block]) := by
  unfold summary
  simp [← row_append_eq_ended, summaryGrid, summaryFrame]

theorem violationRowsFrom_eq (n : ℕ) (vs : List (Violation Float)) :
    violationRowsFrom n vs = vs.mapIdx fun i v => violationRow (n + i) v := by
  induction vs generalizing n with
  | nil => rfl
  | cons v vs ih =>
    rw [violationRowsFrom, ih, List.mapIdx_cons]
    simp only [Nat.add_zero, Nat.add_assoc, Nat.add_comm 1]

theorem violations_eq : violations r ++ ['\n'] = ended '\n' (ended [] (violationsBlocks r)) := by
  unfold violations violationsBlocks tableBlocks
  split_ifs
  · simp
  · simp [← row_append_eq_ended, violationsGrid, violationsFrame, violationRowsFrom_eq,
      Nat.add_comm 1]

theorem tier_eq (title : String) (vs : List (Violation Float)) :
    tier title vs = ended '\n' (ended [] (tierBlocks title vs)) := by
  have hitems : vs.flatMap isolationItem = ended '\n' (vs.map isolationLine) := by
    induction vs with
    | nil => rfl
    | cons v vs ih => simp [ih, isolationItem, isolationLine]
  unfold tier tierBlocks
  split_ifs <;> simp [hitems]

theorem isolation_eq : isolation r ++ ['\n'] = ended '\n' (ended [] (isolationBlocks r)) := by
  unfold isolation isolationBlocks
  dsimp only
  split_ifs <;> simp [tier_eq]

theorem components_eq : components r ++ ['\n'] = ended '\n' (ended [] (componentsBlocks r)) := by
  unfold components componentsBlocks tableBlocks
  split_ifs
  · simp
  · simp [← row_append_eq_ended, componentsGrid, componentsFrame]

theorem footer_eq : footer r ++ ['\n'] = ended '\n' (ended [] (footerBlocks r)) := by
  unfold footer footerBlocks
  simp

/-- One more line feed would end the report with a blank line, as all blocks but the last end. -/
theorem render_eq_ended : render r ++ ['\n'] = ended '\n' (ended [] (sheet r)) := by
  simp only [sheet, Text.ended_append, ← header_eq, ← summary_eq, ← violations_eq, ← isolation_eq,
    ← components_eq, ← footer_eq, render]
  simp only [List.append_assoc]

theorem isPlain_numeral (n : ℕ) : IsPlain (numeral n) :=
  ⟨Number.not_mem_numeral (by decide) n, Number.not_mem_numeral (by decide) n⟩

theorem isPlain_fixed (places : ℕ) (x : Float) : IsPlain (fixed places x) :=
  ⟨Number.not_mem_fixed (by decide) places x, Number.not_mem_fixed (by decide) places x⟩

theorem isPlain_of_mem_summaryRows : ∀ cs ∈ summaryRows r, ∀ c ∈ cs, IsPlain c := by
  have hcount (n : ℕ) : '|' ∉ numeral n ∧ '\n' ∉ numeral n := isPlain_numeral n
  have hshare (x : Float) : '|' ∉ fixed 2 x ∧ '\n' ∉ fixed 2 x := isPlain_fixed 2 x
  have haction (b : Bool) : IsPlain (if b then strong "yes" else "no".toList) := by
    cases b <;> decide
  simp only [summaryRows, List.forall_mem_cons, haction]
  simp [IsPlain, strong, hcount, hshare]

section

variable {P : List Char → Prop} (hP : ∀ c, IsPlain c → P c)
include hP

theorem forall_mem_headerRow_iff :
    (∀ c ∈ headerRow r, P c) ↔ P r.header.environment.toList ∧ P (code r.header.branch) := by
  simp [headerRow, hP, isPlain_fixed]

theorem forall_mem_violationRow_iff (n : ℕ) (v : Violation Float) :
    (∀ c ∈ violationRow n v, P c) ↔ P (code v.path) := by
  have hbadge : P (severityBadge v.severity).toList := hP _ (by cases v.severity <;> decide)
  simp [violationRow, hP, isPlain_numeral, isPlain_fixed, hbadge]

theorem forall_mem_componentRow_iff (a : Assessment Float) :
    (∀ c ∈ componentRow a, P c) ↔ P (code a.path) := by
  have hzone : P (if a.zone = .governance then strong a.zone.name else a.zone.name.toList) :=
    hP _ (by cases a.zone <;> decide)
  have hseverity : P a.severity.name.toList := hP _ (by cases a.severity <;> decide)
  simp [componentRow, hP, isPlain_fixed, hzone, hseverity]

theorem forall_mem_violationsGrid_iff :
    (∀ cs ∈ (violationsGrid r).rows, ∀ c ∈ cs, P c) ↔ ∀ v ∈ r.violations, P (code v.path) := by
  constructor
  · intro h v hv
    obtain ⟨i, hi, rfl⟩ := List.getElem_of_mem hv
    exact (forall_mem_violationRow_iff hP (i + 1) _).1 (h _ (List.mem_mapIdx.2 ⟨i, hi, rfl⟩))
  · intro h cs hcs
    obtain ⟨i, hi, rfl⟩ := List.mem_mapIdx.1 hcs
    exact (forall_mem_violationRow_iff hP (i + 1) _).2 (h _ (List.getElem_mem hi))

theorem forall_mem_componentsGrid_iff :
    (∀ cs ∈ (componentsGrid r).rows, ∀ c ∈ cs, P c) ↔ ∀ a ∈ r.components, P (code a.path) := by
  rw [componentsGrid, List.forall_mem_map]
  exact forall₂_congr fun a _ => forall_mem_componentRow_iff hP a

/-- The names are all that is not plain in the tables. -/
theorem forall_mem_grids_iff :
    (∀ g ∈ grids r, ∀ cs ∈ g.rows, ∀ c ∈ cs, P c) ↔
      P r.header.environment.toList ∧ P (code r.header.branch) ∧
        (∀ v ∈ r.violations, P (code v.path)) ∧ ∀ a ∈ r.components, P (code a.path) := by
  have hheader : (∀ cs ∈ (headerGrid r).rows, ∀ c ∈ cs, P c) ↔
      P r.header.environment.toList ∧ P (code r.header.branch) := by
    rw [headerGrid, List.forall_mem_singleton, forall_mem_headerRow_iff r hP]
  have hsummary : ∀ cs ∈ (summaryGrid r).rows, ∀ c ∈ cs, P c := fun cs hcs c hc =>
    hP c (isPlain_of_mem_summaryRows r cs hcs c hc)
  have hviolations : (∀ g ∈ if r.violations.isEmpty then [] else [violationsGrid r],
      ∀ cs ∈ g.rows, ∀ c ∈ cs, P c) ↔ ∀ v ∈ r.violations, P (code v.path) := by
    split_ifs with h
    · simp [List.isEmpty_iff.1 h]
    · rw [List.forall_mem_singleton, forall_mem_violationsGrid_iff r hP]
  have hcomponents : (∀ g ∈ if r.components.isEmpty then [] else [componentsGrid r],
      ∀ cs ∈ g.rows, ∀ c ∈ cs, P c) ↔ ∀ a ∈ r.components, P (code a.path) := by
    split_ifs with h
    · simp [List.isEmpty_iff.1 h]
    · rw [List.forall_mem_singleton, forall_mem_componentsGrid_iff r hP]
  rw [grids, List.forall_mem_append, List.forall_mem_append, List.forall_mem_cons,
    List.forall_mem_singleton, hheader, hviolations, hcomponents, and_assoc, and_assoc, and_assoc,
    and_iff_right hsummary]

end

def IsLine (line : List Char) : Prop := line ≠ [] ∧ '\n' ∉ line

theorem isLine_rowLine {cs : List (List Char)} (h : ∀ c ∈ cs, '\n' ∉ c) : IsLine (rowLine cs) := by
  have hjoin : '\n' ∉ Document.Json.joinWith [' ', '|', ' '] cs :=
    Document.Json.not_mem_joinWith (by decide) h
  simp [IsLine, rowLine, hjoin]

theorem Grid.isLine_of_mem_block {g : Grid} (h : ∀ cs ∈ g.rows, ∀ c ∈ cs, '\n' ∉ c) :
    ∀ line ∈ g.block, IsLine line := by
  have hcolumns : ∀ c ∈ texts g.columns, '\n' ∉ c :=
    List.forall_mem_map.2 fun name hname => (g.isPlain_columns name hname).2
  have hrule : IsLine g.rule.toList := by
    have h := g.isRule_rule
    rw [isRule, Bool.and_eq_true, List.all_eq_true] at h
    refine ⟨fun hnil => ?_, fun hmem => absurd (h.2 _ hmem) (by decide)⟩
    rw [hnil] at h
    exact absurd h.1 (by decide)
  rw [block, List.forall_mem_cons, List.forall_mem_cons, List.forall_mem_map]
  exact ⟨isLine_rowLine hcolumns, hrule, fun cs hcs => isLine_rowLine (h cs hcs)⟩

variable {r}

theorem newline_not_mem_cells (hr : r.Avoids '\n') :
    ∀ g ∈ grids r, ∀ cs ∈ g.rows, ∀ c ∈ cs, '\n' ∉ c := by
  have hcode {name : String} (h : '\n' ∉ name.toList) : '\n' ∉ code name := by simpa [code] using h
  rw [forall_mem_grids_iff r fun c hc => hc.2]
  exact ⟨hr.environment, hcode hr.branch, fun v hv => hcode (hr.violation hv),
    fun a ha => hcode (hr.component ha)⟩

theorem isLine_of_mem_headerBlocks (hr : r.Avoids '\n') :
    ∀ block ∈ headerBlocks r, ∀ line ∈ block, IsLine line := by
  have hgrid : ∀ line ∈ (headerGrid r).block, IsLine line :=
    Grid.isLine_of_mem_block (newline_not_mem_cells hr _ (by simp [grids]))
  have hsign : '\n' ∉ (levelSign r.compliance.level).toList := by
    rw [levelSign]
    split_ifs <;> decide
  have hcompliant : '\n' ∉ (if r.compliance.compliant then "yes" else "no").toList := by
    cases r.compliance.compliant <;> decide
  unfold headerBlocks
  simp only [List.forall_mem_cons]
  exact ⟨by simp [IsLine, hsign], by simp [IsLine, strong, hcompliant, hr.level], hgrid,
    by simp [IsLine, hr.generatedAt], by simp⟩

theorem isLine_of_mem_tableBlocks {title nothing : String} {empty : Bool} {g : Grid}
    (ht : IsLine title.toList) (hn : IsLine nothing.toList)
    (hg : empty = false → ∀ line ∈ g.block, IsLine line) :
    ∀ block ∈ tableBlocks title nothing empty g, ∀ line ∈ block, IsLine line := by
  have hbody : ∀ line ∈ if empty then [nothing.toList] else g.block, IsLine line := by
    cases empty with
    | true => exact List.forall_mem_singleton.2 hn
    | false => exact hg rfl
  exact List.forall_mem_cons.2 ⟨List.forall_mem_singleton.2 ht, List.forall_mem_singleton.2 hbody⟩

theorem isLine_of_mem_tierBlocks (title : String) (ht : '\n' ∉ title.toList)
    {vs : List (Violation Float)} (h : ∀ v ∈ vs, '\n' ∉ v.path.toList) :
    ∀ block ∈ tierBlocks title vs, ∀ line ∈ block, IsLine line := by
  have hitem : ∀ line ∈ vs.map isolationLine, IsLine line := by
    refine List.forall_mem_map.2 fun v hv => ?_
    have hratio := (isPlain_fixed 4 v.ratio).2
    have hseverity : '\n' ∉ v.severity.name.toList := by cases v.severity <;> decide
    simp [IsLine, isolationLine, code, h v hv, hratio, hseverity]
  unfold tierBlocks
  split_ifs
  · simp
  · exact List.forall_mem_cons.2 ⟨by simp [IsLine, ht], List.forall_mem_singleton.2 hitem⟩

theorem isLine_of_mem_isolationBlocks (hr : r.Avoids '\n') :
    ∀ block ∈ isolationBlocks r, ∀ line ∈ block, IsLine line := by
  have hmust := isLine_of_mem_tierBlocks "Tier 1: must isolate" (by decide)
    fun v hv => hr.isolated hv
  have hreview := isLine_of_mem_tierBlocks "Tier 2: should review" (by decide)
    fun v hv => hr.reviewed hv
  unfold isolationBlocks
  dsimp only
  split_ifs
  · simp [IsLine]
  · rw [List.forall_mem_cons, List.forall_mem_append, List.forall_mem_append]
    exact ⟨by simp [IsLine], ⟨hmust, hreview⟩, by simp⟩

/-- Every block is made of lines, so that only blank lines part them. -/
theorem isLine_of_mem_sheet (hr : r.Avoids '\n') :
    ∀ block ∈ sheet r, ∀ line ∈ block, IsLine line := by
  have hsummary : ∀ line ∈ (summaryGrid r).block, IsLine line :=
    Grid.isLine_of_mem_block (newline_not_mem_cells hr _ (by simp [grids]))
  have hviolations : ∀ block ∈ violationsBlocks r, ∀ line ∈ block, IsLine line :=
    isLine_of_mem_tableBlocks (by simp [IsLine]) (by simp [IsLine]) fun hsome =>
      Grid.isLine_of_mem_block (newline_not_mem_cells hr _ (by simp [grids, hsome]))
  have hcomponents : ∀ block ∈ componentsBlocks r, ∀ line ∈ block, IsLine line :=
    isLine_of_mem_tableBlocks (by simp [IsLine]) (by simp [IsLine]) fun hsome =>
      Grid.isLine_of_mem_block (newline_not_mem_cells hr _ (by simp [grids, hsome]))
  have hfooter : ∀ block ∈ footerBlocks r, ∀ line ∈ block, IsLine line := by
    unfold footerBlocks
    simp [IsLine, hr.generator, hr.formatVersion]
  simp only [sheet, List.forall_mem_append, List.forall_mem_cons]
  exact ⟨⟨⟨⟨⟨isLine_of_mem_headerBlocks hr, by simp [IsLine], hsummary, by simp⟩,
    hviolations⟩, isLine_of_mem_isolationBlocks hr⟩, hcomponents⟩, hfooter⟩

theorem splitOn_render (hr : r.Avoids '\n') : (render r).splitOn '\n' = ended [] (sheet r) := by
  have hlines : ∀ line ∈ ended [] (sheet r), '\n' ∉ line := by
    intro line hline
    obtain ⟨block, hblock, hmem⟩ := List.mem_flatMap.1 hline
    rcases List.mem_append.1 hmem with h | h
    · exact (isLine_of_mem_sheet hr block hblock line h).2
    · simp [List.mem_singleton.1 h]
  have hcut := List.splitOnP_append_cons (p := (· == '\n')) (render r) [] (beq_self_eq_true '\n')
  rw [← List.splitOn_eq_splitOnP, ← List.splitOn_eq_splitOnP, render_eq_ended,
    Text.splitOn_ended hlines] at hcut
  exact (List.append_cancel_right hcut).symm

/-- The report is cut into its blocks at the blank lines. -/
theorem blocks_render (hr : r.Avoids '\n') : blocks (render r) = sheet r ++ [[]] := by
  rw [blocks, splitOn_render hr]
  exact Text.splitOn_ended fun block hblock hnil =>
    (isLine_of_mem_sheet hr block hblock [] hnil).1 rfl

@[simp] theorem ofBlock?_singleton (line : List Char) : Table.ofBlock? [line] = none := rfl

theorem ofBlock?_isolationLines (vs : List (Violation Float)) :
    Table.ofBlock? (vs.map isolationLine) = none := by
  match vs with
  | [] => rfl
  | [v] => rfl
  | v :: w :: vs =>
    have hrule : isRule (isolationLine w) = false := by simp [isRule, isolationLine, code]
    simp [Table.ofBlock?, hrule]

theorem filterMap_isolationBlocks : (isolationBlocks r).filterMap Table.ofBlock? = [] := by
  have htier (title : String) (vs : List (Violation Float)) :
      (tierBlocks title vs).filterMap Table.ofBlock? = [] := by
    rw [tierBlocks]
    split_ifs <;> simp [ofBlock?_isolationLines]
  have hempty : Table.ofBlock? [] = none := rfl
  unfold isolationBlocks
  dsimp only
  split_ifs <;> simp [List.filterMap_cons, List.filterMap_append, htier, hempty]

theorem filterMap_tableBlocks (title nothing : String) (empty : Bool) (g : Grid) :
    (tableBlocks title nothing empty g).filterMap Table.ofBlock? =
      (if empty then [] else [g]).map Grid.table := by
  unfold tableBlocks
  cases empty <;> simp [List.filterMap_cons, Grid.ofBlock?_block]

theorem filterMap_sheet : (sheet r).filterMap Table.ofBlock? = (grids r).map Grid.table := by
  have hheader : (headerBlocks r).filterMap Table.ofBlock? = [(headerGrid r).table] := by
    unfold headerBlocks
    simp [List.filterMap_cons, Grid.ofBlock?_block]
  have hfooter : (footerBlocks r).filterMap Table.ofBlock? = [] := rfl
  simp only [sheet, grids, violationsBlocks, componentsBlocks, List.filterMap_append,
    List.map_append, hheader, filterMap_tableBlocks, filterMap_isolationBlocks, hfooter]
  simp [List.filterMap_cons, Grid.ofBlock?_block]

theorem tables_render (hr : r.Avoids '\n') : tables (render r) = (grids r).map Grid.table := by
  rw [tables, blocks_render hr, List.filterMap_append, filterMap_sheet]
  exact List.append_nil _

/-- Each row of each table is as wide as the header if and only if no name has a separator. -/
theorem rows_render_iff (hr : r.Avoids '\n') :
    (∀ t ∈ tables (render r), ∀ row ∈ t.rows, (cells row).length = (cells t.header).length) ↔
      ∀ name ∈ r.tabulated, ¬ HasSeparator name.toList := by
  rw [tables_render hr, List.forall_mem_map]
  simp only [Grid.length_cells_rows_iff]
  rw [forall_mem_grids_iff r fun c hc => not_hasSeparator_of_not_mem hc.1]
  simp only [hasSeparator_code_iff, Report.tabulated, List.forall_mem_append, List.forall_mem_cons,
    List.forall_mem_map, List.not_mem_nil, false_imp_iff, forall_true_iff, and_true, and_assoc]

/-- The bar in the name of a branch widens the row that the branch stands in. -/
theorem rows_render_barred :
    let r := { Report.sample with header := { Report.sample.header with branch := "feature/a|b" } }
    r.Avoids '\n' ∧
      ¬ ∀ t ∈ tables (render r), ∀ row ∈ t.rows, (cells row).length = (cells t.header).length := by
  have hr : Report.Avoids '\n'
      { Report.sample with header := { Report.sample.header with branch := "feature/a|b" } } := by
    decide
  refine ⟨hr, fun h => ?_⟩
  have hbranch := (rows_render_iff hr).1 h "feature/a|b" (by simp [Report.tabulated])
  exact hbranch ⟨"feature/a".toList, ['b'], by decide, by decide⟩

end Markdown

end CostGate
