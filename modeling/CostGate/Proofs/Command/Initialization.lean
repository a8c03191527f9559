import CostGate.Command.Execution
import CostGate.Proofs.Project.Location

/-!
# Initializing a project

The file that an initialization creates describes the default configuration, and it is the stronger
of the two configuration files of a project. A project therefore keeps its configuration, unless it
was configured by the weaker file alone: from then on the defaults apply.
-/
namespace CostGate

theorem Template.reads_default :
    (Document.Toml.parse? Template.text.toList).bind (Config.ofValue? .drop) =
      some (Config.default Float) := by
  simp only [Template.text, Template.lines, String.toList_join, List.map_cons, List.map_nil,
    List.flatMap_cons, List.flatMap_nil, String.toList_append, String.reduceToList]
  decide +kernel

theorem fromUTF8?_toUTF8 (s : String) : String.fromUTF8? s.toUTF8 = some s := by
  simp only [String.fromUTF8?, String.toUTF8_eq_toByteArray, Option.dite_none_right_eq_some]
  exact ⟨s.isValidUTF8, rfl⟩

namespace Config

variable {t : Tree} {workingDirectory place : Place} {directory : String}

theorem isFileName_toml : IsFileName "archgate.toml" := by
  constructor <;> decide

theorem isFileName_json : IsFileName ".archgaterc.json" := by
  constructor <;> decide

theorem isJson_join_toml (directory : String) :
    isJson (Path.join directory "archgate.toml") = false := by
  rw [isJson, Path.extension?, Path.fileName?_join isFileName_toml]
  decide

theorem isFile_join {name : String} (hname : IsFileName name)
    (hplace : t.locate workingDirectory directory = .ok place)
    (hdirectory : t.get? place = some .directory) :
    t.isFile workingDirectory (Path.join directory name) =
      (t.get? (place ++ [name])).any Discovery.isFileEntry := by
  rw [Tree.isFile, Tree.find_join hname hplace hdirectory]
  cases t.get? (place ++ [name]) with
  | none => rfl
  | some e => cases e <;> rfl

/-- The stronger file decides, then the weaker one, then the defaults. -/
theorem load_eq (hplace : t.locate workingDirectory directory = .ok place)
    (hdirectory : t.get? place = some .directory) :
    load t workingDirectory directory none =
      if (t.get? (place ++ ["archgate.toml"])).any Discovery.isFileEntry then
        loadFile t workingDirectory (Path.join directory "archgate.toml")
      else if (t.get? (place ++ [".archgaterc.json"])).any Discovery.isFileEntry then
        loadFile t workingDirectory (Path.join directory ".archgaterc.json")
      else .ok (Config.default Float) := by
  rw [← isFile_join isFileName_toml hplace hdirectory,
    ← isFile_join isFileName_json hplace hdirectory, load, fileNames]
  simp only [List.map_cons, List.map_nil, List.find?_cons, List.find?_nil]
  cases t.isFile workingDirectory (Path.join directory "archgate.toml") <;>
    cases t.isFile workingDirectory (Path.join directory ".archgaterc.json") <;> rfl

theorem loadFile_eq {name text : String} (hname : IsFileName name)
    (hplace : t.locate workingDirectory directory = .ok place)
    (hdirectory : t.get? place = some .directory)
    (hfile : t.get? (place ++ [name]) = some (.file text.toUTF8)) :
    loadFile t workingDirectory (Path.join directory name) =
      (ofText? (Path.join directory name) text).elim
        (Except.error (LoadingError.malformed (Path.join directory name))) .ok := by
  have hread : t.read workingDirectory (Path.join directory name) = .ok text.toUTF8 := by
    rw [Tree.read, Tree.find_join hname hplace hdirectory, hfile]
    rfl
  rw [loadFile, hread]
  simp only [fromUTF8?_toUTF8]
  cases ofText? (Path.join directory name) text <;> rfl

theorem loadFile_template (hplace : t.locate workingDirectory directory = .ok place)
    (hdirectory : t.get? place = some .directory)
    (hfile : t.get? (place ++ ["archgate.toml"]) = some (.file Template.text.toUTF8)) :
    loadFile t workingDirectory (Path.join directory "archgate.toml") =
      .ok (Config.default Float) := by
  have htext : ofText? (Path.join directory "archgate.toml") Template.text =
      some (Config.default Float) := by
    rw [ofText?, isJson_join_toml, if_neg Bool.false_ne_true]
    exact Template.reads_default
  rw [loadFile_eq isFileName_toml hplace hdirectory hfile, htext]
  rfl

end Config

namespace Initialization

variable {t : Tree} {root : Place}

theorem configure_of_some {e : Entry} (h : t.get? (root ++ [fileName]) = some e) :
    configure t root = (t, false) := by
  rw [configure, if_pos (by rw [h]; rfl)]

theorem configure_of_none (h : t.get? (root ++ [fileName]) = none) :
    configure t root = (t.set (root ++ [fileName]) (.file Template.text.toUTF8), true) := by
  rw [configure, if_neg (by rw [h]; simp)]

theorem get?_configure {p : Place} {e : Entry} (h : t.get? p = some e) :
    (configure t root).1.get? p = some e := by
  cases hfile : t.get? (root ++ [fileName]) with
  | some _ => rwa [configure_of_some hfile]
  | none =>
    have hne : p ≠ root ++ [fileName] := by
      rintro rfl
      rw [hfile] at h
      cases h
    rwa [configure_of_none hfile, Tree.get?_set_of_ne hne]

theorem isSome_get?_configure (t : Tree) (root : Place) :
    ((configure t root).1.get? (root ++ [fileName])).isSome := by
  cases hfile : t.get? (root ++ [fileName]) with
  | some e => rw [configure_of_some hfile, hfile]; rfl
  | none => rw [configure_of_none hfile, Tree.get?_set_self (by simp)]; rfl

theorem configure_configure (t : Tree) (root : Place) :
    configure (configure t root).1 root = ((configure t root).1, false) := by
  obtain ⟨e, he⟩ := Option.isSome_iff_exists.1 (isSome_get?_configure t root)
  exact configure_of_some he

theorem locate_configure {workingDirectory place : Place} {text : String}
    (h : t.locate workingDirectory text = .ok place) (root : Place) :
    (configure t root).1.locate workingDirectory text = .ok place := by
  cases hfile : t.get? (root ++ [fileName]) with
  | some _ => rwa [configure_of_some hfile]
  | none =>
    rw [configure_of_none hfile]
    exact Tree.locate_set hfile h

/-- Where nothing is called as the configuration file is, the defaults apply from then on. -/
theorem load_configure_of_none {workingDirectory place : Place} {directory : String}
    (hplace : t.locate workingDirectory directory = .ok place)
    (hdirectory : t.get? place = some .directory) (hfile : t.get? (place ++ [fileName]) = none) :
    Config.load (configure t place).1 workingDirectory directory none =
      .ok (Config.default Float) := by
  have hplace' := locate_configure hplace place
  have hdirectory' : (configure t place).1.get? place = some .directory := get?_configure hdirectory
  have hfile' : (configure t place).1.get? (place ++ [fileName]) =
      some (.file Template.text.toUTF8) := by
    rw [configure_of_none hfile, Tree.get?_set_self (by simp)]
  rw [Config.load_eq hplace' hdirectory', if_pos]
  · exact Config.loadFile_template hplace' hdirectory' hfile'
  · change ((configure t place).1.get? (place ++ [fileName])).any _ = true
    rw [hfile']
    rfl

variable {w : World} {directory : String}

theorem execute_of_directory (hplace : w.tree.locate w.workingDirectory directory = .ok root)
    (hdirectory : w.tree.get? root = some .directory) :
    ∃ output, execute w directory = (.finished 0 output "", (configure w.tree root).1) := by
  rw [execute, hplace]
  simp only [hdirectory]
  exact ⟨_, rfl⟩

theorem directory_of_execute {code : Nat} {output errors : String} {t : Tree}
    (h : execute w directory = (.finished code output errors, t)) :
    ∃ place, w.tree.locate w.workingDirectory directory = .ok place ∧
      w.tree.get? place = some .directory := by
  rw [execute] at h
  split at h
  · cases h
  · next place hplace =>
    split at h
    · cases h
    · next hdirectory => exact ⟨place, hplace, hdirectory⟩
    · cases h

/-- The project is configured by the weaker file alone, and nothing is called as the stronger one
is. -/
def Shadows (w : World) (directory : String) : Prop :=
  w.tree.find w.workingDirectory (Path.join directory fileName) = .error .missing ∧
    w.tree.isFile w.workingDirectory (Path.join directory ".archgaterc.json") = true

theorem shadows_iff {place : Place}
    (hplace : w.tree.locate w.workingDirectory directory = .ok place)
    (hdirectory : w.tree.get? place = some .directory) :
    Shadows w directory ↔ w.tree.get? (place ++ [fileName]) = none ∧
      (w.tree.get? (place ++ [".archgaterc.json"])).any Discovery.isFileEntry = true := by
  rw [Shadows, fileName, Tree.find_join Config.isFileName_toml hplace hdirectory,
    Config.isFile_join Config.isFileName_json hplace hdirectory]
  cases w.tree.get? (place ++ ["archgate.toml"]) <;> simp

/-- A project that nothing configures has the defaults, and the new file says the same. -/
theorem load_configure_of_not_shadows {place : Place}
    (hplace : w.tree.locate w.workingDirectory directory = .ok place)
    (hdirectory : w.tree.get? place = some .directory) (h : ¬ Shadows w directory) :
    Config.load (configure w.tree place).1 w.workingDirectory directory none =
      Config.load w.tree w.workingDirectory directory none := by
  rw [shadows_iff hplace hdirectory, not_and] at h
  cases hfile : w.tree.get? (place ++ [fileName]) with
  | some e => rw [configure_of_some hfile]
  | none =>
    have hjson := h hfile
    rw [fileName] at hfile
    rw [load_configure_of_none hplace hdirectory hfile, Config.load_eq hplace hdirectory, hfile,
      if_neg (by simp), if_neg hjson]

end Initialization

open Initialization in
/-- An initialization leaves all that stands in the tree, and a second one leaves the tree as it is.
The project keeps its configuration, or the error in it, unless the new file shadows the weaker
one; then the defaults apply. -/
theorem execute_keeps {w : World} {directory output errors : String} {code : Nat} {t : Tree}
    (h : execute w directory = (.finished code output errors, t)) :
    (∀ p e, w.tree.get? p = some e → t.get? p = some e) ∧
      (∃ output', execute { w with tree := t } directory = (.finished code output' errors, t)) ∧
      (¬ Shadows w directory → Config.load t w.workingDirectory directory none =
        Config.load w.tree w.workingDirectory directory none) ∧
      (Shadows w directory → Config.load t w.workingDirectory directory none =
        .ok (Config.default Float)) := by
  obtain ⟨place, hplace, hdirectory⟩ := directory_of_execute h
  obtain ⟨output₁, hfirst⟩ := execute_of_directory hplace hdirectory
  obtain ⟨hending, htree⟩ := Prod.mk.inj (h.symm.trans hfirst)
  obtain ⟨hcode, -, herrors⟩ := Ending.finished.inj hending
  have hsecond := execute_of_directory (w := { w with tree := (configure w.tree place).1 })
    (locate_configure hplace place) (get?_configure hdirectory)
  rw [configure_configure] at hsecond
  rw [htree, hcode, herrors]
  refine ⟨fun p e => get?_configure, hsecond, ?_, ?_⟩
  · exact load_configure_of_not_shadows hplace hdirectory
  · intro hshadows
    rw [shadows_iff hplace hdirectory] at hshadows
    exact load_configure_of_none hplace hdirectory hshadows.1

namespace Initialization

def projectWith (name content : String) : World where
  tree := ⟨[(["project"], .directory), (["project", name], .file content.toUTF8)]⟩
  workingDirectory := []
  env := fun _ => none
  now := ""
  terminal := false

/-- A configuration that shows three violations in a report. -/
def topThree : String := "\x7b\"report\": \x7b\"top\": 3\x7d\x7d"

variable {name content : String}

theorem locate_projectWith :
    (projectWith name content).tree.locate [] "project" = .ok ["project"] :=
  rfl

theorem directory_projectWith :
    (projectWith name content).tree.get? ["project"] = some .directory :=
  rfl

theorem file_projectWith :
    (projectWith name content).tree.get? (["project"] ++ [name]) = some (.file content.toUTF8) := by
  simp [projectWith, Tree.get?, List.lookup]

theorem loadFile_projectWith (hname : IsFileName name) :
    Config.loadFile (projectWith name content).tree [] (Path.join "project" name) =
      (Config.ofText? (Path.join "project" name) content).elim
        (Except.error (LoadingError.malformed (Path.join "project" name))) .ok :=
  Config.loadFile_eq hname locate_projectWith directory_projectWith file_projectWith

end Initialization

open Initialization in
theorem execute_keeps_error :
    ∃ output t, execute (projectWith "archgate.toml" "top") "project" = (.finished 0 output "", t) ∧
      Config.load t [] "project" none = .error (.malformed "project/archgate.toml") := by
  obtain ⟨output, h⟩ := execute_of_directory (w := projectWith "archgate.toml" "top")
    locate_projectWith directory_projectWith
  have hshadows : ¬ Shadows (projectWith "archgate.toml" "top") "project" := by
    rw [shadows_iff locate_projectWith directory_projectWith, fileName, file_projectWith]
    simp
  refine ⟨output, _, h, ((execute_keeps h).2.2.1 hshadows).trans ?_⟩
  change Config.load (projectWith "archgate.toml" "top").tree [] "project" none = _
  rw [Config.load_eq locate_projectWith directory_projectWith, file_projectWith, if_pos (by rfl),
    loadFile_projectWith Config.isFileName_toml]
  have htext : Config.ofText? (Path.join "project" "archgate.toml") "top" = none := by
    decide +kernel
  rw [htext]
  decide +kernel

open Initialization in
/-- A project that shows three violations in its reports, by the weaker file, shows ten after its
initialization. -/
theorem execute_shadows_top : ¬ ∀ (w : World) (directory output errors : String) (code : Nat)
    (t : Tree), execute w directory = (.finished code output errors, t) →
      Config.load t w.workingDirectory directory none =
        Config.load w.tree w.workingDirectory directory none := by
  intro hkeeps
  obtain ⟨output, h⟩ := execute_of_directory (w := projectWith ".archgaterc.json" topThree)
    locate_projectWith directory_projectWith
  have hnone : (projectWith ".archgaterc.json" topThree).tree.get? (["project"] ++ [fileName]) =
      none := by
    simp [projectWith, Tree.get?, List.lookup, fileName]
  have hbefore : Config.load (projectWith ".archgaterc.json" topThree).tree [] "project" none =
      (Config.ofText? (Path.join "project" ".archgaterc.json") topThree).elim
        (Except.error (LoadingError.malformed (Path.join "project" ".archgaterc.json"))) .ok := by
    rw [fileName] at hnone
    rw [Config.load_eq locate_projectWith directory_projectWith, hnone, file_projectWith,
      if_neg (by simp), if_pos (by rfl), loadFile_projectWith Config.isFileName_json]
  have hafter := load_configure_of_none locate_projectWith directory_projectWith hnone
  have hload := hafter.symm.trans ((hkeeps _ _ _ _ _ _ h).trans hbefore)
  have htop : (Config.ofText? (Path.join "project" ".archgaterc.json") topThree).map (·.top) =
      some 3 := by
    decide +kernel
  cases htext : Config.ofText? (Path.join "project" ".archgaterc.json") topThree with
  | none =>
    rw [htext] at hload
    cases hload
  | some config =>
    rw [htext] at hload htop
    cases hload
    cases htop

end CostGate
