import Mathlib.Algebra.GroupWithZero.Nat
import SchemaNodes.Command.Lint
import SchemaNodes.Files.System
import SchemaNodes.Proofs.Lint.Directory
import SchemaNodes.Proofs.Schema.RoundTrip

/-!
# Runs over a directory

Once its arguments and its settings can be read, a run over a directory fails exactly if warnings
are denied and there is a file to report. What it writes counts every warning once.

* **`Lints`**, **`Lints.run_eq`**: the runs that come to lint a path.
* **`report_code_eq_one_iff`**, **`total_eq_sum`**: what a report says about its results.
* **`directory_linted`**: the results for a directory, and a run over it.
-/

namespace SchemaNodes.Command.Lint

open Naming (Inflector)
open FileTree (Precedes)

/-! ## From the arguments to a path -/

/-- Arguments with which the command comes to lint a path: they can be read, the settings can be
loaded, and the path is the one that is given, or else the one that is configured. -/
structure Lints (host : Host Id) (texts : List String) (arguments : Arguments) (settings : Settings)
    (path : String) : Prop where
  arguments_eq : readArguments switches texts = .arguments arguments
  settings_eq : (Settings.load host (arguments.value? "config")).run = .ok settings
  path_eq : arguments.path?.or (settings.schemaPath? host.directory) = some path

/-- Whether warnings make the run fail. -/
def Denied (arguments : Arguments) (settings : Settings) : Prop :=
  arguments.has "deny-warnings" = true ∨ settings.lint.denyWarnings = true

variable {host : Host Id} {texts : List String} {arguments : Arguments} {settings : Settings}
  {path : String}

theorem Lints.run_eq (h : Lints host texts arguments settings path) :
    (run host texts).run =
      (lintPath host (.ofSettings settings.naming)
        (arguments.has "deny-warnings" || settings.lint.denyWarnings) path).run := by
  have hsettings : Settings.load host (arguments.value? "config") = pure (.ok settings) :=
    h.settings_eq
  rw [run, h.arguments_eq]
  simp only [runWith, hsettings, pure_bind, h.path_eq]

/-! ## Reports -/

theorem total_eq_sum (results : List LintResult) :
    total results = (results.map fun result => result.warnings.length).sum := by
  rw [total, List.length_flatMap]

theorem report_code_eq_one_iff {deny : Bool} {heading : List String} {results : List LintResult} :
    (report deny heading results).code = 1 ↔ deny = true ∧ results ≠ [] := by
  cases deny <;> cases results <;> simp [report]

theorem report_code_eq_zero {deny : Bool} {heading : List String} {results : List LintResult}
    (h : (report deny heading results).code ≠ 1) : (report deny heading results).code = 0 := by
  rw [report] at h ⊢
  split_ifs with hfails
  · exact absurd (if_pos hfails) h
  · rfl

/-! ## Directories -/

variable {system : FileSystem} {environment : List (String × String)}
  {entries : List (String × FileTree)}

theorem lintDirectory_of_find {tree : FileTree} (hfind : system.find path = .ok tree)
    (inflector : Inflector) :
    (lintDirectory (system.host environment) inflector path).run = lintTree inflector path tree := by
  have htree : (system.host environment).tree? path = pure (some tree) := by
    show (system.find path).toOption = some tree
    rw [hfind]
    rfl
  simp only [lintDirectory, htree, pure_bind, Id.run_pure]

theorem lintPath_of_find (hfind : system.find path = .ok (.directory entries))
    (inflector : Inflector) (deny : Bool) :
    (lintPath (system.host environment) inflector deny path).run =
      report deny (directoryHeading path) (lintTree inflector path (.directory entries)) := by
  have hkind : (system.host environment).kind path = pure .directory := by
    show system.kind path = .directory
    rw [FileSystem.kind, hfind]
    rfl
  rw [lintPath, hkind, pure_bind, if_pos rfl, Id.run_bind, lintDirectory_of_find hfind, Id.run_pure]

/-- Linting a directory gives one result for each file that is to be reported and none besides, in
the order of a walk, depth first and each directory by the bytes of its names; and a run over the
directory fails with 1 if warnings are denied and there is such a file, and else ends with 0. It
writes the results, and how many warnings these have in all. -/
theorem directory_linted (hfind : system.find path = .ok (.directory entries))
    (hwf : (FileTree.directory entries).WellFormed) :
    (∀ inflector : Inflector, ∃ reported : List (List String × LintResult),
      (lintDirectory (system.host environment) inflector path).run = reported.map (·.2) ∧
      (∀ names result, (names, result) ∈ reported ↔
        Reports inflector (.directory entries) names result) ∧
      (reported.map (·.1)).Nodup ∧ reported.Pairwise fun a b => Precedes a.1 b.1) ∧
    ∀ texts arguments settings, Lints (system.host environment) texts arguments settings path →
      let inflector := Inflector.ofSettings settings.naming
      let results := (lintDirectory (system.host environment) inflector path).run
      let count := (results.map fun result => result.warnings.length).sum
      let output := (run (system.host environment) texts).run
      (output.code = 1 ↔ Denied arguments settings ∧
        ∃ names result, Reports inflector (.directory entries) names result) ∧
      (output.code ≠ 1 → output.code = 0) ∧
      output.stdout = unlines (directoryHeading path ++
        if results = [] then ["✅ No lint warnings"]
        else results.flatMap resultLines ++
          ["", s!"{count} warning(s) in {results.length} schema(s)"]) ∧
      output.stderr = "" := by
  refine ⟨fun inflector => ?_, fun texts arguments settings h => ?_⟩
  · have horder : (reported inflector path (.directory entries)).Pairwise fun a b =>
        Precedes a.1 b.1 := pairwise_reported hwf
    refine ⟨reported inflector path (.directory entries), ?_, ?_, ?_, horder⟩
    · rw [lintDirectory_of_find hfind, map_reported]
    · exact fun names result => mem_reported_iff hwf
    · exact List.pairwise_map.2 (horder.imp Precedes.ne)
  · intro inflector results count output
    have hresults : results = lintTree inflector path (.directory entries) :=
      lintDirectory_of_find hfind inflector
    have houtput : output = report (arguments.has "deny-warnings" || settings.lint.denyWarnings)
        (directoryHeading path) results := by
      rw [hresults, ← lintPath_of_find hfind]
      exact h.run_eq
    rw [houtput]
    refine ⟨?_, report_code_eq_zero, ?_, rfl⟩
    · rw [report_code_eq_one_iff, Bool.or_eq_true, hresults, lintTree_ne_nil_iff hwf]
      rfl
    · simp only [report, reportLines, List.isEmpty_iff, total_eq_sum, count]

/-- A document with an attribute of a type that nobody has declared. -/
def misspelt : Document :=
  .ofTypes (.ofList [("Tag", .record (.ofList [("Key", .scalar "Strnig")]))])

/-- A directory where a broken file lies beside a directory with that document. -/
def misspeltEntries : List (String × FileTree) := [
  ("shared", .directory [("tags.json", .file misspelt.toJson.compact.toUTF8)]),
  ("broken.yml", .file "Types: [".toUTF8)]

/-- A system with the directory. -/
def misspeltSystem : FileSystem := ⟨.directory [("schemas", .directory misspeltEntries)], []⟩

/-- A system with the directory beside a settings file by which warnings are denied. -/
def denyingSystem : FileSystem :=
  ⟨.directory [
    ("schema-builder.toml", .file "[lint]\ndeny_warnings = true\n".toUTF8),
    ("schemas", .directory misspeltEntries)], []⟩

/-- The settings of the system with the settings file. -/
def denyingSettings : Settings := { Settings.default with lint := ⟨true, true⟩ }

theorem misspeltEntries_wellFormed : (FileTree.directory misspeltEntries).WellFormed := by
  have hshared : (FileTree.directory
      [("tags.json", .file misspelt.toJson.compact.toUTF8)]).WellFormed :=
    .directory (by decide) (by decide) (List.forall_mem_singleton.2 (.file _))
  exact .directory (by decide) (by decide)
    (List.forall_mem_cons.2 ⟨hshared, List.forall_mem_singleton.2 (.file _)⟩)

theorem misspelt_reported :
    Reports (.ofSettings .default) (.directory misspeltEntries) ["shared", "tags.json"]
      (misspelt.lint (.ofSettings .default) "shared/tags.json") := by
  have hread : Document.ofText .json misspelt.toJson.compact = .ok misspelt := by
    rw [Document.ofText, Document.ofJsonText_compact]
    rfl
  exact ⟨["shared"], "tags.json", "json", .json, misspelt.toJson.compact, misspelt, rfl, rfl, .json,
    .inEntry List.mem_cons_self (.inEntry List.mem_cons_self (.here _)), hread, rfl, by decide⟩

theorem directory_linted_misspelt :
    misspeltSystem.find "schemas" = .ok (.directory misspeltEntries) ∧
    denyingSystem.find "schemas" = .ok (.directory misspeltEntries) ∧
    (FileTree.directory misspeltEntries).WellFormed ∧
    Lints (misspeltSystem.host []) ["--deny-warnings", "schemas"]
      ⟨some "schemas", [("deny-warnings", "")]⟩ .default "schemas" ∧
    (run (misspeltSystem.host []) ["--deny-warnings", "schemas"]).run.code = 1 ∧
    Lints (denyingSystem.host []) ["schemas"] ⟨some "schemas", []⟩ denyingSettings "schemas" ∧
    (run (denyingSystem.host []) ["schemas"]).run.code = 1 ∧
    Lints (misspeltSystem.host []) ["schemas"] ⟨some "schemas", []⟩ .default "schemas" ∧
    (run (misspeltSystem.host []) ["schemas"]).run.code = 0 := by
  have hfind : misspeltSystem.find "schemas" = .ok (.directory misspeltEntries) := rfl
  have hfind' : denyingSystem.find "schemas" = .ok (.directory misspeltEntries) := rfl
  have hwf := misspeltEntries_wellFormed
  have hflag : Lints (misspeltSystem.host []) ["--deny-warnings", "schemas"]
      ⟨some "schemas", [("deny-warnings", "")]⟩ .default "schemas" := ⟨rfl, rfl, rfl⟩
  have hfile : Lints (denyingSystem.host []) ["schemas"] ⟨some "schemas", []⟩ denyingSettings
      "schemas" := ⟨rfl, by decide +kernel, rfl⟩
  have hneither : Lints (misspeltSystem.host []) ["schemas"] ⟨some "schemas", []⟩ .default
      "schemas" := ⟨rfl, rfl, rfl⟩
  have hcode := ((directory_linted hfind hwf).2 _ _ _ hflag).1
  have hcode' := ((directory_linted hfind' hwf).2 _ _ _ hfile).1
  obtain ⟨hallowed, hzero, -⟩ := (directory_linted hfind hwf).2 _ _ _ hneither
  refine ⟨hfind, hfind', hwf, hflag, hcode.2 ⟨.inl rfl, _, _, misspelt_reported⟩,
    hfile, hcode'.2 ⟨.inr rfl, _, _, misspelt_reported⟩, hneither, hzero fun h => ?_⟩
  obtain ⟨hdenied, -⟩ := hallowed.1 h
  exact absurd hdenied (by unfold Denied; decide)

end SchemaNodes.Command.Lint
