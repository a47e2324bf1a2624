import FixtureHarness.CommandLine.Run
import FixtureHarness.Proofs.Path.Components
import Mathlib.Data.List.Basic

/-! # Where the files of a configuration are looked for

Up to three directories lie above a file that a configuration names: the one of the configuration
file, the root of the configuration, and the root that the command line gives instead of both. Each
relative path follows the one above it, and an absolute path leaves behind what would stand above.
-/

namespace FixtureHarness

open FixtureHarness.Path (Component follow)

namespace Configuration

variable {configuration : Configuration}

theorem components_resolve (configuration : Configuration) (path : Path) :
    (configuration.resolve path).components =
      if path.isAbsolute then path.components
      else follow configuration.root.components path.components :=
  Path.components_join configuration.root path

/-- A configuration counts with another root where its own is relative, and is the same otherwise. -/
theorem anchored_eq (configuration : Configuration) (file : Path) :
    configuration.anchored file = configuration.withRoot
      (if configuration.root.isAbsolute then configuration.root
        else file.directory.join configuration.root) := by
  rw [anchored, Path.isRelative]
  cases configuration.root.isAbsolute <;> rfl

end Configuration

namespace CommandLine

variable {overrides : Overrides} {files : FileTree} {file : Path} {configuration : Configuration}

/-- The command line changes the root, the fixture directory and the program, and nothing else. -/
theorem overridden_eq (overrides : Overrides) (configuration : Configuration) :
    overridden overrides configuration =
      { configuration with
        root := overrides.root?.getD configuration.root
        fixtureDirectory := overrides.fixtureDirectory?.getD configuration.fixtureDirectory
        runner := { configuration.runner with
          program := overrides.program?.getD configuration.runner.program } } := by
  obtain ⟨config?, root?, fixtureDirectory?, program?⟩ := overrides
  cases root? <;> cases fixtureDirectory? <;> cases program? <;> rfl

/-- What a configuration file gives, for a text that is accepted. -/
theorem loadConfiguration_of_accepted {text : String} (given : overrides.config? = some file)
    (held : files.readFile file = .ok text)
    (accepted : Configuration.ofText? text file.text = .ok configuration) :
    loadConfiguration overrides files = .ok (overridden overrides (configuration.anchored file)) := by
  have loaded : Configuration.load files file = .ok (configuration.anchored file) := by
    rw [Configuration.load, held]
    show (Configuration.ofText? text file.text >>= fun read => .ok (read.anchored file)) = _
    rw [accepted]
    rfl
  rw [loadConfiguration, given]
  simp only [loaded]
  rfl

/-- The components of the directory that relative paths start from: those of the root that the
command line gives, or of the root of a configuration whose file lies in a directory. -/
def rootComponents (overrides : Overrides) (directory root : Path) : List Component :=
  match overrides.root? with
  | some given => given.components
  | none =>
    if root.isAbsolute then root.components else follow directory.components root.components

theorem components_root (overrides : Overrides) (configuration : Configuration) (file : Path) :
    (overridden overrides (configuration.anchored file)).root.components =
      rootComponents overrides file.directory configuration.root := by
  rw [overridden_eq, Configuration.anchored_eq, rootComponents]
  cases overrides.root? with
  | some given => rfl
  | none =>
    simp only [Option.getD_none, Configuration.withRoot]
    split_ifs with absolute
    · rfl
    · rw [Path.components_join, if_neg absolute]

/-- The three paths of an accepted configuration, as they are used. An absolute path is used as it
is. A relative one follows the root, and a relative root the directory of the configuration file:
`.` for a bare file name, and otherwise the path of all components of the file but the last. -/
theorem loadConfiguration_locates {text : String} {outer : List Component} {name : List Char}
    (given : overrides.config? = some file) (ends : file.components = outer ++ [.name name])
    (held : files.readFile file = .ok text)
    (accepted : Configuration.ofText? text file.text = .ok configuration) :
    ∃ (used : Configuration) (directory : Path), loadConfiguration overrides files = .ok used ∧
      (outer = [] → directory = ⟨"."⟩) ∧ (outer ≠ [] → directory.components = outer) ∧
      ∀ place ∈ [(configuration.queriesFile, used.queriesPath),
          (configuration.casesFile, used.casesPath),
          (overrides.fixtureDirectory?.getD configuration.fixtureDirectory, used.fixturePath)],
        place.2.components =
          if place.1.isAbsolute then place.1.components
          else follow (rootComponents overrides directory configuration.root)
            place.1.components := by
  obtain ⟨bare, below⟩ := Path.directory_components ends
  have loaded := loadConfiguration_of_accepted given held accepted
  have root := components_root overrides configuration file
  refine ⟨_, file.directory, loaded, bare, below, ?_⟩
  generalize eq : overridden overrides (configuration.anchored file) = used at root ⊢
  have queries : used.queriesFile = configuration.queriesFile := by
    rw [← eq, overridden_eq, Configuration.anchored_eq]
    rfl
  have cases : used.casesFile = configuration.casesFile := by
    rw [← eq, overridden_eq, Configuration.anchored_eq]
    rfl
  have fixtures : used.fixtureDirectory =
      overrides.fixtureDirectory?.getD configuration.fixtureDirectory := by
    rw [← eq, overridden_eq, Configuration.anchored_eq]
    rfl
  simp only [List.forall_mem_cons, Configuration.queriesPath, Configuration.casesPath,
    Configuration.fixturePath, Configuration.components_resolve, root, queries, cases, fixtures]
  simp

/-- A configuration in a directory, with its root below and its fixtures elsewhere. -/
def nested : FileTree where
  working := []
  entries :=
    [(["conf".toList], .directory),
      (["conf".toList, "harness.yaml".toList],
        .file (Utf8.bytesOf "root_dir: ./data/\nfixture_dir: /tmp//fixtures\n") false)]

/-- Its catalog is looked for below both directories, its fixtures where it says. -/
theorem loadConfiguration_nested_locates :
    let overrides : Overrides := ⟨some ⟨"./conf//harness.yaml"⟩, none, none, none⟩
    ∃ used, loadConfiguration overrides nested = .ok used ∧
      used.queriesPath.components = [.here, .name "conf".toList, .name "data".toList,
        .name "transformer_queries.json".toList] ∧
      used.fixturePath.components = [.root, .name "tmp".toList, .name "fixtures".toList] := by
  intro overrides
  have accepted : Configuration.ofText? "root_dir: ./data/\nfixture_dir: /tmp//fixtures\n"
      "./conf//harness.yaml" = .ok { root := ⟨"./data/"⟩, fixtureDirectory := ⟨"/tmp//fixtures"⟩ } := by
    decide +kernel
  have held : nested.readFile ⟨"./conf//harness.yaml"⟩ =
      .ok "root_dir: ./data/\nfixture_dir: /tmp//fixtures\n" := by decide +kernel
  have ends : (Path.mk "./conf//harness.yaml").components =
      [.here, .name "conf".toList] ++ [.name "harness.yaml".toList] := by decide +kernel
  have given : overrides.config? = some ⟨"./conf//harness.yaml"⟩ := rfl
  obtain ⟨used, directory, loaded, _, below, places⟩ :=
    loadConfiguration_locates given ends held accepted
  have queries := places _ (List.mem_cons_self ..)
  have fixtures := places _ (List.mem_cons_of_mem _ (List.mem_cons_of_mem _ (List.mem_cons_self ..)))
  refine ⟨used, loaded, ?_, ?_⟩
  · have inDirectory : directory.components = [.here, .name "conf".toList] := below (by simp)
    have relative : ¬ (Path.mk "transformer_queries.json").isAbsolute = true := by decide +kernel
    rw [rootComponents, inDirectory] at queries
    refine queries.trans ((if_neg relative).trans ?_)
    dsimp only [overrides]
    decide +kernel
  · have absolute : (Path.mk "/tmp//fixtures").isAbsolute = true := by decide +kernel
    refine fixtures.trans ((if_pos absolute).trans ?_)
    dsimp only
    decide +kernel

end CommandLine

end FixtureHarness
