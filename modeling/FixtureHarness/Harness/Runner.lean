import FixtureHarness.Fixture.Writer

/-! # Runners

A runner is given the paths of a fixture and gives back a captured text and an exit code. It may
look at all files, change them, and remember what it did before.
-/

namespace FixtureHarness

/-- What was captured of a runner. -/
structure Captured where
  text : String
  /-- Missing if the runner did not end by itself. -/
  exitCode : Option Int
  deriving DecidableEq, Repr

/-- What a runner leaves when it returns. -/
structure RunnerReturn (Memory : Type) where
  captured : Captured
  files : FileTree
  memory : Memory
  log : List Log.Record

/-- Something that runs fixtures, with a memory of its own. -/
structure Runner (Memory : Type) where
  run : FixturePaths → FileTree → Memory → RunnerReturn Memory

end FixtureHarness
