import FixtureHarness.Configuration.Decode
import FixtureHarness.FileTree.Basic

/-! # Loading configurations

A configuration can lie next to what it describes, since its root counts from the directory of its
file.
-/

namespace FixtureHarness.Configuration

/-- Reads a configuration from a file. -/
def load (files : FileTree) (path : Path) : Except Failure Configuration := do
  let text ← files.readFile path
  let configuration ← ofText? text path.text
  .ok (configuration.anchored path)

end FixtureHarness.Configuration
