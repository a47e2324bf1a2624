import FixtureHarness.Catalog.Basic
import FixtureHarness.Command.Runner
import FixtureHarness.CommandLine.Run
import FixtureHarness.Configuration.Load
import FixtureHarness.FileTree.Changes
import FixtureHarness.Fixture.Writer
import FixtureHarness.Harness.Basic
import FixtureHarness.Log.Filter
import FixtureHarness.Main
import FixtureHarness.Proofs.Catalog.Composing
import FixtureHarness.Proofs.Catalog.Datasets
import FixtureHarness.Proofs.Catalog.Namesakes
import FixtureHarness.Proofs.Catalog.Queries
import FixtureHarness.Proofs.Catalog.Shapes
import FixtureHarness.Proofs.Catalog.Validating
import FixtureHarness.Proofs.CommandLine.Locating
import FixtureHarness.Proofs.CommandLine.Resolving
import FixtureHarness.Proofs.CommandLine.Responses
import FixtureHarness.Proofs.CommandLine.Running
import FixtureHarness.Proofs.CommandLine.Stopping
import FixtureHarness.Proofs.Configuration.Reading
import FixtureHarness.Proofs.FileTree.Making
import FixtureHarness.Proofs.FileTree.Overwriting
import FixtureHarness.Proofs.FileTree.Ways
import FixtureHarness.Proofs.Fixture.Attempts
import FixtureHarness.Proofs.Fixture.Overwriting
import FixtureHarness.Proofs.Harness.Blocks
import FixtureHarness.Proofs.Harness.Calls
import FixtureHarness.Proofs.Harness.Cases
import FixtureHarness.Proofs.Harness.Independence
import FixtureHarness.Proofs.Harness.Launching
import FixtureHarness.Proofs.Harness.Passing
import FixtureHarness.Proofs.Harness.Records
import FixtureHarness.Proofs.Harness.Writing
import FixtureHarness.Proofs.Report.Collecting
import FixtureHarness.Proofs.Report.Junit
import FixtureHarness.Proofs.Report.Outputs
import FixtureHarness.Proofs.Report.Reading
import FixtureHarness.Proofs.Report.Telling
import FixtureHarness.Proofs.Xml.Characters
import FixtureHarness.Report.Writer
import FixtureHarness.Shell.System
import FixtureHarness.Verdict
