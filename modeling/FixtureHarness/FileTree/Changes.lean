import FixtureHarness.FileTree.Basic
import FixtureHarness.Json.Value

/-! # Changes of a file tree

What differs between two trees below their working directory: what is new or has another content,
and what is gone.
-/

namespace FixtureHarness.FileTree

/-- The entries below the working directory, by their paths from there. The path of a directory ends
in a slash. -/
def listing (tree : FileTree) : List (String × Entry) :=
  tree.entries.filterMap fun (location, entry) =>
    if tree.working.isPrefixOf location && location.length ≠ tree.working.length then
      let path := List.intercalate ['/'] (location.drop tree.working.length)
      match entry with
      | .directory => some (String.ofList (path ++ ['/']), entry)
      | .file .. => some (String.ofList path, entry)
    else none

/-- Whether two entries show no difference. -/
def sameContent : Entry → Entry → Bool
  | .directory, .directory => true
  | .file left _, .file right _ => left = right
  | _, _ => false

/-- What changed between two trees. -/
structure Changes where
  written : List (String × Entry)
  /-- The paths that vanished, sorted by their bytes. -/
  gone : List String
  deriving DecidableEq, Repr

/-- What changed from one tree to another. -/
def changes (before after : FileTree) : Changes :=
  let old := before.listing
  let new := after.listing
  let isNew (path : String) (entry : Entry) : Bool :=
    match lookupKey path old with
    | some held => !sameContent held entry
    | none => true
  let vanished := old.filter fun entry => (lookupKey entry.1 new).isNone
  { written := new.filter fun entry => isNew entry.1 entry.2
    gone := (sortEntries (vanished.map fun entry => (entry.1, ()))).map (·.1) }

end FixtureHarness.FileTree
