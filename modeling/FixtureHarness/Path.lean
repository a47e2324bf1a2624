import FixtureHarness.Text.Lines

/-! # Paths

A path is a text that slashes divide into parts. It is used as it was written: joining never
normalises. Its components leave out what does not count, the empty parts and every `.` part but one
that leads a relative path; `..` stays.
-/

namespace FixtureHarness

/-- The name of a file or directory, as given. -/
structure Path where
  text : String
  deriving DecidableEq, Repr, Inhabited

namespace Path

/-- What a path consists of. -/
inductive Component where
  | root
  | here
  | up
  | name (text : List Char)
  deriving DecidableEq, Repr

/-- The empty path. -/
def empty : Path := ⟨""⟩

/-- The pieces of a path between its slashes. -/
def parts (path : Path) : List (List Char) :=
  Text.splitAt '/' path.text.toList

/-- Whether a path begins at the root. -/
def isAbsolute (path : Path) : Bool :=
  path.text.toList.head? = some '/'

/-- Whether a path is not absolute. -/
def isRelative (path : Path) : Bool :=
  !path.isAbsolute

/-- Whether a part counts for nothing inside a path. -/
def isVoidPart (part : List Char) : Bool :=
  part.isEmpty || part = ['.']

/-- The component that a part stands for. -/
def componentOf (part : List Char) : Component :=
  if part = ['.', '.'] then .up else .name part

/-- The components of a path, outermost first. -/
def components (path : Path) : List Component :=
  let body := (path.parts.filter fun part => !isVoidPart part).map componentOf
  if path.isAbsolute then .root :: body
  else if path.parts.head? = some ['.'] then .here :: body
  else body

/-- One path below another. An absolute path stays what it is; a slash is put between unless the
first path is empty or ends in one. -/
def join (base path : Path) : Path :=
  if path.isAbsolute then path
  else if base.text.isEmpty || base.text.toList.getLast? = some '/' then
    ⟨base.text ++ path.text⟩
  else ⟨base.text ++ "/" ++ path.text⟩

/-- The start of a path that no removal of parts touches: the root, or a leading `.`. -/
def anchor (path : Path) : List Char :=
  if path.isAbsolute then ['/']
  else if path.parts.head? = some ['.'] then ['.']
  else []

/-- The parts that follow the anchor of a path. -/
def body (path : Path) : List (List Char) :=
  Text.splitAt '/' (path.text.toList.drop path.anchor.length)

/-- A list of parts without the void ones at its end. -/
def dropVoidEnd (parts : List (List Char)) : List (List Char) :=
  (parts.reverse.dropWhile isVoidPart).reverse

/-- The path without its last component. The root and the empty path have none; a path of `.` alone
leaves the empty path. -/
def parent? (path : Path) : Option Path :=
  match (dropVoidEnd path.body).reverse with
  | [] => if path.anchor = ['.'] then some empty else none
  | _ :: rest =>
    let kept := dropVoidEnd rest.reverse
    some ⟨String.ofList (path.anchor ++ List.intercalate ['/'] kept)⟩

/-- The directory that a file lies in, `.` for a bare file name. -/
def directory (path : Path) : Path :=
  match path.parent? with
  | some parent => if parent.text.isEmpty then ⟨"."⟩ else parent
  | none => ⟨"."⟩

end Path

end FixtureHarness
