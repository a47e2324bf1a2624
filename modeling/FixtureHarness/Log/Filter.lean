import FixtureHarness.Log.Pattern.Meaning
import FixtureHarness.Log.Record
import FixtureHarness.Text.Blank
import FixtureHarness.Text.Lines

/-! # Log filters

A filter is a list of directives such as `warn` or `area=debug`. Of the directives whose name begins
the target of a record the one with the longest name decides, and a directive without a name fits
every record. A regular expression behind a slash has to occur in the message as well.
-/

namespace FixtureHarness.Log

/-- Lets records through up to a level, below the targets that begin with a name. -/
structure Directive where
  name? : Option String
  /-- The rank of the least grave level that passes, zero for none. -/
  bound : Nat
  deriving DecidableEq, Repr

/-- The length of a directive's name in bytes. -/
def Directive.width (directive : Directive) : Nat :=
  (directive.name?.map (·.utf8ByteSize)).getD 0

/-- The directives of a filter, shortest name first, and the expression that messages have to match.
-/
structure Filter where
  directives : List Directive
  pattern? : Option Regex
  deriving DecidableEq, Repr

namespace Filter

/-- The level that logs show unless asked otherwise. -/
def defaultLevel (verbose : Bool) : Level :=
  if verbose then .debug else .info

/-- Reads the name of a level, in any case of letters, as the rank it lets through. -/
def bound? (text : List Char) : Option Nat :=
  match String.ofList (text.map Char.toLower) with
  | "off" => some 0
  | "error" => some 1
  | "warn" => some 2
  | "info" => some 3
  | "debug" => some 4
  | "trace" => some 5
  | _ => none

/-- One part of a specification that is not empty: a directive, or the text to complain about. -/
def directive? (part : List Char) : Except String Directive :=
  match Text.splitAt '=' part with
  | [name] =>
    match bound? name with
    | some bound => .ok ⟨none, bound⟩
    | none => .ok ⟨some (String.ofList name), 5⟩
  | [name, level] =>
    let level := Text.trim level
    if level.isEmpty then .ok ⟨some (String.ofList name), 5⟩
    else
      match bound? level with
      | some bound => .ok ⟨some (String.ofList name), bound⟩
      | none => .error (String.ofList level)
  | _ => .error (String.ofList part)

/-- Puts a directive in place of one with the same name, or at the end. -/
def put (directives : List Directive) (directive : Directive) : List Directive :=
  if directives.any fun other => other.name? = directive.name? then
    directives.map fun other => if other.name? = directive.name? then directive else other
  else directives ++ [directive]

/-- The filter that lets only errors pass. -/
def errorsOnly : Filter :=
  ⟨[⟨none, 1⟩], none⟩

/-- A line of complaint about a part of a specification. -/
def complaint (text : String) : String :=
  s!"warning: invalid logging spec '{text}', ignoring it"

/-- Reads the expression behind the slash of a specification. -/
def readPattern (pattern : List Char) : Option Regex × List String :=
  match Pattern.compile pattern with
  | .ok expression => (some expression, [])
  | .error text => (none, [s!"warning: invalid regex filter - {text}, ignoring it"])

/-- Reads the directives of a specification, with the complaints about the parts that are none. -/
def readDirectives (modules : List Char) : List Directive × List String :=
  let parts := ((Text.splitAt ',' modules).map Text.trim).filter fun part => !part.isEmpty
  let step (state : List Directive × List String) (part : List Char) :=
    match directive? part with
    | .ok directive => (put state.1 directive, state.2)
    | .error text => (state.1, state.2 ++ [complaint text])
  parts.foldl step ([], [])

/-- Reads a specification. What is wrong with it is returned as lines of complaint, and the rest
counts; without any directive only errors pass. -/
def ofSpecification (specification : String) : Filter × List String :=
  match Text.splitAt '/' specification.toList with
  | [] => (errorsOnly, [])
  | modules :: more =>
    if more.length ≥ 2 then
      (errorsOnly,
        [s!"warning: invalid logging spec '{specification}' (too many '/'s), ignoring it"])
    else
      let (read, complaints) := readDirectives modules
      let directives := if read.isEmpty then errorsOnly.directives else read
      let (pattern?, patternComplaints) := (more.head?.map readPattern).getD (none, [])
      (⟨directives.mergeSort fun left right => left.width ≤ right.width, pattern?⟩,
        complaints ++ patternComplaints)

/-- The filter of a level alone. -/
def ofLevel (level : Level) : Filter :=
  ⟨[⟨none, level.rank⟩], none⟩

/-- Whether a record passes a filter. -/
def admits (filter : Filter) (record : Record) : Bool :=
  let fits (directive : Directive) :=
    match directive.name? with
    | some name => name.toList.isPrefixOf record.area.target.toList
    | none => true
  let matched := filter.pattern?.all fun pattern => pattern.occursIn record.text.toList
  match filter.directives.reverse.find? fits with
  | some directive => record.level.rank ≤ directive.bound && matched
  | none => false

end Filter

end FixtureHarness.Log
