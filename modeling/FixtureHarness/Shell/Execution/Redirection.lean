import FixtureHarness.Shell.Expansion.Word

/-! # Redirections

The targets of all redirections of a command are expanded first; then descriptors are connected one
after the other. A command that redirections belong to leaves the descriptors that they name as they
were before.
-/

namespace FixtureHarness.Shell

/-- A redirection whose target is known. -/
inductive Connection where
  | file (descriptor : Nat) (direction : Direction) (name : Octets)
  /-- Connects to what another descriptor is connected to, or closes. -/
  | copy (descriptor : Nat) (other? : Option Nat)
  | document (descriptor number : Nat) (expands : Bool)
  deriving DecidableEq, Repr

/-- The descriptor that a connection changes. -/
def Connection.descriptor : Connection → Nat
  | file descriptor _ _ => descriptor
  | copy descriptor _ => descriptor
  | document descriptor _ _ => descriptor

namespace Action

/-- Expands the target of a redirection. -/
def connectionOf (capture : Capture) : Redirection → Action Connection
  | .mk descriptor (.document number expands) _ => return .document descriptor number expands
  | .mk descriptor .duplicate target => do
    let text ← expandText capture .text target
    match text with
    | ['-'] => return .copy descriptor none
    | [digit] =>
      if digit.isDigit then return .copy descriptor (some (numberOf text)) else refuse
    | _ => refuse
  | .mk descriptor direction target => do
    let name ← expandText capture .text target
    return .file descriptor direction name
where
  /-- Breaks off because the target is no descriptor. -/
  refuse : Action Connection := do
    let session ← get
    atLine session.readLine
    fail "Syntax error: Bad fd number".toList

/-- Breaks off because a file cannot be opened. -/
def failOpening {Result : Type} (makes : Bool) (name : Octets) (fault : FileFault) :
    Action Result :=
  let cause :=
    match fault with
    | .notFound | .notADirectory => if makes then "Directory nonexistent" else "No such file"
    | fault => faultText fault
  fail ((if makes then "cannot create " else "cannot open ").toList ++ name ++
    (": " ++ cause).toList)

/-- The descriptor that the name of a device stands for. -/
def namedDescriptor? (name : Octets) : Option Nat :=
  match String.ofList name with
  | "/dev/stdin" => some 0
  | "/dev/stdout" => some 1
  | "/dev/stderr" => some 2
  | _ =>
    let start := "/dev/fd/".toList
    let number := name.drop start.length
    if start.isPrefixOf name && !number.isEmpty && number.all Char.isDigit then
      some (numberOf number)
    else none

/-- The file or the stream that a name stands for. A name of a descriptor stands for the file that the
descriptor is connected to. -/
def openTarget (session : Session) (name : Octets) : Sum Octets Nat :=
  match (namedDescriptor? name).bind session.descriptors.stream? with
  | none => .inl name
  | some number =>
    match session.machine.stream number with
    | .file location _ _ =>
      .inl ('/' :: List.intercalate ['/']
        (location.map fun part => Octets.ofString (String.ofList part)))
    | .nothing _ => .inl Machine.nothingName
    | _ => .inr number

/-- Whether a file at a path keeps a redirection from making it anew. -/
def isInTheWay (session : Session) (name : Octets) : Bool :=
  if name = Machine.nothingName then false
  else
    match session.machine.files.locate (pathOf name) with
    | .error _ => false
    | .ok location =>
      match session.machine.files.lookup? location with
      | some (.file ..) => true
      | _ => false

/-- Opens a file in a direction. -/
def openFile (direction : Direction) (name : Octets) : Action Nat := do
  let session ← get
  match openTarget session name with
  | .inr number => return number
  | .inl path =>
    let machine := session.machine
    let opened :=
      match direction with
      | .read => machine.openForReading path
      | .append => machine.openForWriting path .appending true
      | .readWrite => machine.openForWriting path .both true
      | _ => machine.openForWriting path .writing false
    let guards := direction = .write && session.has .noclobber
    if guards && isInTheWay session path then failOpening true name .alreadyExists
    else
      match opened with
      | .ok (machine, number) =>
        set { session with machine := machine }
        return number
      | .error fault =>
        let makes := direction ≠ .read && !(guards && fault = .isADirectory)
        failOpening makes name fault

/-- Connects a descriptor to a stream. -/
def attach (descriptor number : Nat) : Action Unit :=
  change fun session =>
    { session with descriptors := session.descriptors.connect descriptor number }

/-- Opens a stream under a new number. -/
def addStream (stream : Stream) : Action Nat := do
  let session ← get
  let (machine, number) := session.machine.add stream
  set { session with machine := machine }
  return number

/-- Carries out a connection. -/
def connect (capture : Capture) : Connection → Action Unit
  | .file descriptor direction name => do
    let number ← openFile direction name
    attach descriptor number
  | .copy descriptor none =>
    change fun session =>
      { session with descriptors := session.descriptors.close descriptor }
  | .copy descriptor (some other) => do
    if other ≠ descriptor then
      let session ← get
      match session.descriptors.stream? other with
      | some number => attach descriptor number
      | none => fail (digits other ++ (": " ++ badDescriptor).toList)
  | .document descriptor number expands => do
    let session ← get
    let word := (session.documents[number]?).getD []
    let text ←
      if expands then expandText capture .document word
      else pure (word.filterMap fun
        | .char char _ => some char
        | _ => none)
    let stream ← addStream (.source text)
    attach descriptor stream

/-- The descriptors after those that connections have changed are as they were before. -/
def restored (connections : List Connection) (before now : Descriptors) : Descriptors :=
  connections.foldl (fun now connection =>
    let descriptor := connection.descriptor
    match before.stream? descriptor with
    | some number => now.connect descriptor number
    | none => now.close descriptor) now

/-- Puts back the descriptors that connections have changed. -/
def disconnect (connections : List Connection) (before : Descriptors) : Action Unit :=
  change fun session =>
    { session with descriptors := restored connections before session.descriptors }

end Action

end FixtureHarness.Shell
