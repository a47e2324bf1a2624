import FixtureHarness.FileTree.Basic
import FixtureHarness.Text.Octets

/-! # Machines

A machine holds what all running programs share: the files, what is open for reading and writing,
and the signals that were sent. A program reaches what is open by its descriptors.
-/

namespace FixtureHarness.Shell

/-- What can be done with something that is open. -/
structure Access where
  reads : Bool
  writes : Bool
  /-- Whether everything is written at the end. -/
  appends : Bool
  deriving DecidableEq, Repr

namespace Access

/-- Only reading. -/
def reading : Access := ⟨true, false, false⟩

/-- Only writing. -/
def writing : Access := ⟨false, true, false⟩

/-- Only writing at the end. -/
def appending : Access := ⟨false, true, true⟩

/-- Reading and writing. -/
def both : Access := ⟨true, true, false⟩

end Access

/-- Something that is open. -/
inductive Stream where
  /-- Takes everything and gives nothing. -/
  | nothing (access : Access)
  /-- Gives a text. -/
  | source (rest : Octets)
  /-- Keeps what is written, the last part first. -/
  | collector (parts : List Octets)
  /-- A file, which is read and written from a position on. -/
  | file (location : Location) (position : Nat) (access : Access)
  /-- A file that was removed since it was opened. -/
  | removed (content : List UInt8) (position : Nat) (access : Access)
  | directory
  deriving DecidableEq, Repr

/-- What running programs share. -/
structure Machine where
  files : FileTree
  /-- All that was ever opened, by its number. -/
  streams : Array Stream
  /-- The signals that were sent, each with the number of the process. -/
  signals : List (Nat × Nat)
  /-- The number that the next process gets. -/
  nextProcess : Nat
  deriving DecidableEq, Repr

/-- The descriptors of a program, each with the number of what it is connected to. -/
abbrev Descriptors := List (Nat × Nat)

/-- What a descriptor is connected to. -/
def Descriptors.stream? (descriptors : Descriptors) (descriptor : Nat) : Option Nat :=
  (List.find? (fun entry => entry.1 = descriptor) descriptors).map (·.2)

/-- Closes a descriptor. -/
def Descriptors.close (descriptors : Descriptors) (descriptor : Nat) : Descriptors :=
  List.filter (fun entry => entry.1 ≠ descriptor) descriptors

/-- Connects a descriptor. -/
def Descriptors.connect (descriptors : Descriptors) (descriptor stream : Nat) : Descriptors :=
  (descriptor, stream) :: descriptors.close descriptor

/-- The text of a file fault as programs report it. -/
def faultText : FileFault → String
  | .notFound => "No such file or directory"
  | .alreadyExists => "File exists"
  | .notADirectory => "Not a directory"
  | .isADirectory => "Is a directory"
  | .nameTooLong => "File name too long"
  | .invalidText => "Invalid or incomplete multibyte or wide character"
  | .nulInName => "Invalid argument"
  | .other text => text

/-- The text of the fault that a descriptor is connected to nothing. -/
def badDescriptor : String := "Bad file descriptor"

/-- The path that octets name. -/
def pathOf (name : Octets) : Path := ⟨Octets.text name⟩

namespace Machine

/-- Opens something. Returns its number too. -/
def add (machine : Machine) (stream : Stream) : Machine × Nat :=
  ({ machine with streams := machine.streams.push stream }, machine.streams.size)

/-- What is open under a number. -/
def stream (machine : Machine) (number : Nat) : Stream :=
  machine.streams[number]?.getD (.nothing .both)

/-- Changes what is open under a number. -/
def setStream (machine : Machine) (number : Nat) (stream : Stream) : Machine :=
  { machine with streams := machine.streams.set! number stream }

/-- The content of a file after some bytes were written at a position. -/
def overwrite (content : List UInt8) (position : Nat) (bytes : List UInt8) : List UInt8 :=
  let start := content.take position
  start ++ List.replicate (position - start.length) 0 ++ bytes ++
    content.drop (position + bytes.length)

/-- The bytes of the file at a location. -/
def contentAt (files : FileTree) (location : Location) : List UInt8 :=
  match files.lookup? location with
  | some (.file content _) => content
  | _ => []

/-! ## Writing -/

/-- Writes to what is open under a number, if that can be written to. -/
def writeStream? (machine : Machine) (number : Nat) (text : Octets) : Option Machine :=
  match machine.stream number with
  | .nothing access => if access.writes then some machine else none
  | .source _ => none
  | .directory => none
  | .collector parts => some (machine.setStream number (.collector (text :: parts)))
  | .removed content position access =>
    if !access.writes then none
    else
      let start := if access.appends then content.length else position
      let written := overwrite content start (Octets.toBytes text)
      some (machine.setStream number (.removed written (start + text.length) access))
  | .file location position access =>
    if !access.writes then none
    else
      match machine.files.lookup? location with
      | some (.file content executable) =>
        let start := if access.appends then content.length else position
        let written := overwrite content start (Octets.toBytes text)
        let files := machine.files.put location (.file written executable)
        some ({ machine with files := files }.setStream number
          (.file location (start + text.length) access))
      | _ => some machine

/-- Writes to a descriptor, if it can be written to. -/
def write? (machine : Machine) (descriptors : Descriptors) (descriptor : Nat) (text : Octets) :
    Option Machine :=
  (descriptors.stream? descriptor).bind fun number => machine.writeStream? number text

/-- Writes to a descriptor. What cannot be written is lost. -/
def write (machine : Machine) (descriptors : Descriptors) (descriptor : Nat) (text : Octets) :
    Machine :=
  (machine.write? descriptors descriptor text).getD machine

/-! ## Reading -/

/-- What is left to read under a number. -/
def remaining (machine : Machine) (number : Nat) : Except String Octets :=
  match machine.stream number with
  | .nothing access => if access.reads then .ok [] else .error badDescriptor
  | .source rest => .ok rest
  | .collector _ => .error badDescriptor
  | .directory => .error (faultText .isADirectory)
  | .removed content position access =>
    if access.reads then .ok (Octets.ofBytes (content.drop position)) else .error badDescriptor
  | .file location position access =>
    if access.reads then
      .ok (Octets.ofBytes ((contentAt machine.files location).drop position))
    else .error badDescriptor

/-- Passes over what was read under a number. -/
def advance (machine : Machine) (number count : Nat) : Machine :=
  match machine.stream number with
  | .source rest => machine.setStream number (.source (rest.drop count))
  | .removed content position access =>
    machine.setStream number (.removed content (position + count) access)
  | .file location position access =>
    machine.setStream number (.file location (position + count) access)
  | _ => machine

/-- Reads all that is left under a number. -/
def drain (machine : Machine) (number : Nat) : Except String (Octets × Machine) :=
  match machine.remaining number with
  | .error fault => .error fault
  | .ok rest => .ok (rest, machine.advance number rest.length)

/-- What a collector has collected. -/
def collected (machine : Machine) (number : Nat) : Octets :=
  match machine.stream number with
  | .collector parts => parts.reverse.flatten
  | _ => []

/-! ## Opening -/

/-- The name of the device that takes everything and gives nothing. -/
def nothingName : Octets := "/dev/null".toList

/-- Opens a file for reading. -/
def openForReading (machine : Machine) (name : Octets) : Except FileFault (Machine × Nat) :=
  if name = nothingName then .ok (machine.add (.nothing .reading))
  else
    match machine.files.locate (pathOf name) with
    | .error fault => .error fault
    | .ok location =>
      match machine.files.lookup? location with
      | some (.file ..) => .ok (machine.add (.file location 0 .reading))
      | _ => .ok (machine.add .directory)

/-- Opens a file for writing and makes it if it is missing. Its content is kept on demand. -/
def openForWriting (machine : Machine) (name : Octets) (access : Access) (keeps : Bool) :
    Except FileFault (Machine × Nat) :=
  if name = nothingName then .ok (machine.add (.nothing access))
  else
    match machine.files.writeLocation (pathOf name) with
    | .error fault => .error fault
    | .ok (location, executable) =>
      let content := if keeps then contentAt machine.files location else []
      let files := machine.files.put location (.file content executable)
      .ok ({ machine with files := files }.add (.file location 0 access))

/-- Removes a file or an empty directory. What has the file open keeps its content. -/
def removeEntry (machine : Machine) (location : Location) : Machine :=
  let content := contentAt machine.files location
  let kept (stream : Stream) : Stream :=
    match stream with
    | .file other position access =>
      if other = location then .removed content position access else stream
    | _ => stream
  { machine with
    files := machine.files.remove location, streams := machine.streams.map kept }

/-! ## Signals -/

/-- Sends a signal to a process. -/
def send (machine : Machine) (process signal : Nat) : Machine :=
  { machine with signals := machine.signals ++ [(process, signal)] }

end Machine

end FixtureHarness.Shell
