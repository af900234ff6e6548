import Vignette.Fault

/-!
# `Vignette.Command.Files`: the files that a command meets

A command reads one file or writes one. `Files` says what it meets there. A
`Directory` is a directory kept in memory: it holds files and no directories of
its own.
-/

set_option autoImplicit false

namespace Vignette.Command

/-- What reading and writing comes to. -/
structure Files where
  /-- The bytes of a file. -/
  read : Text → Except FileFault ByteArray
  /-- Whether a file can be written. -/
  write : Text → Except FileFault Unit

/-- The text that bytes encode. -/
def decode (bytes : ByteArray) : Except FileFault Text :=
  match String.fromUTF8? bytes with
  | some s => .ok s.toList
  | none => .error .invalidUtf8

/-- Reads a file as text. -/
def Files.readText (files : Files) (path : Text) : Except FileFault Text := do
  decode (← files.read path)

/-- Files by name. -/
structure Directory where
  files : List (Name × Text)

namespace Directory

/-- What a path leads to. -/
inductive Target where
  /-- A name in the directory. -/
  | entry (name : Name)
  /-- A name in the directory, with a slash behind it. -/
  | slashed (name : Name)
  /-- The directory itself or one outside it. -/
  | directory
  /-- Nothing, because of a fault on the way. -/
  | fault (fault : FileFault)
  deriving DecidableEq, Repr

/-- Whether there is a file of the name. -/
def hasFile (d : Directory) (name : Name) : Bool :=
  d.files.any (·.1 == name)

/-- The greatest number of bytes in a name. -/
def maxNameLength : Nat := 255

/-- The greatest number of bytes in a path. -/
def maxPathLength : Nat := 4095

/-- Follows the parts of a path. Outside the directory nothing is found but
more directories above. -/
def follow (d : Directory) (inside : Bool) : List Text → Target
  | [] => .directory
  | part :: parts =>
    if part.isEmpty || part = ['.'] then d.follow inside parts
    else if part = ['.', '.'] then d.follow false parts
    else if maxNameLength < part.byteLength then .fault .nameTooLong
    else if !inside then .fault .notFound
    else if parts.isEmpty then .entry part
    else if parts.all List.isEmpty then .slashed part
    else .fault (if d.hasFile part then .notDirectory else .notFound)

/-- Follows a path. An absolute one starts outside. -/
def target (d : Directory) (path : Text) : Target :=
  if path.isEmpty then .fault .notFound
  else if maxPathLength < path.byteLength then .fault .nameTooLong
  else d.follow (path.head? != some '/') (path.splitOn '/')

/-- The directory as the files that a command meets. -/
def toFiles (d : Directory) : Files where
  read path :=
    match d.target path with
    | .entry name =>
      match d.files.lookup name with
      | some content => .ok content.string.toUTF8
      | none => .error .notFound
    | .slashed name => .error (if d.hasFile name then .notDirectory else .notFound)
    | .directory => .error .isDirectory
    | .fault fault => .error fault
  write path :=
    match d.target path with
    | .entry _ => .ok ()
    | .slashed _ | .directory => .error .isDirectory
    | .fault fault => .error fault

/-- The files of the directory that writing makes or changes, with what they
hold then. -/
def changes (d : Directory) : Option (Text × Text) → List (Name × Text)
  | none => []
  | some (path, content) =>
    match d.target path with
    | .entry name => if d.files.lookup name = some content then [] else [(name, content)]
    | _ => []

end Directory

end Vignette.Command
