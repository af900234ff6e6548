import Vignette.Command.Standard

/-!
# `Vignette.Main`: the program

Reads or writes the one file that the task needs, and prints what the command
comes to.
-/

set_option autoImplicit false

namespace Vignette

/-- The fault behind an error of the system. -/
def FileFault.ofError : IO.Error → FileFault
  | .inappropriateType _ 20 _ => notDirectory
  | .inappropriateType .. => isDirectory
  | .permissionDenied .. => permissionDenied
  | .invalidArgument _ 36 _ => nameTooLong
  | _ => notFound

/-- Reads the file that a task needs. -/
def readFile (path : Text) : IO (Except FileFault ByteArray) := do
  try
    return .ok (← IO.FS.readBinFile path.string)
  catch e =>
    return .error (.ofError e)

/-- Writes the file that a task asks for. -/
def writeFile (path content : Text) : IO (Except FileFault Unit) := do
  try
    IO.FS.writeFile path.string content.string
    return .ok ()
  catch e =>
    return .error (.ofError e)

/-- What the task of an invocation meets. -/
def filesOf (task : Command.Task) : IO Command.Files := do
  let files : Command.Files := ⟨fun _ => .error .notFound, fun _ => .error .notFound⟩
  match task with
  | .generate none _ => return files
  | .generate (some path) _ | .check path =>
    let content ← readFile path
    return { files with read := fun _ => content }
  | .writeExample output =>
    let done ← writeFile (output.getD Command.examplePath) Command.exampleText
    return { files with write := fun _ => done }

/-- A random state that cannot be foreseen. -/
def freshSource : IO Random.Source := do
  let bytes ← IO.getRandomBytes 8
  return .ofSeed (bytes.foldl (fun n b => n * 256 + b.toUInt64) 0)

end Vignette

def main (args : List String) : IO UInt32 := do
  let args := args.map String.toList
  let environment ← IO.getEnv "RUST_LOG"
  let files : Vignette.Command.Files ←
    match Vignette.Command.standard.arguments args with
    | .ok i => Vignette.filesOf i.task
    | .error _ => pure ⟨fun _ => .error .notFound, fun _ => .error .notFound⟩
  let outcome := Vignette.Command.run Vignette.Command.standard files
    (environment.map String.toList) (← Vignette.freshSource) args
  IO.print outcome.output.string
  IO.eprint outcome.errors.string
  return outcome.exit.toUInt32
