import Vignette.Text

/-!
# `Vignette.Fault`: everything that can go wrong

One constructor for each cause, and the message for each.
-/

set_option autoImplicit false

namespace Vignette

/-- Why a file cannot be read or written. -/
inductive FileFault where
  | notFound
  | isDirectory
  | notDirectory
  | permissionDenied
  | nameTooLong
  | invalidUtf8
  deriving DecidableEq, Repr

def FileFault.message : FileFault → String
  | notFound => "No such file or directory (os error 2)"
  | isDirectory => "Is a directory (os error 21)"
  | notDirectory => "Not a directory (os error 20)"
  | permissionDenied => "Permission denied (os error 13)"
  | nameTooLong => "File name too long (os error 36)"
  | invalidUtf8 => "stream did not contain valid UTF-8"

/-- What a library has to say about a fault that it found. -/
structure Complaint where
  /-- For those who use the program. -/
  message : String
  /-- For those who write it. -/
  report : String
  deriving DecidableEq, Repr

/-- The cause of a failure. -/
inductive Fault where
  | file (fault : FileFault)
  /-- A text is no grammar. -/
  | json (complaint : Complaint)
  /-- A category is named by the empty text. -/
  | emptyName
  /-- No fixer of this name is registered; the registered ones follow. -/
  | unknownFixer (name : Name) (known : List Name)
  | unknownCategory (name : Name)
  | emptyCategory (name : Name)
  /-- The category is reachable and can never finish expanding. -/
  | cyclicCategory (name : Name)
  /-- Tokens remain after the last pass allowed. -/
  | expansionLimit (passes : Nat)
  /-- No attempt gave a text that is short enough. -/
  | generationFailure (attempts maxLength : Nat)
  | zeroLength
  | zeroAttempts
  deriving DecidableEq, Repr

namespace Fault

/-- What is wrong with a grammar that has a category without a name. -/
def emptyNameMessage : String :=
  "category names must not be empty"

/-- What is wrong with a name that no fixer has. -/
def unknownFixerMessage (name : Name) (known : List Name) : String :=
  let names := ", ".intercalate (known.map Text.string)
  s!"unknown fixer '{name.string}', expected one of: {names}"

/-- What is wrong with settings that allow no attempt. -/
def zeroAttemptsMessage : String :=
  "max_attempts must be at least 1"

def message : Fault → String
  | file fault => s!"IO error: {fault.message}"
  | json complaint => s!"JSON error: {complaint.message}"
  | emptyName => s!"Invalid grammar: {emptyNameMessage}"
  | unknownFixer name known => s!"Invalid grammar: {unknownFixerMessage name known}"
  | unknownCategory name => s!"Unknown category: {name.string}"
  | emptyCategory name => s!"Empty category: {name.string}"
  | cyclicCategory name =>
    s!"Cyclic grammar: category '{name.string}' can never finish expanding"
  | expansionLimit passes => s!"Expansion did not finish within {passes} passes"
  | generationFailure attempts maxLength =>
    s!"Generation failed: no output within {maxLength} characters after {attempts} attempts"
  | zeroLength => "Invalid length budget: 0"
  | zeroAttempts => s!"Invalid configuration: {zeroAttemptsMessage}"

end Fault

end Vignette
