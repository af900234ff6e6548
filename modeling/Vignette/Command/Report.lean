import Vignette.Fault
import Vignette.Text.Quoted

/-!
# `Vignette.Command.Report`: how the command line reports a fault

A fault is reported by the name of its cause, with its data in brackets and
texts in quotes.
-/

set_option autoImplicit false

namespace Vignette

/-- A string in quotes. -/
def quote (s : String) : String :=
  (Text.quoted s.toList).string

/-- A fault of the file system. -/
def FileFault.report : FileFault → String
  | notFound => system 2 "NotFound" "No such file or directory"
  | isDirectory => system 21 "IsADirectory" "Is a directory"
  | notDirectory => system 20 "NotADirectory" "Not a directory"
  | permissionDenied => system 13 "PermissionDenied" "Permission denied"
  | nameTooLong => system 36 "InvalidFilename" "File name too long"
  | invalidUtf8 =>
    "Error \x7b kind: InvalidData, message: " ++ quote invalidUtf8.message ++ " \x7d"
where
  /-- A fault with a number of its own. -/
  system (code : Nat) (kind text : String) : String :=
    s!"Os \x7b code: {code}, kind: {kind}, message: {quote text} \x7d"

def Fault.report : Fault → String
  | file fault => s!"Io({fault.report})"
  | json complaint => s!"Json({complaint.report})"
  | emptyName => s!"InvalidGrammar({quote emptyNameMessage})"
  | unknownFixer name known => s!"InvalidGrammar({quote (unknownFixerMessage name known)})"
  | unknownCategory name => s!"UnknownCategory({name.quoted.string})"
  | emptyCategory name => s!"EmptyCategory({name.quoted.string})"
  | cyclicCategory name => s!"CyclicGrammar({name.quoted.string})"
  | expansionLimit passes => s!"ExpansionLimit({passes})"
  | generationFailure attempts maxLength =>
    s!"GenerationFailure \x7b attempts: {attempts}, max_len: {maxLength} \x7d"
  | zeroLength => "InvalidLength(0)"
  | zeroAttempts => s!"InvalidConfig({quote zeroAttemptsMessage})"

end Vignette
