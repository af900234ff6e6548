import Vignette.Command.Invocation
import Vignette.Fault
import Vignette.Log

/-!
# `Vignette.Command.Libraries`: what the program leaves to libraries

The program reads its arguments, reads JSON, draws random numbers and writes its log by
means of libraries. `Libraries` says what it asks of them and nothing about how they do
it. What is proved of the program holds whatever they do.
-/

set_option autoImplicit false

namespace Vignette.Command

/-- What the program leaves behind. -/
structure Outcome where
  exit : Nat
  output : Text := []
  errors : Text := []
  /-- A file written, and its content. -/
  written : Option (Text × Text) := none

/-- A logger that has been set up. -/
structure Logger where
  /-- What it writes about its own set-up. -/
  complaints : Text
  /-- What it writes for a record, which is nothing when the record does not show. -/
  write : Log.Record → Text

/-- What the program asks of its libraries. `σ` holds the states of their random source. -/
structure Libraries (σ : Type) where
  /-- Reads the arguments, or ends the program: for help, for the version and because of
  arguments that make no sense. -/
  arguments : List Text → Except Outcome Invocation
  /-- Reads a grammar from JSON, without checking it. -/
  grammar : Text → Except Complaint Grammar
  chooser : Chooser σ
  /-- The state that a seed determines. -/
  seeded : UInt64 → σ
  /-- The threshold that a word names. -/
  threshold? : Text → Option Log.Threshold
  /-- Sets a logger up by a text of rules. A threshold replaces that of the rule about
  all records. -/
  logger : Text → Option Log.Threshold → Logger

end Vignette.Command
