import Vignette.Grammar.Check
import Vignette.Json.Value
import Vignette.Json.Writer

/-!
# `Vignette.Grammar.Json`: grammars as JSON

A grammar is an object. Each key names a category and its value is the list of
the candidates. Of a key that comes more than once the last one counts.
-/

set_option autoImplicit false

namespace Vignette.Grammar

open Json (Reader)

/-- Reads the candidates behind a key. -/
def readMember (g : Grammar) (name : Name) : Reader Grammar := fun t => do
  let value ← Json.readColon t
  let (candidates, rest) ←
    Json.readOpened .sequence '[' (Json.readList Json.readText) value.1
  return (g.setRule name candidates, value.trans rest.toTail)

/-- Reads a grammar, without checking it. -/
def read (t : Text) : Except Json.Fault Grammar :=
  Json.readWhole (Json.readOpened .map '\x7b' (Json.readObject readMember empty)) t

/-- Reads a grammar, or says what is wrong with the text. -/
def readOrComplain (t : Text) : Except Complaint Grammar :=
  (read t).mapError Json.Fault.complaint

/-- Reads a grammar and checks it. -/
def load (t : Text) : Except Fault Grammar :=
  loadWith readOrComplain t

/-- Writes a grammar, its categories in order. -/
def write (g : Grammar) : Text :=
  Json.writeObject <| g.rules.map fun rule =>
    (rule.1, Json.writeList (rule.2.map Json.writeText))

end Vignette.Grammar
