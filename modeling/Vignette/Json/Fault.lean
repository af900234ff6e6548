import Vignette.Decimal.Shortest
import Vignette.Fault
import Vignette.Text.Quoted

/-!
# `Vignette.Json.Fault`: what can be wrong with a JSON text

A fault has a reason and a place. Lines count from 1, columns are bytes since
the start of the line.
-/

set_option autoImplicit false

namespace Vignette.Json

/-- What stands where something else is wanted. -/
inductive Found where
  | null
  | bool (b : Bool)
  | integer (n : Int)
  | float (d : Decimal)
  | string (t : Text)
  | sequence
  | map
  deriving DecidableEq, Repr

def Found.message : Found → String
  | null => "null"
  | bool b => s!"boolean `{b}`"
  | integer n => s!"integer `{n}`"
  | float d => s!"floating point `{d.text.string}`"
  | string t => s!"string {t.quoted.string}"
  | sequence => "sequence"
  | map => "map"

/-- What is wanted. -/
inductive Wanted where
  | map
  | sequence
  | string
  /-- The settings of a generator. -/
  | settings
  /-- A number that counts something. -/
  | count
  deriving DecidableEq, Repr

def Wanted.message : Wanted → String
  | map => "a map"
  | sequence => "a sequence"
  | string => "a string"
  | settings => "struct GeneratorConfig"
  | count => "usize"

/-- Why a text is refused. -/
inductive Reason where
  | endInValue
  | endInString
  | endInList
  | endInObject
  | expectedValue
  | expectedIdent
  | expectedColon
  | expectedListCommaOrEnd
  | expectedObjectCommaOrEnd
  | keyNotString
  | trailingComma
  | trailingCharacters
  | invalidNumber
  | numberOutOfRange
  | controlCharacter
  | invalidEscape
  | loneSurrogate
  | endOfSurrogate
  | invalidType (found : Found) (wanted : Wanted)
  | invalidValue (found : Found) (wanted : Wanted)
  | duplicateField (name : Name)
  deriving DecidableEq, Repr

def Reason.message : Reason → String
  | endInValue => "EOF while parsing a value"
  | endInString => "EOF while parsing a string"
  | endInList => "EOF while parsing a list"
  | endInObject => "EOF while parsing an object"
  | expectedValue => "expected value"
  | expectedIdent => "expected ident"
  | expectedColon => "expected `:`"
  | expectedListCommaOrEnd => "expected `,` or `]`"
  | expectedObjectCommaOrEnd => "expected `,` or `\x7d`"
  | keyNotString => "key must be a string"
  | trailingComma => "trailing comma"
  | trailingCharacters => "trailing characters"
  | invalidNumber => "invalid number"
  | numberOutOfRange => "number out of range"
  | controlCharacter => "control character (\\u0000-\\u001F) found while parsing a string"
  | invalidEscape => "invalid escape"
  | loneSurrogate => "lone leading surrogate in hex escape"
  | endOfSurrogate => "unexpected end of hex escape"
  | invalidType found wanted =>
    s!"invalid type: {found.message}, expected {wanted.message}"
  | invalidValue found wanted =>
    s!"invalid value: {found.message}, expected {wanted.message}"
  | duplicateField name => s!"duplicate field `{name.string}`"

/-- A reason and where it arose. -/
structure Fault where
  reason : Reason
  line : Nat
  column : Nat
  deriving DecidableEq, Repr

def Fault.message (f : Fault) : String :=
  s!"{f.reason.message} at line {f.line} column {f.column}"

/-- What there is to say about the fault. -/
def Fault.complaint (f : Fault) : Complaint where
  message := f.message
  report :=
    let reason := (Text.quoted f.reason.message.toList).string
    s!"Error({reason}, line: {f.line}, column: {f.column})"

/-- The line and the column of the byte offset `pos`. An offset may fall inside
a character. -/
def locate (pos : Nat) (t : Text) : Nat × Nat :=
  go pos 1 0 t
where
  go (pos line column : Nat) : Text → Nat × Nat
    | [] => (line, column)
    | c :: t =>
      if pos < c.utf8Size then (line, column + pos)
      else if c = '\n' then go (pos - 1) (line + 1) 0 t
      else go (pos - c.utf8Size) line (column + c.utf8Size) t

end Vignette.Json
