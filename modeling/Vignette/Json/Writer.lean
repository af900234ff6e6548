import Vignette.Text

/-!
# `Vignette.Json.Writer`: writing JSON without blanks
-/

set_option autoImplicit false

namespace Vignette.Json

/-- One character inside a string. Quotes, backslashes and control characters
are escaped. -/
def escapeChar (c : Char) : Text :=
  if c = '"' then ['\\', '"']
  else if c = '\\' then ['\\', '\\']
  else if c = '\x08' then ['\\', 'b']
  else if c = '\x0c' then ['\\', 'f']
  else if c = '\n' then ['\\', 'n']
  else if c = '\r' then ['\\', 'r']
  else if c = '\t' then ['\\', 't']
  else if c.toNat < 0x20 then
    ['\\', 'u', '0', '0', Nat.digitChar (c.toNat / 16), Nat.digitChar (c.toNat % 16)]
  else [c]

/-- A string in quotes. -/
def writeText (t : Text) : Text :=
  '"' :: (t.flatMap escapeChar ++ ['"'])

/-- A list of values that are already written. -/
def writeList (items : List Text) : Text :=
  '[' :: (List.intercalate [','] items ++ [']'])

/-- An object of members that are already written. -/
def writeObject (members : List (Name × Text)) : Text :=
  let written := members.map fun (name, value) => writeText name ++ ':' :: value
  '\x7b' :: (List.intercalate [','] written ++ ['\x7d'])

end Vignette.Json
