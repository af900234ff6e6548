import Vignette.Json.Number

/-!
# `Vignette.Json.Value`: values of a wanted kind

Each reader here wants one kind of value. A value of another kind is read as far
as its kind shows, and what was found is reported: scalars to their end, lists
and objects not at all. A fault inside such a scalar comes first.
-/

set_option autoImplicit false

namespace Vignette.Json

/-- The literal words, without their first characters, and what they are. -/
def literal? (c : Char) : Option (Text × Found) :=
  if c = 'n' then some (['u', 'l', 'l'], .null)
  else if c = 't' then some (['r', 'u', 'e'], .bool true)
  else if c = 'f' then some (['a', 'l', 's', 'e'], .bool false)
  else none

/-- The failure of a value that is not of the wanted kind. The text starts with
it. -/
def mismatch (wanted : Wanted) : Text → Failure
  | [] => .next .endInValue []
  | c :: t =>
    match literal? c with
    | some (word, found) =>
      match readWord word t with
      | .error failure => failure
      | .ok rest => .here (.invalidType found wanted) rest.1
    | none =>
      if startsNumber c then
        match readNumber (c :: t) with
        | .error failure => failure
        | .ok (number, rest) => .here (.invalidType number.found wanted) rest.1
      else if c = '"' then
        match readString t with
        | .error failure => failure
        | .ok (text, rest) => .here (.invalidType (.string text) wanted) rest.1
      else if c = '[' then .here (.invalidType .sequence wanted) (c :: t)
      else if c = '\x7b' then .here (.invalidType .map wanted) (c :: t)
      else .next .expectedValue (c :: t)

/-- Wants a value that starts with `opening` and reads on behind it. -/
def readOpened {α : Type} (wanted : Wanted) (opening : Char) (read : Reader α) : Reader α :=
  afterBlanks fun t =>
    match t with
    | [] => .error (mismatch wanted [])
    | c :: t =>
      if c = opening then do
        let (value, rest) ← read t
        return (value, rest.past c)
      else .error (mismatch wanted (c :: t))

/-- Wants a string. -/
def readText : Reader Text :=
  readOpened .string '"' readString

/-- Wants a number that counts something. -/
def readCount : Reader Nat :=
  afterBlanks fun t =>
    match t with
    | [] => .error (mismatch .count [])
    | c :: t =>
      if startsNumber c then do
        let (number, rest) ← readNumber (c :: t)
        match number with
        | .integer (.ofNat n) => return (n, rest)
        | .integer n => .error (.here (.invalidValue (.integer n) .count) rest.1)
        | .float d => .error (.here (.invalidType (.float d) .count) rest.1)
      else .error (mismatch .count (c :: t))

end Vignette.Json
