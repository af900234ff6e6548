import Vignette.Json.Reader

/-!
# `Vignette.Json.Number`: reading numbers

A number without fraction and exponent is an integer if it fits 64 bits, with
or without a sign. Any other number is a binary floating point number. Its
digits are gathered into an integer below `2 ^ 64` and a decimal exponent, and
one multiplication or division by a power of ten makes the result, so the last
bit may differ from the nearest number. Digits that no longer fit are counted
before the point and ignored behind it.
-/

set_option autoImplicit false

namespace Vignette.Json

open Text (Rest Tail digitValue isDigit length_dropWhile_le)

/-- A number as it was read. -/
inductive Number where
  | integer (n : Int)
  | float (d : Decimal)
  deriving DecidableEq, Repr

/-- What a number is called where something else is wanted. -/
def Number.found : Number → Found
  | integer n => .integer n
  | float d => .float d

/-! ### Digits -/

/-- Reads leading digits onto `value` while the result stays below `limit`. -/
def readDigits (limit value : Nat) : (t : Text) → Nat × Tail t.length
  | [] => (value, .all [])
  | c :: t =>
    let next := value * 10 + digitValue c
    if isDigit c ∧ next < limit then
      let (value, rest) := readDigits limit next t
      (value, (rest.past c).toTail)
    else (value, .all (c :: t))

/-- The text without leading digits. -/
def skipDigits (t : Text) : Tail t.length :=
  ⟨t.dropWhile isDigit, length_dropWhile_le isDigit t⟩

/-- The text without a leading sign. -/
def skipSign (t : Text) : Tail t.length :=
  match t with
  | [] => .all []
  | c :: u => if c = '+' ∨ c = '-' then ((Tail.all u).past c).toTail else .all (c :: u)

/-- Digits are gathered into an integer below this bound. -/
def significandBound : Nat := UInt64.size

/-- Digits of an exponent are gathered into an integer below this bound. -/
def exponentBound : Nat := 0x80000000

/-- The greatest magnitude of a negative integer. -/
def maxMagnitude : Nat := 0x8000000000000000

/-! ### Scaling -/

/-- `10 ^ k`, for `k` up to 308. -/
def powerOfTen (k : Nat) : Float :=
  Float.ofScientific 1 false k

/-- Divides by `10 ^ k`, 308 powers at a time. -/
def scaleDown (x : Float) (k : Nat) : Float :=
  if k ≤ 308 then x / powerOfTen k
  else if x == 0 then x
  else scaleDown (x / powerOfTen 308) (k - 308)
termination_by k

/-- `significand * 10 ^ exponent`, unless it is too large. -/
def scale? (significand : Nat) (exponent : Int) : Option Float :=
  let x := significand.toUInt64.toFloat
  if exponent < 0 then some (scaleDown x exponent.natAbs)
  else if exponent ≤ 308 then
    let x := x * powerOfTen exponent.toNat
    if x.isInf then none else some x
  else if x == 0 then some x
  else none

/-- The number with a sign. -/
def signed (negative : Bool) (x : Float) : Number :=
  .float (Decimal.ofFloat (if negative then -x else x))

/-- The floating point number of a significand and an exponent, read up to
`rest`. -/
def scaled {n : Nat} (negative : Bool) (significand : Nat) (exponent : Int) (rest : Tail n) :
    Except Failure (Number × Tail n) :=
  match scale? significand exponent with
  | some x => .ok (signed negative x, rest)
  | none => .error (.here .numberOutOfRange rest.1)

/-! ### Parts of a number -/

/-- Reads an exponent behind its `e`. One that is too large makes the number
zero, or puts it out of range if it is not negative and the number not zero. -/
def readExponent (negative : Bool) (significand : Nat) (exponent : Int) (t : Text) :
    Except Failure (Number × Tail t.length) :=
  let shrinks := t.head? == some '-'
  match skipSign t with
  | ⟨[], _⟩ => .error (.here .endInValue [])
  | ⟨c :: u, h⟩ =>
    if !isDigit c then .error (.next .invalidNumber (c :: u))
    else
      let (value, rest) := readDigits exponentBound 0 (c :: u)
      -- Digits are left only when the exponent has reached its bound.
      if rest.1.head?.any isDigit then
        if significand ≠ 0 ∧ !shrinks then .error (.here .numberOutOfRange rest.1.tail)
        else .ok (signed negative 0, (skipDigits (c :: u)).widen h)
      else
        scaled negative significand (if shrinks then exponent - value else exponent + value)
          (rest.widen h)

/-- Reads a fraction behind its point, and the exponent behind it. -/
def readFraction (negative : Bool) (significand : Nat) (exponent : Int) (t : Text) :
    Except Failure (Number × Tail t.length) :=
  match t with
  | [] => .error (.next .endInValue [])
  | c :: u =>
    if !isDigit c then .error (.next .invalidNumber (c :: u))
    else
      let (significand, unread) := readDigits significandBound significand (c :: u)
      let exponent := exponent - ((c :: u).length - unread.1.length : Nat)
      match skipDigits (c :: u) with
      | ⟨[], h⟩ => scaled negative significand exponent ⟨[], h⟩
      | ⟨d :: v, h⟩ =>
        if d = 'e' ∨ d = 'E' then do
          let (number, rest) ← readExponent negative significand exponent v
          return (number, (rest.past d).toTail.widen h)
        else scaled negative significand exponent ⟨d :: v, h⟩

/-- The number of a whole part that nothing follows. -/
def whole {n : Nat} (negative : Bool) (significand dropped : Nat) (rest : Tail n) :
    Except Failure (Number × Tail n) :=
  if dropped ≠ 0 then scaled negative significand dropped rest
  else if !negative then .ok (.integer significand, rest)
  else if significand = 0 ∨ maxMagnitude < significand then scaled negative significand 0 rest
  else .ok (.integer (-significand), rest)

/-- Reads a number behind its sign. A zero is not followed by more digits. -/
def readUnsigned (negative : Bool) : Reader Number
  | [] => .error (.here .endInValue [])
  | c :: t =>
    if !isDigit c then .error (.next .invalidNumber (c :: t))
    else if c = '0' ∧ t.head?.any isDigit then .error (.next .invalidNumber t)
    else
      let (significand, unread) := readDigits significandBound (digitValue c) t
      let dropped := unread.1.length - (skipDigits unread.1).1.length
      let number : Except Failure (Number × Tail t.length) :=
        match skipDigits t with
        | ⟨[], h⟩ => whole negative significand dropped ⟨[], h⟩
        | ⟨d :: u, h⟩ =>
          if d = '.' then
            (readFraction negative significand dropped u).map fun (number, rest) =>
              (number, (rest.past d).toTail.widen h)
          else if d = 'e' ∨ d = 'E' then
            (readExponent negative significand dropped u).map fun (number, rest) =>
              (number, (rest.past d).toTail.widen h)
          else whole negative significand dropped ⟨d :: u, h⟩
      number.map fun (number, rest) => (number, rest.past c)

/-- Reads a number. -/
def readNumber : Reader Number
  | '-' :: t => do
    let (number, rest) ← readUnsigned true t
    return (number, rest.past '-')
  | t => readUnsigned false t

/-- Whether a number may start with `c`. -/
def startsNumber (c : Char) : Bool :=
  c == '-' || isDigit c

end Vignette.Json
