import Vignette.Json.Value

/-!
# `Vignette.Json.Skip`: stepping over a value that nobody wants

Skipping checks less than reading. Surrogates need no partner, numbers have no
range, and nesting has no limit. The open brackets are kept in a list, the
innermost first.
-/

set_option autoImplicit false

namespace Vignette.Json

open Text (Rest Tail isDigit length_le_of_cons length_le_of_lt length_le_self)

/-! ### Scalars -/

/-- Steps over an exponent behind its `e`. -/
def skipExponent (t : Text) : Except Failure (Tail t.length) :=
  match skipSign t with
  | ⟨[], _⟩ => .error (.here .invalidNumber [])
  | ⟨c :: u, h⟩ =>
    if isDigit c then .ok (((skipDigits u).past c).toTail.widen h)
    else .error (.next .invalidNumber (c :: u))

/-- Steps over an exponent if there is one. -/
def skipExponent? {n : Nat} : Tail n → Except Failure (Tail n)
  | ⟨[], h⟩ => .ok ⟨[], h⟩
  | ⟨c :: t, h⟩ =>
    if c = 'e' ∨ c = 'E' then do
      let rest ← skipExponent t
      return (rest.past c).toTail.widen h
    else .ok ⟨c :: t, h⟩

/-- Steps over a fraction behind its point, and the exponent behind it. -/
def skipFraction (t : Text) : Except Failure (Tail t.length) :=
  if t.head?.any isDigit then skipExponent? (skipDigits t)
  else .error (.next .invalidNumber t)

/-- Steps over a number behind its sign. -/
def skipUnsigned : (t : Text) → Except Failure (Rest t.length)
  | [] => .error (.here .invalidNumber [])
  | c :: t =>
    if !isDigit c then .error (.next .invalidNumber (c :: t))
    else if c = '0' ∧ t.head?.any isDigit then .error (.next .invalidNumber t)
    else
      match skipDigits t with
      | ⟨[], h⟩ => .ok (Tail.past c ⟨[], h⟩)
      | ⟨d :: u, h⟩ =>
        if d = '.' then do
          let rest ← skipFraction u
          return ((rest.past d).toTail.widen h).past c
        else do
          let rest ← skipExponent? ⟨d :: u, h⟩
          return rest.past c

/-- Steps over what follows a backslash. -/
def skipEscape : (t : Text) → Except Failure (Rest t.length)
  | [] => .error (.here .endInString [])
  | c :: t =>
    if (simpleEscape? c).isSome then .ok ((Tail.all t).past c)
    else if c = 'u' then do
      let (_, rest) ← readUnit t
      return rest.past c
    else .error (.next .invalidEscape (c :: t))

/-- Steps over the rest of a string behind its opening quote. -/
def skipChars (n : Nat) (t : Text) (h : t.length ≤ n) : Except Failure (Rest n) :=
  match t, h with
  | [], _ => .error (.here .endInString [])
  | c :: t, h =>
    if c = '"' then .ok ⟨t, h⟩
    else if c = '\\' then
      match skipEscape t with
      | .error failure => .error failure
      | .ok ⟨rest, hrest⟩ => skipChars n rest (length_le_of_lt hrest (length_le_of_cons h))
    -- A control character is refused where it stands.
    else if c.toNat < 0x20 then .error (.here .controlCharacter (c :: t))
    else skipChars n t (length_le_of_cons h)
termination_by t.length
decreasing_by
  · exact Nat.lt_succ_of_lt hrest
  · exact Nat.lt_succ_self _

/-- Steps over a string behind its opening quote. -/
def skipString (t : Text) : Except Failure (Rest t.length) :=
  skipChars t.length t (length_le_self t)

/-! ### Values -/

/-- An open bracket. -/
inductive Frame where
  | list
  | object
  deriving DecidableEq, Repr

namespace Frame

def closing : Frame → Char
  | list => ']'
  | object => '\x7d'

def expectedCommaOrEnd : Frame → Reason
  | list => .expectedListCommaOrEnd
  | object => .expectedObjectCommaOrEnd

def endInside : Frame → Reason
  | list => .endInList
  | object => .endInObject

end Frame

/-- What starts at the front of a text that is not blank there. -/
inductive Opening (n : Nat) where
  /-- A scalar, and what is behind it. -/
  | scalar (rest : Rest n)
  /-- A bracket, and what is behind it. -/
  | bracket (frame : Frame) (rest : Rest n)

/-- Steps over a scalar or an opening bracket. -/
def skipOpening (t : Text) : Except Failure (Opening t.length) :=
  match skipBlanks t with
  | ⟨[], _⟩ => .error (.next .endInValue [])
  | ⟨c :: u, h⟩ =>
    match literal? c with
    | some (word, _) => do
      let rest ← readWord word u
      return .scalar ((rest.past c).widen h)
    | none =>
      if c = '-' then do
        let rest ← skipUnsigned u
        return .scalar ((rest.past c).widen h)
      else if isDigit c then do
        let rest ← skipUnsigned (c :: u)
        return .scalar (rest.widen h)
      else if c = '"' then do
        let rest ← skipString u
        return .scalar ((rest.past c).widen h)
      else if c = '[' then .ok (.bracket .list ⟨u, h⟩)
      else if c = '\x7b' then .ok (.bracket .object ⟨u, h⟩)
      else .error (.next .expectedValue (c :: u))

/-- Where skipping stands behind a value or an opening bracket. -/
inductive Progress (n : Nat) where
  /-- No bracket is open any more. -/
  | done (rest : Tail n)
  /-- Another value follows inside these brackets. -/
  | more (frames : List Frame) (rest : Tail n)

/-- Makes ready for the next value inside a bracket; in an object its key and
the colon come first. -/
def enter (frame : Frame) (outer : List Frame) (t : Text) : Except Failure (Progress t.length) :=
  match frame with
  | .list => .ok (.more (.list :: outer) (.all t))
  | .object =>
    match skipBlanks t with
    | ⟨[], _⟩ => .error (.next .endInObject [])
    | ⟨c :: u, h⟩ =>
      if c = '"' then do
        let key ← skipString u
        let rest ← readColon key.1
        return .more (.object :: outer) (((key.trans rest.toTail).past c).widen h).toTail
      else .error (.next .keyNotString (c :: u))

/-- Closes as many brackets as the text does. `behindValue` tells that a value
stands before the text, and not an opening bracket. -/
def close (behindValue : Bool) : (frames : List Frame) → (t : Text) →
    Except Failure (Progress t.length)
  | [], t => .ok (.done (.all t))
  | frame :: outer, t =>
    match skipBlanks t with
    | ⟨[], _⟩ => .error (.next frame.endInside [])
    | ⟨c :: u, h⟩ =>
      let behind := length_le_of_cons h
      if c = frame.closing then widen behind (close true outer u)
      else if !behindValue then widen h (enter frame outer (c :: u))
      else if c = ',' then widen behind (enter frame outer u)
      else .error (.next frame.expectedCommaOrEnd (c :: u))
where
  /-- The same progress, seen from a longer text. -/
  widen {m n : Nat} (h : m ≤ n) :
      Except Failure (Progress m) → Except Failure (Progress n)
    | .error failure => .error failure
    | .ok (.done rest) => .ok (.done (rest.widen h))
    | .ok (.more frames rest) => .ok (.more frames (rest.widen h))

/-- Steps over a value inside open brackets and over everything up to the end
of the outermost one. -/
def skipFrom (n : Nat) (frames : List Frame) (t : Text) (h : t.length ≤ n) :
    Except Failure (Rest n) :=
  match skipOpening t with
  | .error failure => .error failure
  | .ok (.scalar rest) =>
    match close true frames rest.1 with
    | .error failure => .error failure
    | .ok (.done last) => .ok ((rest.trans last).widen h)
    | .ok (.more frames last) =>
      match rest.trans last with
      | ⟨u, hu⟩ => skipFrom n frames u (length_le_of_lt hu h)
  | .ok (.bracket frame rest) =>
    match close false (frame :: frames) rest.1 with
    | .error failure => .error failure
    | .ok (.done last) => .ok ((rest.trans last).widen h)
    | .ok (.more frames last) =>
      match rest.trans last with
      | ⟨u, hu⟩ => skipFrom n frames u (length_le_of_lt hu h)
termination_by t.length

/-- Steps over a value of any kind. -/
def skipValue (t : Text) : Except Failure (Rest t.length) :=
  skipFrom t.length [] t (length_le_self t)

end Vignette.Json
