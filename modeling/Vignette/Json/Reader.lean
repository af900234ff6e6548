import Vignette.Json.Fault
import Vignette.Text.Digit
import Vignette.Text.Rest

/-!
# `Vignette.Json.Reader`: reading JSON from the front of a text

A reader takes a text and gives a value and the rest of the text, which is
shorter. The shape that is wanted steers the reading, so no general JSON value
is ever built.

A failure tells how many bytes are left behind its place. Most failures are
placed at the rest (`Failure.here`) or one byte into it (`Failure.next`). That
byte may be the first of a longer character.
-/

set_option autoImplicit false

namespace Vignette.Json

open Text (Rest Tail hexDigit? length_dropWhile_le length_le_of_cons length_le_of_lt
  length_le_self)

/-- Why reading failed, and how many bytes are left behind the place. -/
structure Failure where
  reason : Reason
  left : Nat
  deriving DecidableEq, Repr

namespace Failure

/-- A failure at the start of `rest`. -/
def here (reason : Reason) (rest : Text) : Failure :=
  ⟨reason, rest.byteLength⟩

/-- A failure one byte into `rest`, or at its end if it is empty. -/
def next (reason : Reason) (rest : Text) : Failure :=
  ⟨reason, rest.byteLength - 1⟩

/-- The fault that a failure is in the text `t`. -/
def fault (f : Failure) (t : Text) : Fault :=
  let (line, column) := locate (t.byteLength - f.left) t
  ⟨f.reason, line, column⟩

end Failure

/-- Reads a value from the front of a text. -/
abbrev Reader (α : Type) := (t : Text) → Except Failure (α × Rest t.length)

/-! ### Blanks and words -/

/-- Whether `c` may stand between tokens. -/
def isBlank (c : Char) : Bool :=
  c == ' ' || c == '\t' || c == '\n' || c == '\r'

/-- The text without leading blanks. -/
def skipBlanks (t : Text) : Tail t.length :=
  ⟨t.dropWhile isBlank, length_dropWhile_le isBlank t⟩

/-- Skips blanks before reading. -/
def afterBlanks {α : Type} (read : Reader α) : Reader α := fun t => do
  let start := skipBlanks t
  let (value, rest) ← read start.1
  return (value, start.trans rest)

/-- Reads the rest of a literal, whose remaining characters are given. -/
def readWord : Text → (t : Text) → Except Failure (Tail t.length)
  | [], t => .ok (.all t)
  | _ :: _, [] => .error (.here .endInValue [])
  | w :: word, c :: t =>
    if c = w then do
      let rest ← readWord word t
      return (rest.past c).toTail
    else .error (.next .expectedIdent (c :: t))

/-! ### Strings -/

/-- The value of four hexadecimal digits. -/
def hexValue? (a b c d : Char) : Option Nat := do
  let a ← hexDigit? a
  let b ← hexDigit? b
  let c ← hexDigit? c
  let d ← hexDigit? d
  return ((a * 16 + b) * 16 + c) * 16 + d

/-- Reads the four digits of an escaped code unit. Four bytes are looked at,
whether they are characters of their own or not. -/
def readUnit : Reader Nat := fun t =>
  if t.byteLength < 4 then .error (.here .endInString [])
  else
    -- Four hexadecimal digits take four bytes, so other characters are refused.
    match t with
    | a :: b :: c :: d :: rest =>
      match hexValue? a b c d with
      | some unit => .ok (unit, ((((Tail.all rest).past d).past c).past b).past a)
      | none => .error ⟨.invalidEscape, t.byteLength - 4⟩
    | _ => .error ⟨.invalidEscape, t.byteLength - 4⟩

/-- The character of a pair of surrogates. -/
def ofSurrogates (high low : Nat) : Char :=
  Char.ofNat (0x10000 + (high - 0xD800) * 0x400 + (low - 0xDC00))

/-- Reads one character that must be `c`. -/
def expectInPair (c : Char) : (t : Text) → Except Failure (Rest t.length)
  | [] => .error (.here .endInString [])
  | d :: t =>
    if d = c then .ok ((Tail.all t).past d) else .error (.next .endOfSurrogate (d :: t))

/-- Reads what follows `\u`. A high surrogate needs the escape of a low one
behind it. -/
def readUnicode : Reader Char := fun t => do
  let (unit, rest) ← readUnit t
  if 0xDC00 ≤ unit ∧ unit ≤ 0xDFFF then .error (.here .loneSurrogate rest.1)
  else if unit < 0xD800 ∨ 0xDBFF < unit then return (Char.ofNat unit, rest)
  else
    let backslash ← expectInPair '\\' rest.1
    let letter ← expectInPair 'u' backslash.1
    let (low, last) ← readUnit letter.1
    if 0xDC00 ≤ low ∧ low ≤ 0xDFFF then
      let last := backslash.trans (letter.trans last.toTail).toTail
      return (ofSurrogates unit low, rest.trans last.toTail)
    else .error (.here .loneSurrogate last.1)

/-- The character that a backslash and `c` stand for. -/
def simpleEscape? (c : Char) : Option Char :=
  [('"', '"'), ('\\', '\\'), ('/', '/'), ('b', '\x08'), ('f', '\x0c'), ('n', '\n'),
    ('r', '\r'), ('t', '\t')].lookup c

/-- Reads what follows a backslash. -/
def readEscape : Reader Char
  | [] => .error (.here .endInString [])
  | c :: t =>
    match simpleEscape? c with
    | some d => .ok (d, (Tail.all t).past c)
    | none =>
      if c = 'u' then do
        let (d, rest) ← readUnicode t
        return (d, rest.past c)
      else .error (.next .invalidEscape (c :: t))

/-- Reads the rest of a string behind its opening quote. The characters read so
far are given last first. -/
def readChars (n : Nat) (read : Text) (t : Text) (h : t.length ≤ n) :
    Except Failure (Text × Rest n) :=
  match t, h with
  | [], _ => .error (.here .endInString [])
  | c :: t, h =>
    if c = '"' then .ok (read.reverse, ⟨t, h⟩)
    else if c = '\\' then
      match readEscape t with
      | .error failure => .error failure
      | .ok (d, ⟨rest, hrest⟩) =>
        readChars n (d :: read) rest (length_le_of_lt hrest (length_le_of_cons h))
    -- A control character is consumed before it is refused.
    else if c.toNat < 0x20 then .error (.here .controlCharacter t)
    else readChars n (c :: read) t (length_le_of_cons h)
termination_by t.length
decreasing_by
  · exact Nat.lt_succ_of_lt hrest
  · exact Nat.lt_succ_self _

/-- Reads a string behind its opening quote. -/
def readString : Reader Text := fun t =>
  readChars t.length [] t (length_le_self t)

/-! ### Lists and objects -/

/-- What comes next inside brackets. -/
inductive Next (n : Nat) where
  /-- The bracket closes; what is behind it. -/
  | closed (rest : Rest n)
  /-- There is more to read. -/
  | more (rest : Tail n)

/-- Looks for the next item of a list. `first` tells that no item has been
read. -/
def nextItem (first : Bool) (t : Text) : Except Failure (Next t.length) :=
  match skipBlanks t with
  | ⟨[], _⟩ => .error (.next .endInList [])
  | ⟨c :: u, h⟩ =>
    let behind : Rest t.length := ⟨u, h⟩
    if c = ']' then .ok (.closed behind)
    else if first then .ok (.more ⟨c :: u, h⟩)
    else if c = ',' then
      let item := skipBlanks u
      match item.1 with
      | [] => .error (.next .endInValue [])
      | d :: v =>
        if d = ']' then .error (.next .trailingComma (d :: v))
        else .ok (.more (behind.trans item).toTail)
    else .error (.next .expectedListCommaOrEnd (c :: u))

/-- Reads the items of a list behind its opening bracket, onto those read so
far, which are given last first. -/
def readItems {α : Type} (item : Reader α) (n : Nat) (read : List α) (first : Bool) (t : Text)
    (h : t.length ≤ n) : Except Failure (List α × Rest n) :=
  match nextItem first t with
  | .error failure => .error failure
  | .ok (.closed rest) => .ok (read.reverse, rest.widen h)
  | .ok (.more start) =>
    match item start.1 with
    | .error failure => .error failure
    | .ok (value, rest) =>
      match start.trans rest with
      | ⟨u, hu⟩ => readItems item n (value :: read) false u (length_le_of_lt hu h)
termination_by t.length

/-- Reads a list behind its opening bracket. -/
def readList {α : Type} (item : Reader α) : Reader (List α) := fun t =>
  readItems item t.length [] true t (length_le_self t)

/-- Looks for the next key of an object and steps over its opening quote.
`first` tells that no member has been read. -/
def nextKey (first : Bool) (t : Text) : Except Failure (Next t.length) :=
  match skipBlanks t with
  | ⟨[], _⟩ => .error (.next .endInObject [])
  | ⟨c :: u, h⟩ =>
    let behind : Rest t.length := ⟨u, h⟩
    if c = '\x7d' then .ok (.closed behind)
    else if first then
      if c = '"' then .ok (.more behind.toTail)
      else .error (.next .keyNotString (c :: u))
    else if c = ',' then
      match skipBlanks u with
      | ⟨[], _⟩ => .error (.next .endInValue [])
      | ⟨d :: v, hv⟩ =>
        let key : Rest u.length := ⟨v, hv⟩
        if d = '"' then .ok (.more (behind.trans key.toTail).toTail)
        else if d = '\x7d' then .error (.next .trailingComma (d :: v))
        else .error (.next .keyNotString (d :: v))
    else .error (.next .expectedObjectCommaOrEnd (c :: u))

/-- Reads the colon behind a key. -/
def readColon (t : Text) : Except Failure (Rest t.length) :=
  match skipBlanks t with
  | ⟨[], _⟩ => .error (.next .endInObject [])
  | ⟨c :: u, h⟩ =>
    if c = ':' then .ok ⟨u, h⟩
    else .error (.next .expectedColon (c :: u))

/-- Reads the members of an object behind its opening brace. `member` reads what
follows a key and puts it into the state. -/
def readMembers {σ : Type} (member : σ → Name → Reader σ) (n : Nat) (state : σ) (first : Bool)
    (t : Text) (h : t.length ≤ n) : Except Failure (σ × Rest n) :=
  match nextKey first t with
  | .error failure => .error failure
  | .ok (.closed rest) => .ok (state, rest.widen h)
  | .ok (.more start) =>
    match readString start.1 with
    | .error failure => .error failure
    | .ok (key, rest) =>
      match member state key rest.1 with
      | .error failure => .error failure
      | .ok (state, last) =>
        match start.trans (rest.trans last.toTail) with
        | ⟨u, hu⟩ => readMembers member n state false u (length_le_of_lt hu h)
termination_by t.length

/-- Reads an object behind its opening brace. -/
def readObject {σ : Type} (member : σ → Name → Reader σ) (start : σ) : Reader σ := fun t =>
  readMembers member t.length start true t (length_le_self t)

/-! ### Whole texts -/

/-- Reads a text that holds one value and nothing but blanks around it. -/
def readWhole {α : Type} (read : Reader α) (t : Text) : Except Fault α :=
  match read t with
  | .error failure => .error (failure.fault t)
  | .ok (value, rest) =>
    match (skipBlanks rest.1).1 with
    | [] => .ok value
    | c :: u => .error ((Failure.next .trailingCharacters (c :: u)).fault t)

end Vignette.Json
