import Vignette.Pattern.Tree
import Vignette.Text.Blank
import Vignette.Text.Digit
import Vignette.Text.Rest

/-!
# `Vignette.Pattern.Escape`: reading what follows a backslash

Where a pattern is loose, blanks and remarks may stand between the characters of
longer escapes.
-/

set_option autoImplicit false

namespace Vignette.Pattern

open Text (Rest Tail)

/-- A fault of one part. -/
def wrong {α : Type} (reason : Reason) (part : Extent) : Except Fault α :=
  .error (.on reason part)

/-! ### Blanks and remarks -/

/-- The text without leading blanks and remarks. A remark goes from a `#` to the
end of its line. -/
def dropRemarks (inRemark : Bool) : Text → Text
  | [] => []
  | c :: t =>
    if inRemark then dropRemarks (c != '\n') t
    else if Text.isBlank c then dropRemarks false t
    else if c = '#' then dropRemarks true t
    else c :: t

theorem length_dropRemarks_le (inRemark : Bool) (t : Text) :
    (dropRemarks inRemark t).length ≤ t.length := by
  induction t generalizing inRemark with
  | nil => exact Nat.le_refl _
  | cons c t ih =>
    unfold dropRemarks
    repeat' split
    all_goals first
      | exact Nat.le_succ_of_le (ih _)
      | exact Nat.le_refl _

/-- Steps over blanks and remarks where they do not count. -/
def skip (loose : Bool) (t : Text) : Tail t.length :=
  if loose then ⟨dropRemarks false t, length_dropRemarks_le false t⟩ else .all t

/-- Steps over `c` and what does not count behind it. -/
def skipOver (loose : Bool) (c : Char) (t : Text) : Rest (c :: t).length :=
  (skip loose t).past c

/-- Takes leading characters that satisfy `p`. -/
def takeLoose (p : Char → Bool) (loose : Bool) (t : Text) : Text × Tail t.length :=
  match t with
  | [] => ([], .all [])
  | c :: u =>
    if p c then
      match skipOver loose c u with
      | ⟨v, h⟩ =>
        let (more, rest) := takeLoose p loose v
        (c :: more, rest.widen (Nat.le_of_lt h))
    else ([], .all (c :: u))
termination_by t.length
decreasing_by exact h

/-! ### Characters by number -/

/-- The character of a code point. -/
def charOf? (n : Nat) : Option Char :=
  if n.isValidChar then some (Char.ofNat n) else none

/-- The number that hexadecimal digits write. -/
def hexNumber (digits : Text) : Nat :=
  digits.foldl (fun n c => n * 16 + (Text.hexDigit? c).getD 0) 0

/-- Reads `count` hexadecimal digits onto `value`. -/
def readHexDigits (loose : Bool) : (count value : Nat) → (t : Text) →
    Except Fault (Nat × Tail t.length)
  | 0, value, t => .ok (value, .all t)
  | _ + 1, _, [] => wrong .endInEscape (.before [])
  | count + 1, value, c :: t =>
    match Text.hexDigit? c with
    | none => wrong .badHexDigit (.first (c :: t))
    | some d => do
      let next := skipOver loose c t
      let (value, rest) ← readHexDigits loose count (value * 16 + d) next.1
      return (value, (next.trans rest).toTail)

/-- Reads a code point in braces behind the opening one. -/
def readHexBraced (loose : Bool) (t : Text) : Except Fault (Char × Rest ('\x7b' :: t).length) :=
  let start := skipOver loose '\x7b' t
  let (digits, close) := takeLoose (fun c => (Text.hexDigit? c).isSome) loose start.1
  match close with
  | ⟨[], _⟩ => wrong .endInEscape ⟨t.length + 1, 0⟩
  | ⟨c :: u, h⟩ =>
    if c != '\x7d' then wrong .badHexDigit (.first (c :: u))
    else
      let after := (skipOver loose c u).toTail.widen h
      if digits.isEmpty then wrong .emptyHex ⟨t.length + 1, after.1.length⟩
      else
        match charOf? (hexNumber digits) with
        | none => wrong .badHex ⟨t.length, u.length + 1⟩
        | some d => .ok (d, start.trans after)

/-- Reads a code point behind the letter that announces it. Without braces it
has `count` digits. -/
def readHex (loose : Bool) (count : Nat) (letter : Char) (t : Text) :
    Except Fault (Literal × Rest (letter :: t).length) :=
  let start := skipOver loose letter t
  match start with
  | ⟨[], _⟩ => wrong .endInEscape (.before [])
  | ⟨c :: u, h⟩ =>
    if c = '\x7b' then do
      let (d, rest) ← readHexBraced loose u
      return (⟨d, false⟩, Rest.trans ⟨c :: u, h⟩ (rest.toTail))
    else do
      let (n, rest) ← readHexDigits loose count 0 (c :: u)
      match charOf? n with
      | none => wrong .badHex (.between (c :: u) rest.1)
      | some d => return (⟨d, count = 2⟩, Rest.trans ⟨c :: u, h⟩ rest)

/-! ### Properties -/

/-- Reads the question that a name in braces asks, and whether it is asked the
other way round. -/
def queryOf (t : Text) : Query × Bool :=
  match Text.splitFirst? ['!', '='] t with
  | some (name, value) => (.value name value, true)
  | none =>
    match Text.splitFirst? [':'] t with
    | some (name, value) => (.value name value, false)
    | none =>
      match Text.splitFirst? ['='] t with
      | some (name, value) => (.value name value, false)
      | none => (.name t, false)

/-- Reads a property behind its letter. It has one more letter, or a name in
braces. -/
def readProperty (loose : Bool) (letter : Char) (t : Text) :
    Except Fault (Atom × Rest (letter :: t).length) :=
  let negated := letter == 'P'
  let start := skipOver loose letter t
  match start with
  | ⟨[], _⟩ => wrong .endInEscape (.before [])
  | ⟨c :: u, h⟩ =>
    if c = '\x7b' then
      let opened := skipOver loose c u
      let (name, close) := takeLoose (· != '\x7d') loose opened.1
      match close with
      | ⟨[], _⟩ => wrong .endInEscape (.before [])
      | ⟨_ :: v, hv⟩ =>
        let (query, inverse) := queryOf name
        let behind := opened.trans (Rest.toTail ⟨v, hv⟩)
        .ok (.property query (negated != inverse), Rest.trans ⟨c :: u, h⟩ behind.toTail)
    else if c = '\\' then wrong .badProperty (.first (c :: u))
    else
      .ok (.property (.name [c]) negated, Rest.trans ⟨c :: u, h⟩ (skipOver loose c u).toTail)

/-! ### Edges of words -/

/-- Whether `c` may stand in the name of an edge. -/
def isEdgeLetter (c : Char) : Bool :=
  c == '-' || c.isAlpha

/-- The edge of a name. -/
def edgeNamed? (name : Text) : Option WordEdge :=
  [("start", WordEdge.start), ("end", .stop), ("start-half", .startHalf),
    ("end-half", .stopHalf)].lookup name.string

/-- Reads the name of an edge in braces, if there is one. `start` tells how many
characters are left from the backslash. -/
def readEdgeName (loose : Bool) (start : Nat) (t : Text) :
    Except Fault (WordEdge × Tail t.length) :=
  match t with
  | [] => .ok (.boundary, .all [])
  | c :: u =>
    if c != '\x7b' then .ok (.boundary, .all (c :: u))
    else
      match skipOver loose c u with
      | ⟨[], _⟩ => wrong .endInEdge ⟨start, 0⟩
      | ⟨d :: v, h⟩ =>
        -- Anything else in braces is a count.
        if !isEdgeLetter d then .ok (.boundary, .all (c :: u))
        else
          let (name, close) := takeLoose isEdgeLetter loose (d :: v)
          match close with
          | ⟨last :: w, hw⟩ =>
            if last != '\x7d' then wrong .unclosedEdge (.between (c :: u) (last :: w))
            else
              match edgeNamed? name with
              | none => wrong .unknownEdge (.between (d :: v) (last :: w))
              | some e => .ok (e, (Rest.trans ⟨d :: v, h⟩ (Rest.toTail ⟨w, hw⟩)).toTail)
          | ⟨[], _⟩ => wrong .unclosedEdge (.between (c :: u) [])

/-! ### Escapes -/

/-- The characters that mean something and stand for themselves behind a
backslash. -/
def isMeta (c : Char) : Bool :=
  ['\\', '.', '+', '*', '?', '(', ')', '|', '[', ']', '\x7b', '\x7d', '^', '$', '#', '&', '-',
    '~'].contains c

/-- Whether `c` may stand for itself behind a backslash. -/
def isEscapable (c : Char) : Bool :=
  isMeta c || (c.toNat < 0x80 && !c.isAlphanum && c != '<' && c != '>')

/-- The classes with a letter of their own, and whether the letter means all
other characters. -/
def shorthand? (c : Char) : Option (Shorthand × Bool) :=
  [('d', (Shorthand.digit, false)), ('D', (.digit, true)), ('s', (.blank, false)),
    ('S', (.blank, true)), ('w', (.wordPart, false)), ('W', (.wordPart, true))].lookup c

/-- The characters that letters stand for. -/
def special? (c : Char) : Option Char :=
  [('a', '\x07'), ('f', '\x0C'), ('t', '\t'), ('n', '\n'), ('r', '\r'), ('v', '\x0B')].lookup c

/-- The conditions that letters and angles stand for. -/
def anchor? (c : Char) : Option Anchor :=
  [('A', Anchor.textStart), ('z', .textEnd), ('B', .word .within), ('<', .word .start),
    ('>', .word .stop)].lookup c

/-- How many digits follow a letter that announces a code point. -/
def hexLength? (c : Char) : Option Nat :=
  [('x', 2), ('u', 4), ('U', 8)].lookup c

/-- What a character stands for behind a backslash by itself. -/
def simpleAtom? (c : Char) : Option Atom :=
  if isEscapable c then some (.literal ⟨c, false⟩)
  else
    match shorthand? c with
    | some (s, negated) => some (.shorthand s negated)
    | none =>
      match special? c with
      | some d => some (.literal ⟨d, false⟩)
      | none => (anchor? c).map .anchor

/-- Reads what follows a backslash. -/
def readEscape (loose : Bool) (t : Text) : Except Fault (Atom × Rest ('\\' :: t).length) :=
  match t with
  | [] => wrong .endInEscape ⟨1, 0⟩
  | c :: u =>
    let whole : Extent := ⟨u.length + 2, u.length⟩
    if Text.isDigit c then wrong .backreference whole
    else
      match hexLength? c with
      | some count => do
        let (l, rest) ← readHex loose count c u
        return (.literal l, rest.past '\\')
      | none =>
        if c = 'p' ∨ c = 'P' then do
          let (a, rest) ← readProperty loose c u
          return (a, rest.past '\\')
        else if c = 'b' then do
          let (e, rest) ← readEdgeName loose (u.length + 2) u
          return (.anchor (.word e), (rest.past c).past '\\')
        else
          match simpleAtom? c with
          | some a => .ok (a, ((Tail.all u).past c).past '\\')
          | none => wrong .unknownEscape whole

end Vignette.Pattern
