import Vignette.Pattern.Escape

/-!
# `Vignette.Pattern.Bracket`: reading classes in brackets

Inside brackets stand characters, ranges, escapes, named classes, further
brackets, and the operators `&&`, `--` and `~~`, which bind alike and group to
the left. The brackets that are open are kept in a list.
-/

set_option autoImplicit false

namespace Vignette.Pattern

open Text (Rest Tail length_le_of_cons length_le_of_lt length_le_self)

/-! ### Named classes of ASCII characters -/

/-- The ranges of the named classes. -/
def asciiClasses : List (String × List (Char × Char)) :=
  [("alnum", [('0', '9'), ('A', 'Z'), ('a', 'z')]),
    ("alpha", [('A', 'Z'), ('a', 'z')]),
    ("ascii", [('\x00', '\x7F')]),
    ("blank", [('\t', '\t'), (' ', ' ')]),
    ("cntrl", [('\x00', '\x1F'), ('\x7F', '\x7F')]),
    ("digit", [('0', '9')]),
    ("graph", [('!', '~')]),
    ("lower", [('a', 'z')]),
    ("print", [(' ', '~')]),
    ("punct", [('!', '/'), (':', '@'), ('[', '\x60'), ('\x7b', '~')]),
    ("space", [('\t', '\r'), (' ', ' ')]),
    ("upper", [('A', 'Z')]),
    ("word", [('0', '9'), ('A', 'Z'), ('_', '_'), ('a', 'z')]),
    ("xdigit", [('0', '9'), ('A', 'F'), ('a', 'f')])]

/-- Reads a named class behind its bracket: its ranges and whether it is negated.
What is no named class is none. -/
def asciiClass? (t : Text) : Option (List (Char × Char) × Bool × Text) :=
  match t with
  | ':' :: u =>
    let negated := u.head? == some '^'
    let u := if negated then u.drop 1 else u
    let name := u.takeWhile (· != ':')
    match u.drop name.length with
    | ':' :: ']' :: v =>
      (asciiClasses.lookup (Text.string name)).map fun pairs => (pairs, negated, v)
    | _ => none
  | _ => none

/-! ### Items -/

/-- Items with their parts, the latest first. -/
structure Items where
  /-- How many characters are left from the start. -/
  start : Nat
  items : List (Extent × ClassTree) := []

namespace Items

def push (l : Items) (part : Extent) (t : ClassTree) : Items :=
  { l with items := (part, t) :: l.items }

/-- All items as one tree, and its part. -/
def close (l : Items) : Extent × ClassTree :=
  match l.items.reverse, l.items with
  | [], _ => (⟨l.start, l.start⟩, .empty)
  | [item], _ => item
  | (first, t) :: more, items =>
    let part : Extent := ⟨first.left, (items.head?.map (·.1.behind)).getD first.behind⟩
    (part, .layer part (.joinAll (t :: more.map (·.2))))

end Items

/-- A bracket that is open. -/
structure OpenBracket where
  /-- How many characters are left from the bracket. -/
  start : Nat
  /-- The bracket and what belongs to it. -/
  opened : Extent
  negated : Bool
  /-- An operator and its left side. -/
  pending : Option (SetOperation × Extent × ClassTree) := none
  items : Items

namespace OpenBracket

def push (b : OpenBracket) (part : Extent) (t : ClassTree) : OpenBracket :=
  { b with items := b.items.push part t }

/-- What the bracket holds so far. -/
def content (b : OpenBracket) : Extent × ClassTree :=
  let (part, t) := b.items.close
  match b.pending with
  | none => (part, t)
  | some (op, left, a) =>
    let whole : Extent := ⟨left.left, part.behind⟩
    (whole, .layer whole (.combine op a t))

/-- The bracket behind an operator, with `start` characters left. -/
def operate (b : OpenBracket) (op : SetOperation) (start : Nat) : OpenBracket :=
  let (part, t) := b.content
  { b with pending := some (op, part, t), items := ⟨start, []⟩ }

end OpenBracket

/-- Takes leading hyphens of a bracket, which stand for themselves. -/
def takeHyphens (loose : Bool) (start : Nat) (items : Items) (t : Text) :
    Except Fault (Items × Tail t.length) :=
  match t with
  | [] => .ok (items, .all [])
  | c :: u =>
    if c != '-' then .ok (items, .all (c :: u))
    else
      match skipOver loose c u with
      | ⟨[], _⟩ => wrong .unclosedClass ⟨start, start⟩
      | ⟨d :: v, h⟩ => do
        let part : Extent := .first (c :: u)
        let (items, rest) ←
          takeHyphens loose start (items.push part (.literal part ⟨'-', false⟩)) (d :: v)
        return (items, rest.widen (Nat.le_of_lt h))
termination_by t.length
decreasing_by exact h

/-- Reads the start of a bracket behind its opening character: a caret, hyphens,
and a closing bracket that stands for itself because it comes first. -/
def openBracket (loose : Bool) (t : Text) : Except Fault (OpenBracket × Rest ('[' :: t).length) :=
  let start := t.length + 1
  let unclosed {α : Type} : Except Fault α := wrong .unclosedClass ⟨start, 0⟩
  match skipOver loose '[' t with
  | ⟨[], _⟩ => unclosed
  | ⟨c :: u, h⟩ =>
    let negated := c == '^'
    let inner : Tail (c :: u).length :=
      if negated then (skipOver loose c u).toTail else .all (c :: u)
    match inner with
    | ⟨[], _⟩ => unclosed
    | ⟨d :: v, hv⟩ => do
      let (items, rest) ← takeHyphens loose start ⟨(d :: v).length, []⟩ (d :: v)
      let behind := Rest.trans ⟨c :: u, h⟩ ((rest.widen hv))
      match rest with
      | ⟨e :: w, hw⟩ =>
        if items.items.isEmpty && e == ']' then
          let part : Extent := .first (e :: w)
          let more := skipOver loose e w
          if more.1.isEmpty then unclosed
          else
            let items := items.push part (.literal part ⟨']', false⟩)
            return (⟨start, ⟨start, more.1.length⟩, negated, none, items⟩,
              Rest.trans ⟨c :: u, h⟩ ((more.toTail.widen hw).widen hv))
        else return (⟨start, ⟨start, rest.1.length⟩, negated, none, items⟩, behind)
      | ⟨[], _⟩ => return (⟨start, ⟨start, 0⟩, negated, none, items⟩, behind)

/-! ### Ranges -/

/-- Reads a character or an escape. -/
def readItem (loose : Bool) (c : Char) (t : Text) :
    Except Fault (Extent × Atom × Rest (c :: t).length) :=
  if c = '\\' then do
    let (a, rest) ← readEscape loose t
    return (.between (c :: t) rest.1, a, rest)
  else .ok (.first (c :: t), .literal ⟨c, false⟩, (Tail.all t).past c)

/-- An escape as an item of its own. -/
def Atom.toItem (part : Extent) : Atom → Except Fault ClassTree
  | literal l => .ok (.literal part l)
  | shorthand s negated => .ok (.shorthand part s negated)
  | property q negated => .ok (.property part q negated)
  | _ => wrong .badClassEscape part

/-- An escape as one end of a range. -/
def Atom.toEnd (part : Extent) : Atom → Except Fault Literal
  | literal l => .ok l
  | _ => wrong .badClassRangeEnd part

/-- The character behind a hyphen, which tells whether the hyphen makes a range.
Blanks do not count in a loose pattern, nor the `#` of a remark. -/
def behindHyphen? (loose : Bool) (t : Text) : Option Char :=
  if loose then
    let u := t.dropWhile Text.isBlank
    let u := if u.head? = some '#' then (u.drop 1).dropWhile Text.isBlank else u
    u.head?.or t.head?
  else t.head?

/-- Reads a range, or an item that starts none. -/
def readRange (loose : Bool) (unclosed : Extent) (c : Char) (t : Text) :
    Except Fault (Extent × ClassTree × Rest (c :: t).length) := do
  let (part, a, rest) ← readItem loose c t
  match skip loose rest.1 with
  | ⟨[], _⟩ => wrong .unclosedClass unclosed
  | ⟨d :: u, h⟩ =>
    let next := behindHyphen? loose u
    if d != '-' || next == some ']' || next == some '-' then
      return (part, ← a.toItem part, rest.trans ⟨d :: u, h⟩)
    else
      match skipOver loose d u with
      | ⟨[], _⟩ => wrong .unclosedClass unclosed
      | ⟨e :: v, hv⟩ =>
        let (lastPart, b, last) ← readItem loose e v
        let whole : Extent := ⟨part.left, lastPart.behind⟩
        let first ← a.toEnd part
        let stop ← b.toEnd lastPart
        if stop.char < first.char then wrong .badClassRange whole
        else
          let behind := (Rest.trans ⟨e :: v, hv⟩ last.toTail).toTail.widen h
          return (whole, .range part first lastPart stop, rest.trans behind)

/-! ### Brackets in brackets -/

/-- A class in brackets: its part, whether it is negated, and what it holds. -/
structure BracketClass where
  part : Extent
  negated : Bool
  content : ClassTree

/-- Where reading inside brackets has come to. -/
inductive BracketStep (n : Nat) where
  /-- The outermost bracket closes. -/
  | done (result : BracketClass) (rest : Rest n)
  /-- Brackets are open, the innermost first. -/
  | more (b : OpenBracket) (outer : List OpenBracket) (rest : Rest n)

/-- Closes the innermost bracket. -/
def closeBracket (b : OpenBracket) (outer : List OpenBracket) (t : Text) :
    BracketStep (']' :: t).length :=
  let (_, content) := b.content
  let part : Extent := ⟨b.start, t.length⟩
  let rest := (Tail.all t).past ']'
  match outer with
  | [] => .done ⟨part, b.negated, content⟩ rest
  | o :: outer => .more (o.push part (.layer part (.bracket part b.negated content))) outer rest

/-- The operator that a character written twice stands for. -/
def operator? (c : Char) : Option SetOperation :=
  [('&', SetOperation.inter), ('-', .diff), ('~', .either)].lookup c

/-- Reads one item. -/
def itemStep (loose : Bool) (b : OpenBracket) (outer : List OpenBracket) (c : Char) (t : Text) :
    Except Fault (BracketStep (c :: t).length) := do
  let (part, item, rest) ← readRange loose b.opened c t
  return .more (b.push part item) outer rest

/-- Reads one item or operator, or the end of a bracket. -/
def bracketStep (loose : Bool) (b : OpenBracket) (outer : List OpenBracket) (c : Char) (t : Text) :
    Except Fault (BracketStep (c :: t).length) :=
  if c = '[' then
    match asciiClass? t with
    | some (pairs, negated, v) =>
      if h : v.length < (c :: t).length then
        let part : Extent := .between (c :: t) v
        .ok (.more (b.push part (.ascii part pairs negated)) outer ⟨v, h⟩)
      else .ok (.more b outer ((Tail.all t).past c))
    | none => do
      let (inner, rest) ← openBracket loose t
      return .more inner (b :: outer) rest
  else if c = ']' then .ok (closeBracket b outer t)
  else
    match operator? c, t with
    | some op, d :: u =>
      if d = c then .ok (.more (b.operate op u.length) outer (((Tail.all u).past d).past c))
      else itemStep loose b outer c (d :: u)
    | _, t => itemStep loose b outer c t

/-- Reads on inside brackets. -/
def readBrackets (loose : Bool) (n : Nat) (b : OpenBracket) (outer : List OpenBracket) (t : Text)
    (h : t.length ≤ n) : Except Fault (BracketClass × Rest n) :=
  match skip loose t with
  | ⟨[], _⟩ => wrong .unclosedClass b.opened
  | ⟨c :: u, hu⟩ =>
    match bracketStep loose b outer c u with
    | .error fault => .error fault
    | .ok (.done result rest) => .ok (result, (rest.widen hu).widen h)
    | .ok (.more b outer ⟨v, hv⟩) =>
      readBrackets loose n b outer v (length_le_of_lt (Nat.lt_of_lt_of_le hv hu) h)
termination_by t.length
decreasing_by exact Nat.lt_of_lt_of_le hv hu

/-- Reads a class in brackets behind its opening character. -/
def readBracket (loose : Bool) (t : Text) :
    Except Fault (BracketClass × Rest ('[' :: t).length) := do
  let (b, start) ← openBracket loose t
  let (result, rest) ← readBrackets loose start.1.length b [] start.1 (length_le_self start.1)
  return (result, start.trans rest.toTail)

end Vignette.Pattern
