import Vignette.Pattern.Plain
import Vignette.Pattern.Property
import Vignette.Pattern.Reader

/-!
# `Vignette.Pattern.Meaning`: what a written pattern means under its flags

Flags hold from where they stand to the end of the group around them. A text is
made of whole characters, so without the Unicode flag nothing may mean a
character beyond ASCII that is not written out. Patterns are put together in
their plain form.
-/

set_option autoImplicit false

namespace Vignette.Pattern

open Text (Category CharSet)

/-- The flags in force. -/
structure Flags where
  anyCase : Bool := false
  manyLines : Bool := false
  dotAll : Bool := false
  unicode : Bool := true
  carriageReturns : Bool := false
  deriving DecidableEq, Repr

namespace Flags

/-- Switches one flag on or off. -/
def set (f : Flags) : Flag × Bool → Flags
  | (.anyCase, on) => { f with anyCase := on }
  | (.manyLines, on) => { f with manyLines := on }
  | (.dotAll, on) => { f with dotAll := on }
  | (.unicode, on) => { f with unicode := on }
  | (.carriageReturns, on) => { f with carriageReturns := on }
  | (.few, _) | (.loose, _) => f

/-- Switches flags on or off. -/
def change (f : Flags) (changes : Changes) : Flags :=
  changes.foldl set f

/-- The set with all cases of its letters where case does not matter. -/
def cased (f : Flags) (set : CharSet) : CharSet :=
  if !f.anyCase then set else if f.unicode then set.anyCase else set.anyAsciiCase

/-- The other characters, if they are asked for. Without the Unicode flag they
would be bytes. -/
def negated (f : Flags) (part : Extent) (negated : Bool) (set : CharSet) :
    Except Fault CharSet :=
  if !negated then .ok set
  else if f.unicode then .ok set.compl
  else wrong .brokenEncoding part

end Flags

/-! ### Sets -/

/-- A character where it stands for itself in a class. -/
def Literal.inClass (f : Flags) (part : Extent) (l : Literal) : Except Fault Char :=
  if f.unicode || l.char.toNat < 0x80 then .ok l.char
  else if l.isByte then wrong .brokenEncoding part
  else wrong .beyondAscii part

/-- The set of a class with a letter of its own. -/
def Shorthand.set (f : Flags) : Shorthand → CharSet
  | digit => if f.unicode then Category.decimalNumber.set else .range '0' '9'
  | blank =>
    if f.unicode then Text.Property.whiteSpace else .ofPairs [('\t', '\r'), (' ', ' ')]
  | wordPart => wordSet f.unicode

/-- The set of a property. -/
def Query.set (f : Flags) (part : Extent) (q : Query) (negated : Bool) :
    Except Fault CharSet :=
  if !f.unicode then wrong .beyondAscii part
  else
    let found :=
      match q with
      | name t => namedSet t
      | value t v => valueSet t v
    match found with
    | .error reason => wrong reason part
    | .ok set => f.negated part negated (f.cased set)

/-- The set of what stands inside brackets. -/
def ClassTree.set (f : Flags) : ClassTree → Except Fault CharSet
  | empty => .ok .none
  | literal part l => do return .single (← l.inClass f part)
  | range firstPart first lastPart last => do
    return .range (← first.inClass f firstPart) (← last.inClass f lastPart)
  | ascii part pairs negated => f.negated part negated (f.cased (.ofPairs pairs))
  | shorthand part s negated => f.negated part negated (s.set f)
  | property part q negated => q.set f part negated
  | bracket part negated content => do f.negated part negated (f.cased (← content.set f))
  | join a b => do return .union (← a.set f) (← b.set f)
  | combine op a b => do
    let a ← a.set f
    let b ← b.set f
    return match op with
      | .inter => (f.cased a).inter (f.cased b)
      | .diff => (f.cased a).diff (f.cased b)
      | .either => (f.cased a).either (f.cased b)
  | layer _ content => content.set f

/-! ### Patterns -/

/-- The condition that an anchor is under the flags. -/
def Anchor.edge (f : Flags) : Anchor → Edge
  | textStart => .textStart
  | textEnd => .textEnd
  | caret =>
    if !f.manyLines then .textStart else if f.carriageReturns then .anyLineStart else .lineStart
  | dollar =>
    if !f.manyLines then .textEnd else if f.carriageReturns then .anyLineEnd else .lineEnd
  | word e => .word e f.unicode

/-- The characters that a dot matches. -/
def Flags.dotSet (f : Flags) : CharSet :=
  if f.dotAll then .all
  else if f.carriageReturns then (CharSet.ofPairs [('\n', '\n'), ('\r', '\r')]).compl
  else (CharSet.single '\n').compl

/-- The meaning of a part that holds no others. -/
def Atom.meaning (f : Flags) (part : Extent) : Atom → Except Fault Pattern
  | literal l =>
    if !f.unicode && l.isByte && 0x80 ≤ l.char.toNat then wrong .brokenEncoding part
    else .ok (.one (f.cased (.single l.char)))
  | dot => if f.unicode then .ok (.one f.dotSet) else wrong .brokenEncoding part
  | anchor a => .ok (.edge (a.edge f))
  | shorthand s negated => do return .one (← f.negated part negated (s.set f))
  | property q negated => do return .one (← q.set f part negated)

/-- The meanings of the branches of a written pattern, and the flags in force
behind it. -/
def Tree.meanings (f : Flags) : Tree → Except Fault (List Pattern × Flags)
  | empty => .ok ([.empty], f)
  | flags changes => .ok ([.empty], f.change changes)
  | atom part a => do return ([← a.meaning f part], f)
  | bracket part negated content => do
    let set ← f.negated part negated (f.cased (← content.set f))
    return ([.one set], f)
  | times min max t => do
    let (ps, f) ← t.meanings f
    return ([(oneOf ps).repeated min max], f)
  | group number changes t => do
    let (ps, _) ← t.meanings (f.change changes)
    let p := oneOf ps
    return ([number.elim p fun n => .group n p], f)
  | join a b => do
    let (ps, f) ← a.meanings f
    let (qs, f) ← b.meanings f
    return ([(oneOf ps).append (oneOf qs)], f)
  | either a b => do
    let (ps, f) ← a.meanings f
    let (qs, f) ← b.meanings f
    return (ps ++ qs, f)
  | layer _ t => do
    let (ps, f) ← t.meanings f
    return ([oneOf ps], f)

/-- The meaning of a written pattern. -/
def Tree.meaning (t : Tree) : Except Fault Pattern := do
  let (ps, _) ← t.meanings {}
  return oneOf ps

end Vignette.Pattern
