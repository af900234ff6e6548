import Vignette.Pattern.Basic
import Vignette.Pattern.Fault

/-!
# `Vignette.Pattern.Tree`: patterns as they are written

The tree of a written pattern keeps its flags and where its parts are. What it
means under the flags is said in `Vignette.Pattern.Meaning`.
-/

set_option autoImplicit false

namespace Vignette.Pattern

/-- What can be switched on and off inside a pattern. -/
inductive Flag where
  /-- Letters match all their cases. -/
  | anyCase
  /-- `^` and `$` match at every line. -/
  | manyLines
  /-- A dot matches line feeds too. -/
  | dotAll
  /-- Repetitions prefer few pieces, which changes nothing here. -/
  | few
  /-- Classes go beyond ASCII. -/
  | unicode
  /-- Lines may end with carriage returns. -/
  | carriageReturns
  /-- Blanks and remarks do not count. -/
  | loose
  deriving DecidableEq, Repr

/-- The flag of a letter. -/
def Flag.ofLetter? (c : Char) : Option Flag :=
  [('i', anyCase), ('m', manyLines), ('s', dotAll), ('U', few), ('u', unicode),
    ('R', carriageReturns), ('x', loose)].lookup c

/-- Flags and whether they are on. -/
abbrev Changes := List (Flag × Bool)

/-- A character, and whether it was written by two hexadecimal digits. -/
structure Literal where
  char : Char
  isByte : Bool
  deriving DecidableEq, Repr

/-- The classes with a letter of their own. -/
inductive Shorthand where
  | digit
  | blank
  | wordPart
  deriving DecidableEq, Repr

/-- What is asked of the Unicode properties of a character. -/
inductive Query where
  | name (name : Text)
  | value (name value : Text)
  deriving DecidableEq, Repr

/-- A condition as it is written, whatever the flags make of it. -/
inductive Anchor where
  | textStart
  | textEnd
  /-- `^` -/
  | caret
  /-- `$` -/
  | dollar
  | word (e : WordEdge)
  deriving DecidableEq, Repr

/-- The parts that hold no others. -/
inductive Atom where
  | literal (l : Literal)
  | dot
  | anchor (a : Anchor)
  | shorthand (s : Shorthand) (negated : Bool)
  | property (q : Query) (negated : Bool)
  deriving DecidableEq, Repr

/-- The operations on the two sides inside a bracket. -/
inductive SetOperation where
  | inter
  | diff
  | either
  deriving DecidableEq, Repr

/-- What stands inside brackets. -/
inductive ClassTree where
  | empty
  | literal (part : Extent) (l : Literal)
  | range (firstPart : Extent) (first : Literal) (lastPart : Extent) (last : Literal)
  /-- The ranges of a named class of ASCII characters. -/
  | ascii (part : Extent) (pairs : List (Char × Char)) (negated : Bool)
  | shorthand (part : Extent) (s : Shorthand) (negated : Bool)
  | property (part : Extent) (q : Query) (negated : Bool)
  | bracket (part : Extent) (negated : Bool) (content : ClassTree)
  | join (a b : ClassTree)
  | combine (op : SetOperation) (a b : ClassTree)
  /-- A part that lies one level deeper. -/
  | layer (part : Extent) (content : ClassTree)
  deriving DecidableEq, Repr

/-- A written pattern. -/
inductive Tree where
  | empty
  | flags (changes : Changes)
  | atom (part : Extent) (a : Atom)
  | bracket (part : Extent) (negated : Bool) (content : ClassTree)
  | times (min : Nat) (max : Option Nat) (t : Tree)
  /-- A group, with its number if it has one. -/
  | group (number : Option Nat) (changes : Changes) (t : Tree)
  | join (a b : Tree)
  | either (a b : Tree)
  /-- A part that lies one level deeper. -/
  | layer (part : Extent) (t : Tree)
  deriving DecidableEq, Repr

namespace ClassTree

/-- One after the other. -/
def joinAll : List ClassTree → ClassTree
  | [] => empty
  | [t] => t
  | t :: ts => join t (joinAll ts)

/-- The first part that lies deeper than `depth` levels. -/
def tooDeep? : ClassTree → Nat → Option Extent
  | bracket _ _ content, depth => content.tooDeep? depth
  | join a b, depth => (a.tooDeep? depth).or (b.tooDeep? depth)
  | combine _ a b, depth => (a.tooDeep? depth).or (b.tooDeep? depth)
  | layer part _, 0 => some part
  | layer _ content, depth + 1 => content.tooDeep? depth
  | _, _ => none

end ClassTree

namespace Tree

/-- One after the other. -/
def joinAll : List Tree → Tree
  | [] => empty
  | [t] => t
  | t :: ts => join t (joinAll ts)

/-- One of several. -/
def eitherAll : List Tree → Tree
  | [] => empty
  | [t] => t
  | t :: ts => either t (eitherAll ts)

/-- The first part that lies deeper than `depth` levels. -/
def tooDeep? : Tree → Nat → Option Extent
  | bracket _ _ content, depth => content.tooDeep? depth
  | times _ _ t, depth => t.tooDeep? depth
  | group _ _ t, depth => t.tooDeep? depth
  | join a b, depth => (a.tooDeep? depth).or (b.tooDeep? depth)
  | either a b, depth => (a.tooDeep? depth).or (b.tooDeep? depth)
  | layer part _, 0 => some part
  | layer _ t, depth + 1 => t.tooDeep? depth
  | _, _ => none

end Tree

end Vignette.Pattern
