import Vignette.Text.Blank

/-!
# `Vignette.Fixer`: corrections to expanded text

A fixer changes a text and says to which texts it applies. Where it is used, it
runs on the texts it applies to and leaves the others alone; asked directly, it
changes any text.
-/

set_option autoImplicit false

namespace Vignette

/-- A correction to expanded text. -/
structure Fixer where
  name : Name
  /-- Whether the fixer has something to do. -/
  applies : Text → Bool
  fix : Text → Text

namespace Fixer

/-- Fixes a text to which the fixer applies. -/
def run (f : Fixer) (t : Text) : Text :=
  if f.applies t then f.fix t else t

/-- A fixer that applies to every text. -/
def always (name : Name) (fix : Text → Text) : Fixer :=
  ⟨name, fun _ => true, fix⟩

/-! ### The fixers at hand -/

/-- Changes nothing. -/
def noop : Fixer :=
  always ['n', 'o', 'o', 'p'] id

/-- Writes `s'` for each `s's`, left to right. -/
def fixPossessive : Text → Text
  | 's' :: '\'' :: 's' :: t => 's' :: '\'' :: fixPossessive t
  | c :: t => c :: fixPossessive t
  | [] => []

/-- Whether a text holds `s's`. -/
def hasPossessive (t : Text) : Bool :=
  Text.contains ['s', '\'', 's'] t

/-- Mends the possessive of a plural: `the cats's` becomes `the cats'`. -/
def possessive : Fixer where
  name := "possessive".toList
  applies := hasPossessive
  fix := fixPossessive

/-- Keeps one space of each run of spaces. `after` tells whether a space has
just been read. -/
def collapseFrom (after : Bool) : Text → Text
  | [] => []
  | c :: t =>
    if c = ' ' then
      if after then collapseFrom true t else ' ' :: collapseFrom true t
    else c :: collapseFrom false t

/-- Trims white space of all kinds, then keeps one space of each run of spaces. -/
def whitespace : Fixer :=
  always "whitespace".toList fun t => collapseFrom false t.trim

/-- Ends a text with one exclamation mark in place of its full stops and
exclamation marks. -/
def exclaim : Fixer where
  name := "exclaim".toList
  applies t := t.getLast? != some '!'
  fix t := t.dropEndWhile (fun c => c == '.' || c == '!') ++ ['!']

/-- Puts ASCII letters in uppercase while `inside` is false. A `<` makes it
true and a `>` makes it false. -/
def shoutFrom (inside : Bool) : Text → Text
  | [] => []
  | c :: t =>
    -- A line feed does not end what a `<` has begun.
    let inside := if c = '<' then true else if c = '>' then false else inside
    (if inside then c else c.toUpper) :: shoutFrom inside t

/-- Puts everything outside spans in uppercase. -/
def shout : Fixer :=
  always "shout".toList (shoutFrom false)

end Fixer

end Vignette
