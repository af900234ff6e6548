import Vignette.Text
import Vignette.Text.Property.Derived

/-!
# `Vignette.Pattern.Basic`: patterns and whether they match

A pattern describes pieces of a text. To look for one, all ways to match are
followed at once: a `Track` is a pattern with a mark at each character that may
just have been matched, and every character of the text moves the marks. So
there is no backtracking and no order of preference.
-/

set_option autoImplicit false

namespace Vignette

/-- What a gap beside or inside a word must be like. -/
inductive Pattern.WordEdge where
  /-- A word starts or ends. -/
  | boundary
  /-- No word starts or ends. -/
  | within
  | start
  | stop
  /-- No character of words before. -/
  | startHalf
  /-- No character of words behind. -/
  | stopHalf
  deriving DecidableEq, Repr

/-- A condition on a gap. -/
inductive Pattern.Edge where
  | textStart
  | textEnd
  /-- The start of a line that ends with a line feed. -/
  | lineStart
  | lineEnd
  /-- The start of a line that ends with a line feed, a carriage return or both. -/
  | anyLineStart
  | anyLineEnd
  /-- An edge of words of all scripts, or of ASCII words alone. -/
  | word (edge : WordEdge) (allScripts : Bool)
  deriving DecidableEq, Repr

open Pattern (Edge WordEdge)
open Text (CharSet)

/-- A pattern. -/
inductive Pattern where
  /-- The empty piece. -/
  | empty
  /-- One character. -/
  | one (set : CharSet)
  /-- The empty piece at certain gaps. -/
  | edge (e : Edge)
  | seq (p q : Pattern)
  | either (p q : Pattern)
  /-- From `min` to `max` pieces, or any greater number. -/
  | times (min : Nat) (max : Option Nat) (p : Pattern)
  /-- A group with its number. -/
  | group (number : Nat) (p : Pattern)
  deriving DecidableEq, Repr

namespace Pattern

/-! ### Words -/

/-- The characters of words, of all scripts or of ASCII alone. -/
def wordSet (allScripts : Bool) : CharSet :=
  if allScripts then Text.Property.wordPart
  else .ofPairs [('0', '9'), ('A', 'Z'), ('_', '_'), ('a', 'z')]

/-! ### Gaps -/

/-- The characters around a gap. -/
structure Gap where
  before : Option Char
  behind : Option Char

/-- Whether a gap is beside characters of words as it must be. -/
def WordEdge.holds (before behind : Bool) : WordEdge → Bool
  | boundary => before != behind
  | within => before == behind
  | start => !before && behind
  | stop => before && !behind
  | startHalf => !before
  | stopHalf => !behind

/-- Whether a condition holds at a gap. -/
def Edge.holds (g : Gap) : Edge → Bool
  | textStart => g.before.isNone
  | textEnd => g.behind.isNone
  | lineStart => g.before.all (· == '\n')
  | lineEnd => g.behind.all (· == '\n')
  -- No line starts between a carriage return and its line feed.
  | anyLineStart =>
    g.before.all fun c => c == '\n' || (c == '\r' && g.behind != some '\n')
  | anyLineEnd =>
    g.behind.all fun c => c == '\r' || (c == '\n' && g.before != some '\r')
  | word e allScripts =>
    e.holds (g.before.any (wordSet allScripts).has) (g.behind.any (wordSet allScripts).has)

/-! ### Tracks -/

/-- A pattern with marks at the characters that were matched last. -/
inductive Track where
  | empty
  | one (set : CharSet) (marked : Bool)
  | edge (e : Edge)
  | seq (p q : Track)
  | either (p q : Track)
  /-- Any number of pieces. -/
  | star (p : Track)

namespace Track

/-- `n` pieces, and then what `q` describes. -/
def copies (p q : Track) : Nat → Track
  | 0 => q
  | n + 1 => seq p (copies p q n)

/-- Up to `n` pieces. -/
def upTo (p : Track) : Nat → Track
  | 0 => empty
  | n + 1 => either empty (seq p (upTo p n))

/-- Whether a piece can be empty at a gap. -/
def skips (g : Gap) : Track → Bool
  | empty => true
  | one _ _ => false
  | edge e => e.holds g
  | seq p q => p.skips g && q.skips g
  | either p q => p.skips g || q.skips g
  | star _ => true

/-- Whether a piece can end at a gap, behind a marked character. -/
def ends (g : Gap) : Track → Bool
  | empty | edge _ => false
  | one _ marked => marked
  | seq p q => q.ends g || (p.ends g && q.skips g)
  | either p q => p.ends g || q.ends g
  | star p => p.ends g

/-- Moves the marks over the character `c` behind a gap. `start` tells whether a
piece can start there. -/
def step (g : Gap) (c : Char) (start : Bool) : Track → Track
  | empty => empty
  | one set _ => one set (start && set.has c)
  | edge e => edge e
  | seq p q => seq (p.step g c start) (q.step g c (p.ends g || (start && p.skips g)))
  | either p q => either (p.step g c start) (q.step g c start)
  | star p => star (p.step g c (start || p.ends g))

/-- Whether some piece matches that starts before `t`, or has started where the
marks are. -/
def search (p : Track) (before : Option Char) : Text → Bool
  | [] => p.skips ⟨before, none⟩ || p.ends ⟨before, none⟩
  | c :: t =>
    let g : Gap := ⟨before, some c⟩
    p.skips g || p.ends g || (p.step g c true).search (some c) t

end Track

/-- The track of a pattern without marks. Of `limit` or more repetitions in a
text with fewer gaps one is empty, so any number of them is as good. -/
def track (limit : Nat) : Pattern → Track
  | empty => .empty
  | one set => .one set false
  | edge e => .edge e
  | seq p q => .seq (p.track limit) (q.track limit)
  | either p q => .either (p.track limit) (q.track limit)
  | group _ p => p.track limit
  | times min max p =>
    let q := p.track limit
    let least := Nat.min min limit
    match max with
    | none => q.copies q.star least
    | some max => q.copies (q.upTo (Nat.min max limit - least)) least

/-- Whether a piece of the text matches. -/
def occursIn (p : Pattern) (t : Text) : Bool :=
  (p.track (t.length + 1)).search none t

end Pattern

end Vignette
