import Vignette.Text.Break.Grapheme
import Vignette.Text.Script

/-!
# `Vignette.Text.Break.Word`: the classes of characters within words

Where words end depends on classes of characters, which do not overlap.
-/

set_option autoImplicit false

namespace Vignette.Text.Break.Word

open Property

/-- The characters of some scripts, given by their short names. -/
def ofScripts (names : List String) : CharSet :=
  .unionAll ((scripts.filter fun s => s.names.any names.contains).map Script.own)

def newline : CharSet :=
  .ofRanges [⟨0xB, 0xC⟩, ⟨0x85, 0x85⟩, ⟨0x2028, 0x2029⟩]

/-- Marks and what else attaches to the character before. -/
def extend : CharSet :=
  .unionAll [graphemeExtend, Category.spacingMark.set, emojiModifier]

/-- The number signs among the marks that go before numbers. -/
def numberSigns : CharSet :=
  prependedMark.diff (.ofCodes [0x70F])

/-- The format characters that words look through. -/
def format : CharSet :=
  Category.format.set.diff
    (.unionAll [extend, prependedMark, zeroWidthJoiner, .ofCodes [0x200B]])

def katakana : CharSet :=
  (ofScripts ["kana"]).union <| .ofRanges
    [ ⟨0x3031, 0x3035⟩, ⟨0x309B, 0x309C⟩, ⟨0x30A0, 0x30A0⟩, ⟨0x30FC, 0x30FC⟩, ⟨0xFF70, 0xFF70⟩ ]

def hebrewLetter : CharSet :=
  (ofScripts ["hebr"]).inter Category.otherLetter.set

/-- The scripts that are written without blanks between words. -/
def unspaced : CharSet :=
  ofScripts ["hira", "thai", "laoo", "mymr", "khmr", "tale", "talu", "lana", "tavt", "ahom"]

/-- The signs that count as letters. -/
def letterSigns : CharSet := .ofRanges
  [ ⟨0xB8, 0xB8⟩, ⟨0x2C2, 0x2C5⟩, ⟨0x2D2, 0x2D7⟩, ⟨0x2DE, 0x2DF⟩, ⟨0x2E5, 0x2EB⟩, ⟨0x2ED, 0x2ED⟩,
    ⟨0x2EF, 0x2FF⟩, ⟨0x55A, 0x55C⟩, ⟨0x55E, 0x55E⟩, ⟨0x58A, 0x58A⟩, ⟨0x5F3, 0x5F3⟩, ⟨0x70F, 0x70F⟩,
    ⟨0xA708, 0xA716⟩, ⟨0xA720, 0xA721⟩, ⟨0xA789, 0xA78A⟩, ⟨0xAB5B, 0xAB5B⟩ ]

def letter : CharSet :=
  (alphabetic.diff (.unionAll [ideographic, katakana, unspaced, extend, hebrewLetter])).union
    letterSigns

def middleLetter : CharSet :=
  .ofCodes [0x3A, 0xB7, 0x387, 0x55F, 0x5F4, 0x2027, 0xFE13, 0xFE55, 0xFF1A]

def middleNumber : CharSet :=
  .ofCodes [0x2C, 0x3B, 0x37E, 0x589, 0x60C, 0x60D, 0x66C, 0x7F8, 0x2044, 0xFE10, 0xFE14, 0xFE50,
    0xFE54, 0xFF0C, 0xFF1B]

def middleBoth : CharSet :=
  .ofCodes [0x2E, 0x2018, 0x2019, 0x2024, 0xFE52, 0xFF07, 0xFF0E]

def numeric : CharSet :=
  .unionAll [Category.decimalNumber.set, numberSigns, .ofCodes [0x66B, 0x19DA]]

def connector : CharSet :=
  Category.connectorPunctuation.set.union (.ofCodes [0x202F])

/-- The blanks that may be followed by a line break. -/
def space : CharSet :=
  Category.spaceSeparator.set.diff (.ofCodes [0xA0, 0x2007, 0x202F])

/-- All classes. -/
def classes : List BreakClass :=
  [⟨["cr"], carriageReturn⟩,
    ⟨["lf"], lineFeed⟩,
    ⟨["nl", "newline"], newline⟩,
    ⟨["extend"], extend⟩,
    ⟨["zwj"], zeroWidthJoiner⟩,
    ⟨["fo", "format"], format⟩,
    ⟨["ri", "regionalindicator"], regionalIndicator⟩,
    ⟨["ka", "katakana"], katakana⟩,
    ⟨["hl", "hebrewletter"], hebrewLetter⟩,
    ⟨["le", "aletter"], letter⟩,
    ⟨["sq", "singlequote"], .single '\''⟩,
    ⟨["dq", "doublequote"], .single '"'⟩,
    ⟨["mb", "midnumlet"], middleBoth⟩,
    ⟨["ml", "midletter"], middleLetter⟩,
    ⟨["mn", "midnum"], middleNumber⟩,
    ⟨["nu", "numeric"], numeric⟩,
    ⟨["ex", "extendnumlet"], connector⟩,
    ⟨["wsegspace"], space⟩]

end Vignette.Text.Break.Word
