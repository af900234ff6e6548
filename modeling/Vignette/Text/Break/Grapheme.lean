import Vignette.Text.Property.Derived

/-!
# `Vignette.Text.Break.Grapheme`: the classes of characters within graphemes

What a reader takes for one character can be several. Where such clusters end
depends on classes of characters, which do not overlap.
-/

set_option autoImplicit false

namespace Vignette.Text

/-- A class of characters with its names. -/
structure BreakClass where
  names : List String
  set : CharSet

namespace Break

open Property

def carriageReturn : CharSet := .single '\r'

def lineFeed : CharSet := .single '\n'

def zeroWidthJoiner : CharSet := .ofCodes [0x200D]

namespace Grapheme

/-- Marks and what else attaches to the character before. -/
def extend : CharSet :=
  graphemeExtend.union emojiModifier

/-- Letters and signs that attach to the character behind. -/
def prepend : CharSet :=
  prependedMark.union <| .ofRanges
    [ ⟨0xD4E, 0xD4E⟩, ⟨0x111C2, 0x111C3⟩, ⟨0x113D1, 0x113D1⟩, ⟨0x1193F, 0x1193F⟩,
      ⟨0x11941, 0x11941⟩, ⟨0x11A3A, 0x11A3A⟩, ⟨0x11A84, 0x11A89⟩, ⟨0x11D46, 0x11D46⟩,
      ⟨0x11F02, 0x11F02⟩ ]

/-- Separators of lines, controls, and what is ignored and may be so later. -/
def control : CharSet :=
  (CharSet.unionAll [Category.setOf [.lineSeparator, .paragraphSeparator, .control, .format],
    defaultIgnorable.diff assigned]).diff
    (.unionAll [extend, prependedMark, joinControl, carriageReturn, lineFeed])

/-- Spacing marks that stand for themselves. -/
def aloneMarks : CharSet := .ofRanges
  [ ⟨0x102B, 0x102C⟩, ⟨0x1038, 0x1038⟩, ⟨0x1062, 0x1064⟩, ⟨0x1067, 0x106D⟩, ⟨0x1083, 0x1083⟩,
    ⟨0x1087, 0x108C⟩, ⟨0x108F, 0x108F⟩, ⟨0x109A, 0x109C⟩, ⟨0x1A61, 0x1A61⟩, ⟨0x1A63, 0x1A64⟩,
    ⟨0xAA7B, 0xAA7B⟩, ⟨0xAA7D, 0xAA7D⟩, ⟨0x11720, 0x11721⟩ ]

def spacingMark : CharSet :=
  (Category.spacingMark.set.union (.ofCodes [0xE33, 0xEB3])).diff (extend.union aloneMarks)

/-- The first consonants of Korean syllables. -/
def leading : CharSet :=
  .ofRanges [⟨0x1100, 0x115F⟩, ⟨0xA960, 0xA97C⟩]

/-- The vowels of Korean syllables, and vowels that behave like them. -/
def vowel : CharSet :=
  .ofRanges [⟨0x1160, 0x11A7⟩, ⟨0xD7B0, 0xD7C6⟩, ⟨0x16D63, 0x16D63⟩, ⟨0x16D67, 0x16D6A⟩]

/-- The last consonants of Korean syllables. -/
def trailing : CharSet :=
  .ofRanges [⟨0x11A8, 0x11FF⟩, ⟨0xD7CB, 0xD7FB⟩]

/-- Korean syllables without a last consonant. -/
def openSyllable : CharSet := .ofRuns [⟨0xAC00, 0xD788, 28⟩]

/-- Korean syllables with a last consonant. -/
def closedSyllable : CharSet :=
  CharSet.diff (.ofRanges [⟨0xAC00, 0xD7A3⟩]) openSyllable

/-- All classes. -/
def classes : List BreakClass :=
  [⟨["cr"], carriageReturn⟩,
    ⟨["lf"], lineFeed⟩,
    ⟨["cn", "control"], control⟩,
    ⟨["ex", "extend"], extend⟩,
    ⟨["zwj"], zeroWidthJoiner⟩,
    ⟨["ri", "regionalindicator"], regionalIndicator⟩,
    ⟨["pp", "prepend"], prepend⟩,
    ⟨["sm", "spacingmark"], spacingMark⟩,
    ⟨["l"], leading⟩,
    ⟨["v"], vowel⟩,
    ⟨["t"], trailing⟩,
    ⟨["lv"], openSyllable⟩,
    ⟨["lvt"], closedSyllable⟩]

end Grapheme

end Break

end Vignette.Text
