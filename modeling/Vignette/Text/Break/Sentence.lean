import Vignette.Text.Break.Word

/-!
# `Vignette.Text.Break.Sentence`: the classes of characters within sentences

Where sentences end depends on classes of characters, which do not overlap.
-/

set_option autoImplicit false

namespace Vignette.Text.Break.Sentence

open Property

def separator : CharSet :=
  .ofRanges [⟨0x85, 0x85⟩, ⟨0x2028, 0x2029⟩]

/-- Marks and what else attaches to the character before. -/
def extend : CharSet :=
  .unionAll [graphemeExtend, Category.spacingMark.set, zeroWidthJoiner]

/-- The format characters that sentences look through. -/
def format : CharSet :=
  Category.format.set.diff (.unionAll [extend, Word.numberSigns])

def space : CharSet :=
  whiteSpace.diff (.unionAll [separator, carriageReturn, lineFeed])

/-- Georgian letters, whose case does not tell where a sentence starts. -/
def georgianLetters : CharSet :=
  .ofRanges [⟨0x10D0, 0x10FA⟩, ⟨0x10FD, 0x10FF⟩, ⟨0x1C90, 0x1CBA⟩, ⟨0x1CBD, 0x1CBF⟩]

def lower : CharSet :=
  lowercase.diff (graphemeExtend.union georgianLetters)

def upper : CharSet :=
  (uppercase.union Category.titlecaseLetter.set).diff georgianLetters

def otherLetter : CharSet :=
  (alphabetic.diff (.unionAll [lower, upper, extend])).union (.ofCodes [0x5F3])

def numeric : CharSet :=
  Word.numeric.union (.ofCodes [0x66C])

/-- Full stops, which may also abbreviate. -/
def stop : CharSet := .ofCodes [0x2E, 0x2024, 0xFE52, 0xFF0E]

def terminal : CharSet :=
  sentenceTerminal.diff stop

def continued : CharSet := .ofRanges
  [ ⟨0x2C, 0x2D⟩, ⟨0x3A, 0x3B⟩, ⟨0x37E, 0x37E⟩, ⟨0x55D, 0x55D⟩, ⟨0x60C, 0x60D⟩, ⟨0x7F8, 0x7F8⟩,
    ⟨0x1802, 0x1802⟩, ⟨0x1808, 0x1808⟩, ⟨0x2013, 0x2014⟩, ⟨0x3001, 0x3001⟩, ⟨0xFE10, 0xFE11⟩,
    ⟨0xFE13, 0xFE14⟩, ⟨0xFE31, 0xFE32⟩, ⟨0xFE50, 0xFE51⟩, ⟨0xFE54, 0xFE55⟩, ⟨0xFE58, 0xFE58⟩,
    ⟨0xFE63, 0xFE63⟩, ⟨0xFF0C, 0xFF0D⟩, ⟨0xFF1A, 0xFF1B⟩, ⟨0xFF64, 0xFF64⟩ ]

/-- Quotes and ornaments that close like brackets. -/
def otherQuotes : CharSet := .ofRanges
  [ ⟨0x22, 0x22⟩, ⟨0x27, 0x27⟩, ⟨0x275B, 0x2760⟩, ⟨0x2E00, 0x2E01⟩, ⟨0x2E06, 0x2E08⟩,
    ⟨0x2E0B, 0x2E0B⟩, ⟨0x1F676, 0x1F678⟩ ]

def close : CharSet :=
  (Category.setOf [.openPunctuation, .closePunctuation, .initialPunctuation,
    .finalPunctuation]).union otherQuotes

/-- All classes. -/
def classes : List BreakClass :=
  [⟨["cr"], carriageReturn⟩,
    ⟨["lf"], lineFeed⟩,
    ⟨["se", "sep"], separator⟩,
    ⟨["ex", "extend"], extend⟩,
    ⟨["fo", "format"], format⟩,
    ⟨["sp"], space⟩,
    ⟨["lo", "lower"], lower⟩,
    ⟨["up", "upper"], upper⟩,
    ⟨["le", "oletter"], otherLetter⟩,
    ⟨["nu", "numeric"], numeric⟩,
    ⟨["at", "aterm"], stop⟩,
    ⟨["sc", "scontinue"], continued⟩,
    ⟨["st", "sterm"], terminal⟩,
    ⟨["cl", "close"], close⟩]

end Vignette.Text.Break.Sentence
