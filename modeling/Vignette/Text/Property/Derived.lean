import Vignette.Text.Age
import Vignette.Text.CaseFold
import Vignette.Text.GraphemeExtend
import Vignette.Text.Property.Emoji
import Vignette.Text.Property.Letters
import Vignette.Text.Property.Signs
import Vignette.Text.Property.Unseen
import Vignette.Text.Uppercase
import Vignette.Text.Word

/-!
# `Vignette.Text.Property.Derived`: sets that follow from categories and properties

All sets hold characters only that are assigned up to version 16.0, apart from
those that are kept for later characters on purpose.
-/

set_option autoImplicit false

namespace Vignette.Text

/-- The pharyngeal letter that counts as lowercase up to version 16.0. -/
def pharyngeal : CharSet := .ofCodes [0x295]

/-- The characters of a category. -/
def Category.set (k : Category) : CharSet :=
  let known := (CharSet.ofRuns k.runs).inter assigned
  match k with
  | lowercaseLetter => known.union pharyngeal
  | otherLetter => known.diff pharyngeal
  | _ => known

/-- The characters of some categories. -/
def Category.setOf (ks : List Category) : CharSet :=
  .unionAll (ks.map Category.set)

namespace Property

/-- The characters of ranges that are assigned. -/
def known (rs : List CodeRange) : CharSet :=
  (CharSet.ofRanges rs).inter assigned

/-! ### Letters and words -/

def otherAlphabetic : CharSet := known Text.otherAlphabetic

def otherLowercase : CharSet := known Text.otherLowercase

def otherUppercase : CharSet := known Text.otherUppercase

def lowercase : CharSet :=
  Category.lowercaseLetter.set.union otherLowercase

def uppercase : CharSet :=
  Category.uppercaseLetter.set.union otherUppercase

/-- Lowercase, uppercase and titlecase characters. -/
def cased : CharSet :=
  .unionAll [lowercase, uppercase, Category.titlecaseLetter.set]

def letters : CharSet :=
  Category.setOf Category.letters

def alphabetic : CharSet :=
  .unionAll [letters, Category.letterNumber.set, otherAlphabetic]

def marks : CharSet :=
  Category.setOf Category.marks

/-- The characters of words. -/
def wordPart : CharSet :=
  .unionAll [alphabetic, marks, Category.decimalNumber.set, Category.connectorPunctuation.set,
    joinControl]

def math : CharSet :=
  Category.mathSymbol.set.union otherMath

/-! ### Case -/

/-- The characters that runs move to assigned ones. -/
def moved (runs : List CaseRun) : CharSet :=
  .ofCodes (runs.flatMap fun r => r.codes.filter fun n => assigned.has (Char.ofNat (r.move n)))

def changesWhenUppercased : CharSet :=
  ((moved uppercaseRuns).union (.ofCodes (uppercaseExpansions.map (·.1)))).inter assigned

/-- The digraphs whose forms in uppercase and titlecase differ. -/
def digraphs : CharSet := .ofCodes [0x1C4, 0x1C7, 0x1CA, 0x1F1]

/-- The characters with an uppercase form that are their own titlecase form. -/
def titlecaseForms : CharSet :=
  Category.titlecaseLetter.set.union
    (.ofRanges [⟨0x10D0, 0x10FA⟩, ⟨0x10FD, 0x10FF⟩])

def changesWhenTitlecased : CharSet :=
  (changesWhenUppercased.union digraphs).diff titlecaseForms

/-- The letters of the Cherokee script that others fold to, though they are in
uppercase. -/
def cherokeeCapitals : CharSet :=
  .ofRanges [⟨0x13A0, 0x13F5⟩]

def changesWhenLowercased : CharSet :=
  .unionAll [foldable.diff lowercase, cherokeeCapitals, .ofCodes [0x130]]

/-- The characters that fold to several ones. -/
def expandedByFolding : CharSet := .ofRanges
  [ ⟨0xDF, 0xDF⟩, ⟨0x130, 0x130⟩, ⟨0x149, 0x149⟩, ⟨0x587, 0x587⟩, ⟨0x1E9A, 0x1E9A⟩,
    ⟨0x1F80, 0x1F87⟩, ⟨0x1F90, 0x1F97⟩, ⟨0x1FA0, 0x1FA7⟩, ⟨0x1FB2, 0x1FB4⟩, ⟨0x1FB7, 0x1FB7⟩,
    ⟨0x1FC2, 0x1FC4⟩, ⟨0x1FC7, 0x1FC7⟩, ⟨0x1FF2, 0x1FF4⟩, ⟨0x1FF7, 0x1FF7⟩, ⟨0xFB00, 0xFB04⟩,
    ⟨0xFB06, 0xFB06⟩, ⟨0xFB13, 0xFB17⟩ ]

/-- The characters that are made up of folded ones. -/
def madeOfFolded : CharSet := .ofCodes [0x1FBE, 0x1FD3, 0x1FE3]

def changesWhenFolded : CharSet :=
  (foldable.union expandedByFolding).diff madeOfFolded

def changesWhenCaseMapped : CharSet :=
  .unionAll [changesWhenLowercased, changesWhenUppercased, changesWhenTitlecased]

/-- The punctuation that case looks through. -/
def innerPunctuation : CharSet :=
  .ofCodes [0x27, 0x2E, 0x3A, 0xB7, 0x387, 0x55F, 0x5F4, 0x2018, 0x2019, 0x2024, 0x2027, 0xFE13,
    0xFE52, 0xFE55, 0xFF07, 0xFF0E, 0xFF1A]

def caseIgnorable : CharSet :=
  (Category.setOf [.nonspacingMark, .enclosingMark, .format, .modifierLetter,
    .modifierSymbol]).union innerPunctuation

/-! ### Graphemes -/

/-- The two marks of voicing that take half a width. -/
def voicingMarks : CodeRange := ⟨0xFF9E, 0xFF9F⟩

def otherGraphemeExtend : CharSet :=
  known (voicingMarks :: otherExtenders)

def graphemeExtend : CharSet :=
  (Category.setOf [.nonspacingMark, .enclosingMark]).union otherGraphemeExtend

def graphemeBase : CharSet :=
  (Category.setOf (.spaceSeparator :: Category.visible)).diff graphemeExtend

/-- The format characters that are not ignored. -/
def shownFormat : CharSet :=
  prependedMark.union (.ofRanges [⟨0xFFF9, 0xFFFB⟩, ⟨0x13430, 0x13440⟩])

def defaultIgnorable : CharSet :=
  .unionAll [Category.format.set.diff shownFormat, variationSelector, otherDefaultIgnorable]

/-! ### Identifiers -/

/-- What is kept for the syntax of patterns. -/
def syntactic : CharSet :=
  patternSyntax.union patternWhiteSpace

def idStart : CharSet :=
  (CharSet.unionAll [letters, Category.letterNumber.set, otherIdStart]).diff syntactic

def idContinue : CharSet :=
  (CharSet.unionAll [idStart,
    Category.setOf [.nonspacingMark, .spacingMark, .decimalNumber, .connectorPunctuation],
    otherIdContinue]).diff syntactic

/-- What is no start of an identifier once it is normalized. -/
def notNormalStart : CharSet := .ofRanges
  [ ⟨0x37A, 0x37A⟩, ⟨0xE33, 0xE33⟩, ⟨0xEB3, 0xEB3⟩, ⟨0x309B, 0x309C⟩, ⟨0xFC5E, 0xFC63⟩,
    ⟨0xFDFA, 0xFDFB⟩, ⟨0xFE70, 0xFE70⟩, ⟨0xFE72, 0xFE72⟩, ⟨0xFE74, 0xFE74⟩, ⟨0xFE76, 0xFE76⟩,
    ⟨0xFE78, 0xFE78⟩, ⟨0xFE7A, 0xFE7A⟩, ⟨0xFE7C, 0xFE7C⟩, ⟨0xFE7E, 0xFE7E⟩, ⟨0xFF9E, 0xFF9F⟩ ]

/-- What is no part of an identifier once it is normalized. -/
def notNormalContinue : CharSet :=
  notNormalStart.diff (.ofCodes [0xE33, 0xEB3, 0xFF9E, 0xFF9F])

def normalIdStart : CharSet :=
  idStart.diff notNormalStart

def normalIdContinue : CharSet :=
  idContinue.diff notNormalContinue

end Property

end Vignette.Text
