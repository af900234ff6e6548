import Vignette.Text

/-!
# `Vignette.Pattern.Fault`: what can be wrong with a pattern, and where

The report of a fault shows the pattern with the faulty part underlined, and the
reason below it.
-/

set_option autoImplicit false

namespace Vignette.Pattern

/-- A part of a pattern: how many characters are left from its start, and how
many behind its end. -/
structure Extent where
  left : Nat
  behind : Nat
  deriving DecidableEq, Repr

namespace Extent

/-- From the start of one rest of a pattern up to the start of another. -/
def between (start stop : Text) : Extent :=
  ⟨start.length, stop.length⟩

/-- The empty part before a rest. -/
def before (t : Text) : Extent :=
  ⟨t.length, t.length⟩

/-- The first character of a rest. -/
def first (t : Text) : Extent :=
  ⟨t.length, t.length - 1⟩

end Extent

/-- The greatest depth of groups, brackets and repetitions in each other. -/
def maxDepth : Nat := 250

/-- The greatest number of bytes that the machine of a pattern may take. -/
def maxBytes : Nat := 10485760

/-- Why a pattern makes no sense. -/
inductive Reason where
  | badClassEscape
  | badClassRange
  | badClassRangeEnd
  | unclosedClass
  | emptyCount
  | badCount
  | emptyHex
  | badHex
  | badHexDigit
  | endInEscape
  | unknownEscape
  | danglingNegation
  | duplicateFlag
  | repeatedNegation
  | endInFlags
  | unknownFlag
  | duplicateName
  | emptyName
  | badNameCharacter
  | endInName
  | unclosedGroup
  | unopenedGroup
  | tooDeep
  | badRepetition
  | unclosedCount
  | nothingRepeated
  | unclosedEdge
  | unknownEdge
  | endInEdge
  | badProperty
  | backreference
  | lookAround
  /-- Characters beyond ASCII where they are switched off. -/
  | beyondAscii
  /-- Half a character could match. -/
  | brokenEncoding
  | unknownProperty
  | unknownPropertyValue
  deriving DecidableEq, Repr

/-- The wording of a reason. -/
def Reason.message : Reason → String
  | badClassEscape => "invalid escape sequence found in character class"
  | badClassRange => "invalid character class range, the start must be <= the end"
  | badClassRangeEnd => "invalid range boundary, must be a literal"
  | unclosedClass => "unclosed character class"
  | emptyCount => "repetition quantifier expects a valid decimal"
  | badCount => "decimal literal invalid"
  | emptyHex => "hexadecimal literal empty"
  | badHex => "hexadecimal literal is not a Unicode scalar value"
  | badHexDigit => "invalid hexadecimal digit"
  | endInEscape => "incomplete escape sequence, reached end of pattern prematurely"
  | unknownEscape => "unrecognized escape sequence"
  | danglingNegation => "dangling flag negation operator"
  | duplicateFlag => "duplicate flag"
  | repeatedNegation => "flag negation operator repeated"
  | endInFlags => "expected flag but got end of regex"
  | unknownFlag => "unrecognized flag"
  | duplicateName => "duplicate capture group name"
  | emptyName => "empty capture group name"
  | badNameCharacter => "invalid capture group character"
  | endInName => "unclosed capture group name"
  | unclosedGroup => "unclosed group"
  | unopenedGroup => "unopened group"
  | tooDeep => s!"exceed the maximum number of nested parentheses/brackets ({maxDepth})"
  | badRepetition => "invalid repetition count range, the start must be <= the end"
  | unclosedCount => "unclosed counted repetition"
  | nothingRepeated => "repetition operator missing expression"
  | unclosedEdge =>
    "special word boundary assertion is either unclosed or contains an invalid character"
  | unknownEdge =>
    "unrecognized special word boundary assertion, valid choices are: " ++
      "start, end, start-half or end-half"
  | endInEdge =>
    "found either the beginning of a special word boundary or a bounded repetition on a \\b " ++
      "with an opening brace, but no closing brace"
  | badProperty => "invalid Unicode character class"
  | backreference => "backreferences are not supported"
  | lookAround => "look-around, including look-ahead and look-behind, is not supported"
  | beyondAscii => "Unicode not allowed here"
  | brokenEncoding => "pattern can match invalid UTF-8"
  | unknownProperty => "Unicode property not found"
  | unknownPropertyValue => "Unicode property value not found"

/-- What is wrong with a pattern. -/
inductive Fault where
  /-- A part makes no sense. For a part that says again what was said before,
  the earlier one stands beside it. -/
  | senseless (reason : Reason) (part : Extent) (earlier : Option Extent)
  /-- The machine of the pattern takes too many bytes. -/
  | tooLarge
  deriving DecidableEq, Repr

namespace Fault

/-- A part makes no sense, and no other one is to blame. -/
def on (reason : Reason) (part : Extent) : Fault :=
  senseless reason part none

/-! ### Reports -/

/-- A place in a text, by line and column from 0. -/
structure Place where
  line : Nat
  column : Nat

/-- The place behind the first `n` characters. -/
def place (t : Text) (n : Nat) : Place :=
  let passed := t.take n
  ⟨passed.count '\n', (passed.reverse.takeWhile (· != '\n')).length⟩

/-- A part of a text by the places at its ends. -/
structure Marked where
  start : Place
  stop : Place

/-- Where a part of the text is. -/
def marked (t : Text) (part : Extent) : Marked :=
  ⟨place t (t.length - part.left), place t (t.length - part.behind)⟩

def blanks (n : Nat) : Text :=
  List.replicate n ' '

/-- The line that underlines parts of the line above. An empty part gets one
mark. Parts come in order. -/
def underline (margin : Nat) (parts : List Marked) : Text :=
  let (marks, _) := parts.foldl (fun (marks, column) part =>
    let width := max 1 (part.stop.column - part.start.column)
    let gap := part.start.column - column
    (marks ++ blanks gap ++ List.replicate width '^', column + gap + width)) (blanks margin, 0)
  marks

/-- The lines of a pattern, each with its marks below. Lines are numbered where
there are several. -/
def notated (t : Text) (parts : List Marked) : List Text :=
  let lines := Text.lines t
  -- A part can lie behind the last line feed.
  let count := lines.length + if t.getLast? = some '\n' then 1 else 0
  let width := if count ≤ 1 then 0 else (Nat.toDigits 10 count).length
  let margin := if width = 0 then 4 else width + 2
  lines.zipIdx.flatMap fun (line, index) =>
    let number := Nat.toDigits 10 (index + 1)
    let head : Text :=
      if width = 0 then blanks margin
      else blanks (width - number.length) ++ number ++ [':', ' ']
    let here := parts.filter fun part => part.start.line = index && part.stop.line = index
    if here.isEmpty then [head ++ line] else [head ++ line, underline margin here]

/-- Where a part that goes over several lines is. -/
def span (part : Marked) : Text :=
  let l₁ := part.start.line + 1
  let c₁ := part.start.column + 1
  let l₂ := part.stop.line + 1
  let c₂ := part.stop.column
  (s!"on line {l₁} (column {c₁}) through line {l₂} (column {c₂})").toList

/-- The lines of the report about a part of the pattern `t`. -/
def reportLines (t : Text) (reason : Reason) (parts : List Extent) : List Text :=
  let parts := parts.map (marked t)
  let lines := notated t parts
  let last := "error: ".toList ++ reason.message.toList
  if t.any (· == '\n') then
    let divider : Text := List.replicate 79 '~'
    let long := parts.filter fun part => part.start.line != part.stop.line
    "regex parse error:".toList :: divider :: lines ++ divider :: long.map span ++ [last]
  else "regex parse error:".toList :: lines ++ [last]

/-- The report about the pattern `t`. -/
def report (t : Text) : Fault → Text
  | senseless reason part earlier =>
    ['\n'].intercalate (reportLines t reason (earlier.toList ++ [part]))
  | tooLarge => (s!"Compiled regex exceeds size limit of {maxBytes} bytes.").toList

end Fault

end Vignette.Pattern
