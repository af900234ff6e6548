import Vignette.Text

/-!
# `Vignette.Text.ControlSequence`: texts without terminal control

A terminal takes an escape character and what follows it as a command. The
reader here follows the commands with one state and drops them, together with
all other control characters but the white space among them. White space inside
a command shows, and with it the text behind it up to the next control
character. Characters are read one by one, and the reader never looks ahead.
-/

set_option autoImplicit false

namespace Vignette.Text

/-- How much of a control sequence has been read. -/
inductive Control where
  /-- Nothing: the text itself. -/
  | plain
  /-- An escape character. -/
  | escape
  /-- An escape character and intermediate characters. -/
  | escapeMore
  /-- The parameters of a control sequence. -/
  | parameters
  /-- The start of a device string. -/
  | device
  /-- The parameters of a device string. -/
  | deviceParameters
  /-- The intermediate characters of a device string. -/
  | deviceMore
  /-- The body of a string, which goes on to an escape character. -/
  | body
  /-- The body of a system command, which a bell ends too. -/
  | command
  deriving DecidableEq, Repr

/-- White space among the control characters. Vertical tabs do not count. -/
def isBlankControl (c : Char) : Bool :=
  c == '\t' || c == '\n' || c == '\x0C' || c == '\r'

/-- Whether a character of the text itself shows. -/
def isShown (c : Char) : Bool :=
  isBlankControl c || (' ' ≤ c && c != '\x7F')

/-- Whether `c` lies between `first` and `last`. -/
def isWithin (first last c : Char) : Bool :=
  first ≤ c && c ≤ last

/-- Whether `c` is beyond ASCII and a byte of its UTF-8 form is the one that ends
a string. The bytes of a character each carry six of its bits, but the first. -/
def hasTerminatorByte (c : Char) : Bool :=
  let n := c.toNat
  0x80 ≤ n && (n % 64 == 0x1C ||
    (0x800 ≤ n && n / 64 % 64 == 0x1C) || (0x10000 ≤ n && n / 4096 % 64 == 0x1C))

namespace Control

/-- The state behind an escape character and `c`. -/
def afterEscape (c : Char) : Control :=
  if isWithin ' ' '/' c then escapeMore
  else if c = '[' then parameters
  else if c = ']' then command
  else if c = 'P' then device
  else if c = 'X' ∨ c = '^' ∨ c = '_' then body
  else if isWithin '0' '~' c then plain
  else escape

/-- The state behind a character that does not show. -/
def next (s : Control) (c : Char) : Control :=
  if c = '\x1B' then escape
  else if c = '\x18' ∨ c = '\x1A' then plain
  else
    match s with
    | plain => plain
    | escape => afterEscape c
    | escapeMore => if isWithin '0' '~' c then plain else escapeMore
    | parameters => if isWithin '@' '~' c then plain else parameters
    | device =>
      if isWithin ' ' '/' c then deviceMore
      else if isWithin '0' '?' c then deviceParameters
      else if isWithin '@' '~' c then body
      else device
    | deviceParameters =>
      if isWithin ' ' '/' c then deviceMore
      else if isWithin '<' '~' c then body
      else deviceParameters
    | deviceMore => if isWithin '0' '~' c then body else deviceMore
    | body => if hasTerminatorByte c then plain else body
    | command => if c = '\x07' then plain else command

/-- Whether a character shows in a state. White space shows in a sequence that
has no body. -/
def shows (s : Control) (c : Char) : Bool :=
  match s with
  | plain => isShown c
  | escape | escapeMore | parameters => isBlankControl c
  | _ => false

end Control

/-- Where reading has come to. Once a character shows, all characters of the text
itself do. The sequence that it stands in goes on at the next control character,
unless a character beyond ASCII ends it before. -/
structure Reading where
  control : Control
  showing : Bool

namespace Reading

/-- The start of a text. -/
def start : Reading := ⟨.plain, false⟩

/-- Whether a character shows. -/
def shows (r : Reading) (c : Char) : Bool :=
  if r.showing then isShown c else r.control.shows c

/-- Where reading comes to behind a character. -/
def next (r : Reading) (c : Char) : Reading :=
  if r.shows c then ⟨if c.toNat < 0x80 then r.control else .plain, true⟩
  else ⟨r.control.next c, false⟩

end Reading

/-- What shows of a text behind a place. -/
def shownFrom (r : Reading) : Text → Text
  | [] => []
  | c :: t =>
    if r.shows c then c :: shownFrom (r.next c) t else shownFrom (r.next c) t

/-- The text without control sequences. -/
def withoutControls (t : Text) : Text :=
  shownFrom .start t

end Vignette.Text
