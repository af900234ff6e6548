import Vignette.Text
import Vignette.Text.GraphemeExtend
import Vignette.Text.Unprintable

/-!
# `Vignette.Text.Quoted`: texts in messages, quoted

A quoted text stands between double quotes. Double quotes and backslashes carry
a backslash, NUL, tab, line feed and carriage return have short escapes, and a
character that would not show by itself is written by its code point.
-/

set_option autoImplicit false

namespace Vignette.Text

/-- One character inside quotes. -/
def escape (c : Char) : Text :=
  if c = '"' then ['\\', '"']
  else if c = '\\' then ['\\', '\\']
  else if c = '\x00' then ['\\', '0']
  else if c = '\t' then ['\\', 't']
  else if c = '\n' then ['\\', 'n']
  else if c = '\r' then ['\\', 'r']
  else if isUnprintable c || isGraphemeExtend c then
    ['\\', 'u', '\x7b'] ++ Nat.toDigits 16 c.toNat ++ ['\x7d']
  else [c]

/-- The text between double quotes. -/
def quoted (t : Text) : Text :=
  '"' :: (t.flatMap escape ++ ['"'])

end Vignette.Text
