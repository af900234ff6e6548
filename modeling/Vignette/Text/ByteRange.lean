import Vignette.Text.CharSet

/-!
# `Vignette.Text.ByteRange`: sets of characters as ranges of bytes

A character takes one to four bytes in UTF-8, whose values keep the order of the
characters. So a range of characters falls into rows of ranges of bytes: a row
has the characters with one byte from each of its ranges.
-/

set_option autoImplicit false

namespace Vignette.Text

/-- The bytes from `first` to `last`. -/
structure ByteRange where
  first : Nat
  last : Nat
  deriving DecidableEq, Repr

namespace ByteRange

/-- The bytes behind the first one of a character. -/
def trailing : ByteRange := ⟨0x80, 0xBF⟩

/-- How many values fit into `n` trailing bytes. -/
def blockSize : Nat → Nat
  | 0 => 1
  | n + 1 => 64 * blockSize n

/-- The rows of the numbers from `first` to `last` in `n` trailing bytes behind a
byte that starts at `base`. -/
def rows (base : Nat) : (n first last : Nat) → List (List ByteRange)
  | 0, first, last => [[⟨base + first, base + last⟩]]
  | n + 1, first, last =>
    let size := blockSize (n + 1)
    let low := first / size
    let high := last / size
    if low = high then
      (rows 0x80 n (first % size) (last % size)).map (⟨base + low, base + low⟩ :: ·)
    else
      let fromStart := first % size = 0
      let toEnd := last % size = size - 1
      let before :=
        if fromStart then []
        else (rows 0x80 n (first % size) (size - 1)).map (⟨base + low, base + low⟩ :: ·)
      let behind :=
        if toEnd then []
        else (rows 0x80 n 0 (last % size)).map (⟨base + high, base + high⟩ :: ·)
      let low := if fromStart then low else low + 1
      let high := if toEnd then high else high - 1
      let whole :=
        if low ≤ high then
          [⟨base + low, base + high⟩ :: List.replicate (n + 1) trailing]
        else []
      before ++ whole ++ behind

/-- The characters of one length: the first and last of them, how many trailing
bytes they have, and the byte that their first ones start at. -/
def lengths : List (Nat × Nat × Nat × Nat) :=
  [(0, 0x7F, 0, 0), (0x80, 0x7FF, 1, 0xC0), (0x800, 0xD7FF, 2, 0xE0), (0xE000, 0xFFFF, 2, 0xE0),
    (0x10000, lastCode, 3, 0xF0)]

/-- The rows of a range of characters. -/
def rowsOfRange (r : CodeRange) : List (List ByteRange) :=
  lengths.flatMap fun (first, last, n, base) =>
    let first := Nat.max r.first first
    let last := Nat.min r.last last
    if first ≤ last then rows base n first last else []

end ByteRange

/-- The rows of a set of characters, in order. -/
def CharSet.rows (s : CharSet) : List (List ByteRange) :=
  s.ranges.flatMap ByteRange.rowsOfRange

end Vignette.Text
