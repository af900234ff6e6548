/-!
# `Vignette.Text`: texts, byte offsets and the first occurrence of a pattern

A text is the list of its characters. Positions inside a text are counted in
bytes of its UTF-8 form, so this file says how long a text is in bytes and cuts
one at a byte offset.

- `Text.byteLength_takeBytes_le` and `Text.byteLength_dropBytes_le`: a cut at
  any offset, on a character boundary or not, keeps at most the bytes asked for.
- `Text.takeBytes_append` and `Text.dropBytes_append`: a cut behind a leading part.
- `Text.replaceFirst` writes over the first occurrence of a pattern and leaves
  everything else alone.
-/

set_option autoImplicit false

namespace Vignette

/-- A text, character by character. -/
abbrev Text := List Char

/-- The name of a category or of a fixer. -/
abbrev Name := Text

namespace Text

/-- The text as a string. -/
def string (t : Text) : String := String.ofList t

/-! ### Bytes -/

/-- The length of the UTF-8 form. -/
def byteLength : Text → Nat
  | [] => 0
  | c :: t => c.utf8Size + byteLength t

/-- The longest run of leading characters that takes at most `n` bytes. -/
def takeBytes (n : Nat) : Text → Text
  | [] => []
  | c :: t => if c.utf8Size ≤ n then c :: takeBytes (n - c.utf8Size) t else []

/-- What is left after the shortest run of leading characters that takes at
least `n` bytes. -/
def dropBytes (n : Nat) : Text → Text
  | [] => []
  | c :: t => if n = 0 then c :: t else dropBytes (n - c.utf8Size) t

theorem byteLength_append (t u : Text) :
    byteLength (t ++ u) = byteLength t + byteLength u := by
  induction t with
  | nil => simp [byteLength]
  | cons c t ih => simp [byteLength, ih, Nat.add_assoc]

theorem byteLength_takeBytes_le (n : Nat) (t : Text) : byteLength (takeBytes n t) ≤ n := by
  induction t generalizing n with
  | nil => simp [takeBytes, byteLength]
  | cons c t ih =>
    unfold takeBytes
    split
    · have := ih (n - c.utf8Size)
      simp only [byteLength]
      omega
    · simp [byteLength]

theorem byteLength_dropBytes_le (n : Nat) (t : Text) :
    byteLength (dropBytes n t) ≤ byteLength t - n := by
  induction t generalizing n with
  | nil => simp [dropBytes, byteLength]
  | cons c t ih =>
    unfold dropBytes
    split
    · omega
    · have := ih (n - c.utf8Size)
      simp only [byteLength]
      omega

/-- Taking the bytes of a leading part gives that part. -/
theorem takeBytes_append (t u : Text) : takeBytes (byteLength t) (t ++ u) = t := by
  induction t with
  | nil =>
    cases u with
    | nil => rfl
    | cons c u =>
      have := c.utf8Size_pos
      simp only [byteLength, List.nil_append, takeBytes]
      rw [if_neg (by omega)]
  | cons c t ih => simp [byteLength, takeBytes, ih]

/-- Dropping the bytes of a leading part leaves the rest. -/
theorem dropBytes_append (t u : Text) : dropBytes (byteLength t) (t ++ u) = u := by
  induction t with
  | nil => cases u <;> rfl
  | cons c t ih =>
    have := c.utf8Size_pos
    simp only [byteLength, List.cons_append, dropBytes]
    rw [if_neg (by omega), Nat.add_sub_cancel_left, ih]

/-! ### The first occurrence of a pattern -/

/-- Splits a text around the first occurrence of `pattern`. -/
def splitFirst? (pattern : Text) : Text → Option (Text × Text)
  | [] => if pattern.isEmpty then some ([], []) else none
  | c :: t =>
    match pattern.isPrefixOf? (c :: t) with
    | some rest => some ([], rest)
    | none => (splitFirst? pattern t).map fun (before, rest) => (c :: before, rest)

/-- Writes `replacement` over the first occurrence of `pattern`, if there is
one. -/
def replaceFirst (t pattern replacement : Text) : Text :=
  match splitFirst? pattern t with
  | some (before, rest) => before ++ replacement ++ rest
  | none => t

/-- Whether `pattern` occurs in the text. -/
def contains (pattern t : Text) : Bool :=
  (splitFirst? pattern t).isSome

/-! ### Lines -/

/-- The lines of a text without their ends. A line ends with a line feed, with a
carriage return before it or without. -/
def lines : Text → List Text
  | [] => []
  | '\n' :: t => [] :: lines t
  | '\r' :: '\n' :: t => [] :: lines t
  | c :: t =>
    match lines t with
    | [] => [[c]]
    | line :: more => (c :: line) :: more

end Text

end Vignette
