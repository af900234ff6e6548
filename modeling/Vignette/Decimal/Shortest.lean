import Vignette.Text

/-!
# `Vignette.Decimal.Shortest`: the shortest decimal that reads back

A finite binary number is `m * 2 ^ q`. The reals that round to it form an
interval around it, its ends included when `m` is even. Of all multiples of a
power of ten in that interval the ones of the greatest power are the shortest
decimals, and of those the nearest to the number is taken, of two that are
equally near the one with an even last digit. All arithmetic is exact.
-/

set_option autoImplicit false

namespace Vignette

/-- The number `digits * 10 ^ exponent`, negated when `negative`. -/
structure Decimal where
  negative : Bool
  digits : Nat
  exponent : Int
  deriving DecidableEq, Repr

namespace Decimal

/-- A positive binary number with the interval of reals that round to it. -/
structure Rounding where
  /-- The number is `mantissa * 2 ^ exponent`. -/
  mantissa : Nat
  exponent : Int
  /-- Whether the next smaller number is only half as far away as the next
  greater one. -/
  closerBelow : Bool

namespace Rounding

/-- A quarter of the distance to the next greater number, as a fraction. -/
def quarter (r : Rounding) : Nat × Nat :=
  (1 <<< (r.exponent - 2).toNat, 1 <<< (2 - r.exponent).toNat)

/-- `10 ^ e`, as a fraction. -/
def grid (e : Int) : Nat × Nat :=
  (Nat.pow 10 e.toNat, Nat.pow 10 (-e).toNat)

/-- Whether `c * 10 ^ e` rounds to the number. -/
def holds (r : Rounding) (e : Int) (c : Nat) : Bool :=
  let (un, ud) := r.quarter
  let (pn, pd) := grid e
  let value := c * pn * ud
  let low := (4 * r.mantissa - if r.closerBelow then 1 else 2) * un * pd
  let high := (4 * r.mantissa + 2) * un * pd
  if r.mantissa % 2 = 0 then low ≤ value && value ≤ high
  else low < value && value < high

/-- The multiple of `10 ^ e` nearest to the number among those that round to
it, if any does. Halfway between two it is the even one. -/
def nearest? (r : Rounding) (e : Int) : Option Nat :=
  let (un, ud) := r.quarter
  let (pn, pd) := grid e
  let value := 4 * r.mantissa * un * pd
  let unit := pn * ud
  let below := value / unit
  let twice := 2 * (value % unit)
  match r.holds e below, r.holds e (below + 1) with
  | true, true =>
    some (if twice < unit || (twice == unit && below % 2 == 0) then below else below + 1)
  | true, false => some below
  | false, true => some (below + 1)
  | false, false => none

/-- Tries the powers of ten from `10 ^ e` downwards, `n` of them. -/
def search (r : Rounding) : Nat → Int → Nat × Int
  | 0, e => (0, e)
  | n + 1, e =>
    match r.nearest? e with
    | some c => (c, e)
    | none => search r n (e - 1)

/-- An exponent `e` with the number at most `10 ^ e`. -/
def ceiling (r : Rounding) : Int :=
  let (un, ud) := r.quarter
  let num := 4 * r.mantissa * un
  if ud ≤ num then (Nat.toDigits 10 (num / ud)).length
  else 1 - ((Nat.toDigits 10 (ud / num)).length : Int)

/-- The digits and the exponent of the shortest decimal. Seventeen digits are
always enough, and the first power of ten tried is at most two above the first
digit. -/
def shortest (r : Rounding) : Nat × Int :=
  r.search 20 r.ceiling

end Rounding

/-- The leading bit of a mantissa, which is not stored. -/
def hiddenBit : Nat := 0x10000000000000

/-- The shortest decimal of a finite number. -/
def ofFloat (x : Float) : Decimal :=
  let bits := x.toBits
  let negative := bits >>> 63 != 0
  let biased := (bits >>> 52 &&& 0x7FF).toNat
  let fraction := (bits &&& 0xFFFFFFFFFFFFF).toNat
  if biased = 0 ∧ fraction = 0 then ⟨negative, 0, 0⟩
  else
    let r : Rounding :=
      -- Numbers near zero have no hidden bit and are spaced evenly.
      if biased = 0 then ⟨fraction, -1074, false⟩
      else ⟨hiddenBit + fraction, (biased : Int) - 1075, fraction = 0 ∧ 1 < biased⟩
    let (digits, exponent) := r.shortest
    ⟨negative, digits, exponent⟩

/-! ### Text -/

/-- The exponent of the first digit. -/
def leading (d : Decimal) : Int :=
  d.exponent + ((Nat.toDigits 10 d.digits).length : Int) - 1

/-- Plain notation, with at least one digit on either side of the point. -/
def plain (d : Decimal) : Text :=
  let digits := Nat.toDigits 10 d.digits
  if 0 ≤ d.exponent then digits ++ List.replicate d.exponent.toNat '0' ++ ['.', '0']
  else
    let places := (-d.exponent).toNat
    let padded := List.replicate (places + 1 - digits.length) '0' ++ digits
    let split := padded.length - places
    padded.take split ++ '.' :: padded.drop split

/-- Scientific notation: the point is left out after a lone digit, and the
exponent always has a sign. -/
def scientific (d : Decimal) : Text :=
  let mantissa : Text :=
    match Nat.toDigits 10 d.digits with
    | first :: second :: rest => first :: '.' :: second :: rest
    | digits => digits
  mantissa ++ 'e' :: (if d.leading < 0 then '-' else '+') :: Nat.toDigits 10 d.leading.natAbs

/-- Plain notation from `10 ^ -5` up to `10 ^ 16`, scientific notation outside. -/
def text (d : Decimal) : Text :=
  let sign : Text := if d.negative then ['-'] else []
  sign ++ if -5 ≤ d.leading ∧ d.leading < 16 then d.plain else d.scientific

end Decimal

end Vignette
