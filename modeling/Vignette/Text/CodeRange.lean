/-!
# `Vignette.Text.CodeRange`: sets of characters given by their code points
-/

set_option autoImplicit false

namespace Vignette.Text

/-- All code points from `first` to `last`. -/
structure CodeRange where
  first : Nat
  last : Nat
  deriving DecidableEq, Repr

/-- Whether one of the ranges holds the code point of `c`. -/
def inRanges (ranges : List CodeRange) (c : Char) : Bool :=
  ranges.any fun r => r.first ≤ c.toNat && c.toNat ≤ r.last

/-- Every `step`-th code point from `first` to `last`. -/
structure CodeRun where
  first : Nat
  last : Nat
  step : Nat

/-- Whether one of the runs holds the code point of `c`. -/
def inRuns (runs : List CodeRun) (c : Char) : Bool :=
  runs.any fun r => r.first ≤ c.toNat && c.toNat ≤ r.last && (c.toNat - r.first) % r.step == 0

end Vignette.Text
