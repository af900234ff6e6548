/-!
# `Vignette.Text.CaseRun`: runs of characters that change case alike
-/

set_option autoImplicit false

namespace Vignette.Text

/-- Every `step`-th code point from `first` to `last` has its other form `shift`
further on. -/
structure CaseRun where
  first : Nat
  last : Nat
  step : Nat
  shift : Int

namespace CaseRun

/-- Whether the run moves the code point `n`. -/
def covers (r : CaseRun) (n : Nat) : Bool :=
  r.first ≤ n && n ≤ r.last && (n - r.first) % r.step == 0

/-- Where the run moves the code point `n`. -/
def move (r : CaseRun) (n : Nat) : Nat :=
  (n + r.shift).toNat

/-- The code points that the run moves. -/
def codes (r : CaseRun) : List Nat :=
  (List.range ((r.last - r.first) / r.step + 1)).map fun i => r.first + i * r.step

end CaseRun

end Vignette.Text
