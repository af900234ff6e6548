/-!
# `Vignette.Random.Range`: a uniform index out of uniform words

A `w`-bit word `v` is scaled to an index below `n` by taking the upper half of
the product `v * n`. To keep all indices equally likely the word is refused
when the lower half of the product lies above `zone w n`, and another one is
taken.
-/

set_option autoImplicit false

namespace Vignette.Random

/-- The number of binary digits of `n`. -/
def bitLength (n : Nat) : Nat :=
  if n = 0 then 0 else n.log2 + 1

/-- The greatest lower half of a product with `n` that is kept: `n` shifted
until it fills `w` bits, less one. -/
def zone (w n : Nat) : Nat :=
  n <<< (w - bitLength n) - 1

/-- The upper half of the product of a word and `n` is below `n`. -/
theorem scaled_lt {w : Nat} (v : BitVec w) {n : Nat} (hn : 0 < n) : (v.toNat * n) >>> w < n := by
  rw [Nat.shiftRight_eq_div_pow, Nat.div_lt_iff_lt_mul (Nat.two_pow_pos w), Nat.mul_comm n]
  exact Nat.mul_lt_mul_of_pos_right v.isLt hn

/-- The index below `n + 1` that a word stands for, unless it is refused. -/
def index? {w : Nat} (n : Nat) (v : BitVec w) : Option (Fin (n + 1)) :=
  let product := v.toNat * (n + 1)
  if product % (1 <<< w) ≤ zone w (n + 1) then
    some ⟨product >>> w, scaled_lt v n.succ_pos⟩
  else none

/-- Takes words until one is kept, `tries` at most. When all are refused the
index is 0. -/
def uniform {σ : Type} {w : Nat} (next : σ → BitVec w × σ) (n : Nat) :
    Nat → σ → Fin (n + 1) × σ
  | 0, s => (0, s)
  | tries + 1, s =>
    let (v, s) := next s
    match index? n v with
    | some i => (i, s)
    | none => uniform next n tries s

end Vignette.Random
