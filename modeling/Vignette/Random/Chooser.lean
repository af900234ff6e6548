/-!
# `Vignette.Random.Chooser`: random choices, whatever they come from

Generation makes two kinds of choices: which candidate of a category to use,
and which span of a text to cut. A `Chooser` makes both. What it is built on is
left open: a theorem about every chooser covers every random source.
-/

set_option autoImplicit false

namespace Vignette

/-- Makes one choice at a time and carries a state of type `σ`. Asked for one of
`n + 1` alternatives it answers with the number of one of them. -/
structure Chooser (σ : Type) where
  /-- Chooses one of `n + 1` candidates. -/
  candidate : (n : Nat) → σ → Fin (n + 1) × σ
  /-- Chooses one of `n + 1` spans. -/
  span : (n : Nat) → σ → Fin (n + 1) × σ

end Vignette
