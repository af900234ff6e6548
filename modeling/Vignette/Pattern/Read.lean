import Vignette.Pattern.Machine
import Vignette.Pattern.Meaning

/-!
# `Vignette.Pattern.Read`: patterns from texts

A text is read as a written pattern first, so a fault in its form comes before
one in its meaning.
-/

set_option autoImplicit false

namespace Vignette.Pattern

/-- Reads a pattern. -/
def read (t : Text) : Except Fault Pattern := do
  let tree ← Tree.read t
  let p ← tree.meaning
  if p.isTooLarge then .error .tooLarge else return p

end Vignette.Pattern
