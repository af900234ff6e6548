import Vignette.Text.Category

/-!
# `Vignette.Text.Unprintable`: characters without a visible form

Letters, marks, numbers, punctuation, symbols and the ordinary space are
visible. The fillers of the Korean script are letters without a form.
-/

set_option autoImplicit false

namespace Vignette.Text

/-- The letters that stand for a missing letter of a Korean syllable. -/
def koreanFillers : List CodeRange :=
  [⟨0x115F, 0x1160⟩, ⟨0x3164, 0x3164⟩, ⟨0xFFA0, 0xFFA0⟩]

/-- Whether `c` has no visible form. -/
def isUnprintable (c : Char) : Bool :=
  if c.toNat < 0x7F then c.toNat < 0x20
  else !(Category.visible.any (·.has c)) || inRanges koreanFillers c

end Vignette.Text
