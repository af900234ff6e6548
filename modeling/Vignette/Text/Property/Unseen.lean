import Vignette.Text.CharSet

/-!
# `Vignette.Text.Property.Unseen`: code points without a form of their own
-/

set_option autoImplicit false

namespace Vignette.Text.Property

/-- The two characters that join others or keep them apart. -/
def joinControl : CharSet :=
  .ofRanges [⟨0x200C, 0x200D⟩]

/-- The characters that choose a form of the one before. -/
def variationSelector : CharSet :=
  .ofRanges [⟨0x180B, 0x180D⟩, ⟨0x180F, 0x180F⟩, ⟨0xFE00, 0xFE0F⟩, ⟨0xE0100, 0xE01EF⟩]

/-- The code points that are never given to characters. -/
def noncharacter : CharSet := .ofRanges
  [ ⟨0xFDD0, 0xFDEF⟩, ⟨0xFFFE, 0xFFFF⟩, ⟨0x1FFFE, 0x1FFFF⟩, ⟨0x2FFFE, 0x2FFFF⟩, ⟨0x3FFFE, 0x3FFFF⟩,
    ⟨0x4FFFE, 0x4FFFF⟩, ⟨0x5FFFE, 0x5FFFF⟩, ⟨0x6FFFE, 0x6FFFF⟩, ⟨0x7FFFE, 0x7FFFF⟩,
    ⟨0x8FFFE, 0x8FFFF⟩, ⟨0x9FFFE, 0x9FFFF⟩, ⟨0xAFFFE, 0xAFFFF⟩, ⟨0xBFFFE, 0xBFFFF⟩,
    ⟨0xCFFFE, 0xCFFFF⟩, ⟨0xDFFFE, 0xDFFFF⟩, ⟨0xEFFFE, 0xEFFFF⟩, ⟨0xFFFFE, 0xFFFFF⟩,
    ⟨0x10FFFE, 0x10FFFF⟩ ]

/-- What is ignored in writing besides format characters and variation selectors. -/
def otherDefaultIgnorable : CharSet := .ofRanges
  [ ⟨0x34F, 0x34F⟩, ⟨0x115F, 0x1160⟩, ⟨0x17B4, 0x17B5⟩, ⟨0x2065, 0x2065⟩, ⟨0x3164, 0x3164⟩,
    ⟨0xFFA0, 0xFFA0⟩, ⟨0xFFF0, 0xFFF8⟩, ⟨0xE0000, 0xE0000⟩, ⟨0xE0002, 0xE001F⟩, ⟨0xE0080, 0xE00FF⟩,
    ⟨0xE01F0, 0xE0FFF⟩ ]

end Vignette.Text.Property
