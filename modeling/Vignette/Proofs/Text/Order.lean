import Mathlib.Tactic.ByContra
import Mathlib.Tactic.SplitIfs
import Vignette.Text

/-!
# `Vignette.Proofs.Text.Order`: the order of texts is the order of their bytes

Texts are compared character by character. UTF-8 is made so that comparing the
bytes gives the same: a larger character has a larger first byte, or it takes as
many bytes and differs in a later one.

* `Text.encode_lt`: the bytes of a smaller character come first, whatever follows.
* `Text.bytes_lt_iff`: texts are ordered as their bytes are.
* `Least`: the first of the names with a property, byte by byte.
-/

set_option autoImplicit false

namespace Vignette

namespace Text

/-- The UTF-8 form. -/
def bytes (t : Text) : List UInt8 :=
  t.flatMap String.utf8EncodeChar

@[simp] theorem bytes_nil : bytes [] = [] := rfl

@[simp] theorem bytes_cons (c : Char) (t : Text) :
    bytes (c :: t) = String.utf8EncodeChar c ++ bytes t := rfl

/-- Numbers that fit a byte are ordered as their bytes are. -/
theorem cons_ofNat_lt_iff {m n : Nat} (hm : m < 256) (hn : n < 256) (x y : List UInt8) :
    UInt8.ofNat m :: x < UInt8.ofNat n :: y ↔ m < n ∨ m = n ∧ x < y := by
  rw [List.cons_lt_cons_iff, UInt8.lt_iff_toNat_lt, ← UInt8.toNat_inj,
    UInt8.toNat_ofNat_of_lt' hm, UInt8.toNat_ofNat_of_lt' hn]

/-- The digits of a number to the base 64, the first one of any size. -/
theorem exists_digits (n : Nat) : ∃ a b c d, b < 64 ∧ c < 64 ∧ d < 64 ∧
    n = a * 262144 + b * 4096 + c * 64 + d ∧ n / 262144 = a ∧ n / 4096 = a * 64 + b ∧
    n / 64 = a * 4096 + b * 64 + c ∧ n % 64 = d :=
  ⟨n / 262144, n / 4096 % 64, n / 64 % 64, n % 64, by omega⟩

/-- The bytes of a smaller character come first, whatever follows. -/
theorem encode_lt {c d : Char} (h : c < d) (x y : List UInt8) :
    String.utf8EncodeChar c ++ x < String.utf8EncodeChar d ++ y := by
  have hcd : c.val.toNat < d.val.toNat := h
  have hd : d.val.toNat < 1114112 := by
    have := d.valid
    simp only [UInt32.isValidChar, Nat.isValidChar] at this
    omega
  unfold String.utf8EncodeChar
  generalize c.val.toNat = m at hcd
  generalize d.val.toNat = n at hcd hd
  obtain ⟨m₃, m₂, m₁, m₀, hm₂, hm₁, hm₀, hm, em₃, em₂, em₁, em₀⟩ := exists_digits m
  obtain ⟨n₃, n₂, n₁, n₀, hn₂, hn₁, hn₀, hn, en₃, en₂, en₁, en₀⟩ := exists_digits n
  simp only [em₀, em₁, em₂, em₃, en₀, en₁, en₂, en₃]
  clear em₀ em₁ em₂ em₃ en₀ en₁ en₂ en₃
  -- Of two sizes the first bytes lie in two ranges. Within one size the bytes are
  -- the digits, and the first digit that differs decides.
  split_ifs <;>
    simp (disch := omega) only [List.cons_append, List.nil_append, cons_ofNat_lt_iff] <;>
    omega

theorem bytes_lt_of_lt {t u : Text} (h : t < u) : t.bytes < u.bytes := by
  induction t generalizing u with
  | nil =>
      cases u with
      | nil => exact absurd h (List.lt_irrefl [])
      | cons d u =>
          obtain ⟨b, l, hb⟩ := List.exists_cons_of_ne_nil (String.utf8EncodeChar_ne_nil (c := d))
          rw [bytes_cons, hb]
          exact List.nil_lt_cons _ _
  | cons c t ih =>
      cases u with
      | nil => exact absurd h (List.not_lt_nil _)
      | cons d u =>
          rcases List.cons_lt_cons_iff.1 h with hlt | ⟨rfl, hlt⟩
          · exact encode_lt hlt _ _
          · exact List.append_left_lt (ih hlt)

/-- Texts are ordered as their bytes are. -/
theorem bytes_lt_iff {t u : Text} : t.bytes < u.bytes ↔ t < u := by
  refine ⟨fun h => ?_, bytes_lt_of_lt⟩
  by_contra hnot
  rcases List.le_iff_lt_or_eq.1 (List.not_lt.1 hnot) with hgt | rfl
  · exact List.lt_irrefl _ (List.lt_trans h (bytes_lt_of_lt hgt))
  · exact List.lt_irrefl _ h

theorem not_lt_of_lt {t u : Text} (h : t < u) : ¬ u < t :=
  fun hgt => List.lt_irrefl t (List.lt_trans h hgt)

end Text

/-! ### The least name -/

/-- The name that comes first among those with a property, byte by byte. -/
structure Least (p : Name → Prop) (name : Name) : Prop where
  holds : p name
  first : ∀ other, p other → name.bytes ≤ other.bytes

theorem least_iff {p : Name → Prop} {name : Name} :
    Least p name ↔ p name ∧ ∀ other, p other → ¬ other < name := by
  refine ⟨fun h => ⟨h.holds, fun other ho hlt => ?_⟩, fun h => ⟨h.1, fun other ho => ?_⟩⟩
  · exact List.not_lt.2 (h.first other ho) (Text.bytes_lt_iff.2 hlt)
  · exact List.not_lt.1 fun hlt => h.2 other ho (Text.bytes_lt_iff.1 hlt)

end Vignette
