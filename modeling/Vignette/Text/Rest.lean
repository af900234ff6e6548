import Vignette.Text

/-!
# `Vignette.Text.Rest`: what is left of a text

A reader that takes something from the front of a text gives back what is left,
with the proof that this is shorter. Readers then follow each other without
proofs of their own.
-/

set_option autoImplicit false

namespace Vignette.Text

/-- What is left of a text of `n` characters after something was read. -/
abbrev Rest (n : Nat) := { rest : Text // rest.length < n }

/-- What is left of a text of `n` characters, perhaps all of it. -/
abbrev Tail (n : Nat) := { rest : Text // rest.length ≤ n }

theorem length_le_self (t : Text) : t.length ≤ t.length :=
  Nat.le_refl _

theorem length_le_of_lt {t u : Text} {n : Nat} (hu : u.length < t.length) (ht : t.length ≤ n) :
    u.length ≤ n :=
  Nat.le_of_lt (Nat.lt_of_lt_of_le hu ht)

theorem length_le_of_cons {c : Char} {t : Text} {n : Nat} (h : (c :: t).length ≤ n) :
    t.length ≤ n :=
  Nat.le_of_lt h

namespace Tail

variable {m n : Nat}

/-- All of a text. -/
def all (t : Text) : Tail t.length :=
  ⟨t, length_le_self t⟩

/-- What is left of a shorter text, seen from a longer one. -/
def widen (r : Tail m) (h : m ≤ n) : Tail n :=
  ⟨r.1, Nat.le_trans r.2 h⟩

/-- What is left of a text, seen from one character before it. -/
def past (c : Char) {t : Text} (r : Tail t.length) : Rest (c :: t).length :=
  ⟨r.1, Nat.lt_succ_of_le r.2⟩

/-- The rest of a tail. -/
def trans (outer : Tail n) (inner : Rest outer.1.length) : Rest n :=
  ⟨inner.1, Nat.lt_of_lt_of_le inner.2 outer.2⟩

end Tail

namespace Rest

variable {m n : Nat}

def toTail (r : Rest n) : Tail n :=
  ⟨r.1, Nat.le_of_lt r.2⟩

/-- The rest of a shorter text, seen from a longer one. -/
def widen (r : Rest m) (h : m ≤ n) : Rest n :=
  ⟨r.1, Nat.lt_of_lt_of_le r.2 h⟩

/-- The rest of a text, seen from one character before it. -/
def past (c : Char) {t : Text} (r : Rest t.length) : Rest (c :: t).length :=
  r.toTail.past c

/-- What is left of a rest. -/
def trans (outer : Rest n) (inner : Tail outer.1.length) : Rest n :=
  ⟨inner.1, Nat.lt_of_le_of_lt inner.2 outer.2⟩

end Rest

theorem length_dropWhile_le (p : Char → Bool) (t : Text) : (t.dropWhile p).length ≤ t.length :=
  (List.dropWhile_sublist p).length_le

end Vignette.Text
