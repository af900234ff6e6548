import Vignette.Text

/-!
# `Vignette.Span`: optional `<...>` spans

A span runs from a `<` to the nearest following `>` and crosses no line feed. A
`<` inside a span is plain content, so spans never nest. A `<` that meets a line
feed or the end of the text before a `>`, and a `>` that no `<` waits for, are
plain characters.

- `Span.start_lt_stop_of_mem_all`, `Span.stop_le_of_mem_all`: every span is a
  non-empty byte range of its text.
- `Span.byteLength_cut_lt`: cutting out a span of a text makes it shorter.
-/

set_option autoImplicit false

namespace Vignette

/-- A range of bytes, delimiters included, its end excluded. -/
structure Span where
  start : Nat
  stop : Nat
  deriving DecidableEq, Repr, Inhabited

namespace Span

/-- Whether `c` opens or closes a span. -/
def isDelimiter (c : Char) : Bool :=
  c == '<' || c == '>'

/-- The number of characters that are not delimiters. -/
def effectiveLength (t : Text) : Nat :=
  t.countP fun c => !isDelimiter c

/-- The text without its delimiters. -/
def strip (t : Text) : Text :=
  t.filter fun c => !isDelimiter c

/-- The spans in the rest of a text that starts at byte `pos`. `opened` is
where the first `<` stands that no `>` or line feed has met yet. -/
def allFrom (pos : Nat) (opened : Option Nat) : Text → List Span
  | [] => []
  | c :: t =>
    let next := pos + c.utf8Size
    if c = '<' then allFrom next (opened.or (some pos)) t
    else if c = '>' then
      match opened with
      | some start => ⟨start, next⟩ :: allFrom next none t
      | none => allFrom next none t
    else if c = '\n' then allFrom next none t
    else allFrom next opened t

/-- The spans of a text, left to right. -/
def all (t : Text) : List Span :=
  allFrom 0 none t

/-- The part of the text that the span covers. -/
def slice (s : Span) (t : Text) : Text :=
  (t.dropBytes s.start).takeBytes (s.stop - s.start)

/-- The text with the span cut out. -/
def cut (s : Span) (t : Text) : Text :=
  t.takeBytes s.start ++ t.dropBytes s.stop

/-- The text with all its spans cut out, the last one first so that the
earlier ones stay where they are. -/
def cutAll (t : Text) : Text :=
  (all t).foldr cut t

/-! ### Spans are ranges of their text -/

theorem bounds_of_mem_allFrom {pos : Nat} {opened : Option Nat} {t : Text} {s : Span}
    (h : s ∈ allFrom pos opened t) (ho : ∀ p ∈ opened, p < pos) :
    s.start < s.stop ∧ s.stop ≤ pos + t.byteLength := by
  induction t generalizing pos opened with
  | nil => simp [allFrom] at h
  | cons c t ih =>
    have hc : 0 < c.utf8Size := c.utf8Size_pos
    have step : ∀ {o : Option Nat}, s ∈ allFrom (pos + c.utf8Size) o t →
        (∀ p ∈ o, p < pos + c.utf8Size) →
        s.start < s.stop ∧ s.stop ≤ pos + Text.byteLength (c :: t) := by
      intro o hs hlt
      have := ih hs hlt
      simp only [Text.byteLength]
      omega
    simp only [allFrom] at h
    split at h
    · refine step h ?_
      intro p hp
      cases opened with
      | none => simp at hp; omega
      | some q => have := ho q rfl; simp at hp; omega
    · split at h
      · cases opened with
        | none => exact step h (by simp)
        | some q =>
          have := ho q rfl
          simp only [List.mem_cons] at h
          rcases h with rfl | h
          · simp only [Text.byteLength]; omega
          · exact step h (by simp)
      · split at h
        · exact step h (by simp)
        · exact step h fun p hp => by have := ho p hp; omega

theorem start_lt_stop_of_mem_all {t : Text} {s : Span} (h : s ∈ all t) : s.start < s.stop :=
  (bounds_of_mem_allFrom h (by simp)).1

theorem stop_le_of_mem_all {t : Text} {s : Span} (h : s ∈ all t) : s.stop ≤ t.byteLength := by
  simpa using (bounds_of_mem_allFrom h (by simp)).2

/-- Cutting out a span of a text makes it shorter. -/
theorem byteLength_cut_lt {t : Text} {s : Span} (h : s ∈ all t) :
    (s.cut t).byteLength < t.byteLength := by
  have := start_lt_stop_of_mem_all h
  have := stop_le_of_mem_all h
  have := Text.byteLength_takeBytes_le s.start t
  have := Text.byteLength_dropBytes_le s.stop t
  rw [cut, Text.byteLength_append]
  omega

end Span

end Vignette
