import Vignette.Proofs.Span.Outside
import Vignette.Proofs.Token.Breaks

/-!
# `Vignette.Proofs.Span.Leaks`: tokens that pruning makes

Pruning drops characters, and what stood on both sides of a dropped one is joined.
Two `#` of a text without tokens then make a token when something between them is
dropped and a word is left. This is the only way in which a token comes about.

* `mark`: a text with each character marked by whether it is kept.
* `names_kept_eq_nil_iff`: which tokens are in what is kept.
* `names_strip_eq_nil_iff`: the same for a text with some spans cut out.
-/

set_option autoImplicit false

namespace Vignette.Span

open Token (IsWord names render)

/-- The characters of the rest of a text, which starts at byte `pos`, each with
whether it is kept: it is no delimiter and lies in none of the spans. -/
def markFrom (cuts : List Span) (pos : Nat) : Text → List (Char × Bool)
  | [] => []
  | c :: t =>
    (c, !isDelimiter c && !cuts.any (·.covers pos)) :: markFrom cuts (pos + c.utf8Size) t

/-- The characters of a text, each with whether it is kept when these spans are
cut out and the delimiters of the others are dropped. -/
def mark (cuts : List Span) (t : Text) : List (Char × Bool) :=
  markFrom cuts 0 t

/-- The characters that are kept. -/
def kept (ms : List (Char × Bool)) : Text :=
  (ms.filter (·.2)).map (·.1)

/-- Two `#` are kept, something between them is dropped, and a word is left between
them. -/
def Leaks (ms : List (Char × Bool)) : Prop :=
  ∃ between, ('#', true) :: (between ++ [('#', true)]) <:+: ms ∧ IsWord (kept between) ∧
    ∃ m ∈ between, m.2 = false

theorem map_fst_mark (cuts : List Span) (t : Text) : (mark cuts t).map (·.1) = t := by
  suffices hfrom : ∀ pos, (markFrom cuts pos t).map (·.1) = t from hfrom 0
  induction t with
  | nil => exact fun pos => rfl
  | cons c t ih => exact fun pos => congrArg (c :: ·) (ih _)

theorem kept_mark (cuts : List Span) (t : Text) : kept (mark cuts t) = strip (outside cuts t) := by
  suffices hfrom : ∀ pos, kept (markFrom cuts pos t) = strip (outsideFrom cuts pos t) from hfrom 0
  induction t with
  | nil => exact fun pos => rfl
  | cons c t ih =>
      intro pos
      have ih : kept (markFrom cuts (pos + c.utf8Size) t)
          = strip (outsideFrom cuts (pos + c.utf8Size) t) := ih _
      unfold kept strip at ih ⊢
      rw [markFrom, outsideFrom]
      by_cases hcut : cuts.any (·.covers pos)
      · simp [hcut, ih]
      · by_cases hdelimiter : isDelimiter c
        · simp [hcut, hdelimiter, ih]
        · simp [hcut, hdelimiter, ih]

/-! ### Parts of what is kept -/

theorem kept_append (ms ns : List (Char × Bool)) : kept (ms ++ ns) = kept ms ++ kept ns := by
  rw [kept, List.filter_append, List.map_append]
  rfl

/-- A part of what is kept is what is kept of some part. -/
theorem exists_of_kept_eq_append {ms : List (Char × Bool)} {t u : Text} (h : kept ms = t ++ u) :
    ∃ front back, ms = front ++ back ∧ kept front = t ∧ kept back = u := by
  obtain ⟨kt, ku, hfilter, rfl, rfl⟩ := List.map_eq_append_iff.1 h
  obtain ⟨front, back, rfl, rfl, rfl⟩ := List.filter_eq_append_iff.1 hfilter
  exact ⟨front, back, rfl, rfl, rfl⟩

/-- The first character that is kept stands behind ones that are not. -/
theorem exists_of_kept_eq_cons {ms : List (Char × Bool)} {c : Char} {t : Text}
    (h : kept ms = c :: t) :
    ∃ front back, ms = front ++ (c, true) :: back ∧ kept front = [] ∧ kept back = t := by
  obtain ⟨m, kt, hfilter, rfl, rfl⟩ := List.map_eq_cons_iff.1 h
  obtain ⟨front, back, rfl, hfront, hkept, rfl⟩ := List.filter_eq_cons_iff.1 hfilter
  refine ⟨front, back, by rw [← hkept], ?_, rfl⟩
  rw [kept, List.filter_eq_nil_iff.2 hfront]
  rfl

/-- The text of a token is kept exactly where two `#` are and its name between
them. -/
theorem render_infix_kept_iff {name : Name} {ms : List (Char × Bool)} :
    render name <:+: kept ms ↔
      ∃ between, ('#', true) :: (between ++ [('#', true)]) <:+: ms ∧ kept between = name := by
  constructor
  · rintro ⟨x, y, hsplit⟩
    have hkept : kept ms = x ++ '#' :: (name ++ '#' :: y) := by
      rw [← hsplit]
      simp [render]
    -- Where the first `#` is kept, then the word, then the second `#`.
    obtain ⟨front, back, rfl, -, hback⟩ := exists_of_kept_eq_append hkept
    obtain ⟨skipped, rest, rfl, -, hrest⟩ := exists_of_kept_eq_cons hback
    obtain ⟨word, tail, rfl, hword, htail⟩ := exists_of_kept_eq_append hrest
    obtain ⟨gone, after, rfl, hgone, -⟩ := exists_of_kept_eq_cons htail
    refine ⟨word ++ gone, ⟨front ++ skipped, after, by simp⟩, ?_⟩
    rw [kept_append, hword, hgone, List.append_nil]
  · rintro ⟨between, ⟨x, y, rfl⟩, rfl⟩
    refine ⟨kept x, kept y, ?_⟩
    rw [kept_append, kept_append]
    congr 2
    show render (kept between) = '#' :: kept (between ++ [('#', true)])
    rw [kept_append]
    rfl

/-! ### Tokens -/

/-- Where nothing is dropped, a text without tokens keeps none. -/
theorem exists_dropped {ms between : List (Char × Bool)} (h : names (ms.map (·.1)) = [])
    (hbetween : ('#', true) :: (between ++ [('#', true)]) <:+: ms) (hword : IsWord (kept between)) :
    ∃ m ∈ between, m.2 = false := by
  -- Otherwise the token would stand in the text itself.
  by_contra hnone
  have hall : between.filter (·.2) = between :=
    List.filter_eq_self.2 fun m hm => by
      cases hkept : m.2 with
      | true => rfl
      | false => exact absurd ⟨m, hm, hkept⟩ hnone
  have hrender : render (kept between) <:+: ms.map (·.1) := by
    have hchars := hbetween.map (·.1)
    rw [kept, hall]
    simpa [render] using hchars
  exact Token.names_eq_nil_iff_not_infix.1 h _ hword hrender

theorem names_kept_eq_nil_iff {ms : List (Char × Bool)} (h : names (ms.map (·.1)) = []) :
    names (kept ms) = [] ↔ ¬ Leaks ms := by
  rw [Token.names_eq_nil_iff_not_infix]
  constructor
  · rintro hfree ⟨between, hbetween, hword, -⟩
    exact hfree _ hword (render_infix_kept_iff.2 ⟨between, hbetween, rfl⟩)
  · intro hleak name hword hrender
    obtain ⟨between, hbetween, rfl⟩ := render_infix_kept_iff.1 hrender
    exact hleak ⟨between, hbetween, hword, exists_dropped h hbetween hword⟩

/-- What pruning leaves of a text without tokens has none exactly when no two `#`
are kept with something dropped and a word left between them. -/
theorem names_strip_eq_nil_iff {cuts : List Span} {t : Text} (h : names t = []) :
    names (strip (outside cuts t)) = [] ↔ ¬ Leaks (mark cuts t) := by
  rw [← kept_mark]
  exact names_kept_eq_nil_iff (by rw [map_fst_mark]; exact h)

end Vignette.Span
