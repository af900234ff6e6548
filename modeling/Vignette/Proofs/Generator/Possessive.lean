import Vignette.Proofs.Fixer.Possessive
import Vignette.Proofs.Generator.Leaks

/-!
# `Vignette.Proofs.Generator.Possessive`: `s's` in a returned text

The possessive of a plural is mended once, in the expanded text. An `s's` of a
returned text is one that closed up when it was mended, or pruning has joined it
from characters that did not stand side by side. Putting the first character in
uppercase makes none, and breaks one at the front.

* `Span.Joins`: where an `s's` is kept behind the first character.
* `possessive_iff`: a returned text has an `s's` exactly when one is kept so, and
  without delimiters that is when one closes up.
-/

set_option autoImplicit false

namespace Vignette

open Fixer (artifact hasPossessive ClosesUp)

/-! ### Uppercase -/

/-- The uppercase form of the first character holds no `s`, so an `s's` begins
behind it. -/
theorem Fixer.hasPossessive_capitalize_iff {t : Text} :
    hasPossessive t.capitalize ↔ hasPossessive t.tail := by
  cases t with
  | nil => rfl
  | cons c t =>
      have hupper : 's' ∉ Text.upper c := fun hmem => by
        have hcode := Text.not_lower_of_mem_upper hmem
        revert hcode
        decide
      show hasPossessive (Text.upper c ++ t) ↔ hasPossessive t
      generalize Text.upper c = u at hupper
      induction u with
      | nil => rfl
      | cons d u ih =>
          have hfront : ¬ artifact <+: d :: (u ++ t) := fun h =>
            hupper (List.mem_cons.2 (.inl (List.cons_prefix_cons.1 h).1))
          rw [List.cons_append, Fixer.hasPossessive_cons_iff, or_iff_right hfront]
          exact ih fun hmem => hupper (List.mem_cons_of_mem d hmem)

/-! ### Pruning -/

namespace Span

/-- An `s`, an apostrophe and an `s` are kept with nothing kept between them, and
something in front of them is. -/
def Joins (ms : List (Char × Bool)) : Prop :=
  ∃ front gap gap' back,
    ms = front ++ ('s', true) :: (gap ++ ('\'', true) :: (gap' ++ ('s', true) :: back)) ∧
      kept front ≠ [] ∧ kept gap = [] ∧ kept gap' = []

theorem kept_cons (c : Char) (ms : List (Char × Bool)) : kept ((c, true) :: ms) = c :: kept ms :=
  rfl

theorem hasPossessive_tail_kept_iff {ms : List (Char × Bool)} :
    hasPossessive (kept ms).tail ↔ Joins ms := by
  rw [Fixer.hasPossessive_iff]
  constructor
  · rintro ⟨x, y, hsplit⟩
    cases hkept : kept ms with
    | nil =>
        rw [hkept] at hsplit
        simp [artifact] at hsplit
    | cons c t =>
        -- Where the first `s` is kept, then the apostrophe, then the second `s`.
        have hall : kept ms = (c :: x) ++ 's' :: '\'' :: 's' :: y := by
          rw [hkept] at hsplit ⊢
          rw [← show x ++ artifact ++ y = t from hsplit]
          simp [artifact]
        obtain ⟨front, rest, rfl, hfront, hrest⟩ := exists_of_kept_eq_append hall
        obtain ⟨skipped, rest, rfl, hskipped, hrest⟩ := exists_of_kept_eq_cons hrest
        obtain ⟨gap, rest, rfl, hgap, hrest⟩ := exists_of_kept_eq_cons hrest
        obtain ⟨gap', back, rfl, hgap', -⟩ := exists_of_kept_eq_cons hrest
        refine ⟨front ++ skipped, gap, gap', back, by simp, ?_, hgap, hgap'⟩
        rw [kept_append, hfront, hskipped]
        simp
  · rintro ⟨front, gap, gap', back, rfl, hfront, hgap, hgap'⟩
    simp only [kept_append, kept_cons, hgap, hgap', List.nil_append]
    rw [List.tail_append_of_ne_nil hfront]
    exact ⟨(kept front).tail, kept back, by simp [artifact]⟩

/-- A text without delimiters has no spans. -/
theorem all_eq_nil {t : Text} (h : ∀ c ∈ t, isDelimiter c = false) : all t = [] := by
  suffices hfrom : ∀ pos, allFrom pos none t = [] from hfrom 0
  induction t with
  | nil => exact fun pos => rfl
  | cons c t ih =>
      intro pos
      obtain ⟨hopen, hclose⟩ := isDelimiter_eq_false_iff.1 (h c List.mem_cons_self)
      rw [allFrom, if_neg hopen, if_neg hclose, ite_self]
      exact ih (fun d hd => h d (List.mem_cons_of_mem c hd)) _

end Span

/-- Pruning changes nothing in a text without delimiters. -/
theorem Pruning.strip_without {t : Text} (h : ∀ c ∈ t, Span.isDelimiter c = false)
    (numbers : List (Fin (Span.all t).length)) : Span.strip (Pruning.without t numbers) = t := by
  have hlength : (Span.all t).length = 0 := by
    rw [Span.all_eq_nil h]
    rfl
  have hnumbers : numbers = [] := by
    cases numbers with
    | nil => rfl
    | cons i numbers => exact absurd i.isLt (by omega)
  subst hnumbers
  show Span.strip (Span.outside [] t) = t
  rw [Span.outside_nil]
  exact List.filter_eq_self.2 fun c hc => by rw [h c hc]; rfl

namespace Generator

variable {σ : Type} (ch : Chooser σ) (g : Generator) (maxLength : Nat) (s : σ)

section
variable {ch g maxLength s}
variable {gen : Generation} {expanded : Text}
  {numbers : List (Fin (Span.all (g.fixer.run expanded)).length)}

theorem Stages.hasPossessive_text_iff (h : Stages ch g maxLength s gen expanded numbers) :
    hasPossessive gen.text ↔ Span.Joins (Pruning.marks (g.fixer.run expanded) numbers) := by
  rw [h.text_eq, Fixer.hasPossessive_capitalize_iff, ← Span.hasPossessive_tail_kept_iff,
    Pruning.marks, Span.kept_mark]
  rfl

/-- Without delimiters only what closes up when it is mended can be returned. -/
theorem Stages.closesUp_of_plain (hfixer : g.fixer = Fixer.possessive)
    (h : Stages ch g maxLength s gen expanded numbers)
    (hplain : ∀ c ∈ expanded, Span.isDelimiter c = false) (hleft : hasPossessive gen.text) :
    ClosesUp expanded := by
  have hrun : g.fixer.run expanded = Fixer.fixPossessive expanded := by
    rw [hfixer, Fixer.run_possessive]
  have hfixed : ∀ c ∈ g.fixer.run expanded, Span.isDelimiter c = false := fun c hc =>
    hplain c ((Fixer.fixPossessive_sublist expanded).subset (hrun ▸ hc))
  rw [h.text_eq, Pruning.strip_without hfixed, Fixer.hasPossessive_capitalize_iff, hrun,
    Fixer.hasPossessive_iff] at hleft
  rw [← Fixer.hasPossessive_fixPossessive_iff, Fixer.hasPossessive_iff]
  exact hleft.trans (List.tail_suffix _).isInfix

end

/-- With the default fixer, the fixed text has an `s's` exactly when one closes up
in the expanded text, and the returned text has one exactly when pruning keeps one
behind the first character that is kept. An expanded text without delimiters in
which none closes up is returned without one. -/
theorem possessive_iff (hfixer : g.fixer = Fixer.possessive) {gen : Generation}
    (h : (g.generateDetailed ch maxLength s).1 = .ok gen) :
    (∃ expanded numbers, Stages ch g maxLength s gen expanded numbers) ∧
    ∀ expanded numbers, Stages ch g maxLength s gen expanded numbers →
      (hasPossessive (g.fixer.run expanded) ↔ ClosesUp expanded) ∧
      (hasPossessive gen.text ↔
        Span.Joins (Pruning.marks (g.fixer.run expanded) numbers)) ∧
      ((∀ c ∈ expanded, Span.isDelimiter c = false) → ¬ ClosesUp expanded →
        ¬ hasPossessive gen.text) := by
  refine ⟨exists_stages ch g maxLength s h, fun expanded numbers hmade => ?_⟩
  refine ⟨?_, hmade.hasPossessive_text_iff, fun hplain hfree hleft => ?_⟩
  · rw [hfixer, Fixer.run_possessive]
    exact Fixer.hasPossessive_fixPossessive_iff expanded
  · exact hfree (hmade.closesUp_of_plain hfixer hplain hleft)

/-- A plural's possessive with a span behind it. -/
def spanBehindPossessive : Generator where
  grammar := .ofRules [(rootsName, ["the regulars's<, mostly> table".toList])]

/-- The span does not part the `s's`, so none is left. -/
theorem possessive_iff_spanBehindPossessive :
    (spanBehindPossessive.generateDetailed Chooser.scripted 140 [0]).1
        = .ok ⟨"The regulars', mostly table".toList, 1⟩ ∧
      ∃ expanded numbers,
        Stages Chooser.scripted spanBehindPossessive 140 [0]
          ⟨"The regulars', mostly table".toList, 1⟩ expanded numbers ∧
        ¬ Span.Joins (Pruning.marks (spanBehindPossessive.fixer.run expanded) numbers) := by
  have hrun : (spanBehindPossessive.generateDetailed Chooser.scripted 140 [0]).1
      = .ok ⟨"The regulars', mostly table".toList, 1⟩ := by decide +kernel
  obtain ⟨⟨expanded, numbers, hmade⟩, hstages⟩ :=
    possessive_iff Chooser.scripted spanBehindPossessive 140 [0] rfl hrun
  have hmended : ¬ hasPossessive "The regulars', mostly table".toList := by decide
  exact ⟨hrun, expanded, numbers, hmade, fun hjoins =>
    hmended ((hstages expanded numbers hmade).2.1.2 hjoins)⟩

/-- A plural with a span in front of its `'s`. -/
def spanInsidePossessive : Generator where
  grammar := .ofRules [(rootsName, ["the regulars<, mostly>'s table".toList])]
  settings := { maxAttempts := 1 }

/-- The fix finds nothing to do, and cutting the span out joins an `s's`. -/
theorem generateDetailed_spanInsidePossessive :
    spanInsidePossessive.grammar.check = .ok () ∧
      spanInsidePossessive.fixer = Fixer.possessive ∧
      (spanInsidePossessive.generateDetailed Chooser.scripted 25 [0, 0]).1
        = .ok ⟨"The regulars's table".toList, 1⟩ ∧
      hasPossessive "The regulars's table".toList := by
  refine ⟨by decide, rfl, by decide +kernel, by decide⟩

end Generator

end Vignette
