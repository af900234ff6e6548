import Vignette.Proofs.Expansion.Derivation
import Vignette.Proofs.Fixer.Tokens
import Vignette.Proofs.Generator.Decision
import Vignette.Proofs.Grammar.Check
import Vignette.Proofs.Span.Leaks
import Vignette.Proofs.Text.Uppercase

/-!
# `Vignette.Proofs.Generator.Leaks`: tokens in a returned text

Tokens are resolved before a text is fixed and pruned. The fixers at hand and the
uppercase form of the first character keep it free of tokens, but pruning can join
two `#` of it to a token.

* `Stages`: what a returned text was made from.
* `no_tokens_iff`: a returned text has no tokens exactly when pruning makes none,
  and separated candidates leave no `#` for that.
-/

set_option autoImplicit false

namespace Vignette

/-- Putting the first character in uppercase makes and breaks no tokens. -/
theorem Token.names_capitalize (t : Text) : Token.names t.capitalize = Token.names t := by
  cases t with
  | nil => rfl
  | cons c t =>
      -- A `#` has no uppercase form, and nothing else becomes one.
      by_cases hc : c = '#'
      · subst hc
        rfl
      · have hupper : '#' ∉ Text.upper c := fun hmem =>
          hc (Text.eq_of_mem_upper hmem (by decide) (by decide)).symm
        have hfirst : '#' ∉ [c] := by simpa using Ne.symm hc
        show Token.names (Text.upper c ++ t) = Token.names ([c] ++ t)
        rw [Token.names_append_of_not_mem hupper, Token.names_append_of_not_mem hfirst]

theorem Text.mem_of_mem_capitalize {t : Text} (h : '#' ∈ t.capitalize) : '#' ∈ t := by
  cases t with
  | nil => exact h
  | cons c t =>
      rcases List.mem_append.1 h with h | h
      · rw [Text.eq_of_mem_upper h (by decide) (by decide)]
        exact List.mem_cons_self
      · exact List.mem_cons_of_mem c h

/-- The characters of a text, each with whether it is kept when the spans of these
numbers are cut out. -/
def Pruning.marks (t : Text) (numbers : List (Fin (Span.all t).length)) : List (Char × Bool) :=
  Span.mark (numbers.map (Span.all t).get) t

namespace Generator

variable {σ : Type} (ch : Chooser σ) (g : Generator) (maxLength : Nat) (s : σ)

/-- The stages that a returned text has gone through: in the attempt that gave it
a root was expanded to this text, and the spans of these numbers were cut out of
what the fixer made of that. -/
structure Stages (gen : Generation) (expanded : Text)
    (numbers : List (Fin (Span.all (g.fixer.run expanded)).length)) : Prop where
  attempt : ∃ root roots s', g.grammar.roots? = some (root :: roots) ∧
    expandRoot ch g root roots (startOf ch g maxLength root roots s gen.attempts)
      = (.ok expanded, s') ∧
    (Pruning.prune ch maxLength (g.fixer.run expanded) s').1
      = Pruning.cutting (g.fixer.run expanded) numbers
  text_eq : gen.text = (Span.strip (Pruning.without (g.fixer.run expanded) numbers)).capitalize

theorem exists_stages {gen : Generation} (h : (g.generateDetailed ch maxLength s).1 = .ok gen) :
    ∃ expanded numbers, Stages ch g maxLength s gen expanded numbers := by
  obtain ⟨root, roots, hroots, hsettle⟩ := exists_settle ch g maxLength h
  unfold settle at hsettle
  split at hsettle
  · cases hsettle
  · rename_i expanded s' hexpand
    obtain ⟨numbers, -, hprune, -⟩ :=
      Pruning.exists_cuttable ch maxLength (g.fixer.run expanded) s'
    refine ⟨expanded, numbers, ⟨root, roots, s', hroots, hexpand, hprune⟩, ?_⟩
    rw [hprune] at hsettle
    exact (congrArg Generation.text (Except.ok.inj hsettle)).symm

section
variable {ch g maxLength s}
variable {gen : Generation} {expanded : Text}
  {numbers : List (Fin (Span.all (g.fixer.run expanded)).length)}

/-- The expanded text is what the expander makes of some root. -/
theorem Stages.exists_root (h : Stages ch g maxLength s gen expanded numbers) :
    ∃ root s', g.grammar.Offers rootsName root ∧
      (Expansion.expand ch g.grammar g.settings.maxPasses root s').1.outcome = .ok expanded := by
  obtain ⟨root, roots, s', hroots, hexpand, -⟩ := h.attempt
  unfold expandRoot at hexpand
  rcases hdraw : ch.candidate roots.length
    (startOf ch g maxLength root roots s gen.attempts) with ⟨i, s₁⟩
  simp only [hdraw] at hexpand
  exact ⟨(root :: roots).get i, s₁, ⟨_, hroots, List.get_mem _ _⟩, congrArg Prod.fst hexpand⟩

/-- An expanded text has no tokens. -/
theorem Stages.names_expanded (h : Stages ch g maxLength s gen expanded numbers) :
    Token.names expanded = [] := by
  obtain ⟨root, s', -, hexpand⟩ := h.exists_root
  exact Expansion.names_eq_nil_of_outcome_eq_ok hexpand

/-- Separated candidates are expanded to a text without `#`. -/
theorem Stages.not_mem_expanded (hg : g.grammar.Separated) (hc : g.grammar.Complete)
    (h : Stages ch g maxLength s gen expanded numbers) : '#' ∉ expanded := by
  obtain ⟨root, s', hroot, hexpand⟩ := h.exists_root
  have hover : Token.Over (fun n => g.grammar.has n) root :=
    ⟨hg.of_offers hroot, hc.has_of_offers hroot⟩
  rcases Expansion.expand_cases_of_separated hg hc hover ch g.settings.maxPasses s' with
    hlimit | ⟨w, hw, hhash, -⟩
  · rw [hexpand] at hlimit
    cases hlimit
  · rw [hexpand] at hw
    cases hw
    exact hhash

/-- Nothing that comes after the expansion writes a `#`. -/
theorem Stages.mem_expanded (hfixer : g.fixer.BuiltIn)
    (h : Stages ch g maxLength s gen expanded numbers) (hmem : '#' ∈ gen.text) :
    '#' ∈ expanded := by
  rw [h.text_eq] at hmem
  have hstrip := Text.mem_of_mem_capitalize hmem
  have hrest : '#' ∈ Pruning.without (g.fixer.run expanded) numbers := (List.mem_filter.1 hstrip).1
  have hfixed : '#' ∈ g.fixer.run expanded := by
    have hall := (Span.outside_sublist (List.nil_subset _) (g.fixer.run expanded)).subset hrest
    rwa [Span.outside_nil] at hall
  exact (hfixer.tidied expanded).sublist.subset hfixed

theorem Stages.names_text_eq_nil_iff (hfixer : g.fixer.BuiltIn)
    (h : Stages ch g maxLength s gen expanded numbers) :
    Token.names gen.text = [] ↔ ¬ Span.Leaks (Pruning.marks (g.fixer.run expanded) numbers) := by
  have hfixed := (hfixer.tidied expanded).names_eq.trans h.names_expanded
  rw [h.text_eq, Token.names_capitalize]
  exact Span.names_strip_eq_nil_iff hfixed

end

/-- Over a checked grammar and with fixers at hand, a returned text was made from an
expanded text without tokens, and the fixer left it without tokens. It has none
itself exactly when pruning did not keep two `#` with something dropped and a word
left between them. A `#` of it is one of the expanded text, and separated
candidates leave none. -/
theorem no_tokens_iff (hcheck : g.grammar.check = .ok ()) (hfixer : g.fixer.BuiltIn)
    {gen : Generation} (h : (g.generateDetailed ch maxLength s).1 = .ok gen) :
    (∃ expanded numbers, Stages ch g maxLength s gen expanded numbers) ∧
    (∀ expanded numbers, Stages ch g maxLength s gen expanded numbers →
      Token.names expanded = [] ∧ Token.names (g.fixer.run expanded) = [] ∧
        (Token.names gen.text = [] ↔
          ¬ Span.Leaks (Pruning.marks (g.fixer.run expanded) numbers)) ∧
        ('#' ∈ gen.text → '#' ∈ expanded)) ∧
    (g.grammar.Separated → '#' ∉ gen.text) := by
  have hstages := exists_stages ch g maxLength s h
  refine ⟨hstages, fun expanded numbers hmade => ?_, fun hsep hmem => ?_⟩
  · have hexpanded := hmade.names_expanded
    have hfixed := (hfixer.tidied expanded).names_eq
    exact ⟨hexpanded, hfixed.trans hexpanded, hmade.names_text_eq_nil_iff hfixer,
      hmade.mem_expanded hfixer⟩
  · obtain ⟨expanded, numbers, hmade⟩ := hstages
    have hc := (Grammar.check_eq_ok hcheck).1.toComplete
    exact hmade.not_mem_expanded hsep hc (hmade.mem_expanded hfixer hmem)

/-- A span between two `#`, with a comma behind it. -/
def commaBehindSpan : Generator where
  grammar := .ofRules [(rootsName, ["#<x>, a#".toList])]

/-- The comma is kept, so the two `#` make no token. -/
theorem no_tokens_iff_commaBehindSpan :
    (commaBehindSpan.generateDetailed Chooser.scripted 140 [0]).1
        = .ok ⟨"#x, a#".toList, 1⟩ ∧
      ∃ expanded numbers,
        Stages Chooser.scripted commaBehindSpan 140 [0] ⟨"#x, a#".toList, 1⟩ expanded numbers ∧
        ¬ Span.Leaks (Pruning.marks (commaBehindSpan.fixer.run expanded) numbers) := by
  have hrun : (commaBehindSpan.generateDetailed Chooser.scripted 140 [0]).1
      = .ok ⟨"#x, a#".toList, 1⟩ := by decide +kernel
  have hcheck : commaBehindSpan.grammar.check = .ok () := by decide
  obtain ⟨⟨expanded, numbers, hmade⟩, hstages, -⟩ :=
    no_tokens_iff Chooser.scripted commaBehindSpan 140 [0] hcheck .possessive hrun
  have hnames : Token.names "#x, a#".toList = [] := by decide
  exact ⟨hrun, expanded, numbers, hmade, (hstages expanded numbers hmade).2.2.1.1 hnames⟩

/-- A span between two `#`, with a word behind it. -/
def wordBehindSpan : Generator where
  grammar := .ofRules [(rootsName, ["#<x>a#".toList])]

/-- No candidate has a token, and the text returned has one. -/
theorem generateDetailed_wordBehindSpan :
    wordBehindSpan.grammar.check = .ok () ∧ wordBehindSpan.fixer.BuiltIn ∧
      (wordBehindSpan.generateDetailed Chooser.scripted 140 [0]).1 = .ok ⟨"#xa#".toList, 1⟩ ∧
      Token.names "#xa#".toList = ["xa".toList] := by
  refine ⟨by decide, .possessive, by decide +kernel, by decide⟩

end Generator

end Vignette
