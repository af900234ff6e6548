import Vignette.Generator
import Vignette.Proofs.Expansion.Lockstep
import Vignette.Proofs.Grammar.Check
import Vignette.Proofs.Grammar.Lint

/-!
# `Vignette.Proofs.Generator.Unreached`: categories that the roots do not lead to

Let the candidates that the roots lead to be separated. The texts that an expansion
of a root goes through are then put together from such candidates, and every token in
them names a category that the roots lead to. So a generator asks its grammar for no
other category, and a grammar with the same candidates for these categories makes the
same run, attempt by attempt and choice by choice.

* `lockstep_of_reachable`: expansions from the two grammars stay in lockstep.
* `attemptsFrom_congr`: attempts on roots that expand alike are the same.
* `generateDetailed_eq_of_unreached`: the runs are the same.
-/

set_option autoImplicit false

namespace Vignette

variable {σ : Type}

/-! ### Expansions -/

namespace Expansion

section
variable {g g' : Grammar} (hc : g.Complete)
  (hsep : ∀ rule ∈ g.rules, g.Reachable rootsName rule.1 →
    ∀ candidate ∈ rule.2, Token.Separated candidate)
include hc hsep

/-- The candidates that the roots lead to are fragments over such categories. -/
theorem over_reachable {name : Name} {candidate : Text} (hname : g.Reachable rootsName name)
    (hoffer : g.Offers name candidate) : Token.Over (g.Reachable rootsName) candidate where
  separated := by
    obtain ⟨candidates, hlookup, hmem⟩ := hoffer
    exact hsep (name, candidates) (Grammar.mem_rules_iff.2 hlookup) hname candidate hmem
  names n hn := .token hname hoffer hn (hc.has_of_offers hoffer n hn)

/-- Where two grammars have the same candidates, expansions do not tell them apart. -/
theorem lockstep_of_reachable
    (hsame : ∀ name, g.Reachable rootsName name → g'.candidates? name = g.candidates? name)
    (ch : Chooser σ) : Lockstep ch g ch g' Eq (Token.Over (g.Reachable rootsName)) where
  draw t ht name hmem s s' hs := by
    subst hs
    have hpick : pick ch g' name s = pick ch g name s := by
      unfold pick
      rw [hsame name (ht.names name hmem)]
    rw [hpick]
    exact ⟨rfl, rfl⟩
  pass _ _ ht hres := hres.over (fun _ _ hname hoffer => over_reachable hc hsep hname hoffer) ht

theorem expand_congr
    (hsame : ∀ name, g.Reachable rootsName name → g'.candidates? name = g.candidates? name)
    (ch : Chooser σ) (limit : Nat) {root : Text} (hroot : g.Offers rootsName root) (s : σ) :
    expand ch g' limit root s = expand ch g limit root s := by
  have hstart : g.Reachable rootsName rootsName := by
    obtain ⟨candidates, hlookup, -⟩ := hroot
    exact .start (Grammar.has_iff.2 ⟨candidates, hlookup⟩)
  have hagree := (lockstep_of_reachable hc hsep hsame ch).expand_agree limit
    (over_reachable hc hsep hstart hroot) (rfl : s = s)
  exact (Prod.ext hagree.value hagree.state).symm

end

end Expansion

/-! ### Attempts and runs -/

namespace Generator

/-- An attempt only asks the grammar for what the root expands to. -/
theorem make_congr {ch : Chooser σ} {g : Generator} {g' : Grammar} {root : Text}
    (h : ∀ s, Expansion.expand ch g' g.settings.maxPasses root s
      = Expansion.expand ch g.grammar g.settings.maxPasses root s) (maxLength : Nat) (s : σ) :
    Attempt.make ch { g with grammar := g' } maxLength root s
      = Attempt.make ch g maxLength root s := by
  unfold Attempt.make
  rw [h]

theorem attemptsFrom_congr {ch : Chooser σ} {g : Generator} {g' : Grammar} {root : Text}
    {roots : List Text}
    (h : ∀ r ∈ root :: roots, ∀ s, Expansion.expand ch g' g.settings.maxPasses r s
      = Expansion.expand ch g.grammar g.settings.maxPasses r s)
    (maxLength number remaining : Nat) (s : σ) :
    attemptsFrom ch { g with grammar := g' } maxLength root roots number remaining s
      = attemptsFrom ch g maxLength root roots number remaining s := by
  induction remaining generalizing number s with
  | zero => rfl
  | succ remaining ih =>
      have hmake (i : Fin (roots.length + 1)) (s : σ) :=
        make_congr (h ((root :: roots).get i) (List.get_mem _ _)) maxLength s
      unfold attemptsFrom
      simp only [hmake, ih]

/-- Let a grammar be checked and the candidates that its roots lead to be separated,
and let another grammar have the same candidates for all categories that are not
reported as never reached. Whatever else the other grammar has or lacks, a generator
makes the same run with both: the same outcome, the same attempts and the same state
in the end, for every chooser. -/
theorem generateDetailed_eq_of_unreached {g : Generator} {g' : Grammar}
    (hcheck : g.grammar.check = .ok ())
    (hsep : ∀ rule ∈ g.grammar.rules, g.grammar.Reachable rootsName rule.1 →
      ∀ candidate ∈ rule.2, Token.Separated candidate)
    (hsame : ∀ name ∈ g.grammar.names, .unreached name ∉ g.grammar.lint →
      g'.candidates? name = g.grammar.candidates? name)
    {σ : Type} (ch : Chooser σ) (maxLength : Nat) (s : σ) :
    generateDetailed ch { g with grammar := g' } maxLength s = generateDetailed ch g maxLength s ∧
      run ch { g with grammar := g' } maxLength s = run ch g maxLength s := by
  have hwell := (Grammar.check_eq_ok hcheck).1
  -- The report names all other categories, so what the roots lead to is the same.
  have hreached (name : Name) (h : g.grammar.Reachable rootsName name) :
      g'.candidates? name = g.grammar.candidates? name :=
    hsame name (Grammar.has_iff_mem_names.1 h.has) h.not_mem_lint
  have hroots : g'.roots? = g.grammar.roots? := hreached rootsName (.start hwell.roots)
  have hrun : run ch { g with grammar := g' } maxLength s = run ch g maxLength s := by
    unfold run
    rw [hroots]
    cases hlookup : g.grammar.roots? with
    | none => rfl
    | some candidates =>
        cases candidates with
        | nil => rfl
        | cons root roots =>
            -- Both draw from these roots, and each of them expands alike.
            have hexpand (r : Text) (hr : r ∈ root :: roots) (s : σ) :=
              Expansion.expand_congr hwell.toComplete hsep hreached ch g.settings.maxPasses
                ⟨_, hlookup, hr⟩ s
            simp only [attemptsFrom_congr hexpand]
  refine ⟨?_, hrun⟩
  unfold generateDetailed
  rw [hrun]

/-- Nothing leads to the category `spare`, whose candidate is not separated. -/
def sparePart : Grammar :=
  .ofRules [(rootsName, ["#drink#<, hot>".toList]), ("drink".toList, ["tea".toList, "milk".toList]),
    ("spare".toList, ["cold# #drink#".toList])]

/-- Another candidate in place of the one of `spare`, and a category without any. -/
def otherParts : Grammar :=
  .ofRules [(rootsName, ["#drink#<, hot>".toList]), ("drink".toList, ["tea".toList, "milk".toList]),
    ("spare".toList, ["#spare#".toList]), ("more".toList, [])]

/-- The other grammar does not pass the check, and no run can tell. -/
theorem generateDetailed_eq_of_unreached_sparePart :
    ¬ sparePart.Separated ∧ otherParts.check ≠ .ok () ∧
    (∀ (σ : Type) (ch : Chooser σ) (maxLength : Nat) (s : σ),
      generateDetailed ch { grammar := otherParts } maxLength s
        = generateDetailed ch { grammar := sparePart } maxLength s) ∧
    generateDetailed Chooser.scripted { grammar := sparePart } 4 [0, 1, 0]
      = (.ok ⟨"Milk".toList, 1⟩, []) := by
  have hsep : ∀ rule ∈ sparePart.rules, sparePart.Reachable rootsName rule.1 →
      ∀ candidate ∈ rule.2, Token.Separated candidate := by
    -- The closure that the check computes decides what the roots lead to.
    simp only [← Grammar.mem_reachableFrom_iff]
    decide
  have hsame := @generateDetailed_eq_of_unreached { grammar := sparePart } otherParts (by decide)
    hsep (by decide)
  exact ⟨by decide, by decide, fun σ ch maxLength s => (hsame ch maxLength s).1,
    by decide +kernel⟩

end Generator

end Vignette
