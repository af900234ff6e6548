import Vignette.Proofs.Expansion.Derivation
import Vignette.Proofs.Generator.Attempts
import Vignette.Proofs.Grammar.Check

/-!
# `Vignette.Proofs.Generator.Faults`: what can surface in the middle of a run

The check of a grammar looks at each candidate on its own, while expansion looks
at texts put together from several of them. A `#` of one candidate and text of
another can make a token that no candidate has. Such a token is the only thing
that can break off a run over a checked grammar.

* `ok_or_failure_or_unknown`: what a run over a checked grammar may return.
* `exists_unknown_of_scanned`: a token of this kind breaks off some run.
* `has_of_scanned`: separated candidates never make one.
-/

set_option autoImplicit false

namespace Vignette

/-- The names that an expansion of a root may have to resolve: those of the
tokens of every text that fewer than `limit` passes can lead to. -/
def Grammar.Scanned (g : Grammar) (limit : Nat) (name : Name) : Prop :=
  ∃ root k t, g.Offers rootsName root ∧ k < limit ∧ Expansion.Passes g.Offers k root t ∧
    name ∈ Token.names t

/-- Separated candidates only make tokens that the check has seen. -/
theorem Grammar.has_of_scanned {g : Grammar} (hg : g.Separated) (hc : g.Complete) {limit : Nat}
    {name : Name} (h : g.Scanned limit name) : g.has name := by
  obtain ⟨root, k, t, hroot, -, hpasses, hmem⟩ := h
  have hover : Token.Over (fun n => g.has n) root := ⟨hg.of_offers hroot, hc.has_of_offers hroot⟩
  exact (hpasses.over (Expansion.over_offers hg hc) hover).names name hmem

namespace Generator

open Expansion (partList)

variable {g : Generator} {maxLength : Nat}

theorem exists_roots (h : g.grammar.Wellformed) :
    ∃ root roots, g.grammar.roots? = some (root :: roots) := by
  obtain ⟨candidates, hlookup⟩ := Grammar.has_iff.1 h.roots
  cases candidates with
  | nil => exact absurd rfl (h.nonempty _ (Grammar.mem_rules_iff.2 hlookup))
  | cons root roots => exact ⟨root, roots, hlookup⟩

/-- A run over a checked grammar returns a text, gives up after all attempts, or
comes upon a token that names no category. -/
theorem ok_or_failure_or_unknown (hcheck : g.grammar.check = .ok ()) (hlength : 0 < maxLength)
    (hattempts : 0 < g.settings.maxAttempts) {σ : Type} (ch : Chooser σ) (s : σ) :
    (∃ gen, (g.generateDetailed ch maxLength s).1 = .ok gen) ∨
      (g.generateDetailed ch maxLength s).1
        = .error (.generationFailure g.settings.maxAttempts maxLength) ∨
      ∃ name, g.grammar.Scanned g.settings.maxPasses name ∧ ¬ g.grammar.has name ∧
        (g.generateDetailed ch maxLength s).1 = .error (.unknownCategory name) := by
  have hwell := (Grammar.check_eq_ok hcheck).1
  obtain ⟨root, roots, hroots⟩ := exists_roots hwell
  have hending := attemptsFrom_ending ch g maxLength root roots 1 g.settings.maxAttempts s
  rw [← run_of_roots ch g maxLength hlength hattempts hroots] at hending
  cases hending with
  | done _ _ hout => exact .inl ⟨_, hout⟩
  | exhausted hout => exact .inr (.inl hout)
  | @fatal drawn s' fault hdrawn hverdict hout =>
      -- The fault comes from a draw, and these only fail on unknown names.
      obtain ⟨hexpand, hne⟩ := Attempt.make_eq_fatal_iff.1 hverdict
      have hend := Expansion.expandFrom_cases ch g.grammar g.settings.maxPasses
        g.settings.maxPasses drawn s'
      rw [show (Expansion.expandFrom ch g.grammar g.settings.maxPasses g.settings.maxPasses
        drawn s').1.outcome = .error fault from hexpand] at hend
      cases hend with
      | limit => exact absurd rfl (hne _)
      | @fault k t name _ hk hpasses hmem hfault =>
          obtain ⟨hhas, rfl⟩ := hwell.toComplete.eq_of_drawFault? hfault
          exact .inr (.inr ⟨name, ⟨drawn, k, t, ⟨_, hroots, hdrawn⟩, hk, hpasses, hmem⟩, hhas,
            hout⟩)

/-- A token that names no category breaks off the run that comes upon it. -/
theorem exists_unknown_of_scanned (hcheck : g.grammar.check = .ok ()) (hlength : 0 < maxLength)
    (hattempts : 0 < g.settings.maxAttempts) {name : Name}
    (hscan : g.grammar.Scanned g.settings.maxPasses name) (hhas : ¬ g.grammar.has name) :
    ∃ script unknown,
      (g.generateDetailed Chooser.scripted maxLength script).1
        = .error (.unknownCategory unknown) := by
  have hwell := (Grammar.check_eq_ok hcheck).1
  obtain ⟨drawn, k, t, ⟨candidates, hroots, hdrawn⟩, hk, hpasses, hmem⟩ := hscan
  have hname : g.grammar.drawFault? name ≠ none := by
    simp [Grammar.drawFault?_of_not_has hhas]
  obtain ⟨script, unknown, fault, hfault, hexpand⟩ := hpasses.exists_script_error hk hmem hname
  obtain ⟨-, rfl⟩ := hwell.toComplete.eq_of_drawFault? hfault
  -- The first entry draws the root, the others those of its expansion.
  obtain ⟨i, hi, hget⟩ := List.getElem_of_mem hdrawn
  refine ⟨i :: script, unknown, ?_⟩
  cases candidates with
  | nil => cases hdrawn
  | cons root roots =>
      obtain ⟨attempts, hsucc⟩ := Nat.exists_eq_succ_of_ne_zero (Nat.ne_of_gt hattempts)
      rw [generateDetailed_fst, run_of_roots _ g maxLength hlength hattempts hroots, hsucc]
      refine attemptsFrom_of_fatal _ g maxLength (Chooser.scripted_candidate hi script)
        (Attempt.make_eq_fatal_iff.2 ⟨?_, by simp⟩)
      rw [List.get_eq_getElem, hget]
      exact hexpand

/-- Over a checked grammar every run returns a text or gives up after all
attempts exactly when every token that its expansions can come upon names a
category, and nothing but a token that names none can break off a run. Separated
candidates make no such token. -/
theorem ok_or_failure_iff (hcheck : g.grammar.check = .ok ()) (hlength : 0 < maxLength)
    (hattempts : 0 < g.settings.maxAttempts) :
    ((∀ (σ : Type) (ch : Chooser σ) (s : σ),
        (∃ gen, (g.generateDetailed ch maxLength s).1 = .ok gen) ∨
          (g.generateDetailed ch maxLength s).1
            = .error (.generationFailure g.settings.maxAttempts maxLength)) ↔
      ∀ name, g.grammar.Scanned g.settings.maxPasses name → g.grammar.has name) ∧
    (∀ (σ : Type) (ch : Chooser σ) (s : σ),
      (∃ gen, (g.generateDetailed ch maxLength s).1 = .ok gen) ∨
        (g.generateDetailed ch maxLength s).1
          = .error (.generationFailure g.settings.maxAttempts maxLength) ∨
        ∃ name, g.grammar.Scanned g.settings.maxPasses name ∧ ¬ g.grammar.has name ∧
          (g.generateDetailed ch maxLength s).1 = .error (.unknownCategory name)) ∧
    (g.grammar.Separated →
      ∀ name, g.grammar.Scanned g.settings.maxPasses name → g.grammar.has name) := by
  have hcases := fun (σ : Type) (ch : Chooser σ) (s : σ) =>
    ok_or_failure_or_unknown hcheck hlength hattempts ch s
  refine ⟨⟨fun htotal name hscan => ?_, fun hknown σ ch s => ?_⟩, hcases, fun hsep name hscan => ?_⟩
  · by_contra hhas
    obtain ⟨script, unknown, hrun⟩ :=
      exists_unknown_of_scanned hcheck hlength hattempts hscan hhas
    rcases htotal _ Chooser.scripted script with ⟨gen, hok⟩ | hfailure
    · rw [hrun] at hok
      cases hok
    · rw [hrun] at hfailure
      cases hfailure
  · rcases hcases σ ch s with hok | hfailure | ⟨name, hscan, hhas, -⟩
    · exact .inl hok
    · exact .inr hfailure
    · exact absurd (hknown name hscan) hhas
  · exact Grammar.has_of_scanned hsep (Grammar.check_eq_ok hcheck).1.toComplete hscan

theorem ok_or_failure_partList :
    (∀ name, partList.Scanned 64 name → partList.has name) ∧
      ∀ (σ : Type) (ch : Chooser σ) (s : σ),
        (∃ gen, (Generator.generateDetailed ch { grammar := partList } 140 s).1 = .ok gen) ∨
          (Generator.generateDetailed ch { grammar := partList } 140 s).1
            = .error (.generationFailure 100 140) := by
  have hcheck : ({ grammar := partList } : Generator).grammar.check = .ok () := by decide
  have hlength : 0 < 140 := by decide
  obtain ⟨hiff, -, hseparated⟩ := ok_or_failure_iff hcheck hlength (by decide)
  have hknown := hseparated (by decide)
  exact ⟨hknown, hiff.2 hknown⟩

/-- A candidate `#` and the word behind the token that it is written for. -/
def joinedToken : Grammar :=
  .ofRules [(rootsName, ["#mark#new#".toList]), ("mark".toList, ["#".toList])]

/-- The check passes, and the first pass makes the token `#new#`. -/
theorem generateDetailed_joinedToken :
    joinedToken.check = .ok () ∧
      (Generator.generateDetailed Chooser.scripted { grammar := joinedToken } 140 [0, 0]).1
        = .error (.unknownCategory "new".toList) := by
  decide

end Generator

end Vignette
