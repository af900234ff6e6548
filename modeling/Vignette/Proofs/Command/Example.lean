import Vignette.Command.Example
import Vignette.Grammar.Json
import Vignette.Proofs.Generator.Faults

/-!
# `Vignette.Proofs.Command.Example`: the example grammar keeps its tokens apart

The example can be loaded and all its candidates are separated, so what is proved
of separated grammars holds of it.

* `exists_load_exampleText`: the example is such a grammar.
* `ok_or_failure_of_exampleText`: no run over it breaks off.
-/

set_option autoImplicit false

namespace Vignette.Command

/-- Whether a text can be loaded as a grammar whose candidates are separated. -/
def loadsSeparated (t : Text) : Bool :=
  match Grammar.load t with
  | .ok g => decide g.Separated
  | .error _ => false

theorem exists_load_of_loadsSeparated {t : Text} (h : loadsSeparated t) :
    ∃ g, Grammar.load t = .ok g ∧ g.Separated := by
  unfold loadsSeparated at h
  split at h
  · rename_i g hload
    exact ⟨g, hload, of_decide_eq_true h⟩
  · cases h

theorem exists_load_exampleText : ∃ g, Grammar.load exampleText = .ok g ∧ g.Separated :=
  exists_load_of_loadsSeparated (by decide +kernel)

/-- Whatever is drawn, a generator that is made from the example returns a text
or gives up. -/
theorem ok_or_failure_of_exampleText {g : Generator} {maxLength : Nat}
    (hload : Grammar.load exampleText = .ok g.grammar) (hlength : 0 < maxLength)
    (hattempts : 0 < g.settings.maxAttempts) {σ : Type} (ch : Chooser σ) (s : σ) :
    (∃ gen, (g.generateDetailed ch maxLength s).1 = .ok gen) ∨
      (g.generateDetailed ch maxLength s).1
        = .error (.generationFailure g.settings.maxAttempts maxLength) := by
  obtain ⟨grammar, hexample, hseparated⟩ := exists_load_exampleText
  cases hload.symm.trans hexample
  have hcheck := Grammar.check_of_loadWith hexample
  have hcomplete := (Grammar.check_eq_ok hcheck).1.toComplete
  rcases Generator.ok_or_failure_or_unknown hcheck hlength hattempts ch s with
    hok | hfailure | ⟨name, hscan, hhas, -⟩
  · exact .inl hok
  · exact .inr hfailure
  · exact absurd (Grammar.has_of_scanned hseparated hcomplete hscan) hhas

end Vignette.Command
