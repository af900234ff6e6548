import Vignette.Grammar.Check
import Vignette.Proofs.Expansion.Passes
import Vignette.Proofs.Generator.Attempts
import Vignette.Proofs.Text.Uppercase

/-!
# `Vignette.Proofs.Generator.Length`: the length of a generated text

The budget is held against the pruned text, and the first character is put in
uppercase afterwards. Some characters, `ß` among them, become two or three, and
then the text returned may be longer than the budget.

* `Budgeted`: how the length of a returned text relates to the budget.
* `budgeted_of_ok`: every run that returns a text keeps to this.
-/

set_option autoImplicit false

namespace Vignette

/-- The run ended on this pruned text, which is within the budget. -/
def Run.EndsOn (run : Run) (maxLength : Nat) (pruned : Text) : Prop :=
  pruned.length ≤ maxLength ∧ ∃ passes pruning,
    run.attempts.getLast? = some (.pruned passes pruning) ∧ pruning.result = pruned

namespace Generator

variable {σ : Type} (ch : Chooser σ) (g : Generator) (maxLength : Nat) (s : σ)

/-- How the length of a returned text relates to the budget of its run. -/
def Budgeted (text : Text) : Prop :=
  ∃ pruned, (g.run ch maxLength s).1.EndsOn maxLength pruned ∧ text = pruned.capitalize ∧
    (text.length ≤ maxLength ↔ pruned.length + pruned.growth ≤ maxLength) ∧
    text.length ≤ maxLength + 2

theorem budgeted_of_ok {gen : Generation}
    (h : (g.generateDetailed ch maxLength s).1 = .ok gen) :
    Budgeted ch g maxLength s gen.text := by
  rw [generateDetailed_fst] at h
  obtain ⟨roots, hending⟩ := run_ending ch g maxLength h
  cases hending with
  | @done attempt text number hlast hverdict hout =>
      -- The budget was met before the first character was put in uppercase.
      obtain ⟨passes, pruning, rfl, hfits, rfl⟩ := Attempt.pruned_of_done hverdict
      rw [hout] at h
      cases h
      have hlength := Text.length_capitalize pruning.result
      have hgrowth := Text.growth_le_two pruning.result
      refine ⟨pruning.result, ⟨hfits, passes, pruning, hlast, rfl⟩, rfl, ?_, ?_⟩
      · rw [hlength]
      · rw [hlength]
        omega
  | fatal _ _ hout =>
      rw [hout] at h
      cases h
  | exhausted hout =>
      rw [hout] at h
      cases h

/-- A text that is asked for on its own comes from a run that tells its attempts. -/
theorem exists_generation {text : Text} (h : (g.generateWithin ch maxLength s).1 = .ok text) :
    ∃ gen, (g.generateDetailed ch maxLength s).1 = .ok gen ∧ gen.text = text := by
  have hmap : (g.generateDetailed ch maxLength s).1.map (·.text) = .ok text := h
  cases hrun : (g.generateDetailed ch maxLength s).1 with
  | error fault =>
      rw [hrun] at hmap
      cases hmap
  | ok gen =>
      rw [hrun] at hmap
      cases hmap
      exact ⟨gen, rfl, rfl⟩

theorem budgeted_of_within {text : Text} (h : (g.generateWithin ch maxLength s).1 = .ok text) :
    Budgeted ch g maxLength s text := by
  obtain ⟨gen, hrun, rfl⟩ := exists_generation ch g maxLength s h
  exact budgeted_of_ok ch g maxLength s hrun

/-- Whichever way a text is asked for, the pruned text is within the budget, and
the text returned is so exactly when there was room for its first character to
grow. It is never more than two characters over. -/
theorem generated_length :
    (∀ gen, (g.generateDetailed ch maxLength s).1 = .ok gen →
      Budgeted ch g maxLength s gen.text) ∧
    (∀ text, (g.generateWithin ch maxLength s).1 = .ok text → Budgeted ch g maxLength s text) ∧
    (∀ text, (g.generate ch s).1 = .ok text → Budgeted ch g g.settings.maxLength s text) ∧
    ∀ (grammar : Grammar) (text : Text), (grammar.generate ch maxLength s).1 = .ok text →
      Budgeted ch { grammar } maxLength s text :=
  ⟨fun _ h => budgeted_of_ok ch g maxLength s h,
    fun _ h => budgeted_of_within ch g maxLength s h,
    fun _ h => budgeted_of_within ch g g.settings.maxLength s h,
    fun grammar _ h => budgeted_of_within ch { grammar } maxLength s h⟩

/-- A grammar whose only text is one `ß`. -/
def sharpS : Grammar :=
  .ofRules [(rootsName, ["ß".toList])]

theorem generated_length_sharpS :
    Budgeted Chooser.scripted { grammar := sharpS, settings := { maxLength := 2 } } 2 [0]
        "SS".toList ∧
      Budgeted Chooser.scripted { grammar := sharpS } 1 [0] "SS".toList := by
  constructor
  · exact (generated_length _ { grammar := sharpS, settings := { maxLength := 2 } } 2 _).2.2.1 _
      (by decide +kernel)
  · exact (generated_length _ { grammar := sharpS } 1 _).2.2.2 sharpS _ (by decide +kernel)

/-- The budget is one character, and two are returned. -/
theorem generateDetailed_sharpS :
    sharpS.check = .ok () ∧
      (Generator.generateDetailed Chooser.scripted { grammar := sharpS } 1 [0]).1
        = .ok ⟨"SS".toList, 1⟩ := by
  decide +kernel

end Generator

end Vignette
