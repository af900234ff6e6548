import Vignette.Generator

/-!
# `Vignette.Proofs.Generator.Attempts`: how a run of attempts ends

An attempt is decided by how its root expands: a fault other than a lack of
passes is fatal, and an expanded text is pruned and then measured. A run ends
with its first attempt that does not ask for another one, or gives up.

* `attemptsFrom_ending`: the attempts of a run end in one of these ways.
* `run_of_roots`, `run_ending`: the checks in front of them.
-/

set_option autoImplicit false

namespace Vignette

variable {σ : Type} {ch : Chooser σ} {g : Generator} {maxLength : Nat}

/-! ### One attempt -/

namespace Attempt

/-- A lack of passes asks for another attempt, all other causes are fatal. -/
theorem verdict_unexpanded_eq_fatal_iff {passes : List Nat} {cause fault : Fault} :
    (unexpanded passes cause).verdict maxLength = .fatal fault ↔
      cause = fault ∧ ∀ limit, fault ≠ .expansionLimit limit := by
  constructor
  · intro h
    cases cause with
    | expansionLimit limit => cases h
    | _ =>
        cases h
        exact ⟨rfl, fun limit heq => by cases heq⟩
  · rintro ⟨rfl, hne⟩
    cases cause with
    | expansionLimit limit => exact absurd rfl (hne limit)
    | _ => rfl

/-- An attempt is fatal when its expansion fails for another reason than a lack
of passes. -/
theorem make_eq_fatal_iff {root : Text} {s : σ} {fault : Fault} :
    (make ch g maxLength root s).1.verdict maxLength = .fatal fault ↔
      (Expansion.expand ch g.grammar g.settings.maxPasses root s).1.outcome = .error fault ∧
        ∀ limit, fault ≠ .expansionLimit limit := by
  unfold make
  rcases hrun : Expansion.expand ch g.grammar g.settings.maxPasses root s with ⟨⟨passes, out⟩, s'⟩
  cases out with
  | error cause =>
      show (unexpanded passes cause).verdict maxLength = _ ↔ _
      rw [verdict_unexpanded_eq_fatal_iff, Except.error.injEq]
  | ok text =>
      -- A text that was expanded is returned or asks for another attempt.
      simp only [verdict]
      split <;> simp

/-- A text is returned when what is left after pruning fits. -/
theorem pruned_of_done {attempt : Attempt} {text : Text}
    (h : attempt.verdict maxLength = .done text) :
    ∃ passes pruning, attempt = .pruned passes pruning ∧ pruning.result.length ≤ maxLength ∧
      text = pruning.result.capitalize := by
  cases attempt with
  | unexpanded passes fault => cases fault <;> cases h
  | pruned passes pruning =>
      simp only [verdict] at h
      split at h
      · rename_i hfits
        cases h
        exact ⟨passes, pruning, rfl, hfits, rfl⟩
      · cases h

end Attempt

/-! ### All attempts -/

namespace Generator

section
variable (ch g maxLength)

/-- How a run may end whose attempts draw from these roots. -/
inductive Ending (roots : List Text) (run : Run) : Prop
  /-- The last attempt gave a text that fits. -/
  | done {attempt : Attempt} {text : Text} {number : Nat} :
      run.attempts.getLast? = some attempt → attempt.verdict maxLength = .done text →
      run.outcome = .ok ⟨text, number⟩ → Ending roots run
  /-- The last attempt failed, and others would not do better. -/
  | fatal {root : Text} {s : σ} {fault : Fault} : root ∈ roots →
      (Attempt.make ch g maxLength root s).1.verdict maxLength = .fatal fault →
      run.outcome = .error fault → Ending roots run
  /-- No attempt decided the run. -/
  | exhausted : run.outcome = .error (.generationFailure g.settings.maxAttempts maxLength) →
      Ending roots run

/-- An attempt in front that asks for another one does not change the ending. -/
theorem Ending.cons {ch : Chooser σ} {g : Generator} {maxLength : Nat} {roots : List Text}
    {run : Run} (attempt : Attempt) (h : Ending ch g maxLength roots run) :
    Ending ch g maxLength roots { run with attempts := attempt :: run.attempts } := by
  cases h with
  | done hlast hverdict hout =>
      refine .done ?_ hverdict hout
      show (attempt :: run.attempts).getLast? = _
      rw [List.getLast?_cons, hlast]
      rfl
  | fatal hroot hverdict hout => exact .fatal hroot hverdict hout
  | exhausted hout => exact .exhausted hout

theorem attemptsFrom_ending (root : Text) (roots : List Text) (number remaining : Nat) (s : σ) :
    Ending ch g maxLength (root :: roots)
      (attemptsFrom ch g maxLength root roots number remaining s).1 := by
  induction remaining generalizing number s with
  | zero => exact .exhausted rfl
  | succ remaining ih =>
      -- The verdict on the first attempt ends the run or leaves it to the others.
      unfold attemptsFrom
      rcases ch.candidate roots.length s with ⟨i, s₁⟩
      have hroot : (root :: roots).get i ∈ root :: roots := List.get_mem _ _
      rcases hmake : Attempt.make ch g maxLength ((root :: roots).get i) s₁ with ⟨attempt, s₂⟩
      have hattempt : (Attempt.make ch g maxLength ((root :: roots).get i) s₁).1 = attempt := by
        rw [hmake]
      cases hverdict : attempt.verdict maxLength with
      | done text =>
          simp only [hmake, hverdict]
          exact .done rfl hverdict rfl
      | fatal fault =>
          simp only [hmake, hverdict]
          exact .fatal hroot (by rw [hattempt, hverdict]) rfl
      | retry =>
          simp only [hmake, hverdict]
          exact (ih (number + 1) s₂).cons attempt

/-- A fatal first attempt is the last one. -/
theorem attemptsFrom_of_fatal {root : Text} {roots : List Text} {i : Fin (roots.length + 1)}
    {number remaining : Nat} {s s' : σ} {fault : Fault}
    (hdraw : ch.candidate roots.length s = (i, s'))
    (hfatal : (Attempt.make ch g maxLength ((root :: roots).get i) s').1.verdict maxLength
      = .fatal fault) :
    (attemptsFrom ch g maxLength root roots number (remaining + 1) s).1.outcome
      = .error fault := by
  unfold attemptsFrom
  rcases hmake : Attempt.make ch g maxLength ((root :: roots).get i) s' with ⟨attempt, s''⟩
  rw [hmake] at hfatal
  simp only [hdraw, hmake, hfatal]

/-- With a budget, attempts and roots a run goes straight to its attempts. -/
theorem run_of_roots {root : Text} {roots : List Text} (hlength : 0 < maxLength)
    (hattempts : 0 < g.settings.maxAttempts) (hroots : g.grammar.roots? = some (root :: roots))
    (s : σ) :
    g.run ch maxLength s = attemptsFrom ch g maxLength root roots 1 g.settings.maxAttempts s := by
  unfold run
  rw [if_neg (Nat.ne_of_gt hlength), if_neg (Nat.ne_of_gt hattempts), hroots]

theorem generateDetailed_fst (s : σ) :
    (g.generateDetailed ch maxLength s).1 = (g.run ch maxLength s).1.outcome := rfl

/-- A run that returns a text ends as its attempts do. -/
theorem run_ending {s : σ} {gen : Generation} (h : (g.run ch maxLength s).1.outcome = .ok gen) :
    ∃ roots, Ending ch g maxLength roots (g.run ch maxLength s).1 := by
  unfold run at h ⊢
  split at h
  · cases h
  · split at h
    · cases h
    · split at h
      · cases h
      · cases h
      · rename_i hlength hattempts _ root roots _
        refine ⟨root :: roots, ?_⟩
        rw [if_neg hlength, if_neg hattempts]
        exact attemptsFrom_ending ch g maxLength root roots 1 g.settings.maxAttempts s

end

end Generator

end Vignette
