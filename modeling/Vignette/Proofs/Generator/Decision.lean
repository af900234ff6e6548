import Mathlib.Data.List.Find
import Mathlib.Logic.Function.Iterate
import Vignette.Proofs.Generator.Attempts
import Vignette.Proofs.Pruning.Budget

/-!
# `Vignette.Proofs.Generator.Decision`: which attempt decides a run

An attempt draws a root, expands it, and prunes the fixed text. Whether it fails is
told without its choices of spans: it runs out of passes, or the fixed text is too
long even with all its spans cut out. The first attempt that does not fail decides
the run, and the random state goes through all attempts before it.

* `ending_attemptsFrom_succ`: one attempt either decides or hands its state on.
* `ending_attemptsFrom`: a run is decided by the first attempt that does not fail.
* `generateDetailed_eq_decision`: the whole outcome, with the checks in front.
-/

set_option autoImplicit false

namespace Vignette.Generator

variable {σ : Type} (ch : Chooser σ) (g : Generator) (maxLength : Nat) (root : Text)
  (roots : List Text)

/-! ### One attempt -/

/-- The root that an attempt draws, expanded, and the state after that. -/
def expandRoot (s : σ) : Except Fault Text × σ :=
  let (i, s) := ch.candidate roots.length s
  let (expansion, s) := Expansion.expand ch g.grammar g.settings.maxPasses ((root :: roots).get i) s
  (expansion.outcome, s)

/-- Whether the attempt that starts in this state fails: tokens are left after the
last pass, or the fixed text is too long with all its spans cut out. -/
def fails (s : σ) : Bool :=
  match (expandRoot ch g root roots s).1 with
  | .error (.expansionLimit _) => true
  | .error _ => false
  | .ok text => decide (maxLength < Span.effectiveLength (Span.cutAll (g.fixer.run text)))

/-- What a run comes to whose attempt of this number starts in this state and does
not fail. -/
def settle (number : Nat) (s : σ) : Except Fault Generation :=
  match expandRoot ch g root roots s with
  | (.error fault, _) => .error fault
  | (.ok text, s) =>
    .ok ⟨(Pruning.prune ch maxLength (g.fixer.run text) s).1.result.capitalize, number⟩

/-- The state after the attempt that starts in this state. -/
def after (s : σ) : σ :=
  match expandRoot ch g root roots s with
  | (.error _, s) => s
  | (.ok text, s) => (Pruning.prune ch maxLength (g.fixer.run text) s).2

/-- The state in which the attempt of this number starts, counted from 1, when the
first one starts in `s`. -/
def startOf (s : σ) (number : Nat) : σ :=
  (after ch g maxLength root roots)^[number - 1] s

/-- What a run over these roots comes to, and the state it leaves: the first attempt
that does not fail decides. -/
def decision (s : σ) : Except Fault Generation × σ :=
  match (List.range' 1 g.settings.maxAttempts).find? fun number =>
      !fails ch g maxLength root roots (startOf ch g maxLength root roots s number) with
  | some number =>
    let start := startOf ch g maxLength root roots s number
    (settle ch g maxLength root roots number start, after ch g maxLength root roots start)
  | none =>
    (.error (.generationFailure g.settings.maxAttempts maxLength),
      (after ch g maxLength root roots)^[g.settings.maxAttempts] s)

/-- What a run comes to and the state it leaves, without its record of attempts. -/
def ending (run : Run × σ) : Except Fault Generation × σ :=
  (run.1.outcome, run.2)

/-- The verdict on an attempt decides, or the next one starts from its state. -/
theorem ending_attemptsFrom_of_make {number remaining : Nat} {i : Fin (roots.length + 1)}
    {s s₁ s₂ : σ} {attempt : Attempt} (hdraw : ch.candidate roots.length s = (i, s₁))
    (hmake : Attempt.make ch g maxLength ((root :: roots).get i) s₁ = (attempt, s₂)) :
    ending (attemptsFrom ch g maxLength root roots number (remaining + 1) s) =
      match attempt.verdict maxLength with
      | .done text => (.ok ⟨text, number⟩, s₂)
      | .fatal fault => (.error fault, s₂)
      | .retry => ending (attemptsFrom ch g maxLength root roots (number + 1) remaining s₂) := by
  conv_lhs => unfold attemptsFrom
  simp only [hdraw, hmake]
  cases attempt.verdict maxLength <;> rfl

/-- An attempt fails or it settles the run. -/
theorem ending_attemptsFrom_succ (number remaining : Nat) (s : σ) :
    ending (attemptsFrom ch g maxLength root roots number (remaining + 1) s) =
      if fails ch g maxLength root roots s then
        ending (attemptsFrom ch g maxLength root roots (number + 1) remaining
          (after ch g maxLength root roots s))
      else (settle ch g maxLength root roots number s, after ch g maxLength root roots s) := by
  rcases hdraw : ch.candidate roots.length s with ⟨i, s₁⟩
  rcases hrun : Expansion.expand ch g.grammar g.settings.maxPasses ((root :: roots).get i) s₁ with
    ⟨⟨passes, outcome⟩, s₂⟩
  have hexpand : expandRoot ch g root roots s = (outcome, s₂) := by
    unfold expandRoot
    simp only [hdraw, hrun]
  unfold fails settle after
  rw [hexpand]
  cases outcome with
  | error fault =>
      have hmake : Attempt.make ch g maxLength ((root :: roots).get i) s₁
          = (.unexpanded passes fault, s₂) := by
        unfold Attempt.make
        rw [hrun]
      rw [ending_attemptsFrom_of_make ch g maxLength root roots hdraw hmake]
      -- Only a lack of passes asks for another attempt.
      cases fault <;> rfl
  | ok text =>
      have hmake : Attempt.make ch g maxLength ((root :: roots).get i) s₁
          = (.pruned passes (Pruning.prune ch maxLength (g.fixer.run text) s₂).1,
              (Pruning.prune ch maxLength (g.fixer.run text) s₂).2) := by
        unfold Attempt.make
        rw [hrun]
      -- Whether the pruned text fits does not depend on the spans that were chosen.
      have hfits := Pruning.length_result_le_iff ch maxLength (g.fixer.run text) s₂
      rw [ending_attemptsFrom_of_make ch g maxLength root roots hdraw hmake]
      simp only [Attempt.verdict, decide_eq_true_eq]
      by_cases hlong : maxLength < Span.effectiveLength (Span.cutAll (g.fixer.run text))
      · rw [if_pos hlong, if_neg fun h => Nat.not_le.2 hlong (hfits.1 h)]
      · rw [if_neg hlong, if_pos (hfits.2 (Nat.not_lt.1 hlong))]

/-! ### All attempts -/

/-- The attempts from some number on are decided by the first one that does not
fail. -/
theorem ending_attemptsFrom (number remaining : Nat) (s : σ) :
    ending (attemptsFrom ch g maxLength root roots number remaining s) =
      match (List.range' number remaining).find? fun k =>
          !fails ch g maxLength root roots ((after ch g maxLength root roots)^[k - number] s) with
      | some k =>
        (settle ch g maxLength root roots k ((after ch g maxLength root roots)^[k - number] s),
          after ch g maxLength root roots ((after ch g maxLength root roots)^[k - number] s))
      | none => (.error (.generationFailure g.settings.maxAttempts maxLength),
          (after ch g maxLength root roots)^[remaining] s) := by
  induction remaining generalizing number s with
  | zero => rfl
  | succ remaining ih =>
      rw [ending_attemptsFrom_succ, List.range'_succ]
      by_cases hfails : fails ch g maxLength root roots s
      · -- The later attempts start from the state that this one leaves.
        have hlater : ∀ k ∈ List.range' (number + 1) remaining,
            (after ch g maxLength root roots)^[k - number] s
              = (after ch g maxLength root roots)^[k - (number + 1)]
                  (after ch g maxLength root roots s) := by
          intro k hk
          have hle := (List.mem_range'_1.1 hk).1
          rw [show k - number = k - (number + 1) + 1 by omega, Function.iterate_succ_apply]
        have hsame : ((List.range' (number + 1) remaining).find? fun k =>
            !fails ch g maxLength root roots ((after ch g maxLength root roots)^[k - number] s))
              = (List.range' (number + 1) remaining).find? fun k =>
                  !fails ch g maxLength root roots ((after ch g maxLength root roots)^[k - (number + 1)]
                    (after ch g maxLength root roots s)) :=
          List.find?_congr fun k hk => by rw [hlater k hk]
        rw [if_pos hfails, List.find?_cons_of_neg (by simp [hfails]), ih, hsame]
        cases hfind : (List.range' (number + 1) remaining).find? _ with
        | none => rfl
        | some k => simp only [hlater k (List.mem_of_find?_eq_some hfind)]
      · rw [if_neg hfails, List.find?_cons_of_pos (by simp [hfails])]
        simp

theorem ending_attemptsFrom_one (s : σ) :
    ending (attemptsFrom ch g maxLength root roots 1 g.settings.maxAttempts s)
      = decision ch g maxLength root roots s := by
  rw [ending_attemptsFrom]
  rfl

/-! ### Attempts that do not fail -/

/-- An attempt with an expanded text does not fail exactly when some spans can be
cut out for the text to fit. -/
theorem fails_eq_false_iff {s : σ} {text : Text}
    (h : (expandRoot ch g root roots s).1 = .ok text) :
    fails ch g maxLength root roots s = false ↔
      ∃ numbers, Span.effectiveLength (Pruning.without (g.fixer.run text) numbers) ≤ maxLength := by
  unfold fails
  simp only [h, decide_eq_false_iff_not, Nat.not_lt]
  constructor
  · -- Cutting out all spans is one such choice.
    intro hall
    refine ⟨List.finRange _, ?_⟩
    rwa [Pruning.without_eq_cutAll List.mem_finRange]
  · rintro ⟨numbers, hfits⟩
    exact Nat.le_trans (Pruning.effectiveLength_cutAll_le_without numbers) hfits

/-- An attempt that gives a text puts its number on it. -/
theorem attempts_of_settle {number : Nat} {s : σ} {gen : Generation}
    (h : settle ch g maxLength root roots number s = .ok gen) : gen.attempts = number := by
  unfold settle at h
  split at h
  · cases h
  · cases h
    rfl

/-- A lack of passes is a failed attempt, so no run ends on it. -/
theorem settle_ne_expansionLimit {number : Nat} {s : σ}
    (h : ¬fails ch g maxLength root roots s) (limit : Nat) :
    settle ch g maxLength root roots number s ≠ .error (.expansionLimit limit) := by
  unfold fails at h
  unfold settle
  rcases hexpand : expandRoot ch g root roots s with ⟨fault | text, s'⟩
  · rw [hexpand] at h
    rintro ⟨⟩
    exact h rfl
  · simp

theorem decision_ne_expansionLimit (s : σ) (limit : Nat) :
    (decision ch g maxLength root roots s).1 ≠ .error (.expansionLimit limit) := by
  unfold decision
  split
  · rename_i number hfind
    exact settle_ne_expansionLimit ch g maxLength root roots (by simpa using List.find?_some hfind) limit
  · simp

/-- A first attempt that does not fail decides the run. -/
theorem decision_of_not_fails (hattempts : 0 < g.settings.maxAttempts) {s : σ}
    (h : fails ch g maxLength root roots s = false) :
    (decision ch g maxLength root roots s).1 = settle ch g maxLength root roots 1 s := by
  obtain ⟨remaining, hremaining⟩ := Nat.exists_eq_succ_of_ne_zero (Nat.ne_of_gt hattempts)
  have hstart : startOf ch g maxLength root roots s 1 = s := rfl
  unfold decision
  rw [hremaining, List.range'_succ, List.find?_cons_of_pos (by rw [hstart, h]; rfl)]
  rfl

/-- Where every attempt fails the run gives up. -/
theorem decision_of_fails (h : ∀ s, fails ch g maxLength root roots s) (s : σ) :
    (decision ch g maxLength root roots s).1
      = .error (.generationFailure g.settings.maxAttempts maxLength) := by
  have hnone : (List.range' 1 g.settings.maxAttempts).find? (fun number =>
      !fails ch g maxLength root roots (startOf ch g maxLength root roots s number)) = none :=
    List.find?_eq_none.2 fun number _ => by simp [h]
  unfold decision
  rw [hnone]

/-! ### The whole run -/

/-- The checks in front of the attempts. -/
theorem generateDetailed_eq_ite (s : σ) :
    g.generateDetailed ch maxLength s =
      if maxLength = 0 then (.error .zeroLength, s)
      else if g.settings.maxAttempts = 0 then (.error .zeroAttempts, s)
      else
        match g.grammar.candidates? rootsName with
        | none => (.error (.unknownCategory rootsName), s)
        | some [] => (.error (.emptyCategory rootsName), s)
        | some (root :: roots) => decision ch g maxLength root roots s := by
  show ending (g.run ch maxLength s) = _
  unfold run Grammar.roots?
  split
  · rfl
  · split
    · rfl
    · cases g.grammar.candidates? rootsName with
      | none => rfl
      | some candidates =>
          cases candidates with
          | nil => rfl
          | cons root roots => exact ending_attemptsFrom_one ch g maxLength root roots s

/-- A text that is returned comes from the attempt whose number is told. -/
theorem exists_settle {s : σ} {gen : Generation}
    (h : (g.generateDetailed ch maxLength s).1 = .ok gen) :
    ∃ root roots, g.grammar.roots? = some (root :: roots) ∧
      settle ch g maxLength root roots gen.attempts
        (startOf ch g maxLength root roots s gen.attempts) = .ok gen := by
  rw [generateDetailed_eq_ite] at h
  split at h
  · cases h
  · split at h
    · cases h
    · split at h
      · cases h
      · cases h
      · rename_i root roots hroots
        unfold decision at h
        split at h
        · rename_i number _
          have hnumber : gen.attempts = number := attempts_of_settle ch g maxLength root roots h
          exact ⟨root, roots, hroots, by rw [hnumber]; exact h⟩
        · cases h

/-- A run checks its budget, its number of attempts and its roots before it draws.
Then the first attempt that does not fail decides: it passes on a fault of its
expansion, or returns what pruning leaves of its text. Without such an attempt the
run gives up. So no run ends on a lack of passes, and no attempt fails that some
choice of spans could have made fit. -/
theorem generateDetailed_eq_decision (s : σ) :
    (g.generateDetailed ch maxLength s =
      if maxLength = 0 then (.error .zeroLength, s)
      else if g.settings.maxAttempts = 0 then (.error .zeroAttempts, s)
      else
        match g.grammar.candidates? rootsName with
        | none => (.error (.unknownCategory rootsName), s)
        | some [] => (.error (.emptyCategory rootsName), s)
        | some (root :: roots) => decision ch g maxLength root roots s) ∧
    (∀ limit, (g.generateDetailed ch maxLength s).1 ≠ .error (.expansionLimit limit)) ∧
    ∀ root roots start text, (expandRoot ch g root roots start).1 = .ok text →
      (fails ch g maxLength root roots start = false ↔
        ∃ numbers,
          Span.effectiveLength (Pruning.without (g.fixer.run text) numbers) ≤ maxLength) := by
  refine ⟨generateDetailed_eq_ite ch g maxLength s, fun limit => ?_,
    fun root roots start text h => fails_eq_false_iff ch g maxLength root roots h⟩
  rw [generateDetailed_eq_ite]
  split
  · simp
  · split
    · simp
    · split
      · simp
      · simp
      · exact decision_ne_expansionLimit ch g maxLength _ _ s limit

/-- Three roots: one is never done, one can be shortened to a character, and one
cannot be shortened. -/
def threeRoots : Generator where
  grammar := .ofRules
    [(rootsName, ["#again#".toList, "<aa>b".toList, "cccc".toList]),
      ("again".toList, ["#again#".toList])]
  settings := { maxAttempts := 3, maxPasses := 2 }

/-- The first two attempts fail, the third one is shortened. -/
theorem generateDetailed_eq_decision_threeRoots :
    (threeRoots.generateDetailed Chooser.scripted 1 [0, 0, 0, 2, 1, 0]
        = (.ok ⟨"B".toList, 3⟩, [])) ∧
      fails Chooser.scripted threeRoots 1 "#again#".toList ["<aa>b".toList, "cccc".toList] [1, 0]
        = false := by
  have hpassed : (expandRoot Chooser.scripted threeRoots "#again#".toList
      ["<aa>b".toList, "cccc".toList] [1, 0]).1 = .ok "<aa>b".toList := by decide +kernel
  obtain ⟨hrun, -, hfails⟩ :=
    generateDetailed_eq_decision Chooser.scripted threeRoots 1 [0, 0, 0, 2, 1, 0]
  refine ⟨hrun.trans (by decide +kernel), (hfails _ _ _ _ hpassed).2 ⟨[⟨0, by decide +kernel⟩], ?_⟩⟩
  decide +kernel

end Vignette.Generator
