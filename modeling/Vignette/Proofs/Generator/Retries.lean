import Vignette.Proofs.Expansion.Passes
import Vignette.Proofs.Generator.Attempts

/-!
# `Vignette.Proofs.Generator.Retries`: what more attempts change

How many attempts are allowed is asked only when one of them has failed, and no attempt
knows the number. So a run goes the same way whatever is allowed, up to the attempt that it
may not make any more.

* `attemptsFrom_succ_cases`: one attempt, for all numbers that may be allowed.
* `attemptsFrom_add`: attempts that are not used do not matter, and others are gone on with.
* `run_allowing_cases`: the same for whole runs, with the checks in front.
* `more_attempts_keep_found`: two runs compared by what one of them has come to.
-/

set_option autoImplicit false

namespace Vignette

/-- A run with some attempts in front, and the state that it leaves. -/
def Run.behind {σ : Type} (attempts : List Attempt) (run : Run × σ) : Run × σ :=
  (⟨attempts ++ run.1.attempts, run.1.outcome⟩, run.2)

namespace Generator

variable {σ : Type}

/-- The generator with another number of attempts allowed. -/
def allowing (g : Generator) (attempts : Nat) : Generator :=
  { g with settings := { g.settings with maxAttempts := attempts } }

section
variable (ch : Chooser σ) (g : Generator) (maxLength : Nat) (root : Text) (roots : List Text)

/-! ### One attempt -/

/-- The first of some attempts decides the run, or it leaves its state to the others. It is
the same however many are allowed. -/
theorem attemptsFrom_succ_cases (number : Nat) (s : σ) :
    (∃ run s', (∀ gen, run.outcome = .ok gen → gen.attempts = number) ∧
      ∀ n remaining,
        attemptsFrom ch (g.allowing n) maxLength root roots number (remaining + 1) s
          = (run, s')) ∨
    ∃ attempt s', ∀ n remaining,
      attemptsFrom ch (g.allowing n) maxLength root roots number (remaining + 1) s
        = Run.behind [attempt]
            (attemptsFrom ch (g.allowing n) maxLength root roots (number + 1) remaining s') := by
  rcases hdraw : ch.candidate roots.length s with ⟨i, s₁⟩
  rcases hmake : Attempt.make ch g maxLength ((root :: roots).get i) s₁ with ⟨attempt, s₂⟩
  have hsame (n : Nat) : Attempt.make ch (g.allowing n) maxLength ((root :: roots).get i) s₁
      = (attempt, s₂) := hmake
  cases hverdict : attempt.verdict maxLength with
  | done text =>
      left
      refine ⟨⟨[attempt], .ok ⟨text, number⟩⟩, s₂, ?_, ?_⟩
      · rintro gen ⟨⟩
        rfl
      · intro n remaining
        rw [attemptsFrom]
        simp only [hdraw, hsame, hverdict]
  | fatal fault =>
      left
      refine ⟨⟨[attempt], .error fault⟩, s₂, ?_, ?_⟩
      · rintro gen ⟨⟩
      · intro n remaining
        rw [attemptsFrom]
        simp only [hdraw, hsame, hverdict]
  | retry =>
      right
      refine ⟨attempt, s₂, ?_⟩
      intro n remaining
      rw [attemptsFrom]
      simp only [hdraw, hsame, hverdict]
      rfl

/-! ### All attempts -/

section
variable {ch g maxLength root roots}

/-- A text has the number of one of the attempts. -/
theorem attempts_of_attemptsFrom {n number remaining : Nat} {s : σ} {gen : Generation}
    (h : (attemptsFrom ch (g.allowing n) maxLength root roots number remaining s).1.outcome
      = .ok gen) :
    number ≤ gen.attempts ∧ gen.attempts < number + remaining := by
  induction remaining generalizing number s with
  | zero => cases h
  | succ remaining ih =>
      rcases attemptsFrom_succ_cases ch g maxLength root roots number s with
        ⟨run, s', hnumber, hrun⟩ | ⟨attempt, s', hrun⟩
      · rw [hrun] at h
        have hfirst := hnumber gen h
        omega
      · rw [hrun] at h
        have hlater := ih h
        omega

end

/-- With more attempts a run goes the same way, or it has used up the fewer ones and goes
on with the others from the state that these have left. -/
theorem attemptsFrom_add (n n' number remaining more : Nat) (s : σ) :
    attemptsFrom ch (g.allowing n') maxLength root roots number (remaining + more) s
        = attemptsFrom ch (g.allowing n) maxLength root roots number remaining s ∨
      ∃ attempts s',
        attemptsFrom ch (g.allowing n) maxLength root roots number remaining s
          = (⟨attempts, .error (.generationFailure n maxLength)⟩, s') ∧
        attemptsFrom ch (g.allowing n') maxLength root roots number (remaining + more) s
          = Run.behind attempts
              (attemptsFrom ch (g.allowing n') maxLength root roots (number + remaining) more
                s') := by
  induction remaining generalizing number s with
  | zero =>
      rw [Nat.zero_add]
      exact .inr ⟨[], s, rfl, rfl⟩
  | succ remaining ih =>
      rw [Nat.add_right_comm]
      rcases attemptsFrom_succ_cases ch g maxLength root roots number s with
        ⟨run, s', -, hrun⟩ | ⟨attempt, s', hrun⟩
      · -- Both end with the first attempt.
        rw [hrun, hrun]
        exact .inl rfl
      · -- Both have the first attempt in front.
        rw [hrun, hrun]
        rcases ih (number + 1) s' with hsame | ⟨attempts, s'', hfewer, hmore⟩
        · rw [hsame]
          exact .inl rfl
        · rw [hfewer, hmore, Nat.add_right_comm number 1 remaining]
          exact .inr ⟨attempt :: attempts, s'', rfl, rfl⟩

end

/-! ### Whole runs -/

section
variable (ch : Chooser σ) (g : Generator) (maxLength : Nat) (s : σ)

/-- Without attempts a run stops at its checks. -/
theorem run_allowing_zero :
    ((g.allowing 0).run ch maxLength s).1.outcome
      = .error (if maxLength = 0 then .zeroLength else .zeroAttempts) := by
  have hnone : (g.allowing 0).settings.maxAttempts = 0 := rfl
  rw [run, if_pos hnone]
  split
  · rfl
  · rfl

/-- The checks in front of the attempts are the same, however many are allowed. -/
theorem run_allowing {n : Nat} (hn : 1 ≤ n) :
    (g.allowing n).run ch maxLength s =
      if maxLength = 0 then (⟨[], .error .zeroLength⟩, s)
      else
        match g.grammar.roots? with
        | none => (⟨[], .error (.unknownCategory rootsName)⟩, s)
        | some [] => (⟨[], .error (.emptyCategory rootsName)⟩, s)
        | some (root :: roots) => attemptsFrom ch (g.allowing n) maxLength root roots 1 n s := by
  have hsome : (g.allowing n).settings.maxAttempts ≠ 0 := Nat.ne_of_gt hn
  rw [run, if_neg hsome]
  rfl

/-- With more attempts a run is the same, or the fewer ones have been used up. Then it makes
them too, and a text that it finds comes from a later one. -/
theorem run_allowing_cases {n n' : Nat} (hn : 1 ≤ n) (hle : n ≤ n') :
    (g.allowing n').run ch maxLength s = (g.allowing n).run ch maxLength s ∨
      ((g.allowing n).run ch maxLength s).1.outcome = .error (.generationFailure n maxLength) ∧
        ((g.allowing n).run ch maxLength s).1.attempts
          <+: ((g.allowing n').run ch maxLength s).1.attempts ∧
        ∀ gen, ((g.allowing n').run ch maxLength s).1.outcome = .ok gen → n < gen.attempts := by
  rw [run_allowing ch g maxLength s hn, run_allowing ch g maxLength s (Nat.le_trans hn hle)]
  split
  · exact .inl rfl
  · split
    · exact .inl rfl
    · exact .inl rfl
    · rename_i root roots _
      obtain ⟨more, rfl⟩ := Nat.exists_eq_add_of_le hle
      rcases attemptsFrom_add ch g maxLength root roots n (n + more) 1 n more s with
        hsame | ⟨attempts, s', hfewer, hmore⟩
      · exact .inl hsame
      · right
        rw [hfewer, hmore]
        refine ⟨rfl, List.prefix_append attempts _, ?_⟩
        intro gen hgen
        have hlater := attempts_of_attemptsFrom hgen
        omega

section
variable {ch g maxLength s}

/-- A text has the number of an attempt that is allowed. -/
theorem attempts_of_run {n : Nat} {gen : Generation}
    (h : ((g.allowing n).run ch maxLength s).1.outcome = .ok gen) :
    1 ≤ gen.attempts ∧ gen.attempts ≤ n := by
  rcases Nat.eq_zero_or_pos n with rfl | hn
  · rw [run_allowing_zero] at h
    cases h
  · rw [run_allowing ch g maxLength s hn] at h
    split at h
    · cases h
    · split at h
      · cases h
      · cases h
      · have hbounds := attempts_of_attemptsFrom h
        omega

/-- A run that has found its text in some attempt is the run that is allowed no more than
these. -/
theorem run_allowing_attempts {n : Nat} {gen : Generation}
    (h : ((g.allowing n).run ch maxLength s).1.outcome = .ok gen) :
    (g.allowing n).run ch maxLength s = (g.allowing gen.attempts).run ch maxLength s := by
  obtain ⟨hfirst, hlast⟩ := attempts_of_run h
  rcases run_allowing_cases ch g maxLength s hfirst hlast with hsame | ⟨-, -, hlater⟩
  · exact hsame
  · exact absurd (hlater gen h) (Nat.lt_irrefl _)

end

/-- A text that a run finds comes from one of the attempts that it is allowed. With any
other number that includes this attempt the run is the same: the same text, found in the
same attempt, the same record of attempts and the same state in the end. With fewer attempts
it makes as many of these as it is allowed, and gives up. A run that stops on a fault of its
roots or of an expansion is the same with more attempts. -/
theorem more_attempts_keep_found (n : Nat) :
    (∀ gen, ((g.allowing n).generateDetailed ch maxLength s).1 = .ok gen →
      1 ≤ gen.attempts ∧ gen.attempts ≤ n ∧
      (∀ n', gen.attempts ≤ n' →
        (g.allowing n').generateDetailed ch maxLength s
            = (g.allowing n).generateDetailed ch maxLength s ∧
          (g.allowing n').run ch maxLength s = (g.allowing n).run ch maxLength s) ∧
      ∀ n', 1 ≤ n' → n' < gen.attempts →
        ((g.allowing n').generateDetailed ch maxLength s).1
            = .error (.generationFailure n' maxLength) ∧
          ((g.allowing n').run ch maxLength s).1.attempts
            <+: ((g.allowing n).run ch maxLength s).1.attempts) ∧
    ∀ name fault, fault = .unknownCategory name ∨ fault = .emptyCategory name →
      ((g.allowing n).generateDetailed ch maxLength s).1 = .error fault →
      ∀ n', n ≤ n' →
        (g.allowing n').generateDetailed ch maxLength s
            = (g.allowing n).generateDetailed ch maxLength s ∧
          (g.allowing n').run ch maxLength s = (g.allowing n).run ch maxLength s := by
  -- What is returned is a part of the run.
  have hreturned {m m' : Nat} (hsame : (g.allowing m').run ch maxLength s
      = (g.allowing m).run ch maxLength s) :
      (g.allowing m').generateDetailed ch maxLength s
        = (g.allowing m).generateDetailed ch maxLength s := by
    unfold generateDetailed
    rw [hsame]
  constructor
  · intro gen hgen
    obtain ⟨hfirst, hlast⟩ := attempts_of_run hgen
    have hfound := run_allowing_attempts hgen
    refine ⟨hfirst, hlast, ?_, ?_⟩
    · intro n' hn'
      rcases run_allowing_cases ch g maxLength s hfirst hn' with hsame | ⟨hgaveUp, -, -⟩
      · have hrun := hsame.trans hfound.symm
        exact ⟨hreturned hrun, hrun⟩
      · -- The attempts up to this one have not been used up, since it has found the text.
        rw [← hfound] at hgaveUp
        cases hgaveUp.symm.trans hgen
    · intro n' hn' hlt
      have hle : n' ≤ n := Nat.le_of_lt (Nat.lt_of_lt_of_le hlt hlast)
      rcases run_allowing_cases ch g maxLength s hn' hle with hsame | ⟨hgaveUp, hattempts, -⟩
      · -- A text that the fewer attempts find would have one of their numbers.
        have hfewer : ((g.allowing n').run ch maxLength s).1.outcome = .ok gen := by
          rw [← hsame]
          exact hgen
        have hbounds := attempts_of_run hfewer
        omega
      · exact ⟨hgaveUp, hattempts⟩
  · intro name fault hname hfault n' hle
    rcases Nat.eq_zero_or_pos n with rfl | hn
    · -- Without attempts nothing is looked up.
      have hchecked := (run_allowing_zero ch g maxLength s).symm.trans hfault
      rcases hname with rfl | rfl
      · split at hchecked <;> cases hchecked
      · split at hchecked <;> cases hchecked
    · rcases run_allowing_cases ch g maxLength s hn hle with hsame | ⟨hgaveUp, -, -⟩
      · exact ⟨hreturned hsame, hsame⟩
      · cases hgaveUp.symm.trans hfault
        rcases hname with h | h
        · cases h
        · cases h

end

/-- Of the roots one is never done, one is too long, one can be shortened, and one asks for
a category that does not exist. -/
def fourRoots : Generator where
  grammar := .ofRules
    [(rootsName, ["#again#".toList, "cccc".toList, "<aa>b".toList, "#gone#".toList]),
      ("again".toList, ["#again#".toList])]
  settings := { maxPasses := 2 }

/-- The third attempt finds a text, so three attempts are as good as eight, and two are too
few. Where the second attempt fails for good, more of them do not help. -/
theorem more_attempts_keep_found_fourRoots :
    ((fourRoots.allowing 8).generateDetailed Chooser.scripted 1 [0, 0, 0, 1, 2, 0]).1
        = .ok ⟨"B".toList, 3⟩ ∧
      (fourRoots.allowing 3).generateDetailed Chooser.scripted 1 [0, 0, 0, 1, 2, 0]
        = (fourRoots.allowing 8).generateDetailed Chooser.scripted 1 [0, 0, 0, 1, 2, 0] ∧
      ((fourRoots.allowing 2).generateDetailed Chooser.scripted 1 [0, 0, 0, 1, 2, 0]).1
        = .error (.generationFailure 2 1) ∧
      ((fourRoots.allowing 2).generateDetailed Chooser.scripted 1 [0, 0, 0, 3]).1
        = .error (.unknownCategory "gone".toList) ∧
      ((fourRoots.allowing 8).generateDetailed Chooser.scripted 1 [0, 0, 0, 3]).1
        = .error (.unknownCategory "gone".toList) := by
  have hfound : ((fourRoots.allowing 8).generateDetailed Chooser.scripted 1
      [0, 0, 0, 1, 2, 0]).1 = .ok ⟨"B".toList, 3⟩ := by decide +kernel
  have hgone : ((fourRoots.allowing 2).generateDetailed Chooser.scripted 1 [0, 0, 0, 3]).1
      = .error (.unknownCategory "gone".toList) := by decide +kernel
  obtain ⟨hkept, -⟩ :=
    more_attempts_keep_found Chooser.scripted fourRoots 1 [0, 0, 0, 1, 2, 0] 8
  obtain ⟨-, hstopped⟩ := more_attempts_keep_found Chooser.scripted fourRoots 1 [0, 0, 0, 3] 2
  obtain ⟨-, -, hsame, hfewer⟩ := hkept _ hfound
  refine ⟨hfound, (hsame 3 (by decide)).1, (hfewer 2 (by decide) (by decide)).1, hgone, ?_⟩
  rw [(hstopped _ _ (.inl rfl) hgone 8 (by decide)).1]
  exact hgone

end Generator

end Vignette
