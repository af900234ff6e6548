import Vignette.Proofs.Expansion.Lockstep
import Vignette.Proofs.Generator.Decision
import Vignette.Proofs.Grammar.Closure

/-!
# `Vignette.Proofs.Generator.Sole`: grammars that leave nothing to choose

Where every category has one candidate all draws give the same, so all expansions of
a fragment go the same way, through cycles too. Whether an attempt fails is told by its
expanded text. Then either all attempts of a run fail or the first one decides, and
only the spans that pruning chooses can tell two runs apart.

* `expand_fst_of_sole`: expansions do not depend on the chooser.
* `fails_of_sole`: nor does the failure of an attempt.
* `generateDetailed_alike`: two runs end alike, and in the same text where pruning
  settles it.
-/

set_option autoImplicit false

namespace Vignette

variable {σ σ' : Type}

/-! ### Draws and expansions -/

/-- One of one is always the first. -/
theorem Chooser.get_singleton (ch : Chooser σ) (candidate : Text) (s : σ) :
    [candidate].get (ch.candidate 0 s).1 = candidate := by
  rw [Fin.eq_zero (ch.candidate 0 s).1]
  rfl

/-- Every category has one candidate. -/
def Grammar.Sole (g : Grammar) : Prop :=
  ∀ rule ∈ g.rules, rule.2.length = 1

instance (g : Grammar) : Decidable g.Sole :=
  inferInstanceAs (Decidable (∀ rule ∈ g.rules, rule.2.length = 1))

theorem Grammar.Sole.eq_singleton {g : Grammar} (h : g.Sole) {name : Name}
    {candidates : List Text} (hlookup : g.candidates? name = some candidates) :
    ∃ candidate, candidates = [candidate] :=
  List.length_eq_one_iff.1 (h (name, candidates) (Grammar.mem_rules_iff.2 hlookup))

namespace Expansion

section
variable {g : Grammar} (hsole : g.Sole)
include hsole

theorem pick_fst_of_sole (ch : Chooser σ) (ch' : Chooser σ') (name : Name) (s : σ) (s' : σ') :
    (pick ch g name s).1 = (pick ch' g name s').1 := by
  unfold pick
  cases hlookup : g.candidates? name with
  | none => rfl
  | some candidates =>
      obtain ⟨candidate, rfl⟩ := hsole.eq_singleton hlookup
      show Except.ok ([candidate].get (ch.candidate 0 s).1)
        = Except.ok ([candidate].get (ch'.candidate 0 s').1)
      rw [ch.get_singleton, ch'.get_singleton]

/-- Two expansions go the same way, whatever their choosers do. -/
theorem expand_fst_of_sole (ch : Chooser σ) (ch' : Chooser σ') (limit : Nat) (fragment : Text)
    (s : σ) (s' : σ') : (expand ch g limit fragment s).1 = (expand ch' g limit fragment s').1 := by
  have hlockstep : Lockstep ch g ch' g (fun _ _ => True) (fun _ => True) :=
    { draw := fun t _ name _ s s' _ => ⟨pick_fst_of_sole hsole ch ch' name s s', trivial⟩
      pass := fun _ _ _ _ => trivial }
  exact (hlockstep.expand_agree limit trivial trivial).value

end

end Expansion

/-! ### Attempts -/

namespace Generator

section
variable {g : Generator} (hsole : g.grammar.Sole) (maxLength : Nat) (root : Text)
include hsole

/-- The only root expands as it would by itself. -/
theorem expandRoot_fst_of_sole (ch : Chooser σ) (ch' : Chooser σ') (s : σ) (s' : σ') :
    (expandRoot ch g root [] s).1
      = (Expansion.expand ch' g.grammar g.settings.maxPasses root s').1.outcome := by
  show (Expansion.expand ch g.grammar g.settings.maxPasses ([root].get (ch.candidate 0 s).1)
    (ch.candidate 0 s).2).1.outcome = _
  rw [ch.get_singleton, Expansion.expand_fst_of_sole hsole ch ch']

theorem expandRoot_fst_eq (ch : Chooser σ) (ch' : Chooser σ') (s : σ) (s' : σ') :
    (expandRoot ch g root [] s).1 = (expandRoot ch' g root [] s').1 := by
  rw [expandRoot_fst_of_sole hsole root ch ch' s s', expandRoot_fst_of_sole hsole root ch' ch' s' s']

theorem fails_of_sole (ch : Chooser σ) (ch' : Chooser σ') (s : σ) (s' : σ') :
    fails ch g maxLength root [] s = fails ch' g maxLength root [] s' := by
  unfold fails
  rw [expandRoot_fst_eq hsole root ch ch' s s']

end

/-! ### Runs -/

/-- Both have failed with the same fault, or both have a text from their first
attempt. -/
inductive Alike : Except Fault Generation → Except Fault Generation → Prop
  | error (fault : Fault) : Alike (.error fault) (.error fault)
  | ok (text text' : Text) : Alike (.ok ⟨text, 1⟩) (.ok ⟨text', 1⟩)

section
variable {g : Generator} (hsole : g.grammar.Sole) (maxLength : Nat) (root : Text)
include hsole

/-- Attempts that have expanded the same text differ in what pruning leaves of it. -/
theorem settle_alike (ch : Chooser σ) (ch' : Chooser σ') (s : σ) (s' : σ') :
    Alike (settle ch g maxLength root [] 1 s) (settle ch' g maxLength root [] 1 s') ∧
      ∀ text, (expandRoot ch g root [] s).1 = .ok text →
        Pruning.Settled maxLength (g.fixer.run text) →
        settle ch g maxLength root [] 1 s = settle ch' g maxLength root [] 1 s' := by
  -- The expanded text is the same, the states behind it may differ.
  have hsame := expandRoot_fst_eq hsole root ch ch' s s'
  unfold settle
  rcases hexpand : expandRoot ch g root [] s with ⟨out, s₁⟩
  rcases hexpand' : expandRoot ch' g root [] s' with ⟨out', s₁'⟩
  rw [hexpand, hexpand'] at hsame
  cases hsame
  cases out with
  | error fault => exact ⟨.error fault, fun _ _ _ => rfl⟩
  | ok text =>
      refine ⟨.ok _ _, ?_⟩
      rintro _ ⟨⟩ hsettled
      simp only [Pruning.result, Pruning.rest_of_settled hsettled]

theorem decision_alike (hattempts : 0 < g.settings.maxAttempts) (ch : Chooser σ)
    (ch' : Chooser σ') (s : σ) (s' : σ') :
    Alike (decision ch g maxLength root [] s).1 (decision ch' g maxLength root [] s').1 ∧
      ∀ text, (expandRoot ch g root [] s).1 = .ok text →
        Pruning.Settled maxLength (g.fixer.run text) →
        (decision ch g maxLength root [] s).1 = (decision ch' g maxLength root [] s').1 := by
  have hsame := fails_of_sole hsole maxLength root ch ch' s s'
  cases hfails : fails ch g maxLength root [] s with
  | false =>
      rw [hfails] at hsame
      rw [decision_of_not_fails ch g maxLength root [] hattempts hfails,
        decision_of_not_fails ch' g maxLength root [] hattempts hsame.symm]
      exact settle_alike hsole maxLength root ch ch' s s'
  | true =>
      -- The attempts of both runs all fail as this one does.
      have hall {τ : Type} (ch₁ : Chooser τ) (s₁ : τ) : fails ch₁ g maxLength root [] s₁ := by
        rw [fails_of_sole hsole maxLength root ch₁ ch s₁ s, hfails]
      rw [decision_of_fails ch g maxLength root [] (hall ch),
        decision_of_fails ch' g maxLength root [] (hall ch')]
      exact ⟨.error _, fun _ _ _ => rfl⟩

end

/-- Let every category have one candidate, and let there be a budget and attempts.
Whatever two choosers do, both runs fail with the same fault or both return a text from
their first attempt. The texts are the same where the choices of spans have no say in
what pruning leaves of the expanded and fixed text. -/
theorem generateDetailed_alike {g : Generator} (hsole : g.grammar.Sole) {maxLength : Nat}
    (hlength : 0 < maxLength) (hattempts : 0 < g.settings.maxAttempts) {σ₁ σ₂ : Type}
    (ch₁ : Chooser σ₁) (ch₂ : Chooser σ₂) (s₁ : σ₁) (s₂ : σ₂) :
    Alike (g.generateDetailed ch₁ maxLength s₁).1 (g.generateDetailed ch₂ maxLength s₂).1 ∧
      ∀ (σ : Type) (ch : Chooser σ) (s : σ) (root text : Text), g.grammar.Offers rootsName root →
        (Expansion.expand ch g.grammar g.settings.maxPasses root s).1.outcome = .ok text →
        Pruning.Settled maxLength (g.fixer.run text) →
        (g.generateDetailed ch₁ maxLength s₁).1 = (g.generateDetailed ch₂ maxLength s₂).1 := by
  rw [generateDetailed_eq_ite, generateDetailed_eq_ite, if_neg (Nat.ne_of_gt hlength),
    if_neg (Nat.ne_of_gt hlength), if_neg (Nat.ne_of_gt hattempts),
    if_neg (Nat.ne_of_gt hattempts)]
  cases hlookup : g.grammar.candidates? rootsName with
  | none => exact ⟨.error _, fun _ _ _ _ _ _ _ _ => rfl⟩
  | some candidates =>
      obtain ⟨root, rfl⟩ := hsole.eq_singleton hlookup
      -- The root and the text told in the second part can only be those of the runs.
      obtain ⟨halike, hsettled⟩ := decision_alike hsole maxLength root hattempts ch₁ ch₂ s₁ s₂
      refine ⟨halike, fun σ ch s other text hoffer hexpand => hsettled text ?_⟩
      obtain ⟨candidates, hlookup', hmem⟩ := hoffer
      rw [hlookup] at hlookup'
      cases hlookup'
      cases List.mem_singleton.1 hmem
      rw [expandRoot_fst_of_sole hsole root ch₁ ch s₁ s, hexpand]

/-- A text with a span on both sides. -/
def twoSides : Generator where
  grammar := .ofRules [(rootsName, ["<aa>#end#<bb>".toList]), ("end".toList, ["cc".toList])]

/-- Both spans have to go for two characters, so all runs end in the same text. For
four characters one is enough, and runs may end in different texts. -/
theorem generateDetailed_alike_twoSides :
    (∀ (σ : Type) (ch : Chooser σ) (s : σ),
      (twoSides.generateDetailed ch 2 s).1 = .ok ⟨"Cc".toList, 1⟩) ∧
    (twoSides.generateDetailed Chooser.scripted 4 [0, 0, 0]).1 = .ok ⟨"Ccbb".toList, 1⟩ ∧
    (twoSides.generateDetailed Chooser.scripted 4 [0, 0, 1]).1 = .ok ⟨"Aacc".toList, 1⟩ := by
  refine ⟨fun σ ch s => ?_, by decide +kernel, by decide +kernel⟩
  have hscripted : (twoSides.generateDetailed Chooser.scripted 2 [0, 0, 0, 0]).1
      = .ok ⟨"Cc".toList, 1⟩ := by decide +kernel
  have hexpand : (Expansion.expand Chooser.scripted twoSides.grammar twoSides.settings.maxPasses
      "<aa>#end#<bb>".toList [0]).1.outcome = .ok "<aa>cc<bb>".toList := by decide +kernel
  have hsettled : Pruning.Settled 2 (twoSides.fixer.run "<aa>cc<bb>".toList) := by decide +kernel
  have hroot : twoSides.grammar.Offers rootsName "<aa>#end#<bb>".toList :=
    ⟨["<aa>#end#<bb>".toList], by decide, List.mem_singleton_self _⟩
  have hsole : twoSides.grammar.Sole := by decide
  have hattempts : 0 < twoSides.settings.maxAttempts := by decide
  obtain ⟨-, hsame⟩ := generateDetailed_alike hsole (Nat.succ_pos 1) hattempts
    ch Chooser.scripted s [0, 0, 0, 0]
  exact (hsame _ _ _ _ _ hroot hexpand hsettled).trans hscripted

end Generator

end Vignette
