import Vignette.Expansion
import Vignette.Fixer
import Vignette.Pruning
import Vignette.Text.Uppercase

/-!
# `Vignette.Generator`: texts within a length budget

A generator draws a root, expands it, fixes the text, prunes it to the budget,
and starts over with another root when tokens are left or the text is still too
long, up to a number of attempts. The length is measured before the first
character is put in uppercase. One random state runs through all attempts.
-/

set_option autoImplicit false

namespace Vignette

/-- How texts are generated. -/
structure Settings where
  /-- The budget in characters. -/
  maxLength : Nat := 140
  /-- How many roots are drawn for a text before giving up. -/
  maxAttempts : Nat := 100
  /-- How many expansion passes an attempt may take. -/
  maxPasses : Nat := Expansion.defaultLimit
  deriving DecidableEq, Repr, Inhabited

/-- How an attempt went. -/
inductive Attempt where
  /-- The root did not expand; the passes completed before that. -/
  | unexpanded (passes : List Nat) (fault : Fault)
  /-- The root expanded in these passes, was fixed and then pruned. -/
  | pruned (passes : List Nat) (pruning : Pruning)

/-- What an attempt means for the run. -/
inductive Verdict where
  /-- The text fits. -/
  | done (text : Text)
  /-- Another attempt may do better. -/
  | retry
  /-- No attempt will do better. -/
  | fatal (fault : Fault)

/-- A finished text and the number of the attempt that gave it. -/
structure Generation where
  text : Text
  attempts : Nat
  deriving DecidableEq, Repr

/-- How a run went, attempt by attempt. -/
structure Run where
  attempts : List Attempt
  outcome : Except Fault Generation

/-- A grammar with the way to generate texts from it. -/
structure Generator where
  grammar : Grammar
  settings : Settings := {}
  fixer : Fixer := Fixer.possessive

namespace Attempt

variable {σ : Type}

/-- Expands a root, fixes the text and prunes it. -/
def make (ch : Chooser σ) (g : Generator) (maxLength : Nat) (root : Text) (s : σ) : Attempt × σ :=
  match Expansion.expand ch g.grammar g.settings.maxPasses root s with
  | (⟨passes, .error fault⟩, s) => (.unexpanded passes fault, s)
  | (⟨passes, .ok text⟩, s) =>
    let (pruning, s) := Pruning.prune ch maxLength (g.fixer.run text) s
    (.pruned passes pruning, s)

/-- Running out of passes and being too long call for another attempt. -/
def verdict (maxLength : Nat) : Attempt → Verdict
  | unexpanded _ (.expansionLimit _) => .retry
  | unexpanded _ fault => .fatal fault
  | pruned _ pruning =>
    if pruning.result.length ≤ maxLength then .done pruning.result.capitalize else .retry

end Attempt

namespace Generator

variable {σ : Type}

/-- Makes attempts until one decides the run. `number` counts them from 1, and
`remaining` of them are left. -/
def attemptsFrom (ch : Chooser σ) (g : Generator) (maxLength : Nat) (root : Text)
    (roots : List Text) (number : Nat) : (remaining : Nat) → σ → Run × σ
  | 0, s => (⟨[], .error (.generationFailure g.settings.maxAttempts maxLength)⟩, s)
  | remaining + 1, s =>
    -- Every attempt draws a root, also from a list of one.
    let (i, s) := ch.candidate roots.length s
    let (attempt, s) := Attempt.make ch g maxLength ((root :: roots).get i) s
    match attempt.verdict maxLength with
    | .done text => (⟨[attempt], .ok ⟨text, number⟩⟩, s)
    | .fatal fault => (⟨[attempt], .error fault⟩, s)
    | .retry =>
      let (run, s) := attemptsFrom ch g maxLength root roots (number + 1) remaining s
      ({ run with attempts := attempt :: run.attempts }, s)

/-- Generates a text of at most `maxLength` characters. A budget of zero, no
attempts and missing roots are refused before anything is drawn. -/
def run (ch : Chooser σ) (g : Generator) (maxLength : Nat) (s : σ) : Run × σ :=
  if maxLength = 0 then (⟨[], .error .zeroLength⟩, s)
  else if g.settings.maxAttempts = 0 then (⟨[], .error .zeroAttempts⟩, s)
  else
    match g.grammar.roots? with
    | none => (⟨[], .error (.unknownCategory rootsName)⟩, s)
    | some [] => (⟨[], .error (.emptyCategory rootsName)⟩, s)
    | some (root :: roots) => attemptsFrom ch g maxLength root roots 1 g.settings.maxAttempts s

/-- Generates a text of at most `maxLength` characters and tells how many
attempts it took. -/
def generateDetailed (ch : Chooser σ) (g : Generator) (maxLength : Nat) (s : σ) :
    Except Fault Generation × σ :=
  let (run, s) := g.run ch maxLength s
  (run.outcome, s)

/-- Generates a text of at most `maxLength` characters. -/
def generateWithin (ch : Chooser σ) (g : Generator) (maxLength : Nat) (s : σ) :
    Except Fault Text × σ :=
  let (outcome, s) := g.generateDetailed ch maxLength s
  (outcome.map (·.text), s)

/-- Generates a text within the generator's own budget. -/
def generate (ch : Chooser σ) (g : Generator) (s : σ) : Except Fault Text × σ :=
  g.generateWithin ch g.settings.maxLength s

end Generator

/-- Generates a text of at most `maxLength` characters from a grammar, with the
default settings and fixer. -/
def Grammar.generate {σ : Type} (ch : Chooser σ) (g : Grammar) (maxLength : Nat) (s : σ) :
    Except Fault Text × σ :=
  Generator.generateWithin ch { grammar := g } maxLength s

end Vignette
