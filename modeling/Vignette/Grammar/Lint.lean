import Vignette.Grammar.Closure
import Vignette.Span
import Vignette.Text.Quoted

/-!
# `Vignette.Grammar.Lint`: findings that do not stop a grammar from working

First come the categories that no chain of tokens leads to from the roots. Then
each category is looked at by itself: whether it names itself, and whether a
candidate, once all its spans are cut out, still holds a delimiter.
-/

set_option autoImplicit false

namespace Vignette

/-- Something odd about a grammar. -/
inductive Finding where
  /-- No chain of tokens leads to the category from the roots. -/
  | unreached (category : Name)
  /-- A candidate of the category has a token that names it. -/
  | selfReference (category : Name)
  /-- A `<` of the candidate never closes. -/
  | unclosed (category : Name) (index : Nat) (candidate : Text)
  /-- A `>` of the candidate closes nothing. -/
  | stray (category : Name) (index : Nat) (candidate : Text)
  deriving DecidableEq, Repr

/-- The text of a finding. -/
def Finding.message : Finding → String
  | unreached category => s!"category '{category.string}' is never reached from roots"
  | selfReference category => s!"category '{category.string}' references itself"
  | unclosed category index candidate =>
    s!"'{category.string}' candidate {index} has a '<' that never closes: " ++
      candidate.quoted.string
  | stray category index candidate =>
    s!"'{category.string}' candidate {index} has a stray '>': " ++ candidate.quoted.string

namespace Grammar

/-- Findings about one candidate. -/
def lintCandidate (category : Name) (index : Nat) (candidate : Text) : List Finding :=
  let rest := Span.cutAll candidate
  (if '<' ∈ rest then [.unclosed category index candidate] else []) ++
    if '>' ∈ rest then [.stray category index candidate] else []

/-- Findings about one category. -/
def lintRule (rule : Rule) : List Finding :=
  (if rule.2.any fun candidate => rule.1 ∈ Token.names candidate then
    [.selfReference rule.1] else []) ++
  rule.2.zipIdx.flatMap fun (candidate, index) => lintCandidate rule.1 index candidate

/-- All findings about a grammar. -/
def lint (g : Grammar) : List Finding :=
  let reachable := g.reachable
  (g.names.filter fun name => name ≠ rootsName ∧ name ∉ reachable).map .unreached ++
    g.rules.flatMap lintRule

/-- The texts of all findings, which is what a lint of the grammar gives. -/
def lintMessages (g : Grammar) : List Text :=
  g.lint.map fun finding => finding.message.toList

end Grammar

end Vignette
