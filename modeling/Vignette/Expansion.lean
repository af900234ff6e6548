import Vignette.Fault
import Vignette.Grammar.Basic
import Vignette.Random.Chooser

/-!
# `Vignette.Expansion`: replacing tokens by candidates

Expansion goes in passes. A pass collects the tokens present at its start and,
for each of them in turn, draws a candidate of the category it names and writes
it over the first occurrence of the token's text. Candidates may bring new
tokens, which the next pass picks up. Expansion ends when no token is left, or
fails when tokens are left after the last pass allowed.
-/

set_option autoImplicit false

namespace Vignette

/-- How an expansion went. -/
structure Expansion where
  /-- The number of tokens that each completed pass resolved. -/
  passes : List Nat
  outcome : Except Fault Text

namespace Expansion

variable {σ : Type}

/-- The number of passes allowed unless another limit is given. -/
def defaultLimit : Nat := 64

/-- Draws a candidate of a category. Nothing is drawn from a category that is
unknown or empty. -/
def pick (ch : Chooser σ) (g : Grammar) (name : Name) (s : σ) : Except Fault Text × σ :=
  match g.candidates? name with
  | none => (.error (.unknownCategory name), s)
  | some [] => (.error (.emptyCategory name), s)
  | some (candidate :: candidates) =>
    let (i, s) := ch.candidate candidates.length s
    (.ok ((candidate :: candidates).get i), s)

/-- Resolves the collected names one after another. -/
def resolve (ch : Chooser σ) (g : Grammar) : List Name → Text → σ → Except Fault Text × σ
  | [], t, s => (.ok t, s)
  | name :: names, t, s =>
    match pick ch g name s with
    | (.error fault, s) => (.error fault, s)
    | (.ok candidate, s) => resolve ch g names (t.replaceFirst (Token.render name) candidate) s

/-- Expands with some passes remaining of the `limit` allowed. -/
def expandFrom (ch : Chooser σ) (g : Grammar) (limit : Nat) : Nat → Text → σ → Expansion × σ
  | 0, t, s =>
    -- A text without tokens is done even when no pass is left.
    if (Token.names t).isEmpty then (⟨[], .ok t⟩, s)
    else (⟨[], .error (.expansionLimit limit)⟩, s)
  | remaining + 1, t, s =>
    match Token.names t with
    | [] => (⟨[], .ok t⟩, s)
    | name :: names =>
      match resolve ch g (name :: names) t s with
      | (.error fault, s) => (⟨[], .error fault⟩, s)
      | (.ok t, s) =>
        let (rest, s) := expandFrom ch g limit remaining t s
        ({ rest with passes := (names.length + 1) :: rest.passes }, s)

/-- Expands a fragment in at most `limit` passes. -/
def expand (ch : Chooser σ) (g : Grammar) (limit : Nat) (fragment : Text) (s : σ) :
    Expansion × σ :=
  expandFrom ch g limit limit fragment s

end Expansion

end Vignette
