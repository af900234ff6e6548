import Vignette.Fixer

/-!
# `Vignette.Fixer.Chain`: fixers one after another

A chain runs its members in order, each on what the ones before it left, and
only if it applies to that. Its name joins the names of its members with `+`. A
chain is a fixer that always applies, so chains can be members of chains.
-/

set_option autoImplicit false

namespace Vignette.Fixer

/-- Fixers in order. The name is made when the chain is and grows with it. -/
structure Chain where
  members : List Fixer
  name : Name

namespace Chain

/-- A chain of any number of fixers. The empty one is named `noop`. -/
def ofList (members : List Fixer) : Chain where
  members
  name := if members.isEmpty then noop.name else List.intercalate ['+'] (members.map (·.name))

/-- A chain of two fixers. -/
def pair (first second : Fixer) : Chain where
  members := [first, second]
  name := first.name ++ '+' :: second.name

/-- The chain with one more fixer at its end. -/
def add (c : Chain) (last : Fixer) : Chain where
  members := c.members ++ [last]
  name := c.name ++ '+' :: last.name

/-- Runs the members in order. -/
def fix (c : Chain) (t : Text) : Text :=
  c.members.foldl (fun t f => f.run t) t

/-- The chain as a fixer. -/
def toFixer (c : Chain) : Fixer :=
  always c.name c.fix

end Chain

end Vignette.Fixer
