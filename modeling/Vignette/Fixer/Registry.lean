import Vignette.Fault
import Vignette.Fixer.Chain

/-!
# `Vignette.Fixer.Registry`: fixers by name

A registry holds fixers in the order in which they were registered. A name can
be registered more than once; looking it up finds the first.
-/

set_option autoImplicit false

namespace Vignette.Fixer

/-- Fixers under names, the oldest entry first. -/
structure Registry where
  entries : List (Name × Fixer)

namespace Registry

def empty : Registry :=
  ⟨[]⟩

/-- Adds a fixer under a name. -/
def register (r : Registry) (name : Name) (f : Fixer) : Registry :=
  ⟨r.entries ++ [(name, f)]⟩

/-- Adds the fixers that are always at hand. -/
def registerDefaults (r : Registry) : Registry :=
  [noop, possessive, whitespace].foldl (fun r f => r.register f.name f) r

/-- The registry of the fixers that are always at hand. -/
def default : Registry :=
  empty.registerDefaults

/-- The names in the order of registration, repeated ones included. -/
def names (r : Registry) : List Name :=
  r.entries.map (·.1)

/-- The first fixer registered under a name. -/
def get? (r : Registry) (name : Name) : Option Fixer :=
  r.entries.lookup name

/-- The fixer registered under a name, or the fault that there is none. -/
def get (r : Registry) (name : Name) : Except Fault Fixer :=
  match r.get? name with
  | some f => .ok f
  | none => .error (.unknownFixer name r.names)

/-- A chain of registered fixers, in the order of the names given. -/
def chainOf (r : Registry) (names : List Name) : Except Fault Chain :=
  (names.mapM r.get).map Chain.ofList

end Registry

end Vignette.Fixer
