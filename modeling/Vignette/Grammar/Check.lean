import Vignette.Fault
import Vignette.Grammar.Closure

/-!
# `Vignette.Grammar.Check`: whether a grammar can be used

A grammar is checked once, before any generation. The checks come in a fixed
order, each visits the categories in the order of their names, and the first
fault found is reported:

1. no category is named by the empty text,
2. there are roots,
3. every category has a candidate,
4. every token names a category,
5. every category reachable from the roots can finish expanding.
-/

set_option autoImplicit false

namespace Vignette.Grammar

/-- A category named by the empty text. -/
def emptyNameFault? (g : Grammar) : Option Fault :=
  if g.has [] then some .emptyName else none

/-- Roots that are missing. -/
def missingRootsFault? (g : Grammar) : Option Fault :=
  if g.has rootsName then none else some (.unknownCategory rootsName)

/-- The first category without candidates. -/
def emptyCategoryFault? (g : Grammar) : Option Fault :=
  (g.rules.find? fun rule => rule.2.isEmpty).map fun rule => .emptyCategory rule.1

/-- The first token that names no category. -/
def unknownTokenFault? (g : Grammar) : Option Fault :=
  let tokens := g.rules.flatMap fun rule => rule.2.flatMap Token.names
  (tokens.find? fun name => !g.has name).map .unknownCategory

/-- The first reachable category that can never finish expanding. -/
def cycleFault? (g : Grammar) : Option Fault :=
  let productive := g.productive
  (g.reachable.names.find? fun name => name ∉ productive).map .cyclicCategory

/-- The first fault in the order of the checks. -/
def fault? (g : Grammar) : Option Fault :=
  g.emptyNameFault? <|> g.missingRootsFault? <|> g.emptyCategoryFault? <|>
    g.unknownTokenFault? <|> g.cycleFault?

/-- Succeeds when the grammar can be used. -/
def check (g : Grammar) : Except Fault Unit :=
  match g.fault? with
  | some fault => .error fault
  | none => .ok ()

/-- The grammar itself, if it can be used. -/
def checked (g : Grammar) : Except Fault Grammar :=
  g.check.map fun _ => g

/-- Reads a grammar with some reader and checks it. -/
def loadWith (read : Text → Except Complaint Grammar) (t : Text) : Except Fault Grammar :=
  match read t with
  | .error complaint => .error (.json complaint)
  | .ok g => g.checked

end Vignette.Grammar
