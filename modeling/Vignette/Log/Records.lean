import Vignette.Generator
import Vignette.Log
import Vignette.Text.Quoted

/-!
# `Vignette.Log.Records`: what each activity writes to the log

The records follow from the reports: an expansion, a pruning and a run each
tell what happened, and this file puts it into words.
-/

set_option autoImplicit false

namespace Vignette

open Log (Record)

namespace Log

/-- A record about reading grammars. -/
def grammarRecord (message : String) : Record :=
  ⟨.debug, "pulp_cafe::grammar", message⟩

/-- Before a file is read. -/
def loading (path : Text) : Record :=
  grammarRecord s!"loading grammar from {path.string}"

/-- After a grammar has been read and checked. -/
def loaded (g : Grammar) : Record :=
  grammarRecord s!"loaded grammar with {g.size} categories"

/-- The end of each completed pass. -/
def passes (counts : List Nat) : List Record :=
  counts.zipIdx.map fun (count, index) =>
    ⟨.trace, "pulp_cafe::expand", s!"pass {index + 1}: resolved {count} tokens"⟩

/-- The end of an expansion. -/
def expanded (counts : List Nat) : Record :=
  ⟨.trace, "pulp_cafe::expand", s!"expansion finished after {counts.length} passes"⟩

/-- A span about to be cut. -/
def cut (c : Cut) : Record :=
  ⟨.trace, "pulp_cafe::prune",
    s!"pruning span {c.index + 1} of {c.total}: {c.content.quoted.string}"⟩

/-- A record about an attempt. -/
def attemptRecord (message : String) : Record :=
  ⟨.debug, "pulp_cafe::generate", message⟩

end Log

/-- A failed expansion ends without a record of its own. -/
def Expansion.records (e : Expansion) : List Record :=
  Log.passes e.passes ++
    match e.outcome with
    | .ok _ => [Log.expanded e.passes]
    | .error _ => []

def Pruning.records (p : Pruning) : List Record :=
  p.cuts.map Log.cut

/-- The records of the attempt with this number. -/
def Attempt.records (maxLength number : Nat) : Attempt → List Record
  | unexpanded passes (.expansionLimit limit) =>
    Log.passes passes ++
      [Log.attemptRecord s!"attempt {number} still had tokens after {limit} passes"]
  | unexpanded passes _ => Log.passes passes
  | pruned passes pruning =>
    let length := pruning.result.length
    Log.passes passes ++ Log.expanded passes :: pruning.records ++
      [Log.attemptRecord <|
        if length ≤ maxLength then s!"generated {length} characters on attempt {number}"
        else s!"attempt {number} left {length} characters, over the {maxLength} character budget"]

def Run.records (maxLength : Nat) (r : Run) : List Record :=
  r.attempts.zipIdx.flatMap fun (attempt, index) => attempt.records maxLength (index + 1)

end Vignette
