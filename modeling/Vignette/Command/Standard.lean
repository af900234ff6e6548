import Vignette.Command.Arguments
import Vignette.Command.Outcome
import Vignette.Grammar.Json
import Vignette.Log.Filter
import Vignette.Random.Source

/-!
# `Vignette.Command.Standard`: the libraries that the program runs with

These are the argument reader, the JSON reader, the random source and the log filter of
this project. The program runs and is tested with them.
-/

set_option autoImplicit false

namespace Vignette.Command

/-- How the program ends when there is no task. The wording of help and of complaints
about arguments is left out. -/
def Stop.outcome : Stop → Outcome
  | usage => { exit := 2 }
  | help => { exit := 0 }
  | version => { exit := 0, output := unlines ["pulp-cafe 0.1.0".toList] }

/-- A logger that lets the records of a filter through. -/
def setUpFilter (rules : Text) (threshold : Option Log.Threshold) : Logger :=
  let (base, warnings) := Log.Filter.read rules
  let filter := (threshold.map base.withThreshold).getD base
  { complaints := unlines (warnings.map String.toList)
    write := fun r => if filter.shows r then r.shown else [] }

/-- The libraries of this project. -/
def standard : Libraries Random.Source where
  arguments args := (read args).mapError Stop.outcome
  grammar := Grammar.readOrComplain
  chooser := Random.Source.chooser
  seeded := .ofSeed
  threshold? := Log.threshold?
  logger := setUpFilter

end Vignette.Command
