import Vignette.Batch
import Vignette.Command.Example
import Vignette.Command.Files
import Vignette.Command.Libraries
import Vignette.Command.Report
import Vignette.Fixer.Registry
import Vignette.Grammar.Check
import Vignette.Grammar.Lint
import Vignette.Log.Records

/-!
# `Vignette.Command.Outcome`: what a command prints, writes and answers

A task is carried out step by step and stops at the first fault. What was
printed up to there stays. The log goes to the error output, as far as it shows,
and the report of the fault comes after it.
-/

set_option autoImplicit false

namespace Vignette.Command

open Log (Record)

/-- What a task did. -/
structure Transcript where
  /-- Lines printed. -/
  printed : List Text := []
  /-- Log records, whether they show or not. -/
  records : List Record := []
  /-- A file written. -/
  written : Option (Text × Text) := none
  /-- The report of the fault that ended the task. -/
  failure : Option String := none

variable {σ : Type}

/-! ### Tasks -/

/-- Reads and checks a grammar file, and logs both. -/
def loadGrammar (lib : Libraries σ) (files : Files) (path : Text) :
    Except Fault Grammar × List Record :=
  let start := Log.loading path
  match files.readText path with
  | .error fault => (.error (.file fault), [start])
  | .ok t =>
    match Grammar.loadWith lib.grammar t with
    | .error fault => (.error fault, [start])
    | .ok g => (.ok g, [start, Log.loaded g])

/-- A record of the program itself. -/
def record (level : Log.Level) (message : String) : Record :=
  ⟨level, "pulp_cafe", message⟩

/-- The records of a batch: those of each run, and a warning for each text that
is skipped. -/
def batchRecords (maxLength : Nat) (b : Batch) : List Record :=
  b.runs.zipIdx.flatMap fun (run, index) =>
    run.records maxLength ++
      match run.batchStep with
      | .skip fault => [record .warn s!"skipping text {index + 1}: {fault.message}"]
      | _ => []

/-- Generates texts with a grammar and a chain of fixers, from the seed if there is
one and else from the `fresh` state. -/
def generateTexts (lib : Libraries σ) (options : Options) (fresh : σ) (count : Nat)
    (g : Grammar) (chain : Fixer.Chain) : Batch :=
  let start := (options.seed.map lib.seeded).getD fresh
  let generator : Generator := ⟨g, options.settings, chain.toFixer⟩
  (Batch.make lib.chooser generator count start).1

/-- Loads a grammar, chains the fixers asked for and generates texts. -/
def generate (lib : Libraries σ) (files : Files) (options : Options) (fresh : σ) (path : Text)
    (count : Nat) : Transcript :=
  match loadGrammar lib files path with
  | (.error fault, records) => { records, failure := some fault.report }
  | (.ok g, records) =>
    let records := records ++
      [record .info s!"loaded {g.size} categories from {path.string}"]
    match Fixer.Registry.default.chainOf options.fixers with
    | .error fault => { records, failure := some fault.report }
    | .ok chain =>
      let batch := generateTexts lib options fresh count g chain
      { printed := batch.texts
        records := records ++
          record .info s!"post-processing with '{chain.name.string}'" ::
          batchRecords options.settings.maxLength batch
        failure := batch.failure?.map Fault.report }

/-- Loads a grammar and prints the findings about it. -/
def check (lib : Libraries σ) (files : Files) (path : Text) : Transcript :=
  match loadGrammar lib files path with
  | (.error fault, records) => { records, failure := some fault.report }
  | (.ok g, records) =>
    let findings := g.lintMessages
    let roots := (g.roots?.getD []).length
    let counts :=
      s!": {g.size} categories, {roots} roots, {findings.length} warnings"
    { printed :=
        findings.map (fun finding => "warning: ".toList ++ finding) ++
          [path ++ counts.toList]
      records }

/-- Where the example grammar goes when no other place is given. -/
def examplePath : Text :=
  "example_grammar.json".toList

/-- Writes the example grammar. -/
def writeExample (files : Files) (output : Text) : Transcript :=
  match files.write output with
  | .error fault => { failure := some fault.report }
  | .ok () =>
    { printed := ["Created example grammar at: ".toList ++ output]
      written := some (output, exampleText) }

/-- Carries out a task. -/
def perform (lib : Libraries σ) (files : Files) (fresh : σ) (i : Invocation) : Transcript :=
  match i.task with
  | .generate none _ => { failure := some (quote "Grammar file path required") }
  | .generate (some path) count => generate lib files i.options fresh path (count.getD 1)
  | .check path => check lib files path
  | .writeExample output => writeExample files (output.getD examplePath)

/-! ### The whole program -/

/-- Lines, each ended by a line feed. -/
def unlines (lines : List Text) : Text :=
  lines.flatMap fun line => line ++ ['\n']

/-- The logger, set up as the environment says, or for warnings if it says nothing. A
level among the options that names no threshold counts as `warn`. -/
def setUpLogger (lib : Libraries σ) (environment : Option Text) (options : Options) : Logger :=
  let threshold := options.logLevel.map fun word => (lib.threshold? word).getD (some .warn)
  lib.logger (environment.getD "warn".toList) threshold

/-- Runs a program that was asked for a task. -/
def runTask (lib : Libraries σ) (files : Files) (environment : Option Text) (fresh : σ)
    (i : Invocation) : Outcome :=
  let logger := setUpLogger lib environment i.options
  let t := perform lib files fresh i
  let failure := t.failure.map fun report => "Error: ".toList ++ report.toList
  { exit := if t.failure.isSome then 1 else 0
    output := unlines t.printed
    errors := logger.complaints ++ t.records.flatMap logger.write ++ unlines failure.toList
    written := t.written }

/-- Runs the program on its arguments. -/
def run (lib : Libraries σ) (files : Files) (environment : Option Text) (fresh : σ)
    (args : List Text) : Outcome :=
  match lib.arguments args with
  | .ok i => runTask lib files environment fresh i
  | .error outcome => outcome

end Vignette.Command
