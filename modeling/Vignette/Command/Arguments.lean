import Vignette.Command.Invocation

/-!
# `Vignette.Command.Arguments`: what the command line asks for

Arguments are taken from left to right. An option takes its value from behind a
`=` or from the next argument, as long as that does not look like an option. A
value that comes as an argument of its own is looked at when the next argument
has been recognised, so help that is asked for later can be refused because of
an earlier bad value. After `--` every argument is positional.

The first fault and the first request for help or the version end the reading.
-/

set_option autoImplicit false

namespace Vignette.Command

/-- Why there is no task. -/
inductive Stop where
  /-- The arguments make no sense. -/
  | usage
  | help
  | version
  deriving DecidableEq, Repr

/-! ### Values -/

/-- Reads an unsigned number of 64 bits, perhaps with a plus sign. -/
def number? (t : Text) : Option Nat :=
  let digits := if t.head? = some '+' then t.tail else t
  if digits.isEmpty || !digits.all Char.isDigit then none
  else
    let n := digits.foldl (fun n c => n * 10 + (c.toNat - '0'.toNat)) 0
    if n < UInt64.size then some n else none

/-- The options that take a value. -/
inductive ValueOption where
  | maxLength
  | maxAttempts
  | maxPasses
  | seed
  | fixer
  | logLevel
  deriving DecidableEq, Repr

namespace ValueOption

def all : List ValueOption :=
  [maxLength, maxAttempts, maxPasses, seed, fixer, logLevel]

def name : ValueOption → String
  | maxLength => "max-len"
  | maxAttempts => "max-attempts"
  | maxPasses => "max-passes"
  | seed => "seed"
  | fixer => "fixer"
  | logLevel => "log-level"

/-- The option of a name without its dashes. -/
def ofName? (t : Text) : Option ValueOption :=
  all.find? fun option => option.name.toList == t

end ValueOption

/-! ### Reading -/

/-- Arguments that wait to be looked at. -/
inductive Pending where
  | nothing
  /-- An option whose value is the next argument. -/
  | awaiting (option : ValueOption)
  | option (option : ValueOption) (value : Text)
  | file (path : Text)
  | count (value : Text)
  deriving DecidableEq, Repr

/-- What has been read so far. -/
structure Draft where
  options : Options := {}
  /-- The options given so far. -/
  given : List ValueOption := []
  file : Option Text := none
  count : Option Nat := none
  /-- The number of positional arguments so far. -/
  positionals : Nat := 0
  pending : Pending := .nothing

namespace Draft

/-- Puts the value of an option in place. Only fixers may be given twice. -/
def setOption (d : Draft) (option : ValueOption) (value : Text) : Except Stop Draft :=
  let number (store : Nat → Options) : Except Stop Draft :=
    match number? value with
    | some n => .ok { d with options := store n, given := option :: d.given }
    | none => .error .usage
  if option ∈ d.given ∧ option ≠ .fixer then .error .usage
  else
    match option with
    | .maxLength => number fun n => { d.options with settings.maxLength := n }
    | .maxAttempts => number fun n => { d.options with settings.maxAttempts := n }
    | .maxPasses => number fun n => { d.options with settings.maxPasses := n }
    | .seed => number fun n => { d.options with seed := some n.toUInt64 }
    | .fixer => .ok { d with options.fixers := d.options.fixers ++ [value] }
    | .logLevel =>
      .ok { d with options.logLevel := some value, given := option :: d.given }

/-- Looks at what is pending. -/
def settle (d : Draft) : Except Stop Draft :=
  let settled := { d with pending := .nothing }
  match d.pending with
  | .nothing => .ok d
  | .awaiting _ => .error .usage
  | .option option value => settled.setOption option value
  | .file path => if path.isEmpty then .error .usage else .ok { settled with file := some path }
  | .count value =>
    match number? value with
    | some n => .ok { settled with count := some n }
    | none => .error .usage

/-- Takes a positional argument: a grammar file, then a count. -/
def positional (d : Draft) (arg : Text) : Except Stop Draft := do
  let d ← d.settle
  let next := { d with positionals := d.positionals + 1 }
  match d.positionals with
  | 0 => .ok { next with pending := .file arg }
  | 1 => .ok { next with pending := .count arg }
  | _ => .error .usage

/-- The options, with the fixer that stands for none. -/
def filledOptions (d : Draft) : Options :=
  if d.options.fixers.isEmpty then { d.options with fixers := [Fixer.possessive.name] }
  else d.options

/-- The invocation without a subcommand. -/
def invocation (d : Draft) : Invocation :=
  ⟨d.filledOptions, .generate d.file (some (d.count.getD 1))⟩

end Draft

/-- Splits a text at the first `=`. -/
def splitValue (t : Text) : Text × Option Text :=
  match t.dropWhile (· != '=') with
  | [] => (t, none)
  | _ :: value => (t.takeWhile (· != '='), some value)

/-- Takes an argument that starts with two dashes, which are left out here. -/
def longOption (d : Draft) (arg : Text) : Except Stop Draft :=
  let (name, value) := splitValue arg
  match ValueOption.ofName? name, value with
  | some option, some value => do
    let d ← d.settle
    d.setOption option value
  | some option, none => do
    let d ← d.settle
    return { d with pending := .awaiting option }
  | none, none => do
    if name = "help".toList then
      let _ ← d.settle
      .error .help
    else if name = "version".toList then
      let _ ← d.settle
      .error .version
    else .error .usage
  | none, some _ => .error .usage

/-- Takes the letters behind a single dash. All of them stand for requests, so
the first one decides. -/
def shortOptions (d : Draft) (letters : Text) : Except Stop Draft :=
  match letters with
  | 'h' :: _ => do
    let _ ← d.settle
    .error .help
  | 'V' :: _ => do
    let _ ← d.settle
    .error .version
  | _ => .error .usage

/-! ### Subcommands -/

/-- The commands that can be named in place of a grammar file. -/
inductive Subcommand where
  | check
  | writeExample
  | help
  deriving DecidableEq, Repr

def Subcommand.ofName? (t : Text) : Option Subcommand :=
  if t = "check".toList then some .check
  else if t = "example".toList then some .writeExample
  else if t = "help".toList then some .help
  else none

/-- Reads the arguments of a subcommand: at most one path. -/
def readPath (trailing : Bool) (path : Option Text) : List Text → Except Stop (Option Text)
  | [] => settled
  | arg :: args =>
    if !trailing && arg = ['-', '-'] then readPath true path args
    else if !trailing && arg.head? = some '-' && arg ≠ ['-'] then do
      if arg = "--help".toList || arg.take 2 = ['-', 'h'] then
        let _ ← settled
        .error .help
      else .error .usage
    else if path.isSome then .error .usage
    else readPath trailing (some arg) args
where
  /-- The path, unless it is empty. -/
  settled : Except Stop (Option Text) :=
    if path = some [] then .error .usage else .ok path

/-- Reads the names behind `help`: at most one subcommand. -/
def readHelp : List Text → Stop
  | [] => .help
  | [arg] => if (Subcommand.ofName? arg).isSome then .help else .usage
  | _ => .usage

/-- Reads the task of a subcommand. -/
def readTask (subcommand : Subcommand) (args : List Text) : Except Stop Task :=
  match subcommand with
  | .help => .error (readHelp args)
  | .check => do
    match ← readPath false none args with
    | some path => return .check path
    | none => .error .usage
  | .writeExample => do
    let path ← readPath false none args
    return .writeExample path

/-- The subcommand that an argument names, unless it is the value of an
option. -/
def Draft.subcommand? (d : Draft) (arg : Text) : Option Subcommand :=
  match d.pending with
  | .awaiting _ => none
  | _ => Subcommand.ofName? arg

/-- Reads arguments, positional ones only when `trailing`. -/
def readFrom (trailing : Bool) (d : Draft) : List Text → Except Stop Invocation
  | [] => do
    let d ← d.settle
    return d.invocation
  | arg :: args =>
    if trailing then do readFrom true (← d.positional arg) args
    else
      match d.subcommand? arg with
      | some subcommand => do
        -- The subcommand comes first, so its help is shown even behind a bad value.
        let task ← readTask subcommand args
        let d ← d.settle
        return ⟨d.filledOptions, task⟩
      | none =>
        match arg with
        | ['-', '-'] => readFrom true d args
        | '-' :: '-' :: long => do readFrom false (← longOption d long) args
        -- A lone dash is positional.
        | '-' :: c :: letters => do readFrom false (← shortOptions d (c :: letters)) args
        | _ =>
          match d.pending with
          | .awaiting option => readFrom false { d with pending := .option option arg } args
          | _ => do readFrom false (← d.positional arg) args

/-- Reads the arguments of the program. -/
def read (args : List Text) : Except Stop Invocation :=
  readFrom false {} args

end Vignette.Command
