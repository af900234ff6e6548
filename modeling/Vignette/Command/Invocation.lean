import Vignette.Generator

/-!
# `Vignette.Command.Invocation`: what the program is asked for
-/

set_option autoImplicit false

namespace Vignette.Command

/-- What is asked for apart from the task. -/
structure Options where
  settings : Settings := {}
  seed : Option UInt64 := none
  /-- The fixers asked for, in order. -/
  fixers : List Name := []
  logLevel : Option Text := none
  deriving DecidableEq, Repr

/-- What there is to do. -/
inductive Task where
  /-- Generate texts from a grammar file. -/
  | generate (file : Option Text) (count : Option Nat)
  /-- Check a grammar file. -/
  | check (file : Text)
  /-- Write the example grammar. -/
  | writeExample (output : Option Text)
  deriving DecidableEq, Repr

/-- A task and its options. -/
structure Invocation where
  options : Options
  task : Task
  deriving DecidableEq, Repr

end Vignette.Command
