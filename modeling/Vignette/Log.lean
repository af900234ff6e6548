/-!
# `Vignette.Log`: log records

A record has a level, a target that tells which part of the program wrote it,
and a message. Which records show is up to the logger.
-/

set_option autoImplicit false

namespace Vignette.Log

/-- How much a record matters, the most important first. -/
inductive Level where
  | error
  | warn
  | info
  | debug
  | trace
  deriving DecidableEq, Repr

namespace Level

/-- All levels, in order. -/
def all : List Level :=
  [error, warn, info, debug, trace]

/-- The place of a level, from 1. -/
def rank : Level → Nat
  | error => 1
  | warn => 2
  | info => 3
  | debug => 4
  | trace => 5

def name : Level → String
  | error => "ERROR"
  | warn => "WARN"
  | info => "INFO"
  | debug => "DEBUG"
  | trace => "TRACE"

end Level

/-- One line of the log. -/
structure Record where
  level : Level
  target : String
  message : String
  deriving DecidableEq, Repr

namespace Record

/-- The record for a list of records. -/
def summary (r : Record) : String :=
  s!"{r.level.name} {r.target}: {r.message}"

end Record

/-- Up to which level records show; none show without one. -/
abbrev Threshold := Option Level

end Vignette.Log
