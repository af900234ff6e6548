import Vignette.Log
import Vignette.Pattern.Read
import Vignette.Text.ControlSequence

/-!
# `Vignette.Log.Filter`: which records show, and how

A filter holds rules. The rule with the longest target that the record's target
starts with decides: the record shows when its level is at most the rule's. A rule
without a target covers all records. Besides, a filter may have a pattern, and then
only records show whose message has a matching piece.
-/

set_option autoImplicit false

namespace Vignette.Log

namespace Record

/-- The record on a terminal: the level is padded to five characters, and
further lines of the message are indented. -/
def line (r : Record) : String :=
  let padding := String.ofList (List.replicate (5 - r.level.name.length) ' ')
  let message := String.ofList <| r.message.toList.flatMap fun c =>
    if c = '\n' then "\n    ".toList else [c]
  s!"[{r.level.name}{padding} {r.target}] {message}"

/-- What a terminal is sent for the record. Names in the message are not free to
control the terminal. -/
def shown (r : Record) : Text :=
  Text.withoutControls (r.line.toList ++ ['\n'])

end Record

/-! ### Filters -/

/-- Reads a threshold, in letters of either case. -/
def threshold? (t : Text) : Option Threshold :=
  let word := t.map Char.toUpper
  if word = "OFF".toList then some none
  else (Level.all.find? fun level => level.name.toList == word).map some

/-- Up to which level the records of a target show. -/
structure Rule where
  target : Option Text
  threshold : Threshold
  deriving DecidableEq, Repr

/-- Whether the rule is about records of the target, and how closely. -/
def Rule.closeness? (rule : Rule) (target : Text) : Option Nat :=
  match rule.target with
  | none => some 0
  | some start => if start.isPrefixOf target then some start.length else none

/-- Rules, the later ones of two for one target in force, and a pattern that
messages must match somewhere. -/
structure Filter where
  rules : List Rule := []
  pattern : Pattern := .empty
  deriving DecidableEq, Repr

namespace Filter

/-- Puts a rule in the place of the one for its target, or at the end. -/
def insert (f : Filter) (rule : Rule) : Filter :=
  if f.rules.any (·.target == rule.target) then
    { f with rules := f.rules.map fun r => if r.target == rule.target then rule else r }
  else { f with rules := f.rules ++ [rule] }

/-- The filter with this threshold for all records without a rule of their
own. -/
def withThreshold (f : Filter) (threshold : Threshold) : Filter :=
  f.insert ⟨none, threshold⟩

/-- The rule that decides about a target: of the closest ones the last. -/
def deciding? (f : Filter) (target : Text) : Option Rule :=
  let best := f.rules.foldl (fun best rule =>
    match rule.closeness? target, best with
    | none, best => best
    | some n, none => some (n, rule)
    | some n, some (m, r) => if m ≤ n then some (n, rule) else some (m, r)) none
  best.map (·.2)

/-- Whether a record shows. Without any rule, errors do. -/
def shows (f : Filter) (r : Record) : Bool :=
  let threshold : Threshold :=
    if f.rules.isEmpty then some .error
    else ((f.deciding? r.target.toList).map (·.threshold)).getD none
  (threshold.any fun level => r.level.rank ≤ level.rank) &&
    f.pattern.occursIn r.message.toList

/-! ### Reading a filter -/

/-- Reads a rule: a threshold, a target, or both with `=` between them. A
target by itself shows everything. What makes no sense is given back. -/
def readRule (t : Text) : Except Text Rule :=
  match t.splitOn '=' with
  | [word] =>
    match threshold? word with
    | some threshold => .ok ⟨none, threshold⟩
    | none => .ok ⟨some word, some .trace⟩
  | [target, word] =>
    -- Only the part behind the sign is trimmed.
    let word := Text.trim word
    if word.isEmpty then .ok ⟨some target, some .trace⟩
    else
      match threshold? word with
      | some threshold => .ok ⟨some target, threshold⟩
      | none => .error word
  | _ => .error t

/-- The warning about a part that makes no sense, and why it does not. -/
def warning (part : Text) (why : String) : String :=
  s!"warning: invalid logging spec '{part.string}'{why}, ignoring it"

/-- The warning about a pattern that makes no sense. -/
def patternWarning (t : Text) (fault : Pattern.Fault) : String :=
  s!"warning: invalid regex filter - {(fault.report t).string}, ignoring it"

/-- Reads rules that are separated by commas. -/
def readRules (t : Text) : Filter × List String :=
  let parts := ((t.splitOn ',').map Text.trim).filter (!·.isEmpty)
  parts.foldl (fun (f, warnings) part =>
    match readRule part with
    | .ok rule => (f.insert rule, warnings)
    | .error part => (f, warnings ++ [warning part ""])) ({}, [])

/-- Reads a filter and gives the warnings about parts that make no sense. Behind
the rules comes a slash and a pattern, or neither. -/
def read (t : Text) : Filter × List String :=
  match t.splitOn '/' with
  | [] => ({}, [])
  | [rules] => readRules rules
  | [rules, pattern] =>
    let (f, warnings) := readRules rules
    match Pattern.read pattern with
    | .ok p => ({ f with pattern := p }, warnings)
    | .error fault => (f, warnings ++ [patternWarning pattern fault])
  | _ => ({}, [warning t " (too many '/'s)"])

end Filter

end Vignette.Log
