import Std.Data.HashMap
import Vignette.Pattern.Fault
import Vignette.Pattern.Plain
import Vignette.Text.ByteRange

/-!
# `Vignette.Pattern.Machine`: how large the machine of a pattern is

A pattern in plain form is followed byte by byte, by a machine with numbered
states. Counted repetitions have a copy of what they repeat for each count, so a
short pattern can take a large machine. A second machine reads texts backward, to
find out where a match starts. What counts is the memory that the states take.

States that go on alike are made once only, where they are remembered. To
remember a state it is put into one of a number of slots, where it replaces the
one before.
-/

set_option autoImplicit false

namespace Vignette.Pattern

open Text (ByteRange CharSet)

/-! ### Machines -/

/-- How large a machine has grown. -/
structure Machine where
  /-- The number of states, which is the number of the next one. -/
  states : Nat
  /-- The bytes that states take besides their fixed part. -/
  extra : Nat
  deriving DecidableEq, Repr

namespace Machine

/-- The bytes of the fixed part of a state. -/
def stateBytes : Nat := 32

/-- The bytes of a way to go on with a range of bytes. -/
def moveBytes : Nat := 8

/-- The bytes of a way to go on without one. -/
def forkBytes : Nat := 4

def none : Machine := ⟨0, 0⟩

/-- The bytes of a machine. -/
def bytes (m : Machine) : Nat :=
  stateBytes * m.states + m.extra

/-- Whether a machine is too large. -/
def isTooLarge (m : Machine) : Bool :=
  maxBytes < m.bytes

/-- Some more states. -/
def add (states : Nat) (m : Machine) : Machine :=
  { m with states := m.states + states }

/-- Some more ways to go on with ranges of bytes. -/
def addMoves (moves : Nat) (m : Machine) : Machine :=
  { m with extra := m.extra + moveBytes * moves }

/-- Some more ways to go on without one. -/
def addForks (forks : Nat) (m : Machine) : Machine :=
  { m with extra := m.extra + forkBytes * forks }

/-- Grows `n` times, or until the machine is too large. -/
def copies (grow : Machine → Machine) : Nat → Machine → Machine
  | 0, m => m
  | n + 1, m => if m.isTooLarge then m else copies grow n (grow m)

end Machine

/-! ### Slots -/

/-- The slot of what some numbers tell, among `slots` many: their FNV hash. -/
def slotOf (slots : Nat) (ns : List Nat) : Nat :=
  let start : UInt64 := 14695981039346656037
  let hash := ns.foldl (fun h n => (h ^^^ n.toUInt64) * 1099511628211) start
  hash.toNat % slots

/-- A machine, and the states that are remembered, by their slots. -/
structure Growth (α : Type) where
  machine : Machine
  slots : Std.HashMap Nat (α × Nat)

namespace Growth

variable {α : Type} [DecidableEq α]

/-- The number of a state, which is made unless it is remembered. -/
def state (slot : Nat) (key : α) (grow : Machine → Machine) (g : Growth α) : Nat × Growth α :=
  let made : Nat × Growth α :=
    let number := g.machine.states
    (number, ⟨grow g.machine, g.slots.insert slot (key, number)⟩)
  match g.slots[slot]? with
  | some (known, number) => if known = key then (number, g) else made
  | none => made

end Growth

/-! ### Sets of characters -/

/-- A range of bytes and the state behind it. -/
abbrev Move := ByteRange × Nat

/-- The number of slots for states with several moves. -/
def moveSlots : Nat := 10000

/-- The state with some moves. -/
def stateOf (moves : List Move) (g : Growth (List Move)) : Nat × Growth (List Move) :=
  let slot := slotOf moveSlots (moves.flatMap fun (r, next) => [r.first, r.last, next])
  g.state slot moves fun m => (m.add 1).addMoves moves.length

/-- The moves into rows of up to `n` ranges, which end at the state `stop`. Rows
that start alike share a move. -/
def movesOf (stop : Nat) : Nat → List (List ByteRange) → Growth (List Move) →
    List Move × Growth (List Move)
  | 0, _, g => ([], g)
  | n + 1, rows, g =>
    (rows.splitBy fun a b => a.head? == b.head?).foldl
      (fun (moves, g) rows =>
        match rows with
        | [r] :: _ => (moves ++ [(r, stop)], g)
        | (r :: _) :: _ =>
          let (inner, g) := movesOf stop n (rows.map (·.drop 1)) g
          let (next, g) := stateOf inner g
          (moves ++ [(r, next)], g)
        | _ => (moves, g))
      ([], g)

/-- The greatest number of bytes of a character. -/
def maxLength : Nat := 4

/-- Grows by the states of a set that is read forward. -/
def growForward (s : CharSet) (m : Machine) : Machine :=
  let (moves, g) := movesOf m.states maxLength s.rows ⟨m.add 1, ∅⟩
  (stateOf moves g).2.machine

/-- The number of slots for states with one move. -/
def rangeSlots : Nat := 1000

/-- Grows by the states of a set that is read backward, where each row has states
of its own but for the bytes that it is read to last. -/
def growBackward (s : CharSet) (m : Machine) : Machine :=
  let rows := s.rows
  let start : Growth Move := ⟨(m.add 2).addForks rows.length, ∅⟩
  let stop := m.states + 1
  (rows.foldl (fun g row =>
    (row.foldl (fun (next, g) r =>
      g.state (slotOf rangeSlots [next, r.first, r.last]) (r, next) (·.add 1)) (stop, g)).2)
    start).machine

/-- Grows by the states of a set. -/
def growSet (backward : Bool) (s : CharSet) (m : Machine) : Machine :=
  match s.single? with
  | some c => m.add c.utf8Size
  | none =>
    if s.isAscii then (m.add 2).addMoves s.ranges.length
    else if backward then growBackward s m
    else growForward s m

/-! ### Words -/

/-- The bytes of a pattern that is a single word. -/
def word? (p : Pattern) : Option (List UInt8) :=
  if p.items.isEmpty then none
  else (p.items.mapM char?).map fun cs => cs.flatMap String.utf8EncodeChar

/-- The words of a choice between words. -/
def words? (p : Pattern) : Option (List (List UInt8)) :=
  if p.branches.length < 2 then none else p.branches.mapM word?

/-- Words in groups that start alike, without their first bytes, by the order in
which the bytes come first. -/
def byFirst (words : List (List UInt8)) : List (List (List UInt8)) :=
  let firsts := (words.filterMap List.head?).eraseDups
  firsts.map fun b => (words.filter fun w => w.head? == some b).map (·.drop 1)

/-- Words in a row without the empty words between them. An empty word counts only
behind another word, or as the first one. -/
def runsOf (words : List (List UInt8)) : List (List (List UInt8)) :=
  let rest := words.dropWhile (·.isEmpty)
  let runs := rest.foldr
    (fun w runs =>
      match w, runs with
      | [], runs => [] :: runs
      | w, run :: runs => (w :: run) :: runs
      | w, [] => [[w]])
    [[]]
  if rest.length < words.length then [] :: runs else runs

/-- Grows by the states of a tree of words, which is `depth` bytes deep at most. -/
def growTree : Nat → List (List UInt8) → Machine → Machine
  | 0, _, m => m
  | depth + 1, words, m =>
    let runs := runsOf words
    let m := runs.foldl
      (fun m run =>
        let groups := byFirst run
        let m := groups.foldl
          (fun m group => if group.all (·.isEmpty) then m else growTree depth group m) m
        if groups.isEmpty then m
        else if groups.length = 1 then (m.add 1).addForks 1
        else ((m.add 1).addMoves groups.length).addForks 1)
      m
    (m.add 1).addForks (runs.length - 1)

/-- Grows by the states of a choice between words. -/
def growWords (backward : Bool) (words : List (List UInt8)) (m : Machine) : Machine :=
  let words := if backward then words.map List.reverse else words
  growTree (words.foldl (fun n w => n + w.length) 0) words (m.add 1)

/-! ### Patterns -/

/-- The least number of characters of a piece, unless nothing matches. -/
def least : Pattern → Option Nat
  | empty | edge _ => some 0
  | one set => if set.isEmpty then none else some 1
  | seq p q => do return (← p.least) + (← q.least)
  | either p q => do return Nat.min (← p.least) (← q.least)
  | times min _ p => do return min * (← p.least)
  | group _ p => p.least

/-- Whether each piece starts at the start of a text. -/
def atStart : Pattern → Bool
  | edge e => e == .textStart
  | seq p q => p.atStart || (p.isNull && q.atStart)
  | either p q => p.atStart && q.atStart
  | times min _ p => min != 0 && p.atStart
  | group _ p => p.atStart
  | empty | one _ => false

/-- Whether each piece ends at the end of a text. -/
def atEnd : Pattern → Bool
  | edge e => e == .textEnd
  | seq p q => q.atEnd || (q.isNull && p.atEnd)
  | either p q => p.atEnd && q.atEnd
  | times min _ p => min != 0 && p.atEnd
  | group _ p => p.atEnd
  | empty | one _ => false

/-- Grows by what joins branches, behind the branch of a number. Outside of a
choice the number is zero. -/
def joinBranch (number : Nat) (m : Machine) : Machine :=
  if number = 0 then m
  else if number = 2 then (m.add 2).addForks 1
  else m.addForks 1

/-- Grows by the copies of a repetition. -/
def growTimes (min : Nat) (max : Option Nat) (isSolid : Bool) (grow : Machine → Machine)
    (m : Machine) : Machine :=
  match max with
  | none =>
    if min = 0 then
      if isSolid then (grow (m.add 1)).addForks 2 else ((grow m).add 3).addForks 4
    else ((Machine.copies grow min m).add 1).addForks 2
  | some max =>
    if min = max then Machine.copies grow min m
    else if min = 0 ∧ max = 1 then ((grow (m.add 1)).add 1).addForks 2
    else
      let m := if min = 0 then m.add 1 else Machine.copies grow min m
      Machine.copies (fun m => (grow (m.add 1)).addForks 2) (max - min) (m.add 1)

/-- Grows by the states of a pattern, which is the branch of a number in a choice
or stands outside of one. -/
def grow (backward : Bool) : Pattern → (number : Nat) → Machine → Machine
  | empty, k, m => joinBranch k (m.add 1)
  | one set, k, m => joinBranch k (growSet backward set m)
  | edge _, k, m => joinBranch k (m.add 1)
  | seq p q, k, m =>
    joinBranch k <|
      if backward then p.grow backward 0 (q.grow backward 0 m)
      else q.grow backward 0 (p.grow backward 0 m)
  | either p q, k, m =>
    match if k = 0 then words? (either p q) else none with
    | some words => growWords backward words m
    | none =>
      let k := Nat.max k 1
      q.grow backward (k + 1) (joinBranch k (p.grow backward 0 m))
  | times min max p, k, m =>
    joinBranch k (growTimes min max (p.least.any (0 < ·)) (p.grow backward 0) m)
  | group _ p, k, m =>
    joinBranch k <|
      if backward then p.grow backward 0 m
      else (p.grow backward 0 (m.add 1)).add 1

/-- The start of a machine, which looks for a piece at every place unless there
is one place for it. -/
def startMachine (atOnePlace : Bool) : Machine :=
  if atOnePlace then Machine.none.add 1
  else ((Machine.none.add 3).addMoves 1).addForks 2

/-- The machine that reads forward. -/
def forwardMachine (p : Pattern) : Machine :=
  (p.grow false 0 ((startMachine p.atStart).add 1)).add 2

/-- The machine that reads backward. -/
def backwardMachine (p : Pattern) : Machine :=
  (p.grow true 0 (startMachine p.atEnd)).add 1

/-- Whether a machine of a pattern is too large. -/
def isTooLarge (p : Pattern) : Bool :=
  p.forwardMachine.isTooLarge || p.backwardMachine.isTooLarge

end Vignette.Pattern
