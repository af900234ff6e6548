import Vignette.Pattern.Basic

/-!
# `Vignette.Pattern.Plain`: patterns put together in a plain form

Patterns in plain form have no empty pieces in sequences, no sequence in front of
a sequence and no choice in front of a choice. Choices between characters are
sets, and what all branches of a choice start with stands before it. The form
tells how large the machine of a pattern is.
-/

set_option autoImplicit false

namespace Vignette.Pattern

open Text (CharSet)

/-! ### Parts -/

/-- The character of a pattern that matches just that one. -/
def char? : Pattern → Option Char
  | one set => set.single?
  | _ => none

/-- The set of a pattern that matches one of several characters, or none at all. -/
def set? : Pattern → Option CharSet
  | one set => if set.single?.isSome then none else some set
  | _ => none

/-- Whether a pattern matches the empty piece alone. -/
def isNull : Pattern → Bool
  | empty | edge _ => true
  | one _ => false
  | seq p q | either p q => p.isNull && q.isNull
  | times _ max p => max.any fun max => max = 0 || p.isNull
  | group _ p => p.isNull

/-- The number of patterns inside a pattern. -/
def size : Pattern → Nat
  | empty | one _ | edge _ => 1
  | seq p q | either p q => p.size + q.size + 1
  | times _ _ p | group _ p => p.size + 1

/-- The patterns of a sequence. -/
def items : Pattern → List Pattern
  | empty => []
  | seq p q => p :: q.items
  | p => [p]

/-- The branches of a choice. -/
def branches : Pattern → List Pattern
  | either p q => p :: q.branches
  | p => [p]

/-- One pattern behind another. -/
def append : Pattern → Pattern → Pattern
  | empty, q => q
  | seq p q, r => seq p (q.append r)
  | p, empty => p
  | p, q => seq p q

/-- One pattern behind the other. -/
def ofItems (ps : List Pattern) : Pattern :=
  ps.foldr append empty

/-- The patterns of a sequence, where characters in a row are one. -/
def parts (p : Pattern) : List Pattern :=
  (p.items.splitBy fun p q => p.char?.isSome && q.char?.isSome).map ofItems

/-! ### Repetitions -/

/-- A repeated pattern. The empty piece is repeated once at most. -/
def repeated (min : Nat) (max : Option Nat) (p : Pattern) : Pattern :=
  let least := if p.isNull then Nat.min min 1 else min
  let most := if p.isNull then some (Nat.min (max.getD 1) 1) else max
  if most = some 0 then empty
  else if least = 1 ∧ most = some 1 then p
  else times least most p

/-! ### Choices -/

/-- How many items two lists start with alike. -/
def sharedLength (ps qs : List Pattern) : Nat :=
  ((ps.zip qs).takeWhile fun (p, q) => p == q).length

/-- How many parts all rows start with alike, if each row has several parts. -/
def sharedStart : List (List Pattern) → Nat
  | [] => 0
  | row :: rows =>
    if (row :: rows).any (·.length < 2) then 0
    else (rows.map (sharedLength row)).foldl Nat.min row.length

/-- A choice between branches as they are. -/
def choice : List Pattern → Pattern
  | [] => one .none
  | [p] => p
  | p :: ps => either p (choice ps)

/-- A choice between branches. What they share is taken out `fuel` times at most. -/
def chosen (fuel : Nat) (ps : List Pattern) : Pattern :=
  let ps := ps.flatMap branches
  if ps.length < 2 then choice ps
  else
    match ps.mapM char?, ps.mapM set? with
    | some cs, _ => one (.ofCodes (cs.map Char.toNat))
    | none, some sets => one (.unionAll sets)
    | none, none =>
      let rows := ps.map parts
      match sharedStart rows, fuel with
      | shared + 1, fuel + 1 =>
        let start := (rows.headD []).take (shared + 1)
        let rest := rows.map fun row => ofItems (row.drop (shared + 1))
        (ofItems start).append (chosen fuel rest)
      | _, _ => choice ps
termination_by structural fuel

/-- A choice between branches. -/
def oneOf (ps : List Pattern) : Pattern :=
  chosen (ps.foldl (fun n p => n + p.size) 0) ps

end Vignette.Pattern
