import Vignette.Pattern.Bracket

/-!
# `Vignette.Pattern.Reader`: reading written patterns

A pattern is read from left to right. The groups that are open are kept in a
list, each with the branches that were read before it.
-/

set_option autoImplicit false

namespace Vignette.Pattern

open Text (Rest Tail)

/-! ### Repetitions -/

/-- The greatest count of a repetition. -/
def maxCount : Nat := 4294967295

/-- The text without leading blanks. -/
def dropBlanks (t : Text) : Tail t.length :=
  ⟨t.dropWhile Text.isBlank, Text.length_dropWhile_le Text.isBlank t⟩

/-- Reads a count with blanks around it. What is wrong with the count matters
only where it is used. -/
def readCount (loose : Bool) (t : Text) : Except Fault Nat × Tail t.length :=
  let start := dropBlanks t
  let (digits, rest) := takeLoose Text.isDigit loose start.1
  let part : Extent := .between start.1 rest.1
  let n := Text.decimalValue digits
  let count :=
    if digits.isEmpty then wrong .emptyCount part
    else if maxCount < n then wrong .badCount part
    else .ok n
  (count, ((dropBlanks rest.1).widen rest.2).widen start.2)

/-- How often something is repeated. -/
structure Bounds where
  min : Nat
  max : Option Nat

/-- Reads the end of a repetition, which closes with a brace. A question mark
behind it changes nothing. `start` tells how many characters are left from its
opening brace. -/
def closeCounts (loose : Bool) (start : Nat) (bounds : Bounds) (t : Text) :
    Except Fault (Bounds × Tail t.length) :=
  match t with
  | [] => wrong .unclosedCount ⟨start, 0⟩
  | c :: u =>
    if c != '\x7d' then wrong .unclosedCount ⟨start, (c :: u).length⟩
    else
      let rest : Tail (c :: u).length :=
        match skipOver loose c u with
        | ⟨'?' :: v, h⟩ => (Rest.trans ⟨'?' :: v, h⟩ ((Tail.all v).past '?').toTail).toTail
        | rest => rest.toTail
      if bounds.max.any (· < bounds.min) then wrong .badRepetition ⟨start, rest.1.length⟩
      else .ok (bounds, rest)

/-- Reads the counts of a repetition behind the opening brace. -/
def readCounts (loose : Bool) (t : Text) : Except Fault (Bounds × Rest ('\x7b' :: t).length) :=
  let start := t.length + 1
  let unclosed {α : Type} : Except Fault α := wrong .unclosedCount ⟨start, 0⟩
  match skipOver loose '\x7b' t with
  | ⟨[], _⟩ => unclosed
  | ⟨c :: u, h⟩ =>
    let (low, rest) := readCount loose (c :: u)
    match rest with
    | ⟨[], _⟩ => unclosed
    | ⟨d :: v, hv⟩ =>
      if d = ',' then
        match skipOver loose d v with
        | ⟨[], _⟩ => unclosed
        | ⟨e :: w, hw⟩ =>
          if e = '\x7d' then do
            let low ← low
            let (bounds, last) ← closeCounts loose start ⟨low, none⟩ (e :: w)
            let behind := (Rest.trans ⟨e :: w, hw⟩ last).toTail.widen hv
            return (bounds, Rest.trans ⟨c :: u, h⟩ behind)
          else do
            let low ← low
            let (high, rest) := readCount loose (e :: w)
            let high ← high
            let (bounds, last) ← closeCounts loose start ⟨low, some high⟩ rest.1
            let behind := (Rest.trans ⟨e :: w, hw⟩ (last.widen rest.2)).toTail.widen hv
            return (bounds, Rest.trans ⟨c :: u, h⟩ behind)
      else do
        let low ← low
        let (bounds, last) ← closeCounts loose start ⟨low, some low⟩ (d :: v)
        return (bounds, Rest.trans ⟨c :: u, h⟩ (last.widen hv))

/-- The bounds of a repetition of one character. -/
def boundsOf? (c : Char) : Option Bounds :=
  if c = '?' then some ⟨0, some 1⟩
  else if c = '*' then some ⟨0, none⟩
  else if c = '+' then some ⟨1, none⟩
  else none

/-! ### Flags -/

/-- A flag, or a hyphen that switches off the flags behind it, with its part. -/
abbrev FlagItem := Extent × Option Flag

/-- What flag items change, from flags that are switched on or off. -/
def changesOf (on : Bool) : List FlagItem → Changes
  | [] => []
  | (_, none) :: items => changesOf false items
  | (_, some flag) :: items => (flag, on) :: changesOf on items

/-- Reads flags up to a colon or a closing parenthesis. The items read so far are
given last first. -/
def readFlags (items : List FlagItem) : (t : Text) →
    Except Fault (List FlagItem × Char × Rest t.length)
  | [] => wrong .endInFlags (.before [])
  | c :: t =>
    let part : Extent := .first (c :: t)
    let again (reason : Reason) (item : FlagItem) :
        Except Fault (List FlagItem × Char × Rest (c :: t).length) :=
      .error (.senseless reason part (some item.1))
    let more (item : Option Flag) :
        Except Fault (List FlagItem × Char × Rest (c :: t).length) := do
      let (items, close, rest) ← readFlags ((part, item) :: items) t
      return (items, close, rest.past c)
    if c = ':' ∨ c = ')' then
      match items with
      | (hyphen, none) :: _ => wrong .danglingNegation hyphen
      | _ => .ok (items.reverse, c, (Tail.all t).past c)
    else if c = '-' then
      match items.find? (·.2 == none) with
      | some item => again .repeatedNegation item
      | none => more none
    else
      match Flag.ofLetter? c with
      | none => wrong .unknownFlag part
      | some flag =>
        match items.find? (·.2 == some flag) with
        | some item => again .duplicateFlag item
        | none => more (some flag)

/-! ### Groups -/

/-- Whether `c` may stand in the name of a group. -/
def isNamePart (first : Bool) (c : Char) : Bool :=
  if first then c == '_' || Text.isAlphabetic c
  else ['_', '.', '[', ']'].contains c || Text.isAlphanumeric c

/-- Reads the name of a group up to its closing angle. -/
def readName (first : Bool) : (t : Text) → Except Fault (Text × Rest t.length)
  | [] => wrong .endInName (.before [])
  | c :: t =>
    if c = '>' then .ok ([], (Tail.all t).past c)
    else if !isNamePart first c then wrong .badNameCharacter (.first (c :: t))
    else do
      let (name, rest) ← readName false t
      return (c :: name, rest.past c)

/-- What an opening parenthesis starts. -/
inductive Opening where
  /-- Flags for the rest of the group around. -/
  | flags (changes : Changes)
  /-- A group with flags of its own. -/
  | plain (changes : Changes)
  | numbered
  | named (name : Text) (part : Extent)

/-- How many characters of look-around come next, if it comes next. -/
def lookAround? (t : Text) : Option Nat :=
  (["?=", "?!", "?<=", "?<!"].find? fun word => word.toList.isPrefixOf t).map (·.length)

/-- Reads a named group behind the angle before its name. -/
def readNamed (t : Text) : Except Fault (Opening × Rest t.length) := do
  let (name, rest) ← readName true t
  if name.isEmpty then wrong .emptyName (.before t)
  else return (.named name ⟨t.length, rest.1.length + 1⟩, rest)

/-- Reads what an opening parenthesis starts. -/
def readOpening (loose : Bool) (t : Text) : Except Fault (Opening × Rest ('(' :: t).length) :=
  let start := t.length + 1
  let inner := skip loose t
  match lookAround? inner.1 with
  | some width => wrong .lookAround ⟨start, inner.1.length - width⟩
  | none =>
    match inner with
    | ⟨'?' :: 'P' :: '<' :: u, h⟩ => do
      let (opening, rest) ← readNamed u
      return (opening, (((rest.past '<').past 'P').past '?').toTail.widen h |>.past '(')
    | ⟨'?' :: '<' :: u, h⟩ => do
      let (opening, rest) ← readNamed u
      return (opening, ((rest.past '<').past '?').toTail.widen h |>.past '(')
    | ⟨'?' :: u, h⟩ => do
      if u.isEmpty then wrong .unclosedGroup ⟨start, t.length⟩
      else
        let (items, close, rest) ← readFlags [] u
        let behind := (rest.past '?').toTail.widen h |>.past '('
        let changes := changesOf true items
        if close = ':' then return (.plain changes, behind)
        -- Without any flag this is a question mark that repeats nothing.
        else if items.isEmpty then wrong .nothingRepeated (.before ('?' :: u))
        else return (.flags changes, behind)
    | ⟨u, h⟩ => .ok (.numbered, Tail.past '(' ⟨u, h⟩)

/-! ### Branches -/

/-- The branches of a group: finished ones, and the items of the one that is
read, each the latest first. -/
structure Branches where
  /-- How many characters are left from the first branch. -/
  start : Nat
  finished : List Tree := []
  /-- How many characters are left from the branch that is read. -/
  here : Nat
  items : List (Extent × Tree) := []

namespace Branches

/-- No branch yet, with `start` characters left. -/
def starting (start : Nat) : Branches :=
  { start, here := start }

def push (b : Branches) (part : Extent) (t : Tree) : Branches :=
  { b with items := (part, t) :: b.items }

/-- The branch that is read, if it ends here. -/
def branch (b : Branches) (stop : Nat) : Tree :=
  match b.items.reverse.map (·.2) with
  | [] => .empty
  | [t] => t
  | ts => .layer ⟨b.here, stop⟩ (.joinAll ts)

/-- All branches, if they end here. -/
def close (b : Branches) (stop : Nat) : Tree :=
  if b.finished.isEmpty then b.branch stop
  else .layer ⟨b.start, stop⟩ (.eitherAll ((b.branch stop :: b.finished).reverse))

/-- The next branch starts behind a bar, with `stop` characters left from the
bar. -/
def split (b : Branches) (stop : Nat) : Branches :=
  { b with finished := b.branch stop :: b.finished, here := stop - 1, items := [] }

/-- Repeats the last item, if there is one and it is no flags. -/
def repeat? (b : Branches) (bounds : Bounds) (behind : Nat) : Option Branches :=
  match b.items with
  | [] | (_, .flags _) :: _ => none
  | (part, t) :: items =>
    let whole : Extent := ⟨part.left, behind⟩
    some { b with items := (whole, .layer whole (.times bounds.min bounds.max t)) :: items }

end Branches

/-- A group that is open. -/
structure OpenGroup where
  /-- The parenthesis that opens it. -/
  opened : Extent
  /-- The number of the group, if it has one. -/
  number : Option Nat
  changes : Changes
  /-- The branches that the group belongs to. -/
  outer : Branches
  /-- Whether blanks count around the group. -/
  loose : Bool

/-- Where reading has come to. -/
structure State where
  /-- The open groups, the innermost first. -/
  groups : List OpenGroup := []
  branches : Branches
  loose : Bool := false
  /-- How many groups with numbers were opened. -/
  opened : Nat := 0
  /-- The names of groups and where they are. -/
  names : List (Text × Extent) := []

namespace State

/-- Puts an item behind the others. -/
def push (s : State) (part : Extent) (t : Tree) : State :=
  { s with branches := s.branches.push part t }

/-- Goes into a group. -/
def enter (s : State) (opened : Extent) (number : Option Nat) (changes : Changes) (left : Nat) :
    State :=
  { s with
    groups := ⟨opened, number, changes, s.branches, s.loose⟩ :: s.groups
    branches := .starting left
    loose := (changes.lookup .loose).getD s.loose }

/-- Goes into a group with the next number. -/
def enterNumbered (s : State) (opened : Extent) (left : Nat) : State :=
  let number := s.opened + 1
  { s.enter opened (some number) [] left with opened := number }

/-- Takes up what a parenthesis starts. `left` tells how many characters are left
behind it. -/
def openGroup (s : State) (opened : Extent) (opening : Opening) (left : Nat) :
    Except Fault State :=
  match opening with
  | .flags changes =>
    .ok { s.push ⟨opened.left, left⟩ (.flags changes) with
      loose := (changes.lookup .loose).getD s.loose }
  | .plain changes => .ok (s.enter opened none changes left)
  | .numbered => .ok (s.enterNumbered opened left)
  | .named name part =>
    match s.names.lookup name with
    | some earlier => .error (.senseless .duplicateName part (some earlier))
    | none => .ok { s.enterNumbered opened left with names := (name, part) :: s.names }

/-- Leaves a group at a closing parenthesis with `left` characters behind it. -/
def closeGroup (s : State) (left : Nat) : Except Fault State :=
  match s.groups with
  | [] => wrong .unopenedGroup ⟨left + 1, left⟩
  | g :: groups =>
    let whole : Extent := ⟨g.opened.left, left⟩
    let t := .group g.number g.changes (s.branches.close (left + 1))
    .ok { s with groups, branches := g.outer.push whole (.layer whole t), loose := g.loose }

/-- Repeats the last item. -/
def repeatLast (s : State) (bounds : Bounds) (start behind : Nat) : Except Fault State :=
  match s.branches.repeat? bounds behind with
  | none => wrong .nothingRepeated ⟨start, start⟩
  | some branches => .ok { s with branches }

/-- Ends a pattern. -/
def finish (s : State) : Except Fault Tree :=
  match s.groups with
  | g :: _ => wrong .unclosedGroup g.opened
  | [] => .ok (s.branches.close 0)

end State

/-- The atom that a character stands for by itself. -/
def plainAtom (c : Char) : Atom :=
  if c = '.' then .dot
  else if c = '^' then .anchor .caret
  else if c = '$' then .anchor .dollar
  else .literal ⟨c, false⟩

/-- Reads an item, or a sign between items. -/
def step (s : State) (c : Char) (t : Text) : Except Fault (State × Rest (c :: t).length) :=
  let left := (c :: t).length
  let behind : Rest (c :: t).length := (Tail.all t).past c
  if c = '(' then do
    let (opening, rest) ← readOpening s.loose t
    return (← s.openGroup ⟨left, t.length⟩ opening rest.1.length, rest)
  else if c = ')' then return (← s.closeGroup t.length, behind)
  else if c = '|' then .ok ({ s with branches := s.branches.split left }, behind)
  else if c = '[' then do
    let (result, rest) ← readBracket s.loose t
    let tree := .layer result.part (.bracket result.part result.negated result.content)
    return (s.push result.part tree, rest)
  else if c = '\x7b' then do
    -- A missing item comes before anything wrong with the counts.
    let _ ← s.repeatLast ⟨1, some 1⟩ left left
    let (bounds, rest) ← readCounts s.loose t
    return (← s.repeatLast bounds left rest.1.length, rest)
  else if c = '\\' then do
    let (a, rest) ← readEscape s.loose t
    return (s.push ⟨left, rest.1.length⟩ (.atom ⟨left, rest.1.length⟩ a), rest)
  else
    match boundsOf? c with
    | none => .ok (s.push ⟨left, t.length⟩ (.atom ⟨left, t.length⟩ (plainAtom c)), behind)
    | some bounds => do
      let rest : Tail t.length :=
        match t with
        | '?' :: u => ((Tail.all u).past '?').toTail
        | t => .all t
      return (← s.repeatLast bounds left rest.1.length, rest.past c)

/-- Reads on. -/
def readFrom (s : State) (t : Text) : Except Fault Tree :=
  match skip s.loose t with
  | ⟨[], _⟩ => s.finish
  | ⟨c :: u, h⟩ =>
    match step s c u with
    | .error fault => .error fault
    | .ok (s, ⟨v, hv⟩) =>
      have : v.length < t.length := Nat.lt_of_lt_of_le hv h
      readFrom s v
termination_by t.length

/-- Reads a written pattern. -/
def Tree.read (t : Text) : Except Fault Tree := do
  let tree ← readFrom { branches := .starting t.length } t
  match tree.tooDeep? maxDepth with
  | some part => wrong .tooDeep part
  | none => return tree

end Vignette.Pattern
