import Vignette.Text.CodeRange

/-!
# `Vignette.Text.CharSet`: sets of characters as ranges of code points

The ranges of a set start in order, so a search for a character ends where the
ranges go beyond it. Sets that were built from ranges have gaps between them, so
equal ones have equal ranges.

- `inOrder_mergeSort`, `inOrder_joined`: what the operations build is in order.
-/

set_option autoImplicit false

namespace Vignette.Text

/-- Whether one range starts no later than another. -/
def startsFirst (r s : CodeRange) : Bool :=
  r.first ≤ s.first

/-- The ranges start in order. -/
def InOrder (rs : List CodeRange) : Prop :=
  rs.Pairwise fun r s => r.first ≤ s.first

/-- A set of characters. -/
structure CharSet where
  ranges : List CodeRange
  inOrder : InOrder ranges
  deriving DecidableEq, Repr

/-- The greatest code point. -/
def lastCode : Nat := 0x10FFFF

/-! ### Ranges in order -/

/-- Whether one of the ranges, which start in order, has a character. -/
def hasFrom (c : Char) : List CodeRange → Bool
  | [] => false
  | r :: rest => if c.toNat < r.first then false else c.toNat ≤ r.last || hasFrom c rest

theorem inOrder_mergeSort (rs : List CodeRange) : InOrder (rs.mergeSort startsFirst) := by
  have htrans (a b c : CodeRange) (hab : startsFirst a b = true) (hbc : startsFirst b c = true) :
      startsFirst a c = true := by
    simp only [startsFirst, decide_eq_true_eq] at *
    exact Nat.le_trans hab hbc
  have htotal (a b : CodeRange) : (startsFirst a b || startsFirst b a) = true := by
    simp only [startsFirst, Bool.or_eq_true, decide_eq_true_eq]
    exact Nat.le_total _ _
  exact (List.pairwise_mergeSort htrans htotal rs).imp fun hab => by
    simpa [startsFirst] using hab

/-- The ranges with `r` before them, where ranges that overlap or touch are one. -/
def joinFrom (r : CodeRange) : List CodeRange → List CodeRange
  | [] => [r]
  | s :: rest =>
    if s.first ≤ r.last + 1 then joinFrom ⟨r.first, Nat.max r.last s.last⟩ rest
    else r :: joinFrom s rest

/-- Ranges that start in order, with gaps between them. -/
def joined : List CodeRange → List CodeRange
  | [] => []
  | r :: rest => joinFrom r rest

theorem first_le_of_mem_joinFrom {r s : CodeRange} {rs : List CodeRange}
    (h : InOrder (r :: rs)) (hs : s ∈ joinFrom r rs) : r.first ≤ s.first := by
  induction rs generalizing r with
  | nil => exact Nat.le_of_eq (congrArg CodeRange.first (List.mem_singleton.1 hs).symm)
  | cons t rest ih =>
    obtain ⟨hr, htrest⟩ := List.pairwise_cons.1 h
    have hrt := hr t List.mem_cons_self
    unfold joinFrom at hs
    split at hs
    · exact ih (r := ⟨r.first, Nat.max r.last t.last⟩) (List.pairwise_cons.2
        ⟨fun u hu => hr u (List.mem_cons_of_mem t hu), (List.pairwise_cons.1 htrest).2⟩) hs
    · rcases List.mem_cons.1 hs with rfl | hs
      · exact Nat.le_refl _
      · exact Nat.le_trans hrt (ih htrest hs)

theorem inOrder_joinFrom {r : CodeRange} {rs : List CodeRange} (h : InOrder (r :: rs)) :
    InOrder (joinFrom r rs) := by
  induction rs generalizing r with
  | nil => exact h
  | cons s rest ih =>
    obtain ⟨hr, hsrest⟩ := List.pairwise_cons.1 h
    unfold joinFrom
    split
    · exact ih (List.pairwise_cons.2
        ⟨fun u hu => hr u (List.mem_cons_of_mem s hu), (List.pairwise_cons.1 hsrest).2⟩)
    · exact List.pairwise_cons.2
        ⟨fun u hu => Nat.le_trans (hr s List.mem_cons_self) (first_le_of_mem_joinFrom hsrest hu),
          ih hsrest⟩

theorem inOrder_joined {rs : List CodeRange} (h : InOrder rs) : InOrder (joined rs) := by
  cases rs with
  | nil => exact h
  | cons r rest => exact inOrder_joinFrom h

namespace CharSet

/-- Whether the set has a character. -/
def has (s : CharSet) (c : Char) : Bool :=
  hasFrom c s.ranges

/-- The set of all characters in some ranges, which are kept apart. -/
def sorted (rs : List CodeRange) : CharSet :=
  ⟨rs.mergeSort startsFirst, inOrder_mergeSort rs⟩

/-- The set of all characters in some ranges. -/
def ofRanges (rs : List CodeRange) : CharSet :=
  ⟨joined (sorted rs).ranges, inOrder_joined (sorted rs).inOrder⟩

/-- The ranges of a run. -/
def rangesOfRun (r : CodeRun) : List CodeRange :=
  if r.step = 1 then [⟨r.first, r.last⟩]
  else (List.range ((r.last - r.first) / r.step + 1)).map fun i =>
    ⟨r.first + i * r.step, r.first + i * r.step⟩

/-- The set of all characters in some runs. -/
def ofRuns (rs : List CodeRun) : CharSet :=
  ofRanges (rs.flatMap rangesOfRun)

/-- The set of some characters. -/
def ofCodes (codes : List Nat) : CharSet :=
  ofRanges (codes.map fun n => ⟨n, n⟩)

/-! ### Sets -/

/-- No characters. -/
def none : CharSet := sorted []

/-- All characters. -/
def all : CharSet := sorted [⟨0, lastCode⟩]

/-- The characters from `first` to `last`. -/
def range (first last : Char) : CharSet :=
  sorted [⟨first.toNat, last.toNat⟩]

/-- The set of one character. -/
def single (c : Char) : CharSet :=
  range c c

/-- The characters of the listed ranges. -/
def ofPairs (pairs : List (Char × Char)) : CharSet :=
  ofRanges (pairs.map fun (first, last) => ⟨first.toNat, last.toNat⟩)

/-- The only character of a set that has just one. -/
def single? (s : CharSet) : Option Char :=
  match s.ranges with
  | [r] => if r.first = r.last then some (Char.ofNat r.first) else Option.none
  | _ => Option.none

/-- Whether the set has nothing. -/
def isEmpty (s : CharSet) : Bool :=
  s.ranges.isEmpty

/-- Whether the set has only ASCII characters. -/
def isAscii (s : CharSet) : Bool :=
  s.ranges.all fun r => r.last < 0x80

/-! ### Operations -/

/-- What is in one of two sets. -/
def union (a b : CharSet) : CharSet :=
  ofRanges (a.ranges ++ b.ranges)

/-- What is in one of the sets. -/
def unionAll (sets : List CharSet) : CharSet :=
  ofRanges (sets.flatMap (·.ranges))

/-- The code points from `low` on that are in none of the ranges, which start in
order. -/
def gapsFrom (low : Nat) : List CodeRange → List CodeRange
  | [] => if low ≤ lastCode then [⟨low, lastCode⟩] else []
  | r :: rest =>
    let more := gapsFrom (Nat.max low (r.last + 1)) rest
    if low < r.first then ⟨low, r.first - 1⟩ :: more else more

/-- All other code points. -/
def rest (s : CharSet) : CharSet :=
  sorted (gapsFrom 0 s.ranges)

/-- What is in both sets. -/
def inter (a b : CharSet) : CharSet :=
  (a.rest.union b.rest).rest

/-- What is in the first set alone. -/
def diff (a b : CharSet) : CharSet :=
  (a.rest.union b).rest

/-- What is in one of two sets but not in both. -/
def either (a b : CharSet) : CharSet :=
  (a.union b).diff (a.inter b)

/-- The character at or behind a code point, beyond the surrogates. -/
def charFrom (n : Nat) : Nat :=
  if 0xD800 ≤ n ∧ n < 0xE000 then 0xE000 else n

/-- The character at or before a code point, below the surrogates. -/
def charTo (n : Nat) : Nat :=
  if 0xD800 ≤ n ∧ n < 0xE000 then 0xD7FF else n

/-- A gap from its first character to its last one. A gap of surrogates alone has
the characters on both sides for its ends. -/
def closeGap (r : CodeRange) : CodeRange :=
  let first := charFrom r.first
  let last := charTo r.last
  ⟨Nat.min first last, Nat.max first last⟩

/-- All other characters. -/
def compl (s : CharSet) : CharSet :=
  sorted ((gapsFrom 0 s.ranges).map closeGap)

end CharSet

end Vignette.Text
