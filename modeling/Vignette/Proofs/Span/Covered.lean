import Vignette.Proofs.Span.Outside
import Vignette.Proofs.Span.Pairing
import Vignette.Proofs.Span.Unpaired

/-!
# `Vignette.Proofs.Span.Covered`: which characters lie in a span

Whether a character lies in a span is told by its line: a `<` stands in front of it, behind
the last `>`, and a `>` follows. The delimiters of a span lie in it.

* `openedAfter`: what the scan for spans remembers behind a character.
* `exists_covers_read_iff`: whether a byte that has been read will lie in a span.
* `covered_iff`: whether a character lies in one.
-/

set_option autoImplicit false

namespace Vignette.Span

/-- Whether byte `pos` of the text lies in one of its spans. -/
def covered (t : Text) (pos : Nat) : Bool :=
  (all t).any (·.covers pos)

/-! ### The scan at one character -/

/-- Where the first `<` stands that waits for a `>` behind the character `c` at byte `pos`. -/
def openedAfter (pos : Nat) (opened : Option Nat) (c : Char) : Option Nat :=
  if c = '<' then opened.or (some pos) else if c = '>' ∨ c = '\n' then none else opened

section
variable {pos q : Nat} {opened : Option Nat} {c : Char} {t : Text}

theorem isSome_openedAfter_iff :
    (openedAfter pos opened c).isSome ↔ c = '<' ∨ c ≠ '>' ∧ c ≠ '\n' ∧ opened.isSome := by
  unfold openedAfter
  split
  · simp [*]
  · split
    · rename_i hopen hends
      simp only [Option.isSome_none, Bool.false_eq_true, false_iff]
      tauto
    · rename_i hopen hgoes
      tauto

theorem le_of_mem_openedAfter (hopened : ∀ start ∈ opened, start < pos) :
    ∀ start ∈ openedAfter pos opened c, start ≤ pos := by
  intro start hstart
  unfold openedAfter at hstart
  split at hstart
  · rcases Option.or_eq_some_iff.1 hstart with hstart | ⟨-, hstart⟩
    · exact Nat.le_of_lt (hopened start hstart)
    · cases hstart
      exact Nat.le_refl pos
  · split at hstart
    · cases hstart
    · exact Nat.le_of_lt (hopened start hstart)

/-- At one character a span may close; all others lie behind. -/
theorem mem_allFrom_cons_iff {s : Span} :
    s ∈ allFrom pos opened (c :: t) ↔
      (c = '>' ∧ ∃ start ∈ opened, s = ⟨start, pos + c.utf8Size⟩) ∨
        s ∈ allFrom (pos + c.utf8Size) (openedAfter pos opened c) t := by
  rw [allFrom_cons, openedAfter]
  split
  · rename_i hopen
    simp [hopen]
  · split
    · rename_i hclose
      cases opened with
      | none => simp [hclose]
      | some start => simp [hclose]
    · rename_i hclose
      split
      · rename_i hfeed
        simp [hfeed]
      · rename_i hfeed
        simp [hclose, hfeed]

/-- A byte lies in the span that closes at this character, or in one that closes behind. -/
theorem exists_covers_cons_iff :
    (∃ s ∈ allFrom pos opened (c :: t), s.covers q) ↔
      (c = '>' ∧ (∃ start ∈ opened, start ≤ q) ∧ q < pos + c.utf8Size) ∨
        ∃ s ∈ allFrom (pos + c.utf8Size) (openedAfter pos opened c) t, s.covers q := by
  simp only [mem_allFrom_cons_iff, or_and_right, exists_or]
  refine or_congr_left ?_
  constructor
  · intro h
    obtain ⟨s, ⟨hclose, start, hstart, rfl⟩, hcovers⟩ := h
    obtain ⟨hle, hlt⟩ := covers_iff.1 hcovers
    exact ⟨hclose, ⟨start, hstart, hle⟩, hlt⟩
  · intro h
    obtain ⟨hclose, ⟨start, hstart, hle⟩, hlt⟩ := h
    exact ⟨_, ⟨hclose, start, hstart, rfl⟩, covers_iff.2 ⟨hle, hlt⟩⟩

theorem exists_start_le_iff (h : ∀ start ∈ opened, start ≤ q) :
    (∃ start ∈ opened, start ≤ q) ↔ opened.isSome := by
  constructor
  · intro hle
    obtain ⟨start, hstart, -⟩ := hle
    exact Option.isSome_of_mem hstart
  · intro hsome
    obtain ⟨start, hstart⟩ := Option.isSome_iff_exists.1 hsome
    exact ⟨start, hstart, h start hstart⟩

/-! ### What has been read -/

/-- A byte that has been read will lie in a span when the `<` that waits stands at it or in
front of it and its line goes on to a `>`. -/
theorem exists_covers_read_iff (hq : q < pos) :
    (∃ s ∈ allFrom pos opened t, s.covers q) ↔
      (∃ start ∈ opened, start ≤ q) ∧ '>' ∈ restOfLine t := by
  induction t generalizing pos opened with
  | nil => simp [allFrom, restOfLine]
  | cons c t ih =>
      have hnext : q < pos + c.utf8Size := by omega
      -- A `<` at this character stands behind the byte, so it does not tell of it.
      have hafter : (∃ start ∈ openedAfter pos opened c, start ≤ q) ↔
          c ≠ '>' ∧ c ≠ '\n' ∧ ∃ start ∈ opened, start ≤ q := by
        unfold openedAfter
        split
        · rename_i hopen
          cases opened with
          | none => simp [Nat.not_le_of_lt hq]
          | some start => simp [hopen]
        · split
          · rename_i hends
            simp only [Option.mem_def, reduceCtorEq, false_and, exists_const, false_iff]
            tauto
          · tauto
      rw [exists_covers_cons_iff, and_iff_left hnext, ih hnext, hafter,
        close_mem_restOfLine_cons_iff]
      by_cases hclose : c = '>'
      · simp [hclose]
      · simp only [hclose, false_and, false_or, ne_eq, not_false_eq_true, true_and]
        exact and_assoc.trans and_left_comm

end

/-! ### Any character -/

/-- Behind what has been read, a character lies in a span when its line has a `<` in front of
it that waits and a `>` to come. -/
theorem exists_covers_iff {read : Text} {opened : Option Nat} (front : Text) (c : Char)
    (back : Text) (hopened : ∀ start ∈ opened, start < Text.byteLength read)
    (hstate : opened.isSome ↔ '<' ∈ sinceClose read) :
    (∃ s ∈ allFrom (Text.byteLength read) opened (front ++ c :: back),
        s.covers (Text.byteLength (read ++ front))) ↔
      '<' ∈ sinceClose (read ++ front) ++ [c] ∧ '>' ∈ restOfLine (c :: back) := by
  induction front generalizing read opened with
  | nil =>
      -- The character stands at the byte that is asked for.
      have hsize := c.utf8Size_pos
      have hnext : Text.byteLength read < Text.byteLength read + c.utf8Size := by omega
      rw [List.nil_append, List.append_nil, exists_covers_cons_iff, and_iff_left hnext,
        exists_covers_read_iff hnext,
        exists_start_le_iff fun start hstart => Nat.le_of_lt (hopened start hstart),
        exists_start_le_iff (le_of_mem_openedAfter hopened), isSome_openedAfter_iff, hstate,
        close_mem_restOfLine_cons_iff, List.mem_append, List.mem_singleton]
      by_cases hclose : c = '>'
      · simp [hclose]
      · by_cases hopen : c = '<'
        · simp [hopen]
        · simp only [hclose, hopen, Ne.symm hopen, false_and, false_or, or_false, ne_eq,
            not_false_eq_true, true_and]
          rw [and_assoc, and_left_comm]
  | cons d front ih =>
      have hread : read ++ d :: front = read ++ [d] ++ front := by simp
      have hnext : Text.byteLength read + d.utf8Size = Text.byteLength (read ++ [d]) := by
        simp [Text.byteLength_append, Text.byteLength]
      have hsize := d.utf8Size_pos
      have hopened' : ∀ start ∈ openedAfter (Text.byteLength read) opened d,
          start < Text.byteLength (read ++ [d]) := by
        intro start hstart
        have := le_of_mem_openedAfter hopened start hstart
        omega
      have hstate' : (openedAfter (Text.byteLength read) opened d).isSome
          ↔ '<' ∈ sinceClose (read ++ [d]) := by
        rw [isSome_openedAfter_iff, open_mem_sinceClose_concat_iff, hstate]
      -- A span that closes at `d` ends in front of the character.
      have hbehind : ¬ Text.byteLength (read ++ [d] ++ front) < Text.byteLength (read ++ [d]) := by
        rw [Text.byteLength_append (read ++ [d])]
        omega
      rw [hread, List.cons_append, exists_covers_cons_iff, hnext, ih hopened' hstate']
      exact or_iff_right fun h => hbehind h.2.2

/-- A character lies in a span exactly when it is a `<` or one stands in front of it, behind
the last `>` and the last line feed, and it is a `>` or one follows on its line. -/
theorem covered_iff (front : Text) (c : Char) (back : Text) :
    covered (front ++ c :: back) (Text.byteLength front) ↔
      '<' ∈ sinceClose front ++ [c] ∧ '>' ∈ restOfLine (c :: back) := by
  rw [covered, List.any_eq_true, all]
  exact @exists_covers_iff [] none front c back (by simp) (by simp [sinceClose])

end Vignette.Span
