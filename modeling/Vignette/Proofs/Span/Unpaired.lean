import Mathlib.Data.List.DropRight
import Vignette.Proofs.Span.Outside

/-!
# `Vignette.Proofs.Span.Unpaired`: delimiters that belong to no span

Whether a delimiter belongs to a span is told by what stands around it. A `<` belongs
to one exactly when a `>` follows before the line ends. A `>` belongs to one exactly
when a `<` stands in front of it, behind the last `>` and the last line feed.

Once all spans are cut out, the delimiters that are left are those that belong to none.

* `mem_cutAll_iff`: what is left are the plain pieces.
* `open_mem_cutAll_iff`: a `<` is left exactly when one never closes.
* `close_mem_cutAll_iff`: a `>` is left exactly when one closes nothing.
-/

set_option autoImplicit false

namespace Vignette.Span

/-- The text up to the next line feed or the end. -/
def restOfLine (t : Text) : Text :=
  t.takeWhile (· ≠ '\n')

/-- The end of the text behind its last `>` and its last line feed. -/
def sinceClose (t : Text) : Text :=
  t.rtakeWhile fun c => c ≠ '>' && c ≠ '\n'

/-- Some `<` has no `>` between it and the next line feed or the end. -/
def NeverCloses (t : Text) : Prop :=
  ∃ front back, t = front ++ '<' :: back ∧ '>' ∉ restOfLine back

/-- Behind what has been read, some `>` has no `<` between the nearest `>` or line feed
in front of it, or the start, and it. -/
def ClosesNothingAfter (read t : Text) : Prop :=
  ∃ front back, t = front ++ '>' :: back ∧ '<' ∉ sinceClose (read ++ front)

/-- Some `>` has no `<` between the nearest `>` or line feed in front of it, or the
start, and it. -/
def ClosesNothing (t : Text) : Prop :=
  ClosesNothingAfter [] t

/-! ### One character at a time -/

theorem close_mem_restOfLine_cons_iff {c : Char} {t : Text} :
    '>' ∈ restOfLine (c :: t) ↔ c = '>' ∨ c ≠ '\n' ∧ '>' ∈ restOfLine t := by
  by_cases hfeed : c = '\n'
  · simp [restOfLine, hfeed]
  · simp [restOfLine, hfeed, eq_comm]

theorem neverCloses_cons_iff {c : Char} {t : Text} :
    NeverCloses (c :: t) ↔ c = '<' ∧ '>' ∉ restOfLine t ∨ NeverCloses t := by
  constructor
  · intro h
    obtain ⟨front, back, ht, hback⟩ := h
    cases front with
    | nil =>
        cases ht
        exact .inl ⟨rfl, hback⟩
    | cons d front =>
        cases ht
        exact .inr ⟨front, back, rfl, hback⟩
  · intro h
    rcases h with ⟨rfl, ht⟩ | ⟨front, back, rfl, hback⟩
    · exact ⟨[], t, rfl, ht⟩
    · exact ⟨c :: front, back, rfl, hback⟩

theorem open_mem_sinceClose_concat_iff {c : Char} {t : Text} :
    '<' ∈ sinceClose (t ++ [c]) ↔ c = '<' ∨ c ≠ '>' ∧ c ≠ '\n' ∧ '<' ∈ sinceClose t := by
  rw [sinceClose, List.rtakeWhile_concat]
  by_cases hclose : c = '>'
  · simp [hclose]
  · by_cases hfeed : c = '\n'
    · simp [hfeed]
    · simp [sinceClose, hclose, hfeed, eq_comm, or_comm]

theorem closesNothingAfter_cons_iff {read : Text} {c : Char} {t : Text} :
    ClosesNothingAfter read (c :: t) ↔
      c = '>' ∧ '<' ∉ sinceClose read ∨ ClosesNothingAfter (read ++ [c]) t := by
  constructor
  · intro h
    obtain ⟨front, back, ht, hfront⟩ := h
    cases front with
    | nil =>
        cases ht
        rw [List.append_nil] at hfront
        exact .inl ⟨rfl, hfront⟩
    | cons d front =>
        cases ht
        refine .inr ⟨front, back, rfl, ?_⟩
        rwa [List.append_assoc, List.singleton_append]
  · intro h
    rcases h with ⟨rfl, hread⟩ | ⟨front, back, rfl, hfront⟩
    · refine ⟨[], t, rfl, ?_⟩
      rwa [List.append_nil]
    · refine ⟨c :: front, back, rfl, ?_⟩
      rwa [List.append_assoc, List.singleton_append] at hfront

/-! ### Plain delimiters -/

/-- A `<` that the scan holds turns out plain when the line ends before a `>`. -/
theorem plain_open_mem_piecesFrom_iff {state : Option Text} {t : Text} :
    .plain '<' ∈ piecesFrom state t ↔
      state.isSome ∧ '>' ∉ restOfLine t ∨ NeverCloses t := by
  induction t generalizing state with
  | nil => cases state <;> simp [piecesFrom, NeverCloses, restOfLine]
  | cons c t ih =>
      rw [neverCloses_cons_iff, close_mem_restOfLine_cons_iff]
      cases state with
      | none =>
          rw [piecesFrom]
          split
          · rename_i hopen
            rw [ih]
            simp [hopen]
          · rename_i hopen
            rw [List.mem_cons, ih]
            simp [hopen, Ne.symm hopen]
      | some held =>
          rw [piecesFrom]
          split
          · -- The `>` takes all that is held into a span.
            rename_i hclose
            rw [List.mem_cons, ih]
            simp [hclose]
          · split
            · rename_i hfeed
              simp [hfeed]
            · rename_i hclose hfeed
              rw [ih]
              simp only [Option.isSome_some, true_and, hclose, hfeed, not_false_eq_true, ne_eq,
                false_or]
              tauto

/-- A `>` that comes while the scan holds no `<` is plain. It holds one when a `<` has
been read since the last `>` and the last line feed. -/
theorem plain_close_mem_piecesFrom_iff {read : Text} {state : Option Text} {t : Text}
    (hstate : state.isSome ↔ '<' ∈ sinceClose read) (hheld : ∀ held ∈ state, '>' ∉ held) :
    .plain '>' ∈ piecesFrom state t ↔ ClosesNothingAfter read t := by
  induction t generalizing read state with
  | nil =>
      cases state with
      | none => simp [piecesFrom, ClosesNothingAfter]
      | some held =>
          have hplain : '>' ∉ held := hheld held rfl
          simp [piecesFrom, ClosesNothingAfter, hplain]
  | cons c t ih =>
      rw [closesNothingAfter_cons_iff]
      cases state with
      | none =>
          have hread : '<' ∉ sinceClose read := fun hmem => absurd (hstate.2 hmem) (by simp)
          rw [piecesFrom]
          split
          · rename_i hopen
            rw [@ih (read ++ [c]) _]
            · simp [hopen]
            · simp [open_mem_sinceClose_concat_iff, hopen]
            · simp
          · rename_i hopen
            rw [List.mem_cons, @ih (read ++ [c]) _]
            · simp [hread, eq_comm]
            · simp [open_mem_sinceClose_concat_iff, hopen, hread]
            · simp
      | some held =>
          have hread : '<' ∈ sinceClose read := hstate.1 rfl
          have hplain : '>' ∉ held := hheld held rfl
          rw [piecesFrom]
          split
          · rename_i hclose
            rw [List.mem_cons, @ih (read ++ [c]) _]
            · simp [hread]
            · simp [open_mem_sinceClose_concat_iff, hclose]
            · simp
          · rename_i hclose
            split
            · -- What is held becomes plain, and there is no `>` in it.
              rename_i hfeed
              simp only [List.mem_cons, List.mem_append, List.mem_map, List.mem_reverse,
                Piece.plain.injEq]
              rw [@ih (read ++ [c]) _]
              · simp [hread, hplain, hfeed]
              · simp [open_mem_sinceClose_concat_iff, hfeed]
              · simp
            · rename_i hfeed
              rw [@ih (read ++ [c]) _]
              · simp [hread]
              · simp [open_mem_sinceClose_concat_iff, hclose, hfeed, hread]
              · intro w hw
                cases hw
                simp [hplain, Ne.symm hclose]

/-! ### What is left without the spans -/

/-- With all spans cut out the plain pieces are left. -/
theorem mem_cutAll_iff {c : Char} {t : Text} : c ∈ cutAll t ↔ .plain c ∈ pieces t := by
  rw [cutAll_eq_outside, outside_eq_spell (List.Subset.refl _),
    keepFrom_spansFrom 0 (pieces t) (all_eq t ▸ List.Subset.refl _), spell, List.mem_flatMap]
  constructor
  · intro h
    obtain ⟨p, hp, hc⟩ := h
    obtain ⟨hmem, hplain⟩ := List.mem_filter.1 hp
    cases p with
    | plain d =>
        cases List.mem_singleton.1 hc
        exact hmem
    | span content => cases hplain
  · intro h
    exact ⟨.plain c, List.mem_filter.2 ⟨h, rfl⟩, List.mem_singleton.2 rfl⟩

/-- A `<` is left exactly when one never closes. -/
theorem open_mem_cutAll_iff {t : Text} : '<' ∈ cutAll t ↔ NeverCloses t := by
  rw [mem_cutAll_iff, pieces, plain_open_mem_piecesFrom_iff]
  simp

/-- A `>` is left exactly when one closes nothing. -/
theorem close_mem_cutAll_iff {t : Text} : '>' ∈ cutAll t ↔ ClosesNothing t := by
  rw [mem_cutAll_iff, pieces, @plain_close_mem_piecesFrom_iff []]
  · rfl
  · simp [sinceClose]
  · simp

end Vignette.Span
