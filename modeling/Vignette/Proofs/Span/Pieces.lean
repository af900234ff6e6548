import Mathlib.Data.List.Basic
import Vignette.Span

/-!
# `Vignette.Proofs.Span.Pieces`: a text as a string of pieces

The span scan sees a text as a string of plain characters and whole spans.
`pieces` is this reading and `spell` writes a string of pieces out again.

* `spell_pieces`: reading loses nothing.
* `pieces_spell`: a string of pieces is read back from its spelling when no plain
  `<` waits where a plain `>` or a span stands.
* `all_eq`: the spans that the scan reports are where the span pieces stand.
* `pairwise_all`: they are in order and share no byte.
* `cut_spell`: cutting out a span takes one piece away.
-/

set_option autoImplicit false

namespace Vignette.Span

theorem isDelimiter_eq_false_iff {c : Char} : isDelimiter c = false ↔ c ≠ '<' ∧ c ≠ '>' := by
  simp [isDelimiter]

/-- A part of a text. -/
inductive Piece where
  | plain (c : Char)
  /-- A span, by what stands between its delimiters. -/
  | span (content : Text)
  deriving DecidableEq, Repr

/-- The text of one piece. -/
def Piece.text : Piece → Text
  | plain c => [c]
  | span content => '<' :: (content ++ ['>'])

/-- The text of a string of pieces. -/
def spell (ps : List Piece) : Text :=
  ps.flatMap Piece.text

/-- The pieces of the rest of a text. The state is what has been read since the
first `<` that may still open a span, its last character first; when a line feed
or the end comes before a `>` all of it turns out to be plain. -/
def piecesFrom : Option Text → Text → List Piece
  | none, [] => []
  | some held, [] => .plain '<' :: held.reverse.map .plain
  | none, c :: t => if c = '<' then piecesFrom (some []) t else .plain c :: piecesFrom none t
  | some held, c :: t =>
    if c = '>' then .span held.reverse :: piecesFrom none t
    else if c = '\n' then .plain '<' :: (held.reverse.map .plain ++ .plain c :: piecesFrom none t)
    else piecesFrom (some (c :: held)) t

/-- The pieces of a text, left to right. -/
def pieces (t : Text) : List Piece :=
  piecesFrom none t

@[simp]
theorem spell_nil : spell [] = [] := rfl

@[simp]
theorem spell_cons (p : Piece) (ps : List Piece) : spell (p :: ps) = p.text ++ spell ps := rfl

@[simp]
theorem spell_append (ps qs : List Piece) : spell (ps ++ qs) = spell ps ++ spell qs :=
  List.flatMap_append

@[simp]
theorem spell_map_plain (t : Text) : spell (t.map .plain) = t := by
  induction t with
  | nil => rfl
  | cons c t ih =>
      rw [List.map_cons, spell_cons, ih]
      rfl

/-! ### Reading and writing -/

/-- The text that a state of the scan has read and not yet given a piece. -/
def pending : Option Text → Text
  | none => []
  | some held => '<' :: held.reverse

theorem spell_piecesFrom (state : Option Text) (t : Text) :
    spell (piecesFrom state t) = pending state ++ t := by
  induction t generalizing state with
  | nil => cases state <;> simp [piecesFrom, pending, Piece.text, -List.map_reverse]
  | cons c t ih =>
      cases state with
      | none =>
          rw [piecesFrom]
          split
          · rename_i hc
            rw [ih, hc]
            rfl
          · rw [spell_cons, ih]
            rfl
      | some held =>
          rw [piecesFrom]
          split
          · rename_i hc
            rw [spell_cons, ih, hc]
            simp [Piece.text, pending]
          · split
            · simp [Piece.text, pending, ih, -List.map_reverse]
            · rw [ih]
              simp [pending]

/-- Writing the pieces of a text out again gives the text. -/
@[simp]
theorem spell_pieces (t : Text) : spell (pieces t) = t :=
  spell_piecesFrom none t

/-! ### Reading back what was written -/

/-- What can stand between the delimiters of a span. -/
def IsContent (t : Text) : Prop :=
  '>' ∉ t ∧ '\n' ∉ t

/-- Whether a plain `<` waits for its `>` behind a plain character. -/
def waitsAfter (waits : Bool) (c : Char) : Bool :=
  if c = '<' then true else if c = '>' ∨ c = '\n' then false else waits

/-- The pieces are those that the scan finds in their text. `waits` tells whether
a plain `<` stands in front of them with no line feed behind it: neither a plain
`>` nor a span can follow then. -/
def Legible : Bool → List Piece → Prop
  | _, [] => True
  | waits, .plain c :: ps => (c = '>' → waits = false) ∧ Legible (waitsAfter waits c) ps
  | waits, .span content :: ps => waits = false ∧ IsContent content ∧ Legible false ps

theorem IsContent.of_cons {c : Char} {t : Text} (h : IsContent (c :: t)) :
    c ≠ '>' ∧ c ≠ '\n' ∧ IsContent t :=
  ⟨fun heq => h.1 (by simp [heq]), fun heq => h.2 (by simp [heq]),
    fun hmem => h.1 (List.mem_cons_of_mem c hmem), fun hmem => h.2 (List.mem_cons_of_mem c hmem)⟩

theorem waitsAfter_of_content {waits : Bool} {c : Char} (hopen : c ≠ '<') (hclose : c ≠ '>')
    (hfeed : c ≠ '\n') : waitsAfter waits c = waits := by
  simp [waitsAfter, hopen, hclose, hfeed]

/-- Content behind a `<` that waits leaves it waiting. -/
theorem legible_map_plain {t : Text} (h : IsContent t) (ps : List Piece) :
    Legible true (t.map .plain ++ ps) ↔ Legible true ps := by
  induction t with
  | nil => rfl
  | cons c t ih =>
      obtain ⟨hclose, hfeed, htail⟩ := h.of_cons
      have hwaits : waitsAfter true c = true := by simp [waitsAfter, hclose, hfeed]
      rw [List.map_cons, List.cons_append, Legible, hwaits, ih htail]
      simp [hclose]

theorem legible_piecesFrom {state : Option Text} {t : Text}
    (hstate : ∀ held ∈ state, IsContent held.reverse) : Legible false (piecesFrom state t) := by
  induction t generalizing state with
  | nil =>
      cases state with
      | none => trivial
      | some held =>
          have hplain := legible_map_plain (hstate held rfl) []
          rw [List.append_nil] at hplain
          exact ⟨by simp, hplain.2 trivial⟩
  | cons c t ih =>
      have hnone : Legible false (piecesFrom none t) := ih (by simp)
      cases state with
      | none =>
          rw [piecesFrom]
          split
          · exact ih (by simp [IsContent])
          · rename_i hopen
            have hwaits : waitsAfter false c = false := by simp [waitsAfter, hopen]
            refine ⟨fun _ => rfl, ?_⟩
            rw [hwaits]
            exact hnone
      | some held =>
          -- Closed it is a span, broken off it is plain, and else it goes on growing.
          have hheld := hstate held rfl
          rw [piecesFrom]
          split
          · exact ⟨rfl, hheld, hnone⟩
          · rename_i hclose
            split
            · rename_i hfeed
              subst hfeed
              exact ⟨by simp, (legible_map_plain hheld _).2 ⟨by simp, hnone⟩⟩
            · rename_i hfeed
              refine ih fun w hw => ?_
              cases hw
              rw [List.reverse_cons]
              exact ⟨by simp [hheld.1, Ne.symm hclose], by simp [hheld.2, Ne.symm hfeed]⟩

/-- The pieces of a text are those that the scan finds. -/
theorem legible_pieces (t : Text) : Legible false (pieces t) :=
  legible_piecesFrom (by simp)

/-- Inside a span the scan collects its content. -/
theorem piecesFrom_content {t : Text} (h : IsContent t) (held rest : Text) :
    piecesFrom (some held) (t ++ rest) = piecesFrom (some (t.reverse ++ held)) rest := by
  induction t generalizing held with
  | nil => rfl
  | cons c t ih =>
      obtain ⟨hclose, hfeed, htail⟩ := h.of_cons
      rw [List.cons_append, piecesFrom, if_neg hclose, if_neg hfeed, ih htail]
      simp

/-- Both states of the scan at once: what a waiting `<` holds turns out plain. -/
theorem piecesFrom_spell (ps : List Piece) :
    (Legible false ps → piecesFrom none (spell ps) = ps) ∧
      ∀ held, Legible true ps →
        piecesFrom (some held) (spell ps) = .plain '<' :: (held.reverse.map .plain ++ ps) := by
  induction ps with
  | nil => exact ⟨fun _ => rfl, fun held _ => by simp [piecesFrom]⟩
  | cons p ps ih =>
      cases p with
      | plain c =>
          rw [spell_cons, Piece.text, List.singleton_append]
          by_cases hopen : c = '<'
          · subst hopen
            constructor
            · rintro ⟨-, h⟩
              rw [piecesFrom, if_pos rfl, ih.2 [] h]
              rfl
            · rintro held ⟨-, h⟩
              rw [piecesFrom, if_neg (by decide), if_neg (by decide), ih.2 _ h]
              simp
          · constructor
            · rintro ⟨-, h⟩
              have hwaits : waitsAfter false c = false := by simp [waitsAfter, hopen]
              rw [hwaits] at h
              rw [piecesFrom, if_neg hopen, ih.1 h]
            · rintro held ⟨hclose, h⟩
              have hclose : c ≠ '>' := fun heq => absurd (hclose heq) (by decide)
              rw [piecesFrom, if_neg hclose]
              split
              · -- The line feed ends the wait, and the scan starts anew behind it.
                rename_i hfeed
                subst hfeed
                rw [ih.1 h]
              · rename_i hfeed
                rw [waitsAfter_of_content hopen hclose hfeed] at h
                rw [ih.2 _ h]
                simp
      | span content =>
          constructor
          · rintro ⟨-, hcontent, h⟩
            show piecesFrom none ('<' :: (content ++ ['>'] ++ spell ps)) = _
            rw [piecesFrom, if_pos rfl, List.append_assoc, piecesFrom_content hcontent]
            show piecesFrom (some (content.reverse ++ [])) ('>' :: spell ps) = _
            rw [piecesFrom, if_pos rfl, ih.1 h]
            simp
          · rintro held ⟨hwaits, -⟩
            cases hwaits

/-- Legible pieces are read back from their spelling. -/
theorem pieces_spell {ps : List Piece} (h : Legible false ps) : pieces (spell ps) = ps :=
  (piecesFrom_spell ps).1 h

/-! ### Where the spans stand -/

/-- Where the span pieces stand when the first piece starts at byte `pos`. -/
def spansFrom (pos : Nat) : List Piece → List Span
  | [] => []
  | .plain c :: ps => spansFrom (pos + c.utf8Size) ps
  | .span content :: ps =>
    let next := pos + Text.byteLength (Piece.span content).text
    ⟨pos, next⟩ :: spansFrom next ps

theorem spansFrom_append (pos : Nat) (ps qs : List Piece) :
    spansFrom pos (ps ++ qs)
      = spansFrom pos ps ++ spansFrom (pos + Text.byteLength (spell ps)) qs := by
  induction ps generalizing pos with
  | nil => simp [spansFrom, Text.byteLength]
  | cons p ps ih =>
      cases p with
      | plain c =>
          rw [List.cons_append, spansFrom, spansFrom, ih, spell_cons, Text.byteLength_append,
            ← Nat.add_assoc]
          rfl
      | span content =>
          rw [List.cons_append, spansFrom, spansFrom, ih, spell_cons, Text.byteLength_append,
            ← Nat.add_assoc]
          rfl

theorem spansFrom_map_plain (pos : Nat) (t : Text) : spansFrom pos (t.map .plain) = [] := by
  induction t generalizing pos with
  | nil => rfl
  | cons c t ih => exact ih _

/-- The scan counts on from what it holds and remembers where that began. -/
theorem allFrom_eq (start : Nat) (state : Option Text) (t : Text) :
    allFrom (start + Text.byteLength (pending state)) (state.map fun _ => start) t
      = spansFrom start (piecesFrom state t) := by
  induction t generalizing start state with
  | nil =>
      cases state with
      | none => rfl
      | some held => exact (spansFrom_map_plain _ ('<' :: held.reverse)).symm
  | cons c t ih =>
      cases state with
      | none =>
          show allFrom start none (c :: t) = _
          rw [allFrom, piecesFrom]
          split
          · rename_i hopen
            subst hopen
            exact ih start (some [])
          · show _ = spansFrom (start + c.utf8Size) (piecesFrom none t)
            rw [← ih (start + c.utf8Size) none]
            split <;> simp [pending, Text.byteLength]
      | some held =>
          have hpending (d : Char) : start + Text.byteLength (pending (some held)) + d.utf8Size
              = start + Text.byteLength (pending (some (d :: held))) := by
            simp only [pending, List.reverse_cons, Text.byteLength, Text.byteLength_append]
            omega
          show allFrom _ (some start) (c :: t) = _
          rw [allFrom, piecesFrom, hpending c]
          split
          · rename_i hopen
            subst hopen
            rw [if_neg (by decide), if_neg (by decide)]
            exact ih start (some ('<' :: held))
          · split
            · rename_i hclose
              subst hclose
              have hnext : start + Text.byteLength (pending (some ('>' :: held)))
                  = start + Text.byteLength (Piece.span held.reverse).text := by
                rw [pending, List.reverse_cons, Piece.text]
              show (⟨start, _⟩ :: allFrom _ none t : List Span) = ⟨start, _⟩ :: spansFrom _ _
              rw [hnext]
              exact congrArg _ (ih _ none)
            · split
              · -- All that is held turns out plain, and no span stands there.
                rename_i hfeed
                have hplain : (.plain '<' :: (held.reverse.map .plain ++ .plain c :: piecesFrom none t)
                    : List Piece) = (pending (some (c :: held))).map .plain ++ piecesFrom none t := by
                  simp [pending]
                rw [hplain, spansFrom_append, spansFrom_map_plain, spell_map_plain]
                exact ih _ none
              · exact ih start (some (c :: held))

/-- The spans of a text are where its span pieces stand. -/
theorem all_eq (t : Text) : all t = spansFrom 0 (pieces t) :=
  allFrom_eq 0 none t

theorem all_spell {ps : List Piece} (h : Legible false ps) : all (spell ps) = spansFrom 0 ps := by
  rw [all_eq, pieces_spell h]

/-- A span does not start before the first piece. -/
theorem le_start_of_mem_spansFrom {pos : Nat} {ps : List Piece} {s : Span}
    (h : s ∈ spansFrom pos ps) : pos ≤ s.start := by
  induction ps generalizing pos with
  | nil => cases h
  | cons p ps ih =>
      cases p with
      | plain c => exact Nat.le_trans (Nat.le_add_right _ _) (ih h)
      | span content =>
          rcases List.mem_cons.1 h with rfl | h
          · exact Nat.le_refl _
          · exact Nat.le_trans (Nat.le_add_right _ _) (ih h)

theorem byteLength_span_pos (content : Text) :
    0 < Text.byteLength (Piece.span content).text := by
  have := '<'.utf8Size_pos
  simp only [Piece.text, Text.byteLength]
  omega

theorem pairwise_spansFrom (pos : Nat) (ps : List Piece) :
    (spansFrom pos ps).Pairwise fun a b => a.stop ≤ b.start := by
  induction ps generalizing pos with
  | nil => exact .nil
  | cons p ps ih =>
      cases p with
      | plain c => exact ih _
      | span content => exact List.pairwise_cons.2 ⟨fun s hs => le_start_of_mem_spansFrom hs, ih _⟩

/-- The spans of a text are in order and share no byte. -/
theorem pairwise_all (t : Text) : (all t).Pairwise fun a b => a.stop ≤ b.start := by
  rw [all_eq]
  exact pairwise_spansFrom 0 _

theorem nodup_all (t : Text) : (all t).Nodup := by
  -- A span is not empty, so it does not end where it starts.
  refine (pairwise_all t).imp_of_mem fun {a b} ha _ hle heq => ?_
  have hlt := start_lt_stop_of_mem_all ha
  rw [← heq] at hle
  omega

/-- The span piece behind some pieces, the first of which starts at byte `pos`. -/
def rangeAfter (pos : Nat) (ps : List Piece) (content : Text) : Span :=
  let start := pos + Text.byteLength (spell ps)
  ⟨start, start + Text.byteLength (Piece.span content).text⟩

theorem spansFrom_append_span (pos : Nat) (ps qs : List Piece) (content : Text) :
    spansFrom pos (ps ++ .span content :: qs)
      = spansFrom pos ps ++ rangeAfter pos ps content ::
          spansFrom (rangeAfter pos ps content).stop qs :=
  spansFrom_append pos ps _

/-- A span is where some span piece stands. -/
theorem exists_piece_of_mem {pos : Nat} {ps : List Piece} {s : Span}
    (h : s ∈ spansFrom pos ps) :
    ∃ front content back, ps = front ++ .span content :: back ∧ s = rangeAfter pos front content := by
  induction ps generalizing pos with
  | nil => cases h
  | cons p ps ih =>
      -- One piece more in front moves the span by its bytes.
      have hbehind : ∀ {front content back}, ps = front ++ .span content :: back →
          s = rangeAfter (pos + Text.byteLength p.text) front content →
          ∃ front content back, p :: ps = front ++ .span content :: back ∧
            s = rangeAfter pos front content := by
        rintro front content back rfl rfl
        exact ⟨p :: front, content, back, rfl, by
          simp [rangeAfter, Text.byteLength_append, Nat.add_assoc]⟩
      cases p with
      | plain c =>
          obtain ⟨front, content, back, hps, hs⟩ := ih h
          exact hbehind hps hs
      | span x =>
          rcases List.mem_cons.1 h with rfl | h
          · exact ⟨[], x, ps, rfl, rfl⟩
          · obtain ⟨front, content, back, hps, hs⟩ := ih h
            exact hbehind hps hs

/-! ### Cutting out one span -/

/-- Cutting out the bytes of a piece takes the piece away. -/
theorem cut_spell (ps qs : List Piece) (content : Text) :
    (rangeAfter 0 ps content).cut (spell (ps ++ .span content :: qs)) = spell (ps ++ qs) := by
  have hstop : (rangeAfter 0 ps content).stop
      = Text.byteLength (spell ps ++ (Piece.span content).text) := by
    rw [Text.byteLength_append]
    simp [rangeAfter]
  rw [cut, hstop, spell_append, spell_append, spell_cons, ← List.append_assoc (spell ps),
    Text.dropBytes_append, List.append_assoc]
  simp [rangeAfter, Text.takeBytes_append]

/-- The bytes of a piece are its text. -/
theorem slice_spell (ps qs : List Piece) (content : Text) :
    (rangeAfter 0 ps content).slice (spell (ps ++ .span content :: qs))
      = (Piece.span content).text := by
  simp [slice, rangeAfter, Text.dropBytes_append, Text.takeBytes_append]

end Vignette.Span
