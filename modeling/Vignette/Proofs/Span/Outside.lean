import Mathlib.Data.List.Basic
import Vignette.Proofs.Span.Pieces

/-!
# `Vignette.Proofs.Span.Outside`: a text with some of its spans cut out

`outside` keeps the characters that lie in none of the given spans. It is told by
the spans of the text itself, so it does not depend on an order. Pruning looks
the spans up anew in every shortened text; the lemmas below say that what it finds
there are the spans of the first text that have not been cut out yet.

* `outside_eq_spell`: on pieces, the chosen spans go and all other pieces stay.
* `length_all_outside`, `cut_outside`, `slice_outside`: the spans of a shortened
  text are the remaining ones, in order, and cutting one out cuts it out of the
  first text.
* `cutAll_eq_outside`, `all_cutAll`: the text with all spans cut out, which has none.
-/

set_option autoImplicit false

namespace Vignette.Span

/-- Whether a byte lies in the span. -/
def covers (s : Span) (pos : Nat) : Bool :=
  decide (s.start ≤ pos) && decide (pos < s.stop)

/-- The characters of the rest of a text, which starts at byte `pos`, that lie in
none of the spans. -/
def outsideFrom (cuts : List Span) (pos : Nat) : Text → Text
  | [] => []
  | c :: t =>
    let rest := outsideFrom cuts (pos + c.utf8Size) t
    if cuts.any (·.covers pos) then rest else c :: rest

/-- The text with exactly these of its spans cut out. -/
def outside (cuts : List Span) (t : Text) : Text :=
  outsideFrom cuts 0 t

/-- The spans of a text that are not cut out, left to right. -/
def remaining (cuts : List Span) (t : Text) : List Span :=
  (all t).filter fun s => s ∉ cuts

theorem covers_iff {s : Span} {pos : Nat} : s.covers pos ↔ s.start ≤ pos ∧ pos < s.stop := by
  simp [covers]

theorem mem_remaining {s : Span} {cuts : List Span} {t : Text} :
    s ∈ remaining cuts t ↔ s ∈ all t ∧ s ∉ cuts := by
  simp [remaining]

theorem nodup_remaining (cuts : List Span) (t : Text) : (remaining cuts t).Nodup :=
  (nodup_all t).filter _

/-- One more span cut out is one span less that remains. -/
theorem remaining_cons_of_split {s : Span} {cuts before after : List Span} {t : Text}
    (h : remaining cuts t = before ++ s :: after) :
    remaining (s :: cuts) t = before ++ after := by
  have hfilter : remaining (s :: cuts) t = (remaining cuts t).filter fun r => r ≠ s := by
    rw [remaining, remaining, List.filter_filter]
    exact List.filter_congr fun r _ => by simp
  have hnodup := List.perm_middle.nodup_iff.1 (h ▸ nodup_remaining cuts t)
  have hothers : ∀ r ∈ before ++ after, decide (r ≠ s) := fun r hr =>
    decide_eq_true fun heq => (List.nodup_cons.1 hnodup).1 (heq ▸ hr)
  rw [hfilter, h, List.filter_append, List.filter_cons_of_neg (by simp), ← List.filter_append,
    List.filter_eq_self.2 hothers]

theorem length_remaining_cons_lt {s : Span} {cuts : List Span} {t : Text}
    (h : s ∈ remaining cuts t) :
    (remaining (s :: cuts) t).length < (remaining cuts t).length := by
  obtain ⟨before, after, hsplit⟩ := List.append_of_mem h
  rw [remaining_cons_of_split hsplit, hsplit]
  simp

/-! ### Stretches of a text that are cut out or kept as a whole -/

section
variable {cuts : List Span} {pos : Nat}

theorem outsideFrom_of_covered {u : Text} (t : Text)
    (h : ∀ p, pos ≤ p → p < pos + Text.byteLength u → cuts.any (·.covers p)) :
    outsideFrom cuts pos (u ++ t) = outsideFrom cuts (pos + Text.byteLength u) t := by
  induction u generalizing pos with
  | nil => rfl
  | cons c u ih =>
      -- A character starts at a byte of the stretch, since it takes at least one.
      have hc := c.utf8Size_pos
      simp only [Text.byteLength] at h ⊢
      rw [List.cons_append, outsideFrom, if_pos (h pos (Nat.le_refl pos) (by omega)),
        ih fun p hle hlt => h p (by omega) (by omega), Nat.add_assoc]

theorem outsideFrom_of_not_covered {u : Text} (t : Text)
    (h : ∀ p, pos ≤ p → p < pos + Text.byteLength u → ¬ cuts.any (·.covers p)) :
    outsideFrom cuts pos (u ++ t) = u ++ outsideFrom cuts (pos + Text.byteLength u) t := by
  induction u generalizing pos with
  | nil => rfl
  | cons c u ih =>
      have hc := c.utf8Size_pos
      simp only [Text.byteLength] at h ⊢
      rw [List.cons_append, outsideFrom, if_neg (h pos (Nat.le_refl pos) (by omega)),
        ih fun p hle hlt => h p (by omega) (by omega), Nat.add_assoc]
      rfl

/-- Only which spans are cut out counts, not their order. -/
theorem outside_congr {cuts cuts' : List Span} (h : ∀ s, s ∈ cuts ↔ s ∈ cuts') (t : Text) :
    outside cuts t = outside cuts' t := by
  have hany (p : Nat) : cuts.any (·.covers p) = cuts'.any (·.covers p) := by
    rw [Bool.eq_iff_iff]
    simp [h]
  suffices hfrom : ∀ pos, outsideFrom cuts pos t = outsideFrom cuts' pos t from hfrom 0
  induction t with
  | nil => exact fun pos => rfl
  | cons c t ih =>
      intro pos
      simp only [outsideFrom, hany, ih]

/-- Cutting out more spans keeps fewer characters. -/
theorem outside_sublist {cuts cuts' : List Span} (h : cuts ⊆ cuts') (t : Text) :
    (outside cuts' t).Sublist (outside cuts t) := by
  suffices hfrom : ∀ pos, (outsideFrom cuts' pos t).Sublist (outsideFrom cuts pos t) from hfrom 0
  induction t with
  | nil => exact fun pos => .slnil
  | cons c t ih =>
      intro pos
      rw [outsideFrom, outsideFrom]
      -- What lies in one of the fewer spans lies in one of the more.
      by_cases hcut : cuts.any (·.covers pos)
      · have hcut' : cuts'.any (·.covers pos) := by
          obtain ⟨s, hs, hcovers⟩ := List.any_eq_true.1 hcut
          exact List.any_eq_true.2 ⟨s, h hs, hcovers⟩
        rw [if_pos hcut, if_pos hcut']
        exact ih _
      · rw [if_neg hcut]
        split
        · exact (ih _).cons c
        · exact (ih _).cons_cons c

@[simp]
theorem outside_nil (t : Text) : outside [] t = t := by
  have hplain : outsideFrom [] 0 (t ++ []) = t ++ [] :=
    outsideFrom_of_not_covered [] fun p _ _ => by simp
  rwa [List.append_nil] at hplain

end

/-! ### Cutting out pieces -/

/-- The pieces without the chosen spans, when the first piece starts at byte
`pos`. -/
def keepFrom (cuts : List Span) (pos : Nat) : List Piece → List Piece
  | [] => []
  | .plain c :: ps => .plain c :: keepFrom cuts (pos + c.utf8Size) ps
  | .span content :: ps =>
    let next := pos + Text.byteLength (Piece.span content).text
    let rest := keepFrom cuts next ps
    if ⟨pos, next⟩ ∈ cuts then rest else .span content :: rest

/-- A kept piece stands where it stood, and the scan still finds it. -/
theorem Legible.keepFrom {waits : Bool} {ps : List Piece} (h : Legible waits ps)
    (cuts : List Span) (pos : Nat) : Legible waits (keepFrom cuts pos ps) := by
  induction ps generalizing waits pos with
  | nil => trivial
  | cons p ps ih =>
      cases p with
      | plain c => exact ⟨h.1, ih h.2 _⟩
      | span content =>
          obtain ⟨rfl, hcontent, hps⟩ := h
          rw [Span.keepFrom]
          split
          · exact ih hps _
          · exact ⟨rfl, hcontent, ih hps _⟩

theorem keepFrom_append (cuts : List Span) (pos : Nat) (ps qs : List Piece) :
    keepFrom cuts pos (ps ++ qs)
      = keepFrom cuts pos ps ++ keepFrom cuts (pos + Text.byteLength (spell ps)) qs := by
  induction ps generalizing pos with
  | nil => rfl
  | cons p ps ih =>
      cases p with
      | plain c =>
          rw [List.cons_append, keepFrom, keepFrom, ih, spell_cons, Text.byteLength_append,
            ← Nat.add_assoc]
          rfl
      | span content =>
          rw [List.cons_append, keepFrom, keepFrom, ih, spell_cons, Text.byteLength_append,
            ← Nat.add_assoc]
          split
          · rfl
          · rfl

theorem keepFrom_append_span (cuts : List Span) (pos : Nat) (ps qs : List Piece) (content : Text) :
    keepFrom cuts pos (ps ++ .span content :: qs)
      = keepFrom cuts pos ps ++
          if rangeAfter pos ps content ∈ cuts then keepFrom cuts (rangeAfter pos ps content).stop qs
          else .span content :: keepFrom cuts (rangeAfter pos ps content).stop qs :=
  keepFrom_append cuts pos ps _

/-- A span that stands elsewhere does not matter to the pieces. -/
theorem keepFrom_cons_of_not_mem {s : Span} {pos : Nat} {ps : List Piece}
    (h : s ∉ spansFrom pos ps) (cuts : List Span) :
    keepFrom (s :: cuts) pos ps = keepFrom cuts pos ps := by
  induction ps generalizing pos with
  | nil => rfl
  | cons p ps ih =>
      cases p with
      | plain c => rw [keepFrom, keepFrom, ih h]
      | span content =>
          obtain ⟨hne, hrest⟩ := List.ne_and_not_mem_of_not_mem_cons h
          simp only [keepFrom, List.mem_cons, hne.symm, false_or, ih hrest]

/-- Cutting bytes out of the spelling is cutting pieces out, for spans that stand
among the pieces or end in front of them. -/
theorem outsideFrom_spell {cuts : List Span} {pos : Nat} {ps : List Piece}
    (h : ∀ s ∈ cuts, s ∈ spansFrom pos ps ∨ s.stop ≤ pos) :
    outsideFrom cuts pos (spell ps) = spell (keepFrom cuts pos ps) := by
  induction ps generalizing pos with
  | nil => rfl
  | cons p ps ih =>
      cases p with
      | plain c =>
          -- The spans among the pieces start behind this one, the others end in front.
          have hkept : ∀ p, pos ≤ p → p < pos + Text.byteLength [c] → ¬ cuts.any (·.covers p) := by
            intro p hle hlt hany
            obtain ⟨s, hs, hcovers⟩ := List.any_eq_true.1 hany
            obtain ⟨hstart, hstop⟩ := covers_iff.1 hcovers
            simp only [Text.byteLength] at hlt
            rcases h s hs with hmem | hbefore
            · have := @le_start_of_mem_spansFrom (pos + c.utf8Size) _ _ hmem
              omega
            · omega
          show outsideFrom cuts pos ([c] ++ spell ps) = _
          rw [outsideFrom_of_not_covered _ hkept]
          show c :: outsideFrom cuts (pos + c.utf8Size) (spell ps) = _
          rw [ih fun s hs => (h s hs).imp_right fun hle => by omega]
          rfl
      | span content =>
          have hpos := byteLength_span_pos content
          have hrest : ∀ s ∈ cuts,
              s ∈ spansFrom (pos + Text.byteLength (Piece.span content).text) ps ∨
                s.stop ≤ pos + Text.byteLength (Piece.span content).text := by
            intro s hs
            rcases h s hs with hmem | hbefore
            · rcases List.mem_cons.1 hmem with rfl | hmem
              · exact .inr (Nat.le_refl _)
              · exact .inl hmem
            · exact .inr (by omega)
          -- A span piece goes as a whole or stays as a whole.
          rw [spell_cons, keepFrom]
          split
          · rename_i hcut
            rw [outsideFrom_of_covered _ fun p hle hlt =>
              List.any_eq_true.2 ⟨_, hcut, covers_iff.2 ⟨hle, hlt⟩⟩]
            exact ih hrest
          · rename_i hcut
            have hkept : ∀ p, pos ≤ p → p < pos + Text.byteLength (Piece.span content).text →
                ¬ cuts.any (·.covers p) := by
              intro p hle hlt hany
              obtain ⟨s, hs, hcovers⟩ := List.any_eq_true.1 hany
              obtain ⟨hstart, hstop⟩ := covers_iff.1 hcovers
              rcases h s hs with hmem | hbefore
              · rcases List.mem_cons.1 hmem with rfl | hmem
                · exact hcut hs
                · have := le_start_of_mem_spansFrom hmem
                  omega
              · omega
            rw [outsideFrom_of_not_covered _ hkept, ih hrest]
            rfl

/-- On pieces, the chosen spans go and everything else stays. -/
theorem outside_eq_spell {cuts : List Span} {t : Text} (h : cuts ⊆ all t) :
    outside cuts t = spell (keepFrom cuts 0 (pieces t)) := by
  have hspell := @outsideFrom_spell cuts 0 (pieces t) fun s hs => .inl (all_eq t ▸ h hs)
  rwa [spell_pieces] at hspell

/-- The kept pieces have as many spans as are not cut out. -/
theorem length_spansFrom_keepFrom (cuts : List Span) (pos pos' : Nat) (ps : List Piece) :
    (spansFrom pos' (keepFrom cuts pos ps)).length
      = ((spansFrom pos ps).filter fun s => s ∉ cuts).length := by
  induction ps generalizing pos pos' with
  | nil => rfl
  | cons p ps ih =>
      cases p with
      | plain c => exact ih _ _
      | span content =>
          rw [keepFrom, spansFrom]
          split
          · rename_i hcut
            rw [List.filter_cons_of_neg (by simp [hcut])]
            exact ih _ _
          · rename_i hcut
            rw [List.filter_cons_of_pos (by simp [hcut]), spansFrom, List.length_cons,
              List.length_cons, ih]

/-! ### The spans of a shortened text -/

section
variable {cuts : List Span} {t : Text}

theorem all_outside (h : cuts ⊆ all t) :
    all (outside cuts t) = spansFrom 0 (keepFrom cuts 0 (pieces t)) := by
  rw [outside_eq_spell h, all_spell ((legible_pieces t).keepFrom cuts 0)]

/-- A shortened text has as many spans as are not cut out. -/
theorem length_all_outside (h : cuts ⊆ all t) :
    (all (outside cuts t)).length = (remaining cuts t).length := by
  rw [all_outside h, length_spansFrom_keepFrom, ← all_eq]
  rfl

/-- The spans of a shortened text are the ones that are not cut out, in order:
cutting one of them out of the shortened text is cutting it out of the first text,
and it reads the same in both. -/
theorem cut_outside (h : cuts ⊆ all t) {s : Span} (hs : s ∈ remaining cuts t) :
    ∃ present, (all (outside cuts t))[(remaining cuts t).idxOf s]? = some present ∧
      present.cut (outside cuts t) = outside (s :: cuts) t ∧
      present.slice (outside cuts t) = s.slice t := by
  obtain ⟨hmem, hcut⟩ := mem_remaining.1 hs
  obtain ⟨front, content, back, hpieces, hrange⟩ := exists_piece_of_mem (all_eq t ▸ hmem)
  have hspans : all t = spansFrom 0 front ++ s :: spansFrom s.stop back := by
    rw [all_eq, hpieces, spansFrom_append_span, ← hrange]
  -- No other span has the place of `s`.
  have hnodup := List.perm_middle.nodup_iff.1 (hspans ▸ nodup_all t)
  have helsewhere := (List.nodup_cons.1 hnodup).1
  have hfront : s ∉ spansFrom 0 front := fun hin => helsewhere (List.mem_append_left _ hin)
  have hback : s ∉ spansFrom s.stop back := fun hin => helsewhere (List.mem_append_right _ hin)
  have hkept : keepFrom cuts 0 (pieces t)
      = keepFrom cuts 0 front ++ .span content :: keepFrom cuts s.stop back := by
    rw [hpieces, keepFrom_append_span, ← hrange, if_neg hcut]
  have hgone : keepFrom (s :: cuts) 0 (pieces t)
      = keepFrom cuts 0 front ++ keepFrom cuts s.stop back := by
    rw [hpieces, keepFrom_append_span, ← hrange, if_pos List.mem_cons_self,
      keepFrom_cons_of_not_mem hfront, keepFrom_cons_of_not_mem hback]
  -- In front of it there are as many spans as are kept of those in front of `s`.
  have hindex : (remaining cuts t).idxOf s = (spansFrom 0 (keepFrom cuts 0 front)).length := by
    rw [length_spansFrom_keepFrom, remaining, hspans, List.filter_append,
      List.filter_cons_of_pos (by simpa using hcut),
      List.idxOf_append_of_notMem fun hin => hfront (List.mem_of_mem_filter hin),
      List.idxOf_cons_self, Nat.add_zero]
  refine ⟨rangeAfter 0 (keepFrom cuts 0 front) content, ?_, ?_, ?_⟩
  · rw [all_outside h, hkept, spansFrom_append_span, hindex, List.getElem?_append_right (Nat.le_refl _),
      Nat.sub_self]
    rfl
  · rw [outside_eq_spell h, outside_eq_spell (List.cons_subset.2 ⟨hmem, h⟩), hkept, hgone, cut_spell]
  · have ht : t = spell (front ++ .span content :: back) := by rw [← hpieces, spell_pieces]
    rw [outside_eq_spell h, hkept, slice_spell, hrange, ht, slice_spell]

end

/-! ### All spans cut out -/

/-- With every span cut out the plain characters are left. -/
theorem keepFrom_spansFrom (pos : Nat) (ps : List Piece) {cuts : List Span}
    (h : spansFrom pos ps ⊆ cuts) :
    keepFrom cuts pos ps = ps.filter fun p => p matches .plain _ := by
  induction ps generalizing pos with
  | nil => rfl
  | cons p ps ih =>
      cases p with
      | plain c => simp [keepFrom, ih _ h]
      | span content =>
          obtain ⟨hmem, hrest⟩ := List.cons_subset.1 h
          simp [keepFrom, hmem, ih _ hrest]

/-- Cutting from the right leaves the places of the earlier spans alone. -/
theorem foldr_cut_spansFrom (front ps : List Piece) :
    (spansFrom (Text.byteLength (spell front)) ps).foldr cut (spell (front ++ ps))
      = spell (front ++ ps.filter fun p => p matches .plain _) := by
  induction ps generalizing front with
  | nil => rfl
  | cons p ps ih =>
      have happend := ih (front ++ [p])
      rw [List.append_assoc, List.append_assoc, List.singleton_append, spell_append front [p],
        Text.byteLength_append] at happend
      cases p with
      | plain c =>
          rw [spansFrom]
          refine Eq.trans ?_ (happend.trans ?_)
          · rfl
          · simp
      | span content =>
          -- The later spans are gone already when this one is cut out.
          rw [spansFrom, List.foldr_cons]
          have hrest : Text.byteLength (spell front) + Text.byteLength (Piece.span content).text
              = Text.byteLength (spell front) + Text.byteLength (spell [.span content]) := by
            simp
          rw [hrest, happend, ← hrest]
          have hcut := cut_spell front (ps.filter fun p => p matches .plain _) content
          simp only [rangeAfter, Nat.zero_add] at hcut
          simpa using hcut

/-- Cutting all spans out of a text, the last one first, cuts out all of them. -/
theorem cutAll_eq_outside (t : Text) : cutAll t = outside (all t) t := by
  have hfold := foldr_cut_spansFrom [] (pieces t)
  rw [List.nil_append, spell_pieces] at hfold
  rw [outside_eq_spell (List.Subset.refl _),
    keepFrom_spansFrom 0 (pieces t) (all_eq t ▸ List.Subset.refl _)]
  rw [cutAll, all_eq]
  exact hfold

/-- No span is left, and cutting has made none. -/
theorem all_cutAll (t : Text) : all (cutAll t) = [] := by
  have hnone : remaining (all t) t = [] :=
    List.filter_eq_nil_iff.2 fun s hs => by simpa using hs
  rw [cutAll_eq_outside, ← List.length_eq_zero_iff, length_all_outside (List.Subset.refl _), hnone]
  rfl

end Vignette.Span
