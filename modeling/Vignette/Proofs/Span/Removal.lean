import Vignette.Proofs.Span.Outside

/-!
# `Vignette.Proofs.Span.Removal`: where the other spans stand once one is cut out

A span that is cut out joins what stands on both sides of it. No `<` in front of it waits
any more, so no `>` behind it can meet one: the other spans stay spans and no new one comes
about. Those behind it move left by its bytes.

* `all_cut`: the spans that are left when one is cut out.
* `closeUp`: where a range stands when another one has been cut out.
* `cutEach`: cutting out spans one after another, in any order.
* `cutEach_eq_outside`: the order makes no difference.
-/

set_option autoImplicit false

namespace Vignette.Span

/-- How many bytes the range takes. -/
def width (s : Span) : Nat :=
  s.stop - s.start

/-- The range `n` bytes further left. -/
def moveLeft (n : Nat) (s : Span) : Span :=
  ⟨s.start - n, s.stop - n⟩

/-- Where a range stands when another one, in front of it or behind it, has been cut out. -/
def closeUp (gone s : Span) : Span :=
  if gone.stop ≤ s.start then s.moveLeft gone.width else s

/-- Cuts ranges of a text out, one after another. `place` tells where each of them stands by
now. -/
def cutEach (place : Span → Span) : List Span → Text → Text
  | [], t => t
  | s :: spans, t => cutEach (closeUp (place s) ∘ place) spans ((place s).cut t)

/-! ### One span less -/

/-- The pieces around a span can stand side by side. Nothing waits in front of a span, and
nothing waits behind it. -/
theorem Legible.of_append_span {waits : Bool} {front back : List Piece} {content : Text}
    (h : Legible waits (front ++ .span content :: back)) : Legible waits (front ++ back) := by
  induction front generalizing waits with
  | nil =>
      obtain ⟨rfl, -, hback⟩ := h
      exact hback
  | cons p front ih =>
      cases p with
      | plain c => exact ⟨h.1, ih h.2⟩
      | span x => exact ⟨h.1, h.2.1, ih h.2.2⟩

/-- Pieces that start further right have their spans further right. -/
theorem map_moveLeft_spansFrom (n pos : Nat) (ps : List Piece) :
    (spansFrom (pos + n) ps).map (moveLeft n) = spansFrom pos ps := by
  induction ps generalizing pos with
  | nil => rfl
  | cons p ps ih =>
      cases p with
      | plain c =>
          rw [spansFrom, spansFrom, Nat.add_right_comm, ih]
      | span content =>
          rw [spansFrom, spansFrom, List.map_cons, Nat.add_right_comm, ih, moveLeft,
            Nat.add_sub_cancel, Nat.add_sub_cancel]

section
variable {t : Text} {before after : List Span} {s : Span}

/-- The other spans stay in order: those in front of the one that is cut out where they are,
those behind it further left by its bytes. -/
theorem all_cut (h : all t = before ++ s :: after) :
    all (s.cut t) = before ++ after.map (moveLeft s.width) := by
  have hmem : s ∈ all t := h ▸ List.mem_append_right before List.mem_cons_self
  obtain ⟨front, content, back, hpieces, hs⟩ := exists_piece_of_mem (all_eq t ▸ hmem)
  have hspans : all t = spansFrom 0 front ++ s :: spansFrom s.stop back := by
    rw [all_eq, hpieces, spansFrom_append_span, ← hs]
  -- The span stands once only, so both splits of the spans are the same.
  have hnodup := List.perm_middle.nodup_iff.1 (hspans ▸ nodup_all t)
  rw [List.nodup_cons, List.mem_append, not_or] at hnodup
  obtain ⟨rfl, -, rfl⟩ :=
    (List.append_cons_inj_of_notMem hnodup.1.1 hnodup.1.2).1 (hspans.symm.trans h)
  have hcut : s.cut t = spell (front ++ back) := by
    rw [hs, ← spell_pieces t, hpieces, cut_spell]
  have hlegible : Legible false (front ++ back) :=
    (hpieces ▸ legible_pieces t : Legible false (front ++ .span content :: back)).of_append_span
  have hstop : s.stop = Text.byteLength (spell front) + s.width := by
    simp only [hs, width, rangeAfter]
    omega
  rw [hcut, all_spell hlegible, spansFrom_append, Nat.zero_add, hstop, map_moveLeft_spansFrom]

/-- The same, with the other spans told by what the cut does to them. -/
theorem all_cut_eq_map (h : all t = before ++ s :: after) :
    all (s.cut t) = (before ++ after).map (closeUp s) := by
  have hordered := pairwise_all t
  rw [h, List.pairwise_append, List.pairwise_cons] at hordered
  have hs : s.start < s.stop := start_lt_stop_of_mem_all (h ▸ List.mem_append_right before
    List.mem_cons_self)
  have hbefore : before.map (closeUp s) = before.map id := by
    refine List.map_congr_left fun r hr => ?_
    have hr' : r.start < r.stop := start_lt_stop_of_mem_all (h ▸ List.mem_append_left _ hr)
    have hle := hordered.2.2 r hr s List.mem_cons_self
    exact if_neg (by omega)
  have hafter : after.map (closeUp s) = after.map (moveLeft s.width) :=
    List.map_congr_left fun r hr => if_pos (hordered.2.1.1 r hr)
  rw [all_cut h, List.map_append, hbefore, hafter, List.map_id]

end

/-- There is one span less. -/
theorem length_all_cut {t : Text} {s : Span} (h : s ∈ all t) :
    (all (s.cut t)).length + 1 = (all t).length := by
  obtain ⟨before, after, hsplit⟩ := List.append_of_mem h
  rw [all_cut_eq_map hsplit, hsplit]
  simp only [List.length_map, List.length_append, List.length_cons]
  omega

/-! ### Cutting out spans in any order -/

/-- Told by the spans of the first text, the spans that remain stand where `place` says, and
each can be cut out next. -/
theorem cutEach_outside {place : Span → Span} {gone spans : List Span} {t : Text}
    (hgone : gone ⊆ all t) (hplace : all (outside gone t) = (remaining gone t).map place)
    (hnodup : spans.Nodup) (hspans : ∀ s ∈ spans, s ∈ remaining gone t) :
    cutEach place spans (outside gone t) = outside (spans.reverse ++ gone) t := by
  induction spans generalizing place gone with
  | nil => rfl
  | cons s spans ih =>
      obtain ⟨hnot, hnodup⟩ := List.nodup_cons.1 hnodup
      obtain ⟨hs, hrest⟩ := List.forall_mem_cons.1 hspans
      -- What stands where `place` says is what is cut out.
      obtain ⟨present, hpresent, hcut, -⟩ := cut_outside hgone hs
      rw [hplace, List.getElem?_map, List.getElem?_idxOf hs] at hpresent
      cases hpresent
      have hgone' : s :: gone ⊆ all t := List.cons_subset.2 ⟨(mem_remaining.1 hs).1, hgone⟩
      obtain ⟨before, after, hsplit⟩ := List.append_of_mem hs
      have hplace' : all (outside (s :: gone) t)
          = (remaining (s :: gone) t).map (closeUp (place s) ∘ place) := by
        rw [hsplit, List.map_append, List.map_cons] at hplace
        rw [← hcut, all_cut_eq_map hplace, remaining_cons_of_split hsplit, ← List.map_append,
          List.map_map]
      have hspans' : ∀ r ∈ spans, r ∈ remaining (s :: gone) t := by
        intro r hr
        have hne : r ≠ s := fun heq => hnot (heq ▸ hr)
        obtain ⟨hmem, hkept⟩ := mem_remaining.1 (hrest r hr)
        exact mem_remaining.2 ⟨hmem, List.not_mem_cons_of_ne_of_not_mem hne hkept⟩
      rw [cutEach, hcut, ih hgone' hplace' hnodup hspans', List.reverse_cons, List.append_assoc,
        List.singleton_append]

/-- Spans of a text that are cut out in any order are gone, and nothing else is. -/
theorem cutEach_eq_outside {spans : List Span} {t : Text} (hnodup : spans.Nodup)
    (hspans : spans ⊆ all t) : cutEach id spans t = outside spans t := by
  have hall : remaining [] t = all t := List.filter_eq_self.2 fun s _ => by simp
  have hcut := @cutEach_outside id [] spans t (List.nil_subset _) (by simp [hall]) hnodup
    (fun s hs => hall ▸ hspans hs)
  rw [outside_nil, List.append_nil] at hcut
  rw [hcut]
  exact outside_congr (fun s => List.mem_reverse) t

end Vignette.Span
