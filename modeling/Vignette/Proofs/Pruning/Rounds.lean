import Vignette.Proofs.Pruning.Order
import Vignette.Proofs.Span.Removal

/-!
# `Vignette.Proofs.Pruning.Rounds`: cutting out a span leaves the others alone

A round of pruning cuts one span out. The others stay spans and no new one comes about, so
there is one span less after each round, and it does not matter in which order spans are cut
out.

* `pruneWithin`: pruning with a bound on its rounds. `pruneWithin_eq`: a round makes a cut.
* `length_cuts_le`: there are no more rounds than spans.
* `cut_leaves_spans`: what is left after one cut, after several, and after all rounds.
-/

set_option autoImplicit false

namespace Vignette.Pruning

variable {σ : Type}

/-- Pruning, given up when the text is still too long after so many rounds. -/
def pruneWithin (ch : Chooser σ) (maxLength rounds : Nat) (t : Text) (s : σ) :
    Option (Pruning × σ) :=
  match Span.all t with
  | [] => some (⟨[], t⟩, s)
  | span :: spans =>
    if Span.effectiveLength t ≤ maxLength then some (⟨[], t⟩, s)
    else
      match rounds with
      | 0 => none
      | rounds + 1 =>
        let choice := ch.span spans.length s
        let chosen := (span :: spans).get choice.1
        (pruneWithin ch maxLength rounds (chosen.cut t) choice.2).map fun (p, s) =>
          ({ p with cuts := ⟨choice.1, spans.length + 1, chosen.slice t⟩ :: p.cuts }, s)

/-! ### Rounds and cuts -/

section
variable (ch : Chooser σ) (maxLength : Nat) (t : Text) (s : σ)

/-- Pruning takes as many rounds as it makes cuts. -/
theorem pruneWithin_eq (rounds : Nat) :
    pruneWithin ch maxLength rounds t s =
      if (prune ch maxLength t s).1.cuts.length ≤ rounds then some (prune ch maxLength t s)
      else none := by
  induction rounds using Nat.strong_induction_on generalizing t s with
  | _ rounds ih =>
      unfold pruneWithin
      split
      · rename_i hspans
        rw [prune_of_stop (.inr hspans)]
        rfl
      · rename_i span spans hspans
        by_cases hfits : Span.effectiveLength t ≤ maxLength
        · rw [if_pos hfits, prune_of_stop (.inl hfits)]
          rfl
        · rw [if_neg hfits, prune_of_choice hspans (Nat.not_le.1 hfits)]
          cases rounds with
          | zero => rfl
          | succ rounds =>
              simp only [ih rounds (Nat.lt_succ_self rounds), List.length_cons,
                Nat.add_le_add_iff_right]
              split <;> rfl

/-- There are no more cuts than spans. -/
theorem length_cuts_le : (prune ch maxLength t s).1.cuts.length ≤ (Span.all t).length := by
  -- Each round leaves one span less.
  induction hn : (Span.all t).length generalizing t s with
  | zero =>
      rw [prune_of_stop (.inr (List.length_eq_zero_iff.1 hn))]
      exact Nat.le_refl 0
  | succ n ih =>
      by_cases hfits : Span.effectiveLength t ≤ maxLength
      · rw [prune_of_stop (.inl hfits)]
        exact Nat.zero_le _
      · obtain ⟨span, spans, hspans⟩ := List.exists_cons_of_length_eq_add_one hn
        have hchosen : (span :: spans).get (ch.span spans.length s).1 ∈ Span.all t := by
          rw [hspans]
          exact List.get_mem _ _
        have hless := Span.length_all_cut hchosen
        rw [prune_of_choice hspans (Nat.not_le.1 hfits)]
        exact Nat.succ_le_succ (ih _ _ (by omega))

end

/-! ### Cuts in any order -/

/-- When one span is cut out, the spans of the text that is left are the others, in order:
those in front stay where they are, those behind move left by its bytes. So spans that are
cut out one after another, each from where it stands by then, leave the same text in every
order, which is the text without their characters. A run of pruning is over after at most as
many rounds as the text has spans. -/
theorem cut_leaves_spans (t : Text) :
    (∀ (i : Nat) (hi : i < (Span.all t).length),
      Span.all ((Span.all t)[i].cut t)
        = (Span.all t).take i ++
            ((Span.all t).drop (i + 1)).map (Span.moveLeft (Span.all t)[i].width) ∧
      (∀ r ∈ (Span.all t).drop (i + 1), (Span.all t)[i].width ≤ r.start) ∧
      Span.all ((Span.all t)[i].cut t)
        = ((Span.all t).eraseIdx i).map (Span.closeUp (Span.all t)[i])) ∧
    (∀ spans spans' : List Span, spans.Nodup → spans ⊆ Span.all t → spans'.Perm spans →
      Span.cutEach id spans' t = Span.cutEach id spans t ∧
      Span.cutEach id spans' t = Span.outside spans t) ∧
    (∀ spans : List Span, spans.Perm (Span.all t) → Span.cutEach id spans t = Span.cutAll t) ∧
    ∀ (σ : Type) (ch : Chooser σ) (maxLength : Nat) (s : σ),
      (prune ch maxLength t s).1.cuts.length ≤ (Span.all t).length ∧
      pruneWithin ch maxLength (Span.all t).length t s = some (prune ch maxLength t s) := by
  have horder (spans spans' : List Span) (hnodup : spans.Nodup) (hspans : spans ⊆ Span.all t)
      (hperm : spans'.Perm spans) : Span.cutEach id spans' t = Span.outside spans t := by
    rw [Span.cutEach_eq_outside (hperm.nodup_iff.2 hnodup) fun r hr => hspans (hperm.subset hr)]
    exact Span.outside_congr (fun r => hperm.mem_iff) t
  refine ⟨?_, ?_, ?_, ?_⟩
  · intro i hi
    have hsplit :
        Span.all t = (Span.all t).take i ++ (Span.all t)[i] :: (Span.all t).drop (i + 1) := by
      rw [List.getElem_cons_drop, List.take_append_drop]
    refine ⟨Span.all_cut hsplit, ?_, ?_⟩
    · intro r hr
      have hordered := Span.pairwise_all t
      rw [hsplit, List.pairwise_append, List.pairwise_cons] at hordered
      have hle := hordered.2.1.1 r hr
      rw [Span.width]
      omega
    · rw [List.eraseIdx_eq_take_drop_succ]
      exact Span.all_cut_eq_map hsplit
  · intro spans spans' hnodup hspans hperm
    have hfirst := horder spans spans' hnodup hspans hperm
    exact ⟨hfirst.trans (horder spans spans hnodup hspans (.refl spans)).symm, hfirst⟩
  · intro spans hperm
    rw [Span.cutAll_eq_outside]
    exact horder _ _ (Span.nodup_all t) (List.Subset.refl _) hperm
  · intro σ ch maxLength s
    have hle := length_cuts_le ch maxLength t s
    exact ⟨hle, (pruneWithin_eq ch maxLength t s _).trans (if_pos hle)⟩

/-- Three spans behind a character of two bytes. The second one takes four. -/
theorem cut_leaves_spans_threeSpans :
    Span.all "é<a>b<cd>\n<e<f>g".toList = [⟨2, 5⟩, ⟨6, 10⟩, ⟨11, 16⟩] ∧
      Span.all (Span.cut ⟨6, 10⟩ "é<a>b<cd>\n<e<f>g".toList) = [⟨2, 5⟩, ⟨7, 12⟩] ∧
      Span.cutEach id [⟨11, 16⟩, ⟨2, 5⟩] "é<a>b<cd>\n<e<f>g".toList
        = Span.cutEach id [⟨2, 5⟩, ⟨11, 16⟩] "é<a>b<cd>\n<e<f>g".toList ∧
      pruneWithin Chooser.scripted 0 3 "é<a>b<cd>\n<e<f>g".toList [1, 1, 0]
        = some (prune Chooser.scripted 0 "é<a>b<cd>\n<e<f>g".toList [1, 1, 0]) := by
  have hspans : Span.all "é<a>b<cd>\n<e<f>g".toList = [⟨2, 5⟩, ⟨6, 10⟩, ⟨11, 16⟩] := by decide
  obtain ⟨hone, horder, -, hrounds⟩ := cut_leaves_spans "é<a>b<cd>\n<e<f>g".toList
  refine ⟨hspans, ?_, ?_, ?_⟩
  · exact (hone 1 (by decide)).1.trans (by decide)
  · have hsome : ([⟨2, 5⟩, ⟨11, 16⟩] : List Span) ⊆ Span.all "é<a>b<cd>\n<e<f>g".toList := by
      rw [hspans]
      decide
    exact (horder [⟨2, 5⟩, ⟨11, 16⟩] _ (by decide) hsome (.swap _ _ _)).1
  · exact (hrounds _ Chooser.scripted 0 [1, 1, 0]).2

end Vignette.Pruning
