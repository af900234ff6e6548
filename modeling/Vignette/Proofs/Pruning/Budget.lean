import Vignette.Proofs.Pruning.Order

/-!
# `Vignette.Proofs.Pruning.Budget`: when pruning meets its budget

Whichever spans are cut out, what is left is no shorter than the text with all of
them cut out, and a run that cannot meet the budget ends on that text. So whether
pruning succeeds does not depend on the choices.

* `effectiveLength_cutAll_le`: no choice of spans leaves less.
* `length_result_le_iff`: pruning meets the budget exactly when cutting out all
  spans does.
* `meets_budget_iff`: and otherwise it leaves that text.
* `rest_of_settled`: when even the text that is left does not depend on the choices.
-/

set_option autoImplicit false

namespace Vignette

namespace Span

/-- What is left without the delimiters is as long as the text counts. -/
theorem length_strip (t : Text) : (strip t).length = effectiveLength t :=
  List.countP_eq_length_filter.symm

theorem effectiveLength_outside_anti {cuts cuts' : List Span} (h : cuts ⊆ cuts') (t : Text) :
    effectiveLength (outside cuts' t) ≤ effectiveLength (outside cuts t) :=
  (outside_sublist h t).countP_le

/-- No choice of spans leaves less than cutting out all of them. -/
theorem effectiveLength_cutAll_le {cuts : List Span} {t : Text} (h : cuts ⊆ all t) :
    effectiveLength (cutAll t) ≤ effectiveLength (outside cuts t) := by
  rw [cutAll_eq_outside]
  exact effectiveLength_outside_anti h t

end Span

namespace Pruning

variable {σ : Type} {maxLength : Nat} {t : Text}

theorem effectiveLength_cutAll_le_without (numbers : List (Fin (Span.all t).length)) :
    Span.effectiveLength (Span.cutAll t) ≤ Span.effectiveLength (without t numbers) :=
  Span.effectiveLength_cutAll_le (map_get_subset numbers)

/-- When every span has a number in the sequence, all of them are cut out. -/
theorem without_eq_cutAll {numbers : List (Fin (Span.all t).length)} (h : ∀ d, d ∈ numbers) :
    without t numbers = Span.cutAll t := by
  rw [without, Span.cutAll_eq_outside]
  refine Span.outside_congr (fun s => ⟨fun hs => map_get_subset numbers hs, fun hs => ?_⟩) t
  obtain ⟨d, hd⟩ := List.get_of_mem hs
  exact List.mem_map.2 ⟨d, h d, hd⟩

/-- Pruning ends on a text that fits or on the text with all spans cut out. -/
theorem Cuttable.fits_or_eq_cutAll {numbers : List (Fin (Span.all t).length)}
    (h : Cuttable maxLength t numbers) :
    Span.effectiveLength (without t numbers) ≤ maxLength ∨ without t numbers = Span.cutAll t := by
  refine h.enough.imp_right fun hspent => without_eq_cutAll fun d => ?_
  -- As many different numbers as there are spans are all of them.
  have hcard : numbers.toFinset.card = Fintype.card (Fin (Span.all t).length) := by
    rw [List.toFinset_card_of_nodup h.nodup, hspent, Fintype.card_fin]
  have huniv := (Finset.card_eq_iff_eq_univ _).1 hcard
  exact List.mem_toFinset.1 (huniv ▸ Finset.mem_univ d)

/-- Pruning meets the budget exactly when the text with all spans cut out does. -/
theorem length_result_le_iff (ch : Chooser σ) (maxLength : Nat) (t : Text) (s : σ) :
    (prune ch maxLength t s).1.result.length ≤ maxLength ↔
      Span.effectiveLength (Span.cutAll t) ≤ maxLength := by
  obtain ⟨numbers, hcuttable, hrun, -⟩ := exists_cuttable ch maxLength t s
  have hlength : (prune ch maxLength t s).1.result.length
      = Span.effectiveLength (without t numbers) := by
    rw [hrun]
    exact Span.length_strip _
  rw [hlength]
  constructor
  · intro hfits
    exact Nat.le_trans (effectiveLength_cutAll_le_without numbers) hfits
  · intro hall
    rcases hcuttable.fits_or_eq_cutAll with hfits | hspent
    · exact hfits
    · rwa [hspent]

/-- Pruning that does not meet its budget has cut out all spans. -/
theorem eq_cutAll_of_lt {ch : Chooser σ} {s : σ}
    (h : maxLength < (prune ch maxLength t s).1.result.length) :
    (prune ch maxLength t s).1.rest = Span.cutAll t ∧
      (prune ch maxLength t s).1.cuts.length = (Span.all t).length := by
  obtain ⟨numbers, hcuttable, hrun, -⟩ := exists_cuttable ch maxLength t s
  rw [hrun] at h ⊢
  have hlong : ¬ Span.effectiveLength (without t numbers) ≤ maxLength := by
    rw [← Span.length_strip]
    exact Nat.not_le.2 h
  refine ⟨hcuttable.fits_or_eq_cutAll.resolve_left hlong, ?_⟩
  rw [cutting, length_cutsFrom, List.length_map]
  exact hcuttable.enough.resolve_left hlong

/-- Whatever is chosen, the pruned text fits exactly when the text with all its spans cut
out does. So any two ways of choosing succeed or fail alike, and when they fail, every
span has been cut out and the delimiters that are left have been dropped. -/
theorem meets_budget_iff (maxLength : Nat) (t : Text) :
    (∀ (σ : Type) (ch : Chooser σ) (s : σ),
      (prune ch maxLength t s).1.result.length ≤ maxLength ↔
        Span.effectiveLength (Span.cutAll t) ≤ maxLength) ∧
    (∀ (σ τ : Type) (ch : Chooser σ) (ch' : Chooser τ) (s : σ) (s' : τ),
      (prune ch maxLength t s).1.result.length ≤ maxLength ↔
        (prune ch' maxLength t s').1.result.length ≤ maxLength) ∧
    ∀ (σ : Type) (ch : Chooser σ) (s : σ),
      maxLength < (prune ch maxLength t s).1.result.length →
        (prune ch maxLength t s).1.result = Span.strip (Span.cutAll t) ∧
        (prune ch maxLength t s).1.cuts.length = (Span.all t).length ∧
        Span.all (prune ch maxLength t s).1.rest = [] := by
  refine ⟨fun σ ch s => length_result_le_iff ch maxLength t s, fun σ τ ch ch' s s' => ?_,
    fun σ ch s hlong => ?_⟩
  · rw [length_result_le_iff, length_result_le_iff]
  · obtain ⟨hrest, hcuts⟩ := eq_cutAll_of_lt hlong
    refine ⟨congrArg Span.strip hrest, hcuts, ?_⟩
    rw [hrest]
    exact Span.all_cutAll t

/-- A stray `>`, a `<` in a span, a `<` that meets a line feed, and two spans. Five
characters are too few for what is in neither. -/
theorem meets_budget_iff_strayDelimiters :
    5 < (prune Chooser.scripted 5 "x>y<a<b>z<c\nd<e>".toList [1, 0]).1.result.length ∧
      (prune Chooser.scripted 5 "x>y<a<b>z<c\nd<e>".toList [1, 0]).1.result
        = "xyzc\nd".toList := by
  obtain ⟨hfits, -, hcut⟩ := meets_budget_iff 5 "x>y<a<b>z<c\nd<e>".toList
  have hlong :
      5 < (prune Chooser.scripted 5 "x>y<a<b>z<c\nd<e>".toList [1, 0]).1.result.length := by
    rw [← Nat.not_le, hfits]
    decide
  exact ⟨hlong, (hcut _ _ _ hlong).1.trans (by decide)⟩

/-! ### Where the choices leave the same text -/

/-- The choices of spans have no say in what is left: there is nothing to cut out, or
nothing to choose from, or only all spans together are enough. -/
inductive Settled (maxLength : Nat) (t : Text) : Prop
  | fits : Span.effectiveLength t ≤ maxLength → Settled maxLength t
  | single : (Span.all t).length ≤ 1 → Settled maxLength t
  | all : (∀ numbers : List (Fin (Span.all t).length), (∃ d, d ∉ numbers) →
      maxLength < Span.effectiveLength (without t numbers)) → Settled maxLength t

/-- The text with all spans cut out but one. -/
def sparing (t : Text) (d : Fin (Span.all t).length) : Text :=
  without t ((List.finRange _).filter (· ≠ d))

/-- It is enough to look at the cuts that spare one span. -/
theorem settled_iff :
    Settled maxLength t ↔
      Span.effectiveLength t ≤ maxLength ∨ (Span.all t).length ≤ 1 ∨
        ∀ d, maxLength < Span.effectiveLength (sparing t d) := by
  constructor
  · intro h
    cases h with
    | fits hshort => exact .inl hshort
    | single hone => exact .inr (.inl hone)
    | all hall => exact .inr (.inr fun d => hall _ ⟨d, by simp⟩)
  · rintro (hshort | hone | hspare)
    · exact .fits hshort
    · exact .single hone
    · refine .all ?_
      rintro numbers ⟨d, hd⟩
      -- Cutting out more than `numbers` leaves no more.
      have hsub : numbers ⊆ (List.finRange _).filter (· ≠ d) := by
        intro e he
        have hne : e ≠ d := fun heq => hd (heq ▸ he)
        simpa using hne
      have hless := Span.effectiveLength_outside_anti (List.map_subset (Span.all t).get hsub) t
      exact Nat.lt_of_lt_of_le (hspare d) hless

instance (maxLength : Nat) (t : Text) : Decidable (Settled maxLength t) :=
  decidable_of_iff' _ settled_iff

/-- A text that does not fit at once is left with no span. -/
theorem Cuttable.eq_cutAll_of_settled {numbers : List (Fin (Span.all t).length)}
    (h : Cuttable maxLength t numbers) (hlong : maxLength < Span.effectiveLength t)
    (hsettled : Settled maxLength t) : without t numbers = Span.cutAll t := by
  rcases h.fits_or_eq_cutAll with hfits | hspent
  · -- If a span were left, pruning would have stopped at a text that is too long.
    refine without_eq_cutAll ?_
    by_contra hsome
    obtain ⟨d, hd⟩ := not_forall.1 hsome
    cases hsettled with
    | fits hshort => omega
    | single hone =>
        -- The only span has not been cut out, so the text is still as it was.
        have hnone : numbers = [] := by
          rw [List.eq_nil_iff_forall_not_mem]
          intro e he
          have heq : e = d := Fin.ext (by omega)
          exact hd (heq ▸ he)
        rw [hnone, without, List.map_nil, Span.outside_nil] at hfits
        omega
    | all hall => exact Nat.not_le.2 (hall numbers ⟨d, hd⟩) hfits
  · exact hspent

/-- Then pruning leaves the same text whatever is chosen. -/
theorem rest_of_settled (h : Settled maxLength t) (ch : Chooser σ) (s : σ) :
    (prune ch maxLength t s).1.rest
      = if Span.effectiveLength t ≤ maxLength then t else Span.cutAll t := by
  split
  · rename_i hfits
    rw [prune_of_stop (.inl hfits)]
  · rename_i hlong
    obtain ⟨numbers, hcuttable, hrun, -⟩ := exists_cuttable ch maxLength t s
    rw [hrun]
    exact hcuttable.eq_cutAll_of_settled (Nat.not_le.1 hlong) h

end Pruning

end Vignette
