import Vignette.Proofs.Expansion.Choices
import Vignette.Proofs.Pruning.Order

/-!
# `Vignette.Proofs.Pruning.Extension`: a smaller budget goes on where a larger one stops

The budget is only asked whether the text is still too long. While it is too long for a
larger budget it is so for a smaller one, so both make the same cuts up to there. What the
smaller budget cuts out after that only takes characters away.

* `Order.append`: what may be cut out for the larger budget, and then for the smaller one,
  may be cut out for the smaller one at once.
* `Chooser.Makes.recorded`, `prune_recorded`: a pruning makes one choice for each cut.
* `exists_extension`: both runs, told by the spans of the text that they start from.
* `smaller_budget_cuts_more`: the cuts, the choices and the results of both.
-/

set_option autoImplicit false

namespace Vignette

variable {σ : Type}

/-! ### The choices of a pruning -/

/-- The choice that a cut is made by. -/
def Cut.choice (cut : Cut) : Choice :=
  ⟨cut.index, cut.total⟩

namespace Chooser

variable {ch : Chooser σ} {cuts cuts' : List Cut} {s s' s'' : σ}

/-- What has been taken from a source of randomness, when each choice of a span only adds
to it. -/
def LogsSpans {α : Type} (ch : Chooser σ) (taken : σ → List α) : Prop :=
  ∀ n s, taken s <+: taken (ch.span n s).2

theorem Makes.append (h : ch.Makes cuts s s') (h' : ch.Makes cuts' s' s'') :
    ch.Makes (cuts ++ cuts') s s'' := by
  induction h with
  | nil => exact h'
  | cons htotal hindex hchoice _ ih => exact .cons htotal hindex hchoice (ih h')

theorem Makes.isPrefix {α : Type} {taken : σ → List α} (hlogs : ch.LogsSpans taken)
    (h : ch.Makes cuts s s') : taken s <+: taken s' := by
  induction h with
  | nil => exact List.prefix_refl _
  | @cons _ _ n _ s _ _ _ _ hchoice _ ih =>
      have hfirst := hlogs n s
      rw [hchoice] at hfirst
      exact hfirst.trans ih

/-- The chooser that lists its choices makes the same ones, and has one for each cut on its
list. -/
theorem Makes.recorded (h : ch.Makes cuts s s') (made : List Choice) :
    ch.recorded.Makes cuts (s, made) (s', made ++ cuts.map Cut.choice) := by
  induction h generalizing made with
  | nil =>
      rw [List.map_nil, List.append_nil]
      exact .nil _
  | @cons cut cuts n i s s' s'' htotal hindex hchoice _ ih =>
      have hmade : ch.recorded.span n (s, made) = (i, s', made ++ [cut.choice]) := by
        rw [Chooser.recorded, Cut.choice, htotal, hindex]
        simp only [hchoice]
      have hrest := ih (made ++ [cut.choice])
      rw [List.append_assoc] at hrest
      exact .cons htotal hindex hmade hrest

end Chooser

namespace Pruning

/-- Listing the choices changes neither how a pruning goes nor what it leaves of the state.
There is one choice for each cut. -/
theorem prune_recorded (ch : Chooser σ) (maxLength : Nat) (t : Text) (s : σ)
    (made : List Choice) :
    prune ch.recorded maxLength t (s, made)
      = ((prune ch maxLength t s).1, (prune ch maxLength t s).2,
        made ++ (prune ch maxLength t s).1.cuts.map Cut.choice) := by
  obtain ⟨numbers, hcuttable, hrun, hmakes⟩ := exists_cuttable ch maxLength t s
  rw [hrun]
  exact hcuttable.prune_eq (hmakes.recorded made)

/-! ### Going on with a smaller budget -/

theorem cutsFrom_append (t : Text) (earlier spans more : List Span) :
    cutsFrom t earlier (spans ++ more)
      = cutsFrom t earlier spans ++ cutsFrom t (spans.reverse ++ earlier) more := by
  induction spans generalizing earlier with
  | nil => rfl
  | cons s spans ih =>
      rw [List.cons_append, cutsFrom, ih, List.reverse_cons, List.append_assoc]
      rfl

/-- What may be cut out for a larger budget, and then for a smaller one, may be cut out for
the smaller one at once. -/
theorem Order.append {small large : Nat} (hle : small ≤ large) {t : Text}
    {earlier spans more : List Span} (h : Order large t earlier spans)
    (h' : Order small t (spans.reverse ++ earlier) more) :
    Order small t earlier (spans ++ more) := by
  induction h with
  | stop => exact h'
  | cut hlong hspan _ ih =>
      -- A text that is too long for the larger budget is too long for the smaller one.
      refine .cut (Nat.lt_of_le_of_lt hle hlong) hspan (ih ?_)
      rwa [List.reverse_cons, List.append_assoc] at h'

/-- The smaller budget cuts out the spans that the larger one cuts out, in the same order.
Then it goes on from the text and the state that the larger one leaves. -/
theorem exists_extension (ch : Chooser σ) {small large : Nat} (hle : small ≤ large) (t : Text)
    (s : σ) :
    ∃ numbers more cuts, Cuttable large t numbers ∧ Cuttable small t (numbers ++ more) ∧
      (prune ch large t s).1 = cutting t numbers ∧
      (prune ch small t s).1 = cutting t (numbers ++ more) ∧
      (cutting t (numbers ++ more)).cuts = (cutting t numbers).cuts ++ cuts ∧
      ch.Makes cuts (prune ch large t s).2 (prune ch small t s).2 ∧
      prune ch small (without t numbers) (prune ch large t s).2
        = (⟨cuts, without t (numbers ++ more)⟩, (prune ch small t s).2) := by
  obtain ⟨numbers, hlarge, hrun, hmakes⟩ := exists_cuttable ch large t s
  -- What the smaller budget cuts out after that are spans of the text as well.
  have hearlier : (numbers.map (Span.all t).get).reverse ⊆ Span.all t := by
    intro span hspan
    exact map_get_subset numbers (List.mem_reverse.1 hspan)
  obtain ⟨spans, s', horder, hmore⟩ := exists_order ch small hearlier (prune ch large t s).2
  obtain ⟨more, rfl⟩ := exists_numbers fun span hspan =>
    (Span.mem_remaining.1 ((order_iff.1 horder).2.1 span hspan)).1
  have hcuts : (cutting t (numbers ++ more)).cuts = (cutting t numbers).cuts
      ++ cutsFrom t (numbers.map (Span.all t).get).reverse (more.map (Span.all t).get) := by
    rw [cutting, List.map_append, cutsFrom_append, List.append_nil]
    rfl
  have hsmall : Cuttable small t (numbers ++ more) := by
    rw [cuttable_iff_order, List.map_append]
    refine (cuttable_iff_order.1 hlarge).append hle ?_
    rwa [List.append_nil]
  have hwhole := hsmall.prune_eq (hcuts ▸ hmakes.append hmore)
  -- Told by the spans that are gone, their order does not matter.
  have hstart : Span.outside (numbers.map (Span.all t).get).reverse t = without t numbers :=
    Span.outside_congr (fun r => List.mem_reverse) t
  have hend : Span.outside ((more.map (Span.all t).get).reverse
      ++ (numbers.map (Span.all t).get).reverse) t = without t (numbers ++ more) := by
    rw [← List.reverse_append, ← List.map_append]
    exact Span.outside_congr (fun r => List.mem_reverse) t
  have hlater := prune_eq_of_order horder hearlier hmore
  rw [hstart, hend] at hlater
  rw [hwhole]
  exact ⟨numbers, more, _, hlarge, hsmall, hrun, rfl, hcuts, hmore, hlater⟩

/-- For a smaller budget, pruning cuts out the spans that it cuts out for a larger one, in
the same order, and then perhaps more, from the text and the state that these cuts have
left. So the choices for the larger budget are the first of those for the smaller one, and
the same goes for whatever is taken from a source of randomness to make them. What the
smaller budget leaves is what the larger one leaves with some characters taken away. -/
theorem smaller_budget_cuts_more {small large : Nat} (hle : small ≤ large) (t : Text)
    (ch : Chooser σ) (s : σ) :
    (∃ numbers more,
      (prune ch large t s).1 = cutting t numbers ∧
      (prune ch small t s).1 = cutting t (numbers ++ more)) ∧
    (prune ch large t s).1.cuts <+: (prune ch small t s).1.cuts ∧
    (∃ later,
      prune ch small (prune ch large t s).1.rest (prune ch large t s).2
        = (later, (prune ch small t s).2) ∧
      (prune ch small t s).1 = ⟨(prune ch large t s).1.cuts ++ later.cuts, later.rest⟩) ∧
    (∃ choices more,
      prune ch.recorded large t (s, [])
        = ((prune ch large t s).1, (prune ch large t s).2, choices) ∧
      prune ch.recorded small t (s, [])
        = ((prune ch small t s).1, (prune ch small t s).2, choices ++ more)) ∧
    (∀ (α : Type) (taken : σ → List α), ch.LogsSpans taken →
      taken (prune ch large t s).2 <+: taken (prune ch small t s).2) ∧
    (prune ch small t s).1.result.Sublist (prune ch large t s).1.result ∧
    (prune ch small t s).1.result.length ≤ (prune ch large t s).1.result.length := by
  obtain ⟨numbers, more, cuts, -, -, hlarge, hsmall, hcuts, hmakes, hlater⟩ :=
    exists_extension ch hle t s
  have hchoices (maxLength : Nat) := prune_recorded ch maxLength t s []
  have hkept : (without t (numbers ++ more)).Sublist (without t numbers) :=
    Span.outside_sublist (List.map_subset _ (List.subset_append_left numbers more)) t
  have hresult : (prune ch small t s).1.result.Sublist (prune ch large t s).1.result := by
    rw [hlarge, hsmall]
    exact hkept.filter _
  refine ⟨⟨numbers, more, hlarge, hsmall⟩, ?_, ?_, ?_, ?_, hresult, hresult.length_le⟩
  · rw [hlarge, hsmall, hcuts]
    exact List.prefix_append _ _
  · rw [hlarge, hsmall]
    refine ⟨_, hlater, ?_⟩
    rw [← hcuts]
    rfl
  · refine ⟨_, cuts.map Cut.choice, hchoices large, ?_⟩
    rw [hchoices small, hlarge, hsmall, hcuts, List.map_append]
    rfl
  · intro α taken hlogs
    exact hmakes.isPrefix hlogs

/-- One span is enough for nine characters, and for five another one goes too. -/
theorem smaller_budget_cuts_more_threeSpans :
    (prune Chooser.scripted 9 "<aaaa>b<c><dddd>".toList [2, 0, 0]).1
        = ⟨[⟨2, 3, "<dddd>".toList⟩], "<aaaa>b<c>".toList⟩ ∧
      ([⟨2, 3, "<dddd>".toList⟩] : List Cut)
        <+: (prune Chooser.scripted 5 "<aaaa>b<c><dddd>".toList [2, 0, 0]).1.cuts ∧
      (prune Chooser.scripted 5 "<aaaa>b<c><dddd>".toList [2, 0, 0]).1.result.Sublist
        "aaaabc".toList := by
  have hlarge : (prune Chooser.scripted 9 "<aaaa>b<c><dddd>".toList [2, 0, 0]).1
      = ⟨[⟨2, 3, "<dddd>".toList⟩], "<aaaa>b<c>".toList⟩ := by decide +kernel
  have hle : 5 ≤ 9 := by decide
  obtain ⟨-, hcuts, -, -, -, hresult, -⟩ :=
    smaller_budget_cuts_more hle "<aaaa>b<c><dddd>".toList Chooser.scripted [2, 0, 0]
  rw [hlarge] at hcuts hresult
  exact ⟨hlarge, hcuts, hresult⟩

end Pruning

end Vignette
