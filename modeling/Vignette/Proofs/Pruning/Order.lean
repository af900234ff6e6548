import Mathlib.Data.List.Perm.Subperm
import Mathlib.Data.Set.List
import Vignette.Proofs.Expansion.Passes
import Vignette.Proofs.Span.Outside
import Vignette.Pruning

/-!
# `Vignette.Proofs.Pruning.Order`: pruning told by the spans of the first text

Pruning looks the spans up anew after every cut. Told by the spans of the text
that it started from, a run is a sequence of different spans, cut out one after
another for as long as the text is too long and spans are left.

* `Order`: the sequences that a run may cut out, step by step.
* `prune_eq_of_order`: the choices that lead through such a sequence decide the
  whole outcome.
* `exists_order`: every run goes through one.
* `prune_eq_cutting`: runs and such sequences are the same, with spans told by
  number.
-/

set_option autoImplicit false

namespace Vignette

variable {σ : Type}

/-- On the way from one state to another the chooser makes one choice for each of
the cuts and no other: asked for one of the spans present it answers with the
place of the span that is cut out. -/
inductive Chooser.Makes (ch : Chooser σ) : List Cut → σ → σ → Prop
  | nil (s : σ) : Makes ch [] s s
  | cons {cut : Cut} {cuts : List Cut} {n : Nat} {i : Fin (n + 1)} {s s' s'' : σ} :
      cut.total = n + 1 → cut.index = i → ch.span n s = (i, s') → Makes ch cuts s' s'' →
      Makes ch (cut :: cuts) s s''

namespace Pruning

/-- The record of a span that is cut out after some others. -/
def recordCut (t : Text) (earlier : List Span) (s : Span) : Cut :=
  let present := Span.remaining earlier t
  ⟨present.idxOf s, present.length, s.slice t⟩

/-- The records of spans that are cut out one after another. -/
def cutsFrom (t : Text) (earlier : List Span) : List Span → List Cut
  | [] => []
  | s :: spans => recordCut t earlier s :: cutsFrom t (s :: earlier) spans

/-- When the earlier spans have been cut out of a text, pruning may go on to cut
out these, in this order. -/
inductive Order (maxLength : Nat) (t : Text) : (earlier spans : List Span) → Prop
  | stop {earlier : List Span} :
      Span.effectiveLength (Span.outside earlier t) ≤ maxLength ∨ Span.remaining earlier t = [] →
      Order maxLength t earlier []
  | cut {earlier spans : List Span} {s : Span} :
      maxLength < Span.effectiveLength (Span.outside earlier t) → s ∈ Span.remaining earlier t →
      Order maxLength t (s :: earlier) spans → Order maxLength t earlier (s :: spans)

/-! ### One round of pruning -/

section
variable {ch : Chooser σ} {maxLength : Nat} {t : Text} {s : σ}

/-- A text that fits and a text without spans are left alone. -/
theorem prune_of_stop (h : Span.effectiveLength t ≤ maxLength ∨ Span.all t = []) :
    prune ch maxLength t s = (⟨[], t⟩, s) := by
  rw [prune]
  split
  · rfl
  · rename_i hspans
    rw [hspans] at h
    exact if_pos (h.resolve_right (by simp))

/-- Otherwise the chosen span is cut out and pruning goes on. -/
theorem prune_of_cut {n : Nat} {i : Fin (n + 1)} {s' : σ} {present : Span}
    (hlong : maxLength < Span.effectiveLength t) (hlength : (Span.all t).length = n + 1)
    (hchoice : ch.span n s = (i, s')) (hpresent : (Span.all t)[i.val]? = some present) :
    prune ch maxLength t s =
      ({ (prune ch maxLength (present.cut t) s').1 with
          cuts := ⟨i, n + 1, present.slice t⟩ :: (prune ch maxLength (present.cut t) s').1.cuts },
        (prune ch maxLength (present.cut t) s').2) := by
  rw [prune]
  split
  · rename_i hspans
    rw [hspans] at hlength
    cases hlength
  · rename_i span spans hspans
    rw [hspans, List.length_cons, Nat.add_right_cancel_iff] at hlength
    subst hlength
    have hchosen : (span :: spans).get i = present := by
      rw [hspans] at hpresent
      exact Option.some.inj ((List.getElem?_eq_getElem i.isLt).symm.trans hpresent)
    rw [if_neg (Nat.not_le.2 hlong)]
    simp only [hchoice, hchosen]

/-- The same, with the choice that is made. -/
theorem prune_of_choice {span : Span} {spans : List Span} (hspans : Span.all t = span :: spans)
    (hlong : maxLength < Span.effectiveLength t) :
    prune ch maxLength t s =
      let choice := ch.span spans.length s
      let chosen := (span :: spans).get choice.1
      let later := prune ch maxLength (chosen.cut t) choice.2
      ({ later.1 with cuts := ⟨choice.1, spans.length + 1, chosen.slice t⟩ :: later.1.cuts },
        later.2) := by
  refine prune_of_cut hlong (congrArg _ hspans) rfl ?_
  rw [hspans]
  exact List.getElem?_eq_getElem (ch.span spans.length s).1.isLt

end

/-! ### Whole runs -/

section
variable {ch : Chooser σ} {maxLength : Nat} {t : Text}

/-- The choices that lead through a sequence of spans decide the outcome. -/
theorem prune_eq_of_order {earlier spans : List Span} {s s' : σ}
    (horder : Order maxLength t earlier spans) (hearlier : earlier ⊆ Span.all t)
    (hmakes : ch.Makes (cutsFrom t earlier spans) s s') :
    prune ch maxLength (Span.outside earlier t) s
      = (⟨cutsFrom t earlier spans, Span.outside (spans.reverse ++ earlier) t⟩, s') := by
  -- Each step of the order is one round of pruning on what the earlier cuts have left.
  induction horder generalizing s with
  | stop hstop =>
      cases hmakes
      refine prune_of_stop (hstop.imp_right fun hnone => ?_)
      rw [← List.length_eq_zero_iff, Span.length_all_outside hearlier, hnone]
      rfl
  | @cut earlier spans span hlong hspan _ ih =>
      obtain ⟨present, hpresent, hcut, hslice⟩ := Span.cut_outside hearlier hspan
      have hnext : span :: earlier ⊆ Span.all t :=
        List.cons_subset.2 ⟨(Span.mem_remaining.1 hspan).1, hearlier⟩
      have hlength := Span.length_all_outside hearlier
      cases hmakes with
      | @cons _ _ n i _ s₁ _ htotal hindex hchoice hrest =>
          have hchosen : (Span.all (Span.outside earlier t))[i.val]? = some present := by
            rw [← hindex]
            exact hpresent
          rw [prune_of_cut hlong (hlength.trans htotal) hchoice hchosen, hcut, hslice,
            ih hnext hrest, List.reverse_cons, List.append_assoc, List.singleton_append]
          simp only [cutsFrom, recordCut, ← hindex, ← htotal]

/-- Every run goes through such a sequence. -/
theorem exists_order (ch : Chooser σ) (maxLength : Nat) {t : Text} {earlier : List Span}
    (hearlier : earlier ⊆ Span.all t) (s : σ) :
    ∃ spans s', Order maxLength t earlier spans ∧ ch.Makes (cutsFrom t earlier spans) s s' := by
  -- Every cut leaves fewer spans.
  induction hn : (Span.remaining earlier t).length using Nat.strong_induction_on
    generalizing earlier s with
  | _ n ih =>
      by_cases hfits : Span.effectiveLength (Span.outside earlier t) ≤ maxLength
      · exact ⟨[], s, .stop (.inl hfits), .nil s⟩
      · cases n with
        | zero => exact ⟨[], s, .stop (.inr (List.length_eq_zero_iff.1 hn)), .nil s⟩
        | succ n =>
            rcases hchoice : ch.span n s with ⟨i, s₁⟩
            have hi : i.val < (Span.remaining earlier t).length := by omega
            have hspan : (Span.remaining earlier t)[i.val] ∈ Span.remaining earlier t :=
              List.getElem_mem hi
            generalize hget : (Span.remaining earlier t)[i.val] = span at hspan
            have hnext : span :: earlier ⊆ Span.all t :=
              List.cons_subset.2 ⟨(Span.mem_remaining.1 hspan).1, hearlier⟩
            obtain ⟨spans, s', horder, hmakes⟩ :=
              ih _ (hn ▸ Span.length_remaining_cons_lt hspan) hnext s₁ rfl
            have hindex : (Span.remaining earlier t).idxOf span = i := by
              rw [← hget]
              exact (Span.nodup_remaining earlier t).idxOf_getElem i.val hi
            exact ⟨span :: spans, s', .cut (Nat.not_le.1 hfits) hspan horder,
              .cons hn hindex hchoice hmakes⟩

/-- A script of the places of the spans leads through the sequence. -/
theorem Order.makes_scripted {earlier spans : List Span} (h : Order maxLength t earlier spans)
    (rest : List Nat) :
    Chooser.scripted.Makes (cutsFrom t earlier spans)
      ((cutsFrom t earlier spans).map (·.index) ++ rest) rest := by
  induction h with
  | stop => exact .nil rest
  | @cut earlier spans span _ hspan _ ih =>
      have hlt := List.idxOf_lt_length_of_mem hspan
      obtain ⟨n, hn⟩ := Nat.exists_eq_succ_of_ne_zero (Nat.ne_of_gt (Nat.zero_lt_of_lt hlt))
      have hplace : (Span.remaining earlier t).idxOf span < n + 1 := by omega
      exact .cons hn rfl (Chooser.scripted_span hplace _) ih

/-- The sequences in one go: different spans, each cut out of a text that is too
long, until the text fits or no span is left. -/
theorem order_iff {earlier spans : List Span} :
    Order maxLength t earlier spans ↔
      spans.Nodup ∧ (∀ s ∈ spans, s ∈ Span.remaining earlier t) ∧
        (∀ r < spans.length,
          maxLength < Span.effectiveLength (Span.outside (spans.take r ++ earlier) t)) ∧
        (Span.effectiveLength (Span.outside (spans ++ earlier) t) ≤ maxLength ∨
          Span.remaining (spans ++ earlier) t = []) := by
  induction spans generalizing earlier with
  | nil =>
      constructor
      · rintro ⟨hstop⟩
        exact ⟨.nil, by simp, by simp, hstop⟩
      · rintro ⟨-, -, -, hstop⟩
        exact .stop hstop
  | cons s spans ih =>
      -- Cutting out `s` first or among the earlier ones makes no difference.
      have hmove (us : List Span) (r : Span) : r ∈ us ++ s :: earlier ↔ r ∈ s :: us ++ earlier := by
        simp only [List.mem_append, List.mem_cons, List.cons_append]
        tauto
      have hremaining : Span.remaining (spans ++ s :: earlier) t
          = Span.remaining (s :: spans ++ earlier) t :=
        List.filter_congr fun r _ => by simp only [hmove]
      constructor
      · rintro (_ | ⟨hlong, hs, hrest⟩)
        obtain ⟨hnodup, hmem, hover, hstop⟩ := ih.1 hrest
        have hnot : s ∉ spans := fun hin => (Span.mem_remaining.1 (hmem s hin)).2 List.mem_cons_self
        refine ⟨List.nodup_cons.2 ⟨hnot, hnodup⟩, fun r hr => ?_, fun r hr => ?_, ?_⟩
        · rcases List.mem_cons.1 hr with rfl | hr
          · exact hs
          · obtain ⟨hall, hcut⟩ := Span.mem_remaining.1 (hmem r hr)
            exact Span.mem_remaining.2 ⟨hall, fun hin => hcut (List.mem_cons_of_mem s hin)⟩
        · cases r with
          | zero => exact hlong
          | succ r =>
              rw [List.take_succ_cons, ← Span.outside_congr (hmove _)]
              exact hover r (Nat.lt_of_succ_lt_succ hr)
        · rwa [← Span.outside_congr (hmove _), ← hremaining]
      · rintro ⟨hnodup, hmem, hover, hstop⟩
        obtain ⟨hnot, hnodup⟩ := List.nodup_cons.1 hnodup
        refine .cut (hover 0 (Nat.succ_pos _)) (hmem s List.mem_cons_self)
          (ih.2 ⟨hnodup, fun r hr => ?_, fun r hr => ?_, ?_⟩)
        · obtain ⟨hall, hcut⟩ := Span.mem_remaining.1 (hmem r (List.mem_cons_of_mem s hr))
          refine Span.mem_remaining.2 ⟨hall, fun hin => ?_⟩
          rcases List.mem_cons.1 hin with rfl | hin
          · exact hnot hr
          · exact hcut hin
        · have hlong := hover (r + 1) (Nat.succ_lt_succ hr)
          rwa [List.take_succ_cons, ← Span.outside_congr (hmove _)] at hlong
        · rwa [Span.outside_congr (hmove _), hremaining]

end

/-! ### Spans by number -/

/-- The text with the spans of these numbers cut out. They are the spans of the
text itself, counted from 0. -/
def without (t : Text) (numbers : List (Fin (Span.all t).length)) : Text :=
  Span.outside (numbers.map (Span.all t).get) t

theorem map_get_subset {t : Text} (numbers : List (Fin (Span.all t).length)) :
    numbers.map (Span.all t).get ⊆ Span.all t := by
  intro s hs
  obtain ⟨d, -, rfl⟩ := List.mem_map.1 hs
  exact List.get_mem _ d

/-- Spans of the text have numbers. -/
theorem exists_numbers {t : Text} {spans : List Span} (h : ∀ s ∈ spans, s ∈ Span.all t) :
    ∃ numbers : List (Fin (Span.all t).length), numbers.map (Span.all t).get = spans := by
  have hrange : spans ∈ Set.range (List.map (Span.all t).get) := by
    rw [Set.range_list_map]
    intro s hs
    exact List.get_of_mem (h s hs)
  exact hrange

/-- Pruning may cut out the spans of these numbers, in this order. -/
structure Cuttable (maxLength : Nat) (t : Text) (numbers : List (Fin (Span.all t).length)) :
    Prop where
  /-- No span is cut out twice. -/
  nodup : numbers.Nodup
  /-- Before each cut the text is too long. -/
  long : ∀ r < numbers.length,
    maxLength < Span.effectiveLength (without t (numbers.take r))
  /-- In the end the text fits or no span is left. -/
  enough : Span.effectiveLength (without t numbers) ≤ maxLength ∨
    numbers.length = (Span.all t).length

instance (maxLength : Nat) (t : Text) (numbers : List (Fin (Span.all t).length)) :
    Decidable (Cuttable maxLength t numbers) :=
  decidable_of_iff
    (numbers.Nodup ∧
      (∀ r < numbers.length, maxLength < Span.effectiveLength (without t (numbers.take r))) ∧
      (Span.effectiveLength (without t numbers) ≤ maxLength ∨
        numbers.length = (Span.all t).length))
    ⟨fun h => ⟨h.1, h.2.1, h.2.2⟩, fun h => ⟨h.nodup, h.long, h.enough⟩⟩

/-- The pruning that cuts out the spans of these numbers, in this order. -/
def cutting (t : Text) (numbers : List (Fin (Span.all t).length)) : Pruning where
  cuts := cutsFrom t [] (numbers.map (Span.all t).get)
  rest := without t numbers

theorem length_cutsFrom (t : Text) (earlier spans : List Span) :
    (cutsFrom t earlier spans).length = spans.length := by
  induction spans generalizing earlier with
  | nil => rfl
  | cons s spans ih => rw [cutsFrom, List.length_cons, List.length_cons, ih]

section
variable {maxLength : Nat} {t : Text}

/-- Different spans of a text leave none exactly when they are as many as it has. -/
theorem remaining_eq_nil_iff {spans : List Span} (hnodup : spans.Nodup) (h : spans ⊆ Span.all t) :
    Span.remaining spans t = [] ↔ spans.length = (Span.all t).length := by
  -- As a part of the spans of the same length it has all of them.
  have hsub := List.subperm_of_subset hnodup h
  rw [Span.remaining, List.filter_eq_nil_iff]
  constructor
  · intro hall
    have hback : Span.all t ⊆ spans := fun s hs => by simpa using hall s hs
    exact Nat.le_antisymm hsub.length_le
      (List.subperm_of_subset (Span.nodup_all t) hback).length_le
  · intro hlength s hs
    simpa using (hsub.perm_of_length_le hlength.ge).mem_iff.2 hs

theorem cuttable_iff_order {numbers : List (Fin (Span.all t).length)} :
    Cuttable maxLength t numbers ↔ Order maxLength t [] (numbers.map (Span.all t).get) := by
  have hinjective : Function.Injective (Span.all t).get :=
    List.nodup_iff_injective_get.1 (Span.nodup_all t)
  rw [order_iff, List.nodup_map_iff hinjective]
  simp only [List.append_nil, List.length_map, ← List.map_take]
  constructor
  · rintro ⟨hnodup, hlong, henough⟩
    refine ⟨hnodup, fun s hs => Span.mem_remaining.2 ⟨map_get_subset numbers hs, by simp⟩, hlong,
      henough.imp_right fun hlength => ?_⟩
    rw [remaining_eq_nil_iff (hnodup.map hinjective) (map_get_subset numbers), List.length_map]
    exact hlength
  · rintro ⟨hnodup, -, hlong, henough⟩
    refine ⟨hnodup, hlong, henough.imp_right fun hnone => ?_⟩
    rw [remaining_eq_nil_iff (hnodup.map hinjective) (map_get_subset numbers), List.length_map] at hnone
    exact hnone

/-- The choices that lead through the numbered spans decide the outcome. -/
theorem Cuttable.prune_eq {numbers : List (Fin (Span.all t).length)}
    (h : Cuttable maxLength t numbers) {ch : Chooser σ} {s s' : σ}
    (hmakes : ch.Makes (cutting t numbers).cuts s s') :
    prune ch maxLength t s = (cutting t numbers, s') := by
  have hrun := prune_eq_of_order (cuttable_iff_order.1 h) (List.nil_subset _) hmakes
  rw [Span.outside_nil, List.append_nil, Span.outside_congr fun s => List.mem_reverse] at hrun
  exact hrun

/-- Every run cuts out numbered spans of the text that it starts from. -/
theorem exists_cuttable (ch : Chooser σ) (maxLength : Nat) (t : Text) (s : σ) :
    ∃ numbers, Cuttable maxLength t numbers ∧ (prune ch maxLength t s).1 = cutting t numbers ∧
      ch.Makes (cutting t numbers).cuts s (prune ch maxLength t s).2 := by
  obtain ⟨spans, s', horder, hmakes⟩ := exists_order ch maxLength (List.nil_subset (Span.all t)) s
  obtain ⟨numbers, rfl⟩ := exists_numbers fun span hspan =>
    (Span.mem_remaining.1 ((order_iff.1 horder).2.1 span hspan)).1
  have hcuttable := cuttable_iff_order.2 horder
  have hrun := hcuttable.prune_eq hmakes
  rw [hrun]
  exact ⟨numbers, hcuttable, rfl, hmakes⟩

end

/-- Every run of pruning cuts out a sequence of different spans of the text that it
starts from, one choice for each, only while the text is too long and until it fits
or no span is left. Every such sequence is what some script of choices leads to. -/
theorem prune_eq_cutting (maxLength : Nat) (t : Text) :
    (∀ (σ : Type) (ch : Chooser σ) (s : σ),
      ∃ numbers, Cuttable maxLength t numbers ∧ numbers.length ≤ (Span.all t).length ∧
        (prune ch maxLength t s).1 = cutting t numbers ∧
        (prune ch maxLength t s).1.result = Span.strip (without t numbers) ∧
        (prune ch maxLength t s).1.cuts.length = numbers.length ∧
        ch.Makes (prune ch maxLength t s).1.cuts s (prune ch maxLength t s).2) ∧
    (Span.effectiveLength t ≤ maxLength →
      ∀ (σ : Type) (ch : Chooser σ) (s : σ), prune ch maxLength t s = (⟨[], t⟩, s)) ∧
    ∀ numbers, Cuttable maxLength t numbers →
      ∃ script, script.length = numbers.length ∧
        Chooser.scripted.Makes (cutting t numbers).cuts script [] ∧
        prune Chooser.scripted maxLength t script = (cutting t numbers, []) := by
  refine ⟨fun σ ch s => ?_, fun hfits σ ch s => prune_of_stop (.inl hfits), fun numbers h => ?_⟩
  · obtain ⟨numbers, hcuttable, hrun, hmakes⟩ := exists_cuttable ch maxLength t s
    have hlength : numbers.length ≤ (Span.all t).length := by
      simpa using hcuttable.nodup.length_le_card
    rw [hrun]
    refine ⟨numbers, hcuttable, hlength, rfl, rfl, ?_, hmakes⟩
    rw [cutting, length_cutsFrom, List.length_map]
  · have hmakes := (cuttable_iff_order.1 h).makes_scripted []
    rw [List.append_nil] at hmakes
    refine ⟨_, ?_, hmakes, h.prune_eq hmakes⟩
    rw [List.length_map, length_cutsFrom, List.length_map]

/-- Three spans, any of which is enough to cut out. -/
theorem prune_eq_cutting_threeSpans :
    Cuttable 9 "<aaaa><bbbb><cccc>".toList [⟨1, by decide⟩] ∧
      ∃ script, prune Chooser.scripted 9 "<aaaa><bbbb><cccc>".toList script
        = (⟨[⟨1, 3, "<bbbb>".toList⟩], "<aaaa><cccc>".toList⟩, []) := by
  have hcuttable : Cuttable 9 "<aaaa><bbbb><cccc>".toList [⟨1, by decide⟩] := by decide
  obtain ⟨script, -, -, hrun⟩ := (prune_eq_cutting 9 "<aaaa><bbbb><cccc>".toList).2.2 _ hcuttable
  exact ⟨hcuttable, script, hrun.trans (by decide)⟩

end Pruning

end Vignette
