import Vignette.Proofs.Token.Bridge
import Vignette.Proofs.Token.Strays

/-!
# `Vignette.Proofs.Token.Leftmost`: the tokens as leftmost matches

A text `#name#` occurs in a fragment wherever a word stands between two `#`, so two of them
may share a `#`. The scan takes the leftmost one, goes on behind it and takes the leftmost
one there.

* `Leftmost`: the names in the leftmost texts of tokens that share no character.
* `Idle.length_le`: no text of a token starts in a text whose `#` are all stray ones.
* `leftmost_iff`: these are the names that the scan reports, and no others.
-/

set_option autoImplicit false

namespace Vignette.Token

/-- The names in the leftmost texts of tokens that share no character: no text of a token
starts in front of the first one, and the others are the leftmost ones behind it. -/
inductive Leftmost : Text → List Name → Prop
  | last {t : Text} : (∀ name, IsWord name → ¬ render name <:+: t) → Leftmost t []
  | next {before after : Text} {name : Name} {names : List Name} : IsWord name →
      (∀ n x y, IsWord n → before ++ (render name ++ after) = x ++ (render n ++ y) →
        before.length ≤ x.length) →
      Leftmost after names → Leftmost (before ++ (render name ++ after)) (name :: names)

/-- There are no two ways to take the leftmost texts of tokens. -/
theorem Leftmost.unique {t : Text} {names names' : List Name} (h : Leftmost t names)
    (h' : Leftmost t names') : names = names' := by
  induction h generalizing names' with
  | last hnone =>
      cases h' with
      | last => rfl
      | @next before after name _ hname =>
          exact absurd ⟨before, after, List.append_assoc _ _ _⟩ (hnone name hname)
  | @next before after name names hname hfirst _ ih =>
      generalize htext : before ++ (render name ++ after) = t at h'
      cases h' with
      | last hnone =>
          exact absurd ⟨before, after, (List.append_assoc _ _ _).trans htext⟩ (hnone name hname)
      | @next before' after' name' names' hname' hfirst' hrest' =>
          -- Neither starts behind the other, so both start at the same place.
          have hlength : before.length = before'.length :=
            Nat.le_antisymm (hfirst name' before' after' hname' htext)
              (hfirst' name before after hname htext.symm)
          obtain ⟨-, hbehind⟩ := List.append_inj htext hlength
          have hsame : name = name' := by
            by_contra hne
            exact not_prefix_render hname' hname hne after' ⟨after, hbehind⟩
          subst hsame
          rw [List.append_cancel_left hbehind] at ih
          rw [ih hrest']

/-- Where a text without `#` is the front, every `#` stands behind it. -/
theorem exists_append_of_not_mem {skipped u x v : Text} (h : '#' ∉ skipped)
    (heq : skipped ++ u = x ++ '#' :: v) : ∃ x', x = skipped ++ x' ∧ u = x' ++ '#' :: v := by
  rcases List.append_eq_append_iff.1 heq with ⟨x', hx, hu⟩ | ⟨rest, hskipped, hv⟩
  · exact ⟨x', hx, hu⟩
  · cases rest with
    | nil => exact ⟨[], by simpa using hskipped.symm, hv.symm⟩
    | cons c rest =>
        obtain ⟨rfl, -⟩ := List.cons.inj hv
        exact absurd (by simp [hskipped]) h

/-- No text of a token starts in an idle text. -/
theorem Idle.length_le {t : Text} (h : Idle t) {n : Name} (hn : IsWord n) {u x y : Text}
    (heq : t ++ u = x ++ (render n ++ y)) : t.length ≤ x.length := by
  -- It would start at a `#`, and behind every `#` of the text a break comes too early.
  induction h generalizing x with
  | nil => exact Nat.zero_le _
  | plain hc _ ih =>
      cases x with
      | nil => exact absurd (List.cons.inj heq).1 hc
      | cons d x => exact Nat.succ_le_succ (ih (List.cons.inj heq).2)
  | @stray word c t hword hc _ ih =>
      rw [List.cons_append, List.append_assoc] at heq
      cases x with
      | nil => exact absurd ⟨y, (List.cons.inj heq).2.symm⟩ (not_prefix_word hn hword hc (t ++ u))
      | cons d x =>
          -- The next `#` stands behind the break.
          have htail : word ++ [c] ++ (t ++ u) = x ++ '#' :: (n ++ ['#'] ++ y) := by
            rw [List.append_assoc]
            exact (List.cons.inj heq).2
          obtain ⟨x', rfl, hbehind⟩ := exists_append_of_not_mem (not_mem_word_break hword hc) htail
          have hle := ih hbehind
          simp only [List.length_append, List.length_cons, List.length_nil]
          omega

/-- A fragment with tokens is its first token with an idle text in front. -/
theorem exists_first {t : Text} (h : names t ≠ []) :
    ∃ before name after, t = before ++ (render name ++ after) ∧ Idle before ∧ IsWord name := by
  have hsown := sown_symbols t
  generalize hsymbols : symbols t = ss at hsown
  have htext : t = spell ss := by rw [← hsymbols, spell_symbols]
  cases hsown with
  | last hnames =>
      rw [spell_map_terminal] at htext
      exact absurd (htext ▸ hnames) h
  | @token before name ss hbefore hname _ =>
      refine ⟨before, name, spell ss, ?_, hbefore, hname⟩
      rw [htext, spell_append, spell_map_terminal, spell_cons]
      rfl

/-- The scan takes the leftmost texts of tokens. -/
theorem leftmost_names (t : Text) : Leftmost t (names t) := by
  induction hlength : t.length using Nat.strong_induction_on generalizing t with
  | _ length ih =>
      by_cases hnames : names t = []
      · have hnone := names_eq_nil_iff_not_infix.1 hnames
        rw [hnames]
        exact .last hnone
      · -- Behind its first token the fragment is scanned as a fragment of its own.
        obtain ⟨before, name, after, rfl, hbefore, hname⟩ := exists_first hnames
        have hread : names (before ++ (render name ++ after)) = name :: names after := by
          rw [hbefore.names_append, names_render_append hname]
        have hshorter : after.length < length := by
          rw [← hlength]
          simp only [render, List.length_append, List.length_cons]
          omega
        rw [hread]
        exact .next hname (fun n x y hn heq => hbefore.length_le hn heq) (ih _ hshorter after rfl)

/-- The names of a fragment are those in its leftmost texts of tokens, and no others. -/
theorem leftmost_iff {t : Text} {found : List Name} : Leftmost t found ↔ found = names t := by
  constructor
  · exact fun h => h.unique (leftmost_names t)
  · rintro rfl
    exact leftmost_names t

end Vignette.Token
