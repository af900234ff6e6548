import Vignette.Fixer
import Vignette.Proofs.Text.Search

/-!
# `Vignette.Proofs.Fixer.Possessive`: which `s's` the fix leaves

The fix reads a text once and writes `s'` for an `s's`, so what it writes is not
read again. An `s` behind closes up to a new `s's`, as in `s'ss`. Where several
`s's` share an `s` with the next, the fix writes over every other one, and the
`s` behind the last counts only if the last one is written over.

* `hasPossessive_iff`: the fix applies exactly where `s's` occurs.
* `hasPossessive_fixPossessive_iff`: which texts still have it after the fix.
* `run_possessive`: leaving a text alone to which the fix does not apply is the
  same as fixing it.
-/

set_option autoImplicit false

namespace Vignette.Fixer

/-- What the fix looks for. -/
def artifact : Text := ['s', '\'', 's']

theorem hasPossessive_iff {t : Text} : hasPossessive t ↔ artifact <:+: t :=
  Text.contains_iff_infix (by simp)

theorem hasPossessive_cons_iff {c : Char} {t : Text} :
    hasPossessive (c :: t) ↔ artifact <+: c :: t ∨ hasPossessive t := by
  rw [hasPossessive_iff, hasPossessive_iff, List.infix_cons_iff]

theorem artifact_prefix_iff {c d : Char} {t : Text} :
    artifact <+: c :: d :: t ↔ c = 's' ∧ d = '\'' ∧ t.head? = some 's' := by
  cases t with
  | nil => simp [artifact]
  | cons e t => simp [artifact, eq_comm]

/-- A character that falls to the second case of the fix begins no `s's`. -/
theorem not_artifact_prefix {c : Char} {t : Text}
    (h : ∀ u, c = 's' → t = '\'' :: 's' :: u → False) : ¬ artifact <+: c :: t := by
  intro hprefix
  obtain ⟨u, hu⟩ := hprefix
  obtain ⟨rfl, rfl⟩ := List.cons.inj hu
  exact h u rfl rfl

/-! ### One step of the fix -/

theorem fixPossessive_artifact (t : Text) :
    fixPossessive ('s' :: '\'' :: 's' :: t) = 's' :: '\'' :: fixPossessive t := by
  rw [fixPossessive]

theorem fixPossessive_cons {c : Char} {t : Text} (h : ¬ artifact <+: c :: t) :
    fixPossessive (c :: t) = c :: fixPossessive t := by
  rw [fixPossessive]
  rintro u rfl rfl
  exact h ⟨u, rfl⟩

/-- The fix keeps the first character. -/
theorem head?_fixPossessive (t : Text) : (fixPossessive t).head? = t.head? := by
  cases t with
  | nil => rfl
  | cons c t =>
      by_cases h : artifact <+: c :: t
      · obtain ⟨u, hu⟩ := h
        rw [← hu]
        show (fixPossessive ('s' :: '\'' :: 's' :: u)).head? = some 's'
        rw [fixPossessive_artifact]
        rfl
      · rw [fixPossessive_cons h]
        rfl

/-- A character in front of what the fix makes begins an `s's` only if it did so
before. -/
theorem artifact_prefix_of_fixPossessive {c : Char} {t : Text}
    (h : artifact <+: c :: fixPossessive t) : artifact <+: c :: t := by
  cases t with
  | nil => exact h
  | cons d t =>
      by_cases hfront : artifact <+: d :: t
      · -- The fix keeps the `s` here, and `s's` has none behind its first one.
        obtain ⟨u, hu⟩ := hfront
        obtain ⟨rfl, rfl⟩ := List.cons.inj hu
        have hquote := (artifact_prefix_iff.1 (fixPossessive_artifact u ▸ h)).2.1
        exact absurd hquote (by decide)
      · rw [fixPossessive_cons hfront, artifact_prefix_iff, head?_fixPossessive] at h
        exact artifact_prefix_iff.2 h

/-- The fix leaves a text alone to which it does not apply. -/
theorem fixPossessive_eq_self {t : Text} (h : ¬ hasPossessive t) : fixPossessive t = t := by
  induction t with
  | nil => rw [fixPossessive]
  | cons c t ih =>
      rw [hasPossessive_cons_iff, not_or] at h
      rw [fixPossessive_cons h.1, ih h.2]

theorem run_possessive (t : Text) : possessive.run t = fixPossessive t := by
  by_cases h : hasPossessive t
  · exact if_pos h
  · exact (if_neg h).trans (fixPossessive_eq_self h).symm

/-! ### What the fix leaves -/

/-- `2 * n + 1` times `s's`, each sharing an `s` with the next. -/
def linked : Nat → Text
  | 0 => artifact
  | n + 1 => 's' :: '\'' :: 's' :: '\'' :: linked n

/-- An odd number of linked `s's` with an `s` behind them, of which the fix writes
over the first: no `s'` in front links it to one more. -/
def ClosesUp (t : Text) : Prop :=
  ∃ front n back, t = front ++ (linked n ++ 's' :: back) ∧ ¬ ['s', '\''] <:+ front

theorem artifact_prefix_linked (n : Nat) (t : Text) : artifact <+: linked n ++ t := by
  cases n with
  | zero => exact List.prefix_append artifact t
  | succ n => exact ⟨'\'' :: (linked n ++ t), rfl⟩

theorem not_closesUp_nil : ¬ ClosesUp [] := by
  rintro ⟨front, n, back, heq, -⟩
  simp at heq

/-- Where the fix writes over nothing, it only depends on the rest. -/
theorem closesUp_cons_iff {c : Char} {t : Text} (h : ¬ artifact <+: c :: t) :
    ClosesUp (c :: t) ↔ ClosesUp t := by
  constructor
  · rintro ⟨front, n, back, heq, hfront⟩
    cases front with
    | nil => exact absurd (heq ▸ artifact_prefix_linked n _) h
    | cons d front =>
        obtain ⟨-, rfl⟩ := List.cons.inj heq
        exact ⟨front, n, back, rfl, fun hs => hfront (hs.trans (List.suffix_cons d front))⟩
  · rintro ⟨front, n, back, rfl, hfront⟩
    refine ⟨c :: front, n, back, rfl, fun hs => ?_⟩
    rcases List.suffix_cons_iff.1 hs with heq | hs
    · -- The apostrophe in front would link `c` to the first `s`.
      cases heq
      exact h (artifact_prefix_iff.2 ⟨rfl, rfl, by cases n <;> rfl⟩)
    · exact hfront hs

/-- Behind an `s's` that the fix writes over, an `s` closes up, or the rest does. -/
theorem closesUp_artifact_iff {t : Text} :
    ClosesUp ('s' :: '\'' :: 's' :: t) ↔ t.head? = some 's' ∨ ClosesUp t := by
  constructor
  · rintro ⟨front, n, back, heq, hfront⟩
    -- The linked ones begin with this `s's`, inside it or behind it.
    match front with
    | [] =>
        cases n with
        | zero =>
            cases heq
            exact .inl rfl
        | succ n =>
            cases heq
            exact .inr ⟨['\''], n, back, rfl, by decide⟩
    | [_] => cases n <;> cases heq
    | [_, _] =>
        cases n <;> cases heq <;> exact absurd (List.suffix_refl _) hfront
    | _ :: _ :: _ :: front =>
        cases heq
        exact .inr ⟨front, n, back, rfl, fun hs => hfront (hs.trans ⟨artifact, rfl⟩)⟩
  · rintro (hhead | ⟨front, n, back, rfl, hfront⟩)
    · obtain ⟨back, rfl⟩ := List.head?_eq_some_iff.1 hhead
      exact ⟨[], 0, back, rfl, by simp⟩
    · by_cases hquote : front = ['\'']
      · -- The rest is linked to the `s's` in front.
        subst hquote
        exact ⟨[], n + 1, back, rfl, by simp⟩
      · refine ⟨'s' :: '\'' :: 's' :: front, n, back, rfl, fun hs => ?_⟩
        simp [List.suffix_cons_iff, eq_comm, hquote, hfront] at hs

/-- The fix leaves an `s's` exactly in the texts in which one closes up. -/
theorem hasPossessive_fixPossessive_iff (t : Text) :
    hasPossessive (fixPossessive t) ↔ ClosesUp t := by
  induction t using fixPossessive.induct with
  | case1 t ih =>
      have hquote : ¬ artifact <+: '\'' :: fixPossessive t := by simp [artifact]
      rw [fixPossessive_artifact, closesUp_artifact_iff, hasPossessive_cons_iff,
        hasPossessive_cons_iff, or_iff_right hquote, ih, artifact_prefix_iff, head?_fixPossessive]
      simp
  | case2 c t hne ih =>
      have hfront := not_artifact_prefix hne
      rw [fixPossessive_cons hfront, closesUp_cons_iff hfront, hasPossessive_cons_iff, ih]
      exact or_iff_right fun h => hfront (artifact_prefix_of_fixPossessive h)
  | case3 => exact iff_of_false (by decide) not_closesUp_nil

example : fixPossessive "as'ss".toList = "as's".toList := by decide

end Vignette.Fixer
