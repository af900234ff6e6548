import Mathlib.Logic.Function.Iterate
import Vignette.Proofs.Fixer.Possessive
import Vignette.Proofs.Fixer.Tokens

/-!
# `Vignette.Proofs.Fixer.Repeated`: fixing a fixed text

A text fixed once may still have an `s's`, and then a second fix changes it again. Each fix
that finds one drops an `s`, so no more of them are needed than the text has `s`.

* `count_fixPossessive_lt`: what one fix drops.
* `fixPossessive_eq_self_iff`: which texts the fix keeps.
* `hasPossessive_iterate`: enough fixes leave no `s's`.
* `possessive_settles_iff`: when a single fix is enough.
-/

set_option autoImplicit false

namespace Vignette.Fixer

/-! ### One fix after another -/

/-- A fix that finds an `s's` drops an `s`. -/
theorem count_fixPossessive_lt {t : Text} (h : hasPossessive t) :
    (fixPossessive t).count 's' < t.count 's' := by
  induction t using fixPossessive.induct with
  | case1 t ih =>
      have hrest := (fixPossessive_sublist t).count_le 's'
      have hquote : '\'' ≠ 's' := by decide
      rw [fixPossessive_artifact, List.count_cons_self, List.count_cons_self,
        List.count_cons_of_ne hquote, List.count_cons_of_ne hquote, List.count_cons_self]
      omega
  | case2 c t hne ih =>
      have hfront := not_artifact_prefix hne
      have hrest := ih ((hasPossessive_cons_iff.1 h).resolve_left hfront)
      rw [fixPossessive_cons hfront, List.count_cons, List.count_cons]
      omega
  | case3 => exact absurd h (by decide)

/-- The fix keeps exactly the texts to which it does not apply. -/
theorem fixPossessive_eq_self_iff {t : Text} : fixPossessive t = t ↔ ¬ hasPossessive t := by
  constructor
  · intro heq hhas
    have hlt := count_fixPossessive_lt hhas
    rw [heq] at hlt
    exact Nat.lt_irrefl _ hlt
  · exact fixPossessive_eq_self

/-- As many fixes as the text has `s` leave no `s's`. -/
theorem hasPossessive_iterate {rounds : Nat} {t : Text} (h : t.count 's' ≤ rounds) :
    ¬ hasPossessive (fixPossessive^[rounds] t) := by
  induction rounds generalizing t with
  | zero =>
      intro hhas
      have hlt := count_fixPossessive_lt hhas
      simp only [Function.iterate_zero, id_eq] at hlt
      omega
  | succ rounds ih =>
      rw [Function.iterate_succ_apply]
      by_cases hhas : hasPossessive t
      · have hlt := count_fixPossessive_lt hhas
        exact ih (by omega)
      · -- A text without `s's` stays as it is, however often it is fixed.
        have hkept := fixPossessive_eq_self hhas
        rwa [hkept, Function.iterate_fixed hkept]

/-! ### When one fix is enough -/

theorem artifact_suffix_linked (n : Nat) : artifact <:+ linked n := by
  induction n with
  | zero => exact List.suffix_refl artifact
  | succ n ih => exact ih.trans ⟨['s', '\'', 's', '\''], rfl⟩

/-- What closes up is an `s's` with an `s` behind it. -/
theorem infix_of_closesUp {t : Text} (h : ClosesUp t) : ['s', '\'', 's', 's'] <:+: t := by
  obtain ⟨front, n, back, rfl, -⟩ := h
  obtain ⟨earlier, hearlier⟩ := artifact_suffix_linked n
  refine ⟨front ++ earlier, back, ?_⟩
  rw [← hearlier]
  simp [artifact]

/-- One fix leaves no `s's`, does not apply to its own outcome and is the same as two,
exactly where no `s's` closes up. In particular this is so for a text without `s'ss`. Any
text has no `s's` left after as many fixes as it has `s`. -/
theorem possessive_settles_iff (t : Text) :
    (¬ artifact <:+: possessive.fix t ↔ ¬ ClosesUp t) ∧
    (possessive.applies (possessive.fix t) = false ↔ ¬ ClosesUp t) ∧
    (possessive.fix (possessive.fix t) = possessive.fix t ↔ ¬ ClosesUp t) ∧
    (¬ ['s', '\'', 's', 's'] <:+: t → ¬ ClosesUp t) ∧
    ∀ rounds, t.count 's' ≤ rounds → ¬ artifact <:+: possessive.fix^[rounds] t := by
  have hleft : artifact <:+: possessive.fix t ↔ ClosesUp t := by
    rw [← hasPossessive_iff]
    exact hasPossessive_fixPossessive_iff t
  refine ⟨not_congr hleft, ?_, ?_, fun h hcloses => h (infix_of_closesUp hcloses), ?_⟩
  · rw [← Bool.not_eq_true]
    exact not_congr (hasPossessive_fixPossessive_iff t)
  · exact fixPossessive_eq_self_iff.trans (not_congr (hasPossessive_fixPossessive_iff t))
  · intro rounds hrounds
    rw [← hasPossessive_iff]
    exact hasPossessive_iterate hrounds

/-- Two `s's` that share an `s`, with none behind them. -/
theorem possessive_settles_iff_linked :
    ¬ ['s', '\'', 's', 's'] <:+: "the boss's's table".toList ∧
      possessive.fix (possessive.fix "the boss's's table".toList)
        = possessive.fix "the boss's's table".toList ∧
      possessive.fix "the boss's's table".toList = "the boss''s table".toList := by
  have hnone : ¬ ['s', '\'', 's', 's'] <:+: "the boss's's table".toList := by decide
  obtain ⟨-, -, htwice, hfree, -⟩ := possessive_settles_iff "the boss's's table".toList
  exact ⟨hnone, htwice.2 (hfree hnone), by decide⟩

/-- The `s` behind closes up, the fix applies to its outcome and changes it again. -/
theorem possessive_closesUp :
    possessive.fix "the boss'ss table".toList = "the boss's table".toList ∧
      possessive.applies "the boss's table".toList ∧
      possessive.fix "the boss's table".toList = "the boss' table".toList := by
  decide

end Vignette.Fixer
