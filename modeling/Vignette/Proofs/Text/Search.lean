import Mathlib.Data.List.Basic
import Vignette.Text

/-!
# `Vignette.Proofs.Text.Search`: where a pattern first occurs

`Text.splitFirst?` tries the positions of a text from left to right. The lemmas
say what one position decides: the pattern stands there and the search ends, or
it does not and the search moves on by one character.
-/

set_option autoImplicit false

namespace Vignette.Text

theorem isPrefixOf?_eq_none {p t : Text} (h : ¬ p <+: t) : p.isPrefixOf? t = none := by
  cases hsplit : p.isPrefixOf? t with
  | none => rfl
  | some rest => exact absurd ⟨rest, List.isPrefixOf?_eq_some_iff_append_eq.1 hsplit⟩ h

/-- A pattern that stands at the front is found there. -/
theorem splitFirst?_append {p : Text} (hp : p ≠ []) (rest : Text) :
    splitFirst? p (p ++ rest) = some ([], rest) := by
  cases p with
  | nil => exact absurd rfl hp
  | cons c p =>
      have hfront : (c :: p).isPrefixOf? (c :: (p ++ rest)) = some rest :=
        List.isPrefixOf?_eq_some_iff_append_eq.2 rfl
      rw [List.cons_append, splitFirst?, hfront]

/-- A pattern that does not stand at the front is sought behind it. -/
theorem splitFirst?_cons_of_not_prefix {p : Text} {c : Char} {t : Text} (h : ¬ p <+: c :: t) :
    splitFirst? p (c :: t) = (splitFirst? p t).map fun s => (c :: s.1, s.2) := by
  rw [splitFirst?, isPrefixOf?_eq_none h]

/-- The search passes over characters other than the first one of the pattern. -/
theorem splitFirst?_skip {c : Char} (p : Text) {skipped : Text} (h : c ∉ skipped) (t : Text) :
    splitFirst? (c :: p) (skipped ++ t)
      = (splitFirst? (c :: p) t).map fun s => (skipped ++ s.1, s.2) := by
  induction skipped with
  | nil => simp
  | cons d skipped ih =>
      have hne : c ≠ d := fun heq => h (by simp [heq])
      have hnot : ¬ c :: p <+: d :: (skipped ++ t) := by
        intro hprefix
        exact hne (List.cons_prefix_cons.1 hprefix).1
      rw [List.cons_append, splitFirst?_cons_of_not_prefix hnot,
        ih fun hmem => h (List.mem_cons_of_mem d hmem), Option.map_map]
      rfl

/-- A pattern is found exactly in the texts in which it occurs. -/
theorem contains_iff_infix {p t : Text} (hp : p ≠ []) : contains p t ↔ p <:+: t := by
  induction t with
  | nil => simp [contains, splitFirst?, hp]
  | cons c t ih =>
      rw [List.infix_cons_iff, ← ih]
      by_cases hfront : p <+: c :: t
      · obtain ⟨rest, hrest⟩ := hfront
        rw [← hrest]
        simp [contains, splitFirst?_append hp]
      · simp [contains, splitFirst?_cons_of_not_prefix hfront, hfront]

/-- What the search finds starts no later than any other occurrence. -/
theorem length_le_of_splitFirst? {p before rest x y : Text} (hp : p ≠ [])
    (h : splitFirst? p (before ++ p ++ rest) = some (x, y)) : x.length ≤ before.length := by
  induction before generalizing x y with
  | nil =>
      rw [List.nil_append, splitFirst?_append hp] at h
      cases h
      exact Nat.le_refl 0
  | cons c before ih =>
      -- Either the pattern is found at once, or both have one character in front.
      by_cases hfront : p <+: c :: (before ++ p ++ rest)
      · obtain ⟨rest', hrest⟩ := hfront
        rw [List.cons_append, List.cons_append, ← hrest, splitFirst?_append hp] at h
        cases h
        exact Nat.zero_le _
      · rw [List.cons_append, List.cons_append, splitFirst?_cons_of_not_prefix hfront] at h
        obtain ⟨⟨x', y'⟩, hlater, heq⟩ := Option.map_eq_some_iff.1 h
        cases heq
        exact Nat.succ_le_succ (ih hlater)

/-- The search splits the text around an occurrence of the pattern. -/
theorem eq_of_splitFirst? {p t x y : Text} (h : splitFirst? p t = some (x, y)) :
    t = x ++ p ++ y := by
  induction t generalizing x y with
  | nil =>
      rw [splitFirst?, Option.ite_none_right_eq_some] at h
      obtain ⟨hp, heq⟩ := h
      cases heq
      rw [List.isEmpty_iff.1 hp]
      rfl
  | cons c t ih =>
      by_cases hfront : p <+: c :: t
      · obtain ⟨rest, hrest⟩ := hfront
        rw [splitFirst?, List.isPrefixOf?_eq_some_iff_append_eq.2 hrest] at h
        cases h
        exact hrest.symm
      · rw [ splitFirst?_cons_of_not_prefix hfront] at h
        obtain ⟨⟨x', y'⟩, hlater, heq⟩ := Option.map_eq_some_iff.1 h
        cases heq
        rw [ih hlater]
        rfl

/-- Where the pattern occurs the search finds it, there or earlier, and what stands
behind that occurrence stands behind what is found. -/
theorem exists_splitFirst? {p : Text} (hp : p ≠ []) (before rest : Text) :
    ∃ x y, splitFirst? p (before ++ p ++ rest) = some (x, y ++ rest) ∧
      x.length ≤ before.length := by
  have hfound : contains p (before ++ p ++ rest) :=
    ( contains_iff_infix hp).2 ⟨before, rest, rfl⟩
  obtain ⟨⟨x, z⟩, hsplit⟩ := Option.isSome_iff_exists.1 hfound
  have hle := length_le_of_splitFirst? hp hsplit
  have heq := eq_of_splitFirst? hsplit
  -- Both parts end the text, and the one found is no shorter.
  have hlength := congrArg List.length heq
  simp only [List.length_append] at hlength
  have hrest : rest <:+ before ++ p ++ rest := List.suffix_append _ rest
  have hz : z <:+ before ++ p ++ rest := heq ▸ List.suffix_append _ z
  obtain ⟨y, rfl⟩ := List.suffix_of_suffix_length_le hrest hz (by omega)
  exact ⟨x, y, hsplit, hle⟩

end Vignette.Text
