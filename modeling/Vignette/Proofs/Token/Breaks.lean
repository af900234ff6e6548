import Vignette.Proofs.Token.Symbols

/-!
# `Vignette.Proofs.Token.Breaks`: what the scan for tokens forgets

A character that is neither `#` nor part of a word puts the scan back into its
first state, whatever stands in front of it. So such characters can be added and
dropped at many places without a token coming or going.

* `namesFrom_break`: the state behind such a character.
* `names_append_breaks`, `names_append_of_not_mem`: they do not matter at the ends.
* `names_eq_nil_iff_not_infix`: a text has no tokens exactly when the text of no
  token occurs in it.
-/

set_option autoImplicit false

namespace Vignette.Token

open Symbol (terminal nonterminal)

/-- Whether `c` ends every word and is part of no token. -/
def isBreak (c : Char) : Bool :=
  c != '#' && !isWordChar c

theorem isBreak_iff {c : Char} : isBreak c ↔ c ≠ '#' ∧ isWordChar c = false := by
  simp [isBreak]

/-- A word holds ASCII letters, digits and `_` only. -/
theorem toNat_of_isWordChar {c : Char} (h : isWordChar c) :
    (48 ≤ c.toNat ∧ c.toNat ≤ 57) ∨ (65 ≤ c.toNat ∧ c.toNat ≤ 90) ∨ c.toNat = 95 ∨
      (97 ≤ c.toNat ∧ c.toNat ≤ 122) := by
  have hranges : (decide (c.val ≥ 65 ∧ c.val ≤ 90) ||
      decide (c.val ≥ 97) && decide (c.val ≤ 122) ||
      decide (c.val ≥ 48) && decide (c.val ≤ 57) || c == '_') = true := h
  simp only [Bool.or_eq_true, beq_iff_eq, Bool.and_eq_true, decide_eq_true_eq, ge_iff_le,
    UInt32.le_iff_toNat_le, UInt32.reduceToNat] at hranges
  rcases hranges with hrange | rfl
  · simp only [Char.toNat]
    omega
  · decide

/-- Behind a break the scan starts anew. -/
theorem namesFrom_break {c : Char} (h : isBreak c) (state : Option Text) (t : Text) :
    namesFrom state (c :: t) = namesFrom none t := by
  obtain ⟨hc, hword⟩ := isBreak_iff.1 h
  cases state with
  | none => rw [namesFrom, if_neg hc]
  | some word =>
      rw [namesFrom, if_neg hc, if_neg]
      simp [hword]

/-- The same character in front keeps the names of two texts the same. -/
theorem namesFrom_cons_congr {t u : Text} (h : ∀ state, namesFrom state t = namesFrom state u)
    (state : Option Text) (c : Char) : namesFrom state (c :: t) = namesFrom state (c :: u) := by
  cases state with
  | none => simp only [namesFrom, h]
  | some word => simp only [namesFrom, h]

/-- Breaks hold no token, whatever stands in front of them. -/
theorem namesFrom_breaks {u : Text} (h : ∀ c ∈ u, isBreak c) (state : Option Text) :
    namesFrom state u = [] := by
  induction u generalizing state with
  | nil => cases state <;> rfl
  | cons c u ih =>
      rw [namesFrom_break (h c List.mem_cons_self)]
      exact ih (fun d hd => h d (List.mem_cons_of_mem c hd)) none

theorem namesFrom_append_breaks {u : Text} (h : ∀ c ∈ u, isBreak c) (state : Option Text)
    (t : Text) : namesFrom state (t ++ u) = namesFrom state t := by
  induction t generalizing state with
  | nil =>
      rw [List.nil_append, namesFrom_breaks h]
      cases state <;> rfl
  | cons c t ih => exact namesFrom_cons_congr ih state c

theorem names_append_breaks {u : Text} (h : ∀ c ∈ u, isBreak c) (t : Text) :
    names (t ++ u) = names t :=
  namesFrom_append_breaks h none t

/-- No token starts in front of the first `#`. -/
theorem names_append_of_not_mem {u : Text} (h : '#' ∉ u) (t : Text) : names (u ++ t) = names t := by
  induction u with
  | nil => rfl
  | cons c u ih =>
      have hc : c ≠ '#' := fun heq => h (by simp [heq])
      rw [← ih fun hmem => h (List.mem_cons_of_mem c hmem)]
      show namesFrom none (c :: (u ++ t)) = _
      rw [namesFrom, if_neg hc]
      rfl

theorem names_of_not_mem {t : Text} (h : '#' ∉ t) : names t = [] := by
  have hread := names_append_of_not_mem h []
  rwa [List.append_nil] at hread

/-! ### The text of a token -/

/-- Where the text of a token occurs the scan finds some token, though not always
this one: its first `#` may close another token. -/
theorem namesFrom_ne_nil_of_render {name : Name} (h : IsWord name) (state : Option Text)
    (before after : Text) : namesFrom state (before ++ (render name ++ after)) ≠ [] := by
  induction before generalizing state with
  | nil =>
      cases state with
      | none =>
          show names (render name ++ after) ≠ []
          rw [names_render_append h]
          exact List.cons_ne_nil _ _
      -- The first `#` closes another token instead.
      | some word => exact List.cons_ne_nil _ _
  | cons c before ih =>
      rw [List.cons_append]
      cases state with
      | none =>
          rw [namesFrom]
          split
          · exact ih _
          · exact ih _
      | some word =>
          rw [namesFrom]
          split
          · exact List.cons_ne_nil _ _
          · split
            · exact ih _
            · exact ih _

/-- A text has no tokens exactly when the text of no token occurs in it. -/
theorem names_eq_nil_iff_not_infix {t : Text} :
    names t = [] ↔ ∀ name, IsWord name → ¬ render name <:+: t := by
  constructor
  · rintro hnames name hname ⟨before, after, rfl⟩
    rw [List.append_assoc] at hnames
    exact namesFrom_ne_nil_of_render hname none before after hnames
  · intro h
    rw [List.eq_nil_iff_forall_not_mem]
    intro name hmem
    obtain ⟨u, v, hsplit⟩ := List.append_of_mem (mem_names_iff.1 hmem)
    refine h name (isWord_of_mem_names hmem) ⟨spell u, spell v, ?_⟩
    rw [← spell_symbols t, hsplit]
    simp [spellSymbol]

end Vignette.Token
