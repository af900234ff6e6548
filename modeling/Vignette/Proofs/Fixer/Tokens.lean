import Mathlib.Data.List.TakeWhile
import Vignette.Fixer.Chain
import Vignette.Proofs.Token.Breaks

/-!
# `Vignette.Proofs.Fixer.Tokens`: fixers and the tokens of a text

The fixers at hand only drop characters: an `s` behind an apostrophe, a space
behind a space and white space at the ends. Each of them stands behind a break or
is one, so no token comes or goes.

* `BuiltIn`: the fixers at hand and their chains.
* `BuiltIn.tidied`: they add nothing and keep the tokens of every text.
-/

set_option autoImplicit false

namespace Vignette.Fixer

open Token (names namesFrom isBreak)

/-- The fixers at hand, and chains of them of any length and depth. -/
inductive BuiltIn : Fixer → Prop
  | noop : BuiltIn noop
  | possessive : BuiltIn possessive
  | whitespace : BuiltIn whitespace
  | chain {c : Chain} : (∀ f ∈ c.members, BuiltIn f) → BuiltIn c.toFixer

/-! ### The possessive of a plural -/

theorem fixPossessive_sublist (t : Text) : (fixPossessive t).Sublist t := by
  induction t using fixPossessive.induct with
  | case1 t ih => exact ((ih.cons 's').cons_cons '\'').cons_cons 's'
  | case2 c t hne ih =>
      rw [fixPossessive]
      · exact ih.cons_cons c
      · exact hne
  | case3 => exact .slnil

/-- The `s` that goes stands behind an apostrophe, and so in no token. -/
theorem namesFrom_fixPossessive (state : Option Text) (t : Text) :
    namesFrom state (fixPossessive t) = namesFrom state t := by
  induction t using fixPossessive.induct generalizing state with
  | case1 t ih =>
      have hquote : isBreak '\'' := by decide
      -- In front of the apostrophe the texts are the same.
      have hrest (state : Option Text) :
          namesFrom state ('\'' :: fixPossessive t) = namesFrom state ('\'' :: 's' :: t) := by
        rw [Token.namesFrom_break hquote, Token.namesFrom_break hquote, ih, namesFrom,
          if_neg (by decide)]
      rw [fixPossessive]
      exact Token.namesFrom_cons_congr hrest state 's'
  | case2 c t hne ih =>
      rw [fixPossessive]
      · exact Token.namesFrom_cons_congr ih state c
      · exact hne
  | case3 => rfl

/-! ### White space -/

theorem isBreak_space : isBreak ' ' := by decide

theorem isBreak_of_isBlank {c : Char} (h : Text.isBlank c) : isBreak c := by
  rw [Token.isBreak_iff]
  constructor
  · rintro rfl
    exact absurd h (by decide)
  · cases hword : Token.isWordChar c with
    | false => rfl
    | true =>
        have hcode := Token.toNat_of_isWordChar hword
        simp only [Text.isBlank, Bool.or_eq_true, Bool.and_eq_true, decide_eq_true_eq,
          beq_iff_eq] at h
        omega

theorem collapseFrom_sublist (after : Bool) (t : Text) : (collapseFrom after t).Sublist t := by
  induction t generalizing after with
  | nil => exact .slnil
  | cons c t ih =>
      rw [collapseFrom]
      split
      · rename_i hc
        subst hc
        split
        · exact (ih true).cons ' '
        · exact (ih true).cons_cons ' '
      · exact (ih false).cons_cons c

/-- Behind a space the scan is in its first state, so another one changes
nothing. -/
theorem namesFrom_collapseFrom (t : Text) :
    namesFrom none (collapseFrom true t) = namesFrom none t ∧
      ∀ state, namesFrom state (collapseFrom false t) = namesFrom state t := by
  induction t with
  | nil => exact ⟨rfl, fun state => rfl⟩
  | cons c t ih =>
      by_cases hc : c = ' '
      · subst hc
        have hkeep (state : Option Text) :
            namesFrom state (' ' :: collapseFrom true t) = namesFrom state (' ' :: t) := by
          rw [Token.namesFrom_break isBreak_space, Token.namesFrom_break isBreak_space, ih.1]
        constructor
        · rw [collapseFrom, if_pos rfl, if_pos rfl, ih.1, Token.namesFrom_break isBreak_space]
        · intro state
          rw [collapseFrom, if_pos rfl, if_neg (by decide)]
          exact hkeep state
      · have hkeep (after : Bool) (state : Option Text) :
            namesFrom state (collapseFrom after (c :: t)) = namesFrom state (c :: t) := by
          rw [collapseFrom, if_neg hc]
          exact Token.namesFrom_cons_congr ih.2 state c
        exact ⟨hkeep true none, hkeep false⟩

/-- What goes at the end of a text goes as one stretch. -/
theorem exists_dropEndWhile (p : Char → Bool) (t : Text) :
    ∃ back, t = t.dropEndWhile p ++ back ∧ ∀ c ∈ back, p c := by
  refine ⟨(t.reverse.takeWhile p).reverse, ?_, ?_⟩
  · rw [Text.dropEndWhile, ← List.reverse_append, List.takeWhile_append_dropWhile,
      List.reverse_reverse]
  · exact fun c hc => List.mem_takeWhile_imp (List.mem_reverse.1 hc)

/-- White space at the ends is dropped as one stretch each. -/
theorem exists_trim (t : Text) :
    ∃ front back, t = front ++ t.trim ++ back ∧ (∀ c ∈ front, Text.isBlank c) ∧
      ∀ c ∈ back, Text.isBlank c := by
  obtain ⟨back, hrest, hback⟩ := exists_dropEndWhile Text.isBlank (t.dropWhile Text.isBlank)
  refine ⟨t.takeWhile Text.isBlank, back, ?_, ?_, hback⟩
  · rw [Text.trim, List.append_assoc, ← hrest, List.takeWhile_append_dropWhile]
  · exact fun c hc => List.mem_takeWhile_imp hc

theorem names_trim (t : Text) : names t.trim = names t := by
  obtain ⟨front, back, ht, hfront, hback⟩ := exists_trim t
  have hhash : '#' ∉ front := fun hmem => absurd (hfront '#' hmem) (by decide)
  conv_rhs => rw [ht]
  rw [Token.names_append_breaks fun c hc => isBreak_of_isBlank (hback c hc),
    Token.names_append_of_not_mem hhash]

theorem trim_sublist (t : Text) : t.trim.Sublist t := by
  obtain ⟨front, back, ht, -, -⟩ := exists_trim t
  conv_rhs => rw [ht]
  exact (List.sublist_append_right front _).trans (List.sublist_append_left _ back)

/-! ### Runs and chains -/

section
variable {R : Text → Text → Prop} (hrefl : ∀ t, R t t)
include hrefl

/-- A fixer that does not apply leaves the text alone. -/
theorem rel_run {f : Fixer} (h : ∀ t, R t (f.fix t)) (t : Text) : R t (f.run t) := by
  unfold Fixer.run
  split
  · exact h t
  · exact hrefl t

/-- What relates each member's text to its outcome relates the chain's. -/
theorem Chain.rel_fix (htrans : ∀ {t u v}, R t u → R u v → R t v) {c : Chain}
    (h : ∀ f ∈ c.members, ∀ t, R t (f.run t)) (t : Text) : R t (c.fix t) := by
  unfold Chain.fix
  generalize c.members = members at h
  induction members generalizing t with
  | nil => exact hrefl t
  | cons f members ih =>
      have hfirst := h f List.mem_cons_self t
      exact htrans hfirst (ih (f.run t) fun f' hf' => h f' (List.mem_cons_of_mem f hf'))

end

/-- The second text is the first one less some characters, with the same tokens. -/
structure Tidied (t u : Text) : Prop where
  sublist : u.Sublist t
  names_eq : names u = names t

theorem Tidied.refl (t : Text) : Tidied t t :=
  ⟨List.Sublist.refl t, rfl⟩

theorem Tidied.trans {t u v : Text} (htu : Tidied t u) (huv : Tidied u v) : Tidied t v :=
  ⟨huv.sublist.trans htu.sublist, huv.names_eq.trans htu.names_eq⟩

/-- The fixers at hand and their chains drop characters and keep the tokens. -/
theorem BuiltIn.tidied {f : Fixer} (h : BuiltIn f) (t : Text) : Tidied t (f.run t) := by
  induction h generalizing t with
  | noop => exact rel_run Tidied.refl Tidied.refl t
  | possessive =>
      refine rel_run Tidied.refl (fun t => ⟨?_, ?_⟩) t
      · exact fixPossessive_sublist t
      · exact namesFrom_fixPossessive none t
  | whitespace =>
      refine rel_run Tidied.refl (fun t => ⟨?_, ?_⟩) t
      · exact (collapseFrom_sublist false t.trim).trans (trim_sublist t)
      · exact ((namesFrom_collapseFrom t.trim).2 none).trans (names_trim t)
  | chain _ ih => exact rel_run Tidied.refl (Chain.rel_fix Tidied.refl Tidied.trans ih) t

end Vignette.Fixer
