import Vignette.Proofs.Fixer.Tokens
import Vignette.Proofs.Span.Pairing

/-!
# `Vignette.Proofs.Fixer.Notation`: fixers, spans and tokens

No fixer writes or drops a delimiter, and a line feed only goes at the ends of a
text, where it has no span to end. So the delimiters stay paired as they were. Letters
change case at most, so a token stays a token, if perhaps of another name.

* `SameNotation`: two texts with the same delimiters, pairing and tokens but for case.
* `upcase_shoutFrom`: what is put in uppercase here and there is the same text but for
  case.
* `AtHand.sameNotation`: all fixers and their chains keep the notation of every text.
-/

set_option autoImplicit false

namespace Vignette

/-! ### Uppercase -/

namespace Text

/-- The text with its ASCII letters in uppercase. -/
def upcase (t : Text) : Text :=
  t.map Char.toUpper

theorem isLower_iff {c : Char} : c.isLower ↔ 97 ≤ c.toNat ∧ c.toNat ≤ 122 := by
  show (decide (97 ≤ c.toNat) && decide (c.toNat ≤ 122)) = true ↔ _
  rw [Bool.and_eq_true_iff, decide_eq_true_iff, decide_eq_true_iff]

theorem isAlpha_iff {c : Char} : c.isAlpha ↔ c.isUpper ∨ c.isLower :=
  Bool.or_eq_true_iff

/-- The letters from `a` to `z` become those from `A` to `Z`. -/
theorem toUpper_of_isLower {c : Char} (h : c.isLower) :
    c.toUpper.isUpper ∧ c.toUpper.isLower = false := by
  have hletters : ∀ n < 123, 97 ≤ n →
      (Char.ofNat n).toUpper.isUpper ∧ (Char.ofNat n).toUpper.isLower = false := by decide
  obtain ⟨hfirst, hlast⟩ := isLower_iff.1 h
  have hc := hletters c.toNat (Nat.lt_succ_of_le hlast) hfirst
  rwa [Char.ofNat_toNat] at hc

theorem toUpper_of_not_isLower {c : Char} (h : c.isLower = false) : c.toUpper = c :=
  dif_neg fun hcode => Bool.eq_false_iff.1 h (isLower_iff.2 hcode)

theorem isLower_toUpper (c : Char) : c.toUpper.isLower = false := by
  cases hc : c.isLower with
  | true => exact (toUpper_of_isLower hc).2
  | false => rw [toUpper_of_not_isLower hc, hc]

theorem toUpper_eq_self_iff {c : Char} : c.toUpper = c ↔ c.isLower = false := by
  constructor
  · intro h
    rw [← h]
    exact isLower_toUpper c
  · exact toUpper_of_not_isLower

/-- Only letters change, and they become letters. -/
theorem toUpper_eq_or_isAlpha (c : Char) : c.toUpper = c ∨ c.isAlpha ∧ c.toUpper.isAlpha := by
  cases hc : c.isLower with
  | true =>
      exact .inr ⟨isAlpha_iff.2 (.inr hc), isAlpha_iff.2 (.inl (toUpper_of_isLower hc).1)⟩
  | false => exact .inl (toUpper_of_not_isLower hc)

/-- A character that is no letter is in uppercase only if it was there before. -/
theorem toUpper_eq_iff {c d : Char} (hd : d.isAlpha = false) : c.toUpper = d ↔ c = d := by
  rcases toUpper_eq_or_isAlpha c with hc | ⟨hc, hupper⟩
  · rw [hc]
  · constructor
    · rintro rfl
      rw [hupper] at hd
      cases hd
    · rintro rfl
      rw [hc] at hd
      cases hd

end Text

namespace Token

theorem isWordChar_toUpper (c : Char) : isWordChar c.toUpper = isWordChar c := by
  rcases Text.toUpper_eq_or_isAlpha c with hc | ⟨hc, hupper⟩
  · rw [hc]
  · simp [isWordChar, Char.isAlphanum, hc, hupper]

/-- A text in uppercase has its tokens in uppercase. -/
theorem namesFrom_upcase (state : Option Text) (t : Text) :
    namesFrom (state.map Text.upcase) (Text.upcase t) = (namesFrom state t).map Text.upcase := by
  induction t generalizing state with
  | nil => cases state <;> rfl
  | cons c t ih =>
      have hhash : c.toUpper = '#' ↔ c = '#' := Text.toUpper_eq_iff (by decide)
      show namesFrom _ (c.toUpper :: Text.upcase t) = _
      cases state with
      | none =>
          simp only [Option.map_none, namesFrom, hhash]
          split
          · exact ih (some [])
          · exact ih none
      | some word =>
          simp only [Option.map_some, namesFrom, hhash, isWordChar_toUpper]
          split
          · -- The word is complete, its last character first.
            rw [List.map_cons, ← ih none]
            simp [Text.upcase]
          · split
            · exact ih (some (c :: word))
            · exact ih none

theorem names_upcase (t : Text) : names (Text.upcase t) = (names t).map Text.upcase :=
  namesFrom_upcase none t

end Token

namespace Span

theorem isSign_of_isAlpha {c : Char} (h : c.isAlpha) : isSign c = false := by
  rw [← Bool.not_eq_true]
  intro hsign
  simp only [isSign, isDelimiter, Bool.or_eq_true, beq_iff_eq] at hsign
  rcases hsign with (rfl | rfl) | rfl
  all_goals exact absurd h (by decide)

/-- What the scan for spans looks at has no other uppercase form. -/
theorem signs_upcase (t : Text) : signs (Text.upcase t) = signs t := by
  induction t with
  | nil => rfl
  | cons c t ih =>
      show signs (c.toUpper :: Text.upcase t) = _
      rcases Text.toUpper_eq_or_isAlpha c with hc | ⟨hc, hupper⟩
      · rw [hc]
        exact signs_cons_congr ih c
      · rw [signs_cons_of_not_isSign (isSign_of_isAlpha hupper), ih,
          signs_cons_of_not_isSign (isSign_of_isAlpha hc)]

end Span

namespace Fixer

/-- Two texts with the same spans and the same tokens, told by their delimiters and
by their names without regard to case. -/
structure SameNotation (t u : Text) : Prop where
  delimiters_eq : Span.delimiters u = Span.delimiters t
  pairing_eq : Span.pairing u = Span.pairing t
  names_eq : (Token.names u).map Text.upcase = (Token.names t).map Text.upcase

namespace SameNotation

theorem refl (t : Text) : SameNotation t t :=
  ⟨rfl, rfl, rfl⟩

theorem symm {t u : Text} (h : SameNotation t u) : SameNotation u t :=
  ⟨h.delimiters_eq.symm, h.pairing_eq.symm, h.names_eq.symm⟩

theorem trans {t u v : Text} (htu : SameNotation t u) (huv : SameNotation u v) :
    SameNotation t v where
  delimiters_eq := huv.delimiters_eq.trans htu.delimiters_eq
  pairing_eq := huv.pairing_eq.trans htu.pairing_eq
  names_eq := huv.names_eq.trans htu.names_eq

theorem of_signs {t u : Text} (hsigns : Span.signs u = Span.signs t)
    (hnames : (Token.names u).map Text.upcase = (Token.names t).map Text.upcase) :
    SameNotation t u :=
  ⟨Span.delimiters_congr hsigns, Span.pairing_congr hsigns, hnames⟩

/-- Breaks that are no delimiters can be put around a text. -/
theorem surround {front back : Text}
    (hfront : ∀ c ∈ front, Token.isBreak c ∧ Span.isDelimiter c = false)
    (hback : ∀ c ∈ back, Token.isBreak c ∧ Span.isDelimiter c = false) (t : Text) :
    SameNotation t (front ++ t ++ back) where
  delimiters_eq := by
    exact Span.delimiters_surround (fun c hc => (hfront c hc).2) (fun c hc => (hback c hc).2) t
  pairing_eq := by
    exact Span.pairing_surround (fun c hc => (hfront c hc).2) (fun c hc => (hback c hc).2) t
  names_eq := by
    have hhash : '#' ∉ front := fun hmem => absurd (hfront '#' hmem).1 (by decide)
    rw [Token.names_append_breaks fun c hc => (hback c hc).1, Token.names_append_of_not_mem hhash]

theorem names_eq_nil_iff {t u : Text} (h : SameNotation t u) :
    Token.names u = [] ↔ Token.names t = [] := by
  rw [← List.map_eq_nil_iff (f := Text.upcase), h.names_eq, List.map_eq_nil_iff]

end SameNotation

/-- The fixers that are there to be used, and chains of them of any length and depth. -/
inductive AtHand : Fixer → Prop
  | noop : AtHand noop
  | possessive : AtHand possessive
  | whitespace : AtHand whitespace
  | exclaim : AtHand exclaim
  | shout : AtHand shout
  | chain {c : Chain} : (∀ f ∈ c.members, AtHand f) → AtHand c.toFixer

/-! ### Single fixers -/

theorem signs_fixPossessive (t : Text) : Span.signs (fixPossessive t) = Span.signs t := by
  induction t using fixPossessive.induct with
  | case1 t ih => exact ih -- `s's` holds no sign.
  | case2 c t hne ih =>
      rw [fixPossessive]
      · exact Span.signs_cons_congr ih c
      · exact hne
  | case3 => rfl

theorem signs_collapseFrom (after : Bool) (t : Text) :
    Span.signs (collapseFrom after t) = Span.signs t := by
  induction t generalizing after with
  | nil => rfl
  | cons c t ih =>
      rw [collapseFrom]
      split
      · rename_i hc
        subst hc
        split
        · exact ih true
        · exact Span.signs_cons_congr (ih true) ' '
      · exact Span.signs_cons_congr (ih false) c

/-- Text that is put in uppercase in some places is the same but for case. -/
theorem upcase_shoutFrom (inside : Bool) (t : Text) :
    Text.upcase (shoutFrom inside t) = Text.upcase t := by
  induction t generalizing inside with
  | nil => rfl
  | cons c t ih =>
      rw [shoutFrom]
      -- Whatever the state, a character in uppercase is as good as the character.
      generalize (if c = '<' then true else if c = '>' then false else inside) = inside'
      show _ :: Text.upcase (shoutFrom inside' t) = _ :: Text.upcase t
      rw [ih]
      cases inside' with
      | true => rfl
      | false =>
          have hupper : c.toUpper.toUpper = c.toUpper :=
            Text.toUpper_of_not_isLower (Text.isLower_toUpper c)
          exact congrArg (· :: Text.upcase t) hupper

theorem sameNotation_possessive (t : Text) : SameNotation t (possessive.fix t) := by
  refine .of_signs (signs_fixPossessive t) ?_
  show (Token.namesFrom none (fixPossessive t)).map Text.upcase = _
  rw [namesFrom_fixPossessive]
  rfl

/-- White space is trimmed on both sides, line feeds among it, but no delimiter. -/
theorem sameNotation_trim (t : Text) : SameNotation t t.trim := by
  -- A line feed is dropped here too, so the signs do not stay the same as elsewhere.
  have hblank (c : Char) (hc : Text.isBlank c) :
      Token.isBreak c ∧ Span.isDelimiter c = false := by
    refine ⟨isBreak_of_isBlank hc, ?_⟩
    rw [← Bool.not_eq_true]
    intro hdelimiter
    simp only [Span.isDelimiter, Bool.or_eq_true, beq_iff_eq] at hdelimiter
    rcases hdelimiter with rfl | rfl
    all_goals exact absurd hc (by decide)
  obtain ⟨front, back, ht, hfront, hback⟩ := exists_trim t
  have hsame := SameNotation.surround (fun c hc => hblank c (hfront c hc))
    (fun c hc => hblank c (hback c hc)) t.trim
  rw [← ht] at hsame
  exact hsame.symm

theorem sameNotation_whitespace (t : Text) : SameNotation t (whitespace.fix t) := by
  refine (sameNotation_trim t).trans (.of_signs (signs_collapseFrom false t.trim) ?_)
  show (Token.namesFrom none (collapseFrom false t.trim)).map Text.upcase = _
  rw [(namesFrom_collapseFrom t.trim).2 none]
  rfl

/-- The marks at the end go and one comes, with no delimiter among them. -/
theorem sameNotation_exclaim (t : Text) : SameNotation t (exclaim.fix t) := by
  have hstop (c : Char) (hc : c == '.' || c == '!') :
      Token.isBreak c ∧ Span.isDelimiter c = false := by
    simp only [Bool.or_eq_true, beq_iff_eq] at hc
    rcases hc with rfl | rfl
    all_goals decide
  obtain ⟨back, ht, hback⟩ := exists_dropEndWhile (fun c => c == '.' || c == '!') t
  generalize hbody : t.dropEndWhile (fun c => c == '.' || c == '!') = body at ht
  -- The text and its outcome are the same body with another end each.
  have hbefore : SameNotation body ([] ++ body ++ back) :=
    .surround (by simp) (fun c hc => hstop c (hback c hc)) body
  have hafter : SameNotation body ([] ++ body ++ ['!']) :=
    .surround (by simp) (fun c hc => hstop c (by simp [List.mem_singleton.1 hc])) body
  show SameNotation t (t.dropEndWhile _ ++ ['!'])
  rw [hbody]
  rw [List.nil_append, ← ht] at hbefore
  exact hbefore.symm.trans hafter

theorem sameNotation_shout (t : Text) : SameNotation t (shout.fix t) := by
  refine .of_signs ?_ ?_
  · -- Through the text in uppercase, which both come to.
    show Span.signs (shoutFrom false t) = _
    rw [← Span.signs_upcase, upcase_shoutFrom, Span.signs_upcase]
  · show (Token.names (shoutFrom false t)).map Text.upcase = _
    rw [← Token.names_upcase, upcase_shoutFrom, Token.names_upcase]

/-! ### Runs and chains -/

theorem AtHand.sameNotation_fix {f : Fixer} (h : AtHand f) (t : Text) :
    SameNotation t (f.fix t) := by
  induction h generalizing t with
  | noop => exact .refl t
  | possessive => exact sameNotation_possessive t
  | whitespace => exact sameNotation_whitespace t
  | exclaim => exact sameNotation_exclaim t
  | shout => exact sameNotation_shout t
  | chain _ ih =>
      -- A chain runs its members where they apply, so each may also do nothing.
      have hrun := fun f hf => rel_run SameNotation.refl (ih f hf)
      exact Chain.rel_fix SameNotation.refl SameNotation.trans hrun t

/-- Whatever fixers at hand are chained, and however deep, the outcome has the
delimiters of the text, they pair into the same spans, and the tokens are those of the
text but for case. This goes for a fixer that is asked directly and for one that only
runs where it applies. So a text without tokens stays without. -/
theorem AtHand.keeps_notation {f : Fixer} (h : AtHand f) (t : Text) :
    SameNotation t (f.fix t) ∧ SameNotation t (f.run t) ∧
      (Token.names (f.fix t) = [] ↔ Token.names t = []) := by
  have hfix := h.sameNotation_fix t
  exact ⟨hfix, rel_run SameNotation.refl h.sameNotation_fix t, hfix.names_eq_nil_iff⟩

/-- A chain with another one among its members. -/
def loudChain : Chain :=
  ((Chain.pair whitespace possessive).add (Chain.pair exclaim shout).toFixer).add noop

/-- The line feed at the start goes and the one in the middle stays, so the third
delimiter waits in vain for the fourth as before. -/
theorem keeps_notation_loudChain :
    loudChain.toFixer.fix "\n <it>  is the cats's <b\nx> #tea#<, <#tea#>.. ".toList
        = "<it> IS THE CATS' <b\nx> #TEA#<, <#tea#>!".toList ∧
      Span.pairing "<it> IS THE CATS' <b\nx> #TEA#<, <#tea#>!".toList = [(0, 1), (4, 6)] ∧
      Token.names "<it> IS THE CATS' <b\nx> #TEA#<, <#tea#>!".toList ≠ [] := by
  have hinner : AtHand (Chain.pair exclaim shout).toFixer :=
    .chain (by simp [Chain.pair, AtHand.exclaim, AtHand.shout])
  have hchain : AtHand loudChain.toFixer := by
    refine .chain fun f hf => ?_
    simp only [loudChain, Chain.add, Chain.pair, List.mem_append, List.mem_cons, List.not_mem_nil,
      or_false, or_assoc] at hf
    rcases hf with rfl | rfl | rfl | rfl
    · exact .whitespace
    · exact .possessive
    · exact hinner
    · exact .noop
  have hfix : loudChain.toFixer.fix "\n <it>  is the cats's <b\nx> #tea#<, <#tea#>.. ".toList
      = "<it> IS THE CATS' <b\nx> #TEA#<, <#tea#>!".toList := by decide +kernel
  obtain ⟨hsame, -, hnames⟩ :=
    hchain.keeps_notation "\n <it>  is the cats's <b\nx> #tea#<, <#tea#>.. ".toList
  rw [hfix] at hsame hnames
  refine ⟨hfix, ?_, ?_⟩
  · rw [hsame.pairing_eq]
    decide
  · rw [Ne, hnames]
    decide

end Fixer

end Vignette
