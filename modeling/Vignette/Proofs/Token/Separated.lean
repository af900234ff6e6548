import Mathlib.Data.List.Chain
import Vignette.Proofs.Token.Bridge

/-!
# `Vignette.Proofs.Token.Separated`: fragments whose tokens cannot be mistaken

In a separated fragment every `#` belongs to a token, and every token stands at
the start or behind a character that cannot end a word. The text between two
tokens then never reads as a token, so a search for the text of a token hits a
token.

* `Separated.not_bridged`: no bridge is in the way of the search.
* `Separated.replaceFirst_of_mem`: writing a separated text over what the search
  finds replaces one nonterminal by the symbols of that text.
* `Over.replaceFirst`: separated fragments over a set of categories stay such
  fragments when their tokens are replaced by such fragments.
-/

set_option autoImplicit false

namespace Vignette.Token

open Symbol (terminal nonterminal)

/-- Whether a symbol is a token. -/
def isToken : Symbol Char Name → Bool
  | .terminal _ => false
  | .nonterminal _ => true

/-- Whether a symbol is a character that is neither `#` nor part of a word. -/
def isGap : Symbol Char Name → Bool
  | .terminal c => c != '#' && !isWordChar c
  | .nonterminal _ => false

/-- A token needs a gap in front of it. -/
def Apart (a b : Symbol Char Name) : Prop :=
  isToken b → isGap a

instance (a b : Symbol Char Name) : Decidable (Apart a b) :=
  inferInstanceAs (Decidable (_ → _))

/-- Every `#` of the fragment delimits a token, and every token stands at the
start or directly behind a character that is neither `#` nor part of a word. -/
def Separated (fragment : Text) : Prop :=
  terminal '#' ∉ symbols fragment ∧ (symbols fragment).IsChain Apart

instance (fragment : Text) : Decidable (Separated fragment) :=
  inferInstanceAs (Decidable (_ ∧ _))

/-! ### Strings of separated symbols -/

/-- The symbols of a separated fragment. -/
structure Spaced (ss : List (Symbol Char Name)) : Prop extends Clean ss where
  apart : ss.IsChain Apart

theorem Separated.spaced {t : Text} (h : Separated t) : Spaced (symbols t) where
  toClean := clean_symbols h.1
  apart := h.2

theorem Spaced.symbols_spell {ss : List (Symbol Char Name)} (h : Spaced ss) :
    symbols (spell ss) = ss :=
  Token.symbols_spell h.toClean

theorem Spaced.separated {ss : List (Symbol Char Name)} (h : Spaced ss) : Separated (spell ss) := by
  refine ⟨paired_spell h.toClean, ?_⟩
  rw [h.symbols_spell]
  exact h.apart

/-- A fragment that consists of one token. -/
theorem spaced_singleton {name : Name} (h : IsWord name) : Spaced [nonterminal name] where
  terminal_ne c hc := by simp at hc
  isWord n hn := by
    cases List.mem_singleton.1 hn
    exact h
  apart := .singleton _

/-- Nothing but characters may stand behind a token. -/
theorem not_isToken_head {name : Name} {v : List (Symbol Char Name)}
    (h : (nonterminal name :: v).IsChain Apart) : ∀ s ∈ v.head?, isToken s = false := by
  intro s hs
  have happart : Apart (nonterminal name) s := (List.isChain_cons.1 h).1 s hs
  cases htok : isToken s with
  | false => rfl
  | true => exact absurd (happart htok) (by simp [isGap])

/-- Separated symbols may take the place of a token among separated symbols. -/
theorem Spaced.splice {u v ss : List (Symbol Char Name)} {name : Name}
    (h : Spaced (u ++ nonterminal name :: v)) (hs : Spaced ss) : Spaced (u ++ ss ++ v) where
  toClean := by
    have hu : Clean u := h.of_subset (List.subset_append_left u _)
    have hv : Clean v := h.of_subset fun s hmem => by simp [hmem]
    exact (hu.append hs.toClean).append hv
  apart := by
    -- The joints are in front of `ss` and behind it.
    obtain ⟨hu, htail, hjoint⟩ := List.isChain_append.1 h.apart
    have hv : v.IsChain Apart := htail.tail
    have hhead := not_isToken_head htail
    -- What starts `v` is no token, so nothing is asked of what ends in front of it.
    have hss : (ss ++ v).IsChain Apart := by
      refine hs.apart.append hv fun a _ b hb htok => ?_
      rw [hhead b hb] at htok
      cases htok
    rw [List.append_assoc]
    refine hu.append hss fun a ha b hb htok => ?_
    cases ss with
    | nil =>
        rw [hhead b hb] at htok
        cases htok
    | cons s ss => exact hjoint a ha (nonterminal name) rfl rfl

/-! ### No bridges -/

/-- Behind a symbol that is no gap, a word is not followed by a token. -/
theorem not_isChain_word {x : Symbol Char Name} {name b : Name} {v : List (Symbol Char Name)}
    (hx : isGap x = false) (hname : IsWord name) :
    ¬ (x :: (name.map terminal ++ nonterminal b :: v)).IsChain Apart := by
  intro happart
  induction name generalizing x with
  | nil =>
      have hgap : isGap x := (List.isChain_cons_cons.1 happart).1 rfl
      rw [hx] at hgap
      cases hgap
  | cons c name ih =>
      -- A word character is no gap either, so the next one stands as `x` did.
      have hc : isWordChar c := hname c (by simp)
      have hgap : isGap (terminal c : Symbol Char Name) = false := by simp [isGap, hc]
      exact ih hgap (fun d hd => hname d (List.mem_cons_of_mem c hd))
        (List.isChain_cons_cons.1 happart).2

/-- No name stands between two tokens. -/
theorem Separated.not_bridged {t : Text} {name : Name} (ht : Separated t) (hname : IsWord name) :
    ¬ Bridged name t := by
  rintro ⟨u, a, b, v, hsplit, -⟩
  have happart := ht.2
  rw [hsplit] at happart
  exact not_isChain_word rfl hname (List.isChain_append.1 happart).2.1

/-! ### Replacing the first occurrence -/

/-- Writing over the text of a token that is not there changes nothing. -/
theorem Separated.replaceFirst_of_not_mem {t : Text} {name : Name} (ht : Separated t)
    (hname : IsWord name) (h : name ∉ names t) (candidate : Text) :
    t.replaceFirst (render name) candidate = t := by
  -- There is no token to hit, and separated fragments have no bridges.
  rcases hits_cases ht.1 hname with htoken | hbridge | ⟨-, hnone⟩
  · obtain ⟨u, v, hsplit, -⟩ := htoken
    exact absurd (mem_names_iff.2 (by simp [hsplit])) h
  · exact absurd (bridged_of_hitsBridge hbridge) (ht.not_bridged hname)
  · simp [Text.replaceFirst, hnone]

/-- Writing a separated text over the first occurrence of a token's text puts
its symbols in the place of one nonterminal. -/
theorem Separated.replaceFirst_of_mem {t : Text} {name : Name} (ht : Separated t)
    (h : name ∈ names t) :
    ∃ u v, symbols t = u ++ nonterminal name :: v ∧ ∀ candidate, Separated candidate →
      Separated (t.replaceFirst (render name) candidate) ∧
        symbols (t.replaceFirst (render name) candidate) = u ++ symbols candidate ++ v := by
  obtain ⟨u, v, hsplit, hsearch⟩ :=
    (hitsToken_iff_not_bridged ht.1 h).2 (ht.not_bridged (isWord_of_mem_names h))
  have hspaced : Spaced (u ++ nonterminal name :: v) := hsplit ▸ ht.spaced
  refine ⟨u, v, hsplit, fun candidate hc => ?_⟩
  have hresult : t.replaceFirst (render name) candidate = spell (u ++ symbols candidate ++ v) := by
    simp [Text.replaceFirst, hsearch]
  have hspliced := hspaced.splice hc.spaced
  rw [hresult]
  exact ⟨hspliced.separated, hspliced.symbols_spell⟩

/-! ### Separated fragments over a set of categories -/

/-- A separated fragment whose tokens all name categories of `S`. -/
structure Over (S : Name → Prop) (t : Text) : Prop where
  separated : Separated t
  names : ∀ name ∈ Token.names t, S name

theorem Over.replaceFirst {S : Name → Prop} {t candidate : Text} {name : Name} (ht : Over S t)
    (hc : Over S candidate) (hname : IsWord name) :
    Over S (t.replaceFirst (render name) candidate) := by
  by_cases hmem : name ∈ Token.names t
  · obtain ⟨u, v, hsplit, hreplace⟩ := ht.separated.replaceFirst_of_mem hmem
    obtain ⟨hsep, hsymbols⟩ := hreplace candidate hc.separated
    refine ⟨hsep, fun n hn => ?_⟩
    -- A name comes from around the token or from what is written for it.
    have hold (s : List (Symbol Char Name)) (hs : s ⊆ symbols t) (hin : nonterminal n ∈ s) : S n :=
      ht.names n (mem_names_iff.2 (hs hin))
    rw [mem_names_iff, hsymbols, List.append_assoc, List.mem_append, List.mem_append] at hn
    rcases hn with hn | hn | hn
    · exact hold u (by simp [hsplit]) hn
    · exact hc.names n (mem_names_iff.2 hn)
    · exact hold v (fun x hx => by simp [hsplit, hx]) hn
  · rw [ht.separated.replaceFirst_of_not_mem hname hmem]
    exact ht

end Vignette.Token
