import Vignette.Proofs.Expansion.Choices
import Vignette.Proofs.Expansion.Rewriting
import Vignette.Proofs.Text.Search

/-!
# `Vignette.Proofs.Expansion.Intact`: what a pass has not reached yet

A replacement may hit something that an earlier one has written, or that two of them
have put together, so little can be said about the front of the text. But it never hits
behind the token that it is meant for: from that token on the text is as it was when the
pass began. So the token is there to be found, and no draw is wasted.

* `exists_rewrites`: the invariant, over the tokens of a pass one after another.
* `pass_wastes_no_draw`: where each search hits, and how many choices a pass makes.
-/

set_option autoImplicit false

namespace Vignette.Expansion

open Symbol (terminal nonterminal)

/-- The candidates are written one after another over what the search finds for the
names, and it finds something for each of them. -/
inductive Rewrites : List Name → List Text → Text → Text → Prop
  | nil (t : Text) : Rewrites [] [] t t
  | cons {name : Name} {names : List Name} {candidate : Text} {candidates : List Text}
      {t before rest u : Text} :
      Text.splitFirst? (Token.render name) t = some (before, rest) →
      Rewrites names candidates (before ++ candidate ++ rest) u →
      Rewrites (name :: names) (candidate :: candidates) t u

theorem Rewrites.overwrite_eq {names : List Name} {candidates : List Text} {t u : Text}
    (h : Rewrites names candidates t u) : overwrite names candidates t = u := by
  induction h with
  | nil t => rfl
  | cons hsplit _ ih =>
      rw [overwrite, Text.replaceFirst, hsplit]
      exact ih

/-- The search for a token that stands in the text finds it or something in front of it,
and leaves what is behind the token alone. -/
theorem exists_splitFirst?_render (front : Text) (name : Name) (ss : List (Symbol Char Name)) :
    ∃ before between,
      Text.splitFirst? (Token.render name) (front ++ Token.spell (nonterminal name :: ss))
        = some (before, between ++ Token.spell ss) ∧
      before.length ≤ front.length := by
  rw [Token.spell_cons, Token.spellSymbol, ← List.append_assoc]
  exact Text.exists_splitFirst? (List.cons_ne_nil _ _) front (Token.spell ss)

/-- Writing over the tokens of `u` finds all of them and does not reach `v`. -/
theorem exists_rewrites (u v : List (Symbol Char Name)) (front : Text) {candidates : List Text}
    (h : candidates.length = (u.filterMap Token.name?).length) :
    ∃ front', Rewrites (u.filterMap Token.name?) candidates (front ++ Token.spell (u ++ v))
      (front' ++ Token.spell v) := by
  induction u generalizing front candidates with
  | nil =>
      cases List.eq_nil_of_length_eq_zero h
      exact ⟨front, .nil _⟩
  | cons symbol u ih =>
      cases symbol with
      | terminal c =>
          -- Plain text joins what has been passed.
          obtain ⟨front', hrewrites⟩ := ih (front ++ [c]) h
          rw [List.append_assoc] at hrewrites
          exact ⟨front', hrewrites⟩
      | nonterminal name =>
          cases candidates with
          | nil => cases h
          | cons candidate candidates =>
              obtain ⟨before, between, hsplit, -⟩ := exists_splitFirst?_render front name (u ++ v)
              obtain ⟨front', hrewrites⟩ :=
                ih (before ++ candidate ++ between) (Nat.succ.inj h)
              rw [List.append_assoc] at hrewrites
              exact ⟨front', .cons hsplit hrewrites⟩

section
variable {σ : Type}

/-- When a pass comes to the name of a token, the text still ends as it did from that
token on, so the search finds the name there or earlier. A pass that is completed has made
one choice for each name collected, in order, and one replacement for each choice. An
expansion that no fault breaks off has made as many choices as its passes have resolved
tokens. -/
theorem pass_wastes_no_draw (ch : Chooser σ) (g : Grammar) (t : Text) (s : σ) :
    (∀ u name v w s', Token.symbols t = u ++ nonterminal name :: v →
      resolve ch g (u.filterMap Token.name?) t s = (.ok w, s') →
      resolve ch g (Token.names t) t s = resolve ch g (name :: v.filterMap Token.name?) w s' ∧
        ∃ front before rest, w = front ++ Token.spell (nonterminal name :: v) ∧
          Text.splitFirst? (Token.render name) w = some (before, rest) ∧
          before.length ≤ front.length) ∧
    (∀ w s', resolve ch g (Token.names t) t s = (.ok w, s') →
      ∃ choices candidates, choices.length = (Token.names t).length ∧
        Drawn g (Token.names t) choices candidates ∧
        Rewrites (Token.names t) candidates t w ∧
        ∀ made, resolve ch.recorded g (Token.names t) t (s, made)
          = (.ok w, s', made ++ choices)) ∧
    (∀ limit, Unbroken limit (expand ch g limit t s).1.outcome →
      ∃ choices, choices.length = (expand ch g limit t s).1.passes.sum ∧
        expand ch.recorded g limit t (s, [])
          = ((expand ch g limit t s).1, (expand ch g limit t s).2, choices)) := by
  refine ⟨?_, ?_, ?_⟩
  · intro u name v w s' hsymbols hrun
    have hnames : Token.names t = u.filterMap Token.name? ++ name :: v.filterMap Token.name? := by
      rw [Token.names_eq, hsymbols, List.filterMap_append]
      rfl
    refine ⟨by rw [hnames, resolve_append hrun], ?_⟩
    -- The text before the pass is that of its symbols, with nothing in front.
    obtain ⟨choices, candidates, hdrawn, hwritten, -⟩ := drawn_of_resolve hrun
    obtain ⟨front, hrewrites⟩ :=
      exists_rewrites u (nonterminal name :: v) [] hdrawn.length_candidates
    rw [← hsymbols, Token.spell_symbols, List.nil_append] at hrewrites
    have hw : w = front ++ Token.spell (nonterminal name :: v) :=
      hwritten.symm.trans hrewrites.overwrite_eq
    obtain ⟨before, between, hsplit, hle⟩ := exists_splitFirst?_render front name v
    rw [← hw] at hsplit
    exact ⟨front, before, _, hw, hsplit, hle⟩
  · intro w s' hrun
    obtain ⟨choices, candidates, hdrawn, hwritten, hmade⟩ := drawn_of_resolve hrun
    have hlength := hdrawn.length_candidates
    rw [Token.names_eq] at hlength
    obtain ⟨front, hrewrites⟩ := exists_rewrites (Token.symbols t) [] [] hlength
    rw [List.append_nil, Token.spell_symbols, List.nil_append, ← Token.names_eq] at hrewrites
    rw [← hrewrites.overwrite_eq, hwritten] at hrewrites
    exact ⟨choices, candidates, hdrawn.length_choices, hdrawn, hrewrites, hmade⟩
  · intro limit hunbroken
    obtain ⟨choices, hmade, hlength⟩ := expandFrom_recorded ch g limit limit t s
    exact ⟨choices, hlength hunbroken, hmade []⟩

end

/-- The second search hits what the first replacement has put in front of the token, and
the pass still makes both of its choices and both of its replacements. -/
theorem pass_wastes_no_draw_bridging :
    resolve Chooser.scripted bridging ["a".toList] "#a# #b#".toList [0, 0]
        = (.ok "#c#b#c# #b#".toList, [0]) ∧
      (∃ front before rest, "#c#b#c# #b#".toList = front ++ "#b#".toList ∧
        Text.splitFirst? "#b#".toList "#c#b#c# #b#".toList = some (before, rest) ∧
        before.length ≤ front.length) ∧
      (∃ choices candidates, choices.length = 2 ∧
        Drawn bridging ["a".toList, "b".toList] choices candidates ∧
        Rewrites ["a".toList, "b".toList] candidates "#a# #b#".toList "#cxc# #b#".toList) ∧
      (expand Chooser.scripted bridging 1 "#a# #b#".toList [0, 0]).1.outcome
        = .error (.expansionLimit 1) ∧
      ∃ choices, choices.length = 2 ∧
        (expand Chooser.scripted.recorded bridging 1 "#a# #b#".toList ([0, 0], [])).2
          = ([], choices) := by
  obtain ⟨hintact, hpass, hexpand⟩ :=
    pass_wastes_no_draw Chooser.scripted bridging "#a# #b#".toList [0, 0]
  have hfirst : resolve Chooser.scripted bridging ["a".toList] "#a# #b#".toList [0, 0]
      = (.ok "#c#b#c# #b#".toList, [0]) := by rfl
  have hboth : resolve Chooser.scripted bridging (Token.names "#a# #b#".toList)
      "#a# #b#".toList [0, 0] = (.ok "#cxc# #b#".toList, []) := by rfl
  have hlimit : (expand Chooser.scripted bridging 1 "#a# #b#".toList [0, 0]).1.outcome
      = .error (.expansionLimit 1) := by rfl
  obtain ⟨-, hfound⟩ := hintact [nonterminal "a".toList, terminal ' '] "b".toList [] _ _
    (by decide) hfirst
  obtain ⟨choices, candidates, hlength, hdrawn, hrewrites, -⟩ := hpass _ _ hboth
  obtain ⟨all, hall, hrun⟩ := hexpand 1 (by
    intro fault hfault
    rw [hlimit] at hfault
    cases hfault
    rfl)
  refine ⟨hfirst, hfound, ⟨choices, candidates, hlength, hdrawn, hrewrites⟩, hlimit, all, hall, ?_⟩
  rw [hrun]
  rfl

end Vignette.Expansion
