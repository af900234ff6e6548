import Vignette.Proofs.Expansion.Choices
import Vignette.Proofs.Token.Strays

/-!
# `Vignette.Proofs.Expansion.Leaves`: fragments over categories without `#`

Such a fragment is done after one pass. Each replacement seeks the text of a token in a
text that already holds candidates, but candidates without `#` keep what has been passed
idle, so the search gets to the very token that the name was collected from. The pass
comes down to filling all tokens at once.

* `overwrite_eq_fill`: one replacement after another, from an idle text on.
* `expand_leaves`: the result, the choices that it tells, and that no token is left.
-/

set_option autoImplicit false

namespace Vignette

/-- The category has candidates, and none of them holds a `#`. -/
def Grammar.Leaf (g : Grammar) (name : Name) : Prop :=
  ∃ candidates, g.candidates? name = some candidates ∧ candidates ≠ [] ∧
    ∀ candidate ∈ candidates, '#' ∉ candidate

theorem Grammar.Leaf.drawFault?_eq_none {g : Grammar} {name : Name} (h : g.Leaf name) :
    g.drawFault? name = none := by
  obtain ⟨candidates, hlookup, hne, -⟩ := h
  cases candidates with
  | nil => exact absurd rfl hne
  | cons candidate candidates => simp [drawFault?, hlookup]

theorem Grammar.Leaf.not_mem {g : Grammar} {name : Name} {candidate : Text} (h : g.Leaf name)
    (hoffer : g.Offers name candidate) : '#' ∉ candidate := by
  obtain ⟨candidates, hlookup, -, hplain⟩ := h
  obtain ⟨offered, hoffered, hmem⟩ := hoffer
  rw [hlookup] at hoffered
  cases hoffered
  exact hplain candidate hmem

namespace Expansion

/-- Texts without `#` land in the places of the tokens, one after another. -/
theorem overwrite_eq_fill {ss : List (Symbol Char Name)} (h : Token.Sown ss) {passed : Text}
    (hpassed : Token.Idle passed) {texts : List Text}
    (hlength : texts.length = (ss.filterMap Token.name?).length)
    (htexts : ∀ text ∈ texts, '#' ∉ text) :
    overwrite (ss.filterMap Token.name?) texts (passed ++ Token.spell ss)
      = passed ++ Token.fill ss texts := by
  induction h generalizing passed texts with
  | @last t _ =>
      rw [Token.filterMap_map_terminal, Token.spell_map_terminal, Token.fill_map_terminal]
      rfl
  | @token t name ss ht hname _ ih =>
      rw [List.filterMap_append, Token.filterMap_map_terminal] at hlength ⊢
      cases texts with
      | nil => cases hlength
      | cons text texts =>
          obtain ⟨htext, htexts⟩ := List.forall_mem_cons.1 htexts
          have hidle := hpassed.append ht
          have hsearch := hidle.splitFirst?_render hname (Token.spell ss)
          have hrest := ih (hidle.append (.of_not_mem htext)) (Nat.succ.inj hlength) htexts
          have hspell : passed ++ Token.spell (t.map .terminal ++ .nonterminal name :: ss)
              = passed ++ t ++ (Token.render name ++ Token.spell ss) := by
            simp [Token.spellSymbol]
          rw [hspell, Token.fill_map_terminal_append]
          show overwrite (ss.filterMap Token.name?) texts (Text.replaceFirst _ _ _) = _
          rw [Text.replaceFirst, hsearch]
          show overwrite _ _ (passed ++ t ++ text ++ Token.spell ss) = _
          rw [hrest]
          simp [Token.fill]

section
variable {σ : Type} {ch : Chooser σ} {g : Grammar}

/-- A pass over known categories with candidates is completed. -/
theorem exists_resolve_of_leaves {names : List Name} (h : ∀ name ∈ names, g.Leaf name) (t : Text)
    (s : σ) : ∃ w s', resolve ch g names t s = (.ok w, s') := by
  rcases resolve_cases ch g names t s with ⟨w, s', hrun, -⟩ | ⟨name, hmem, fault, -, -, hfault⟩
  · exact ⟨w, s', hrun⟩
  · rw [(h name hmem).drawFault?_eq_none] at hfault
    cases hfault

/-- Candidates drawn from leaf categories hold no `#`. -/
theorem Drawn.not_mem {names : List Name} {choices : List Choice} {candidates : List Text}
    (h : Drawn g names choices candidates) (hleaves : ∀ name ∈ names, g.Leaf name) :
    ∀ candidate ∈ candidates, '#' ∉ candidate := by
  intro candidate hmem
  obtain ⟨name, hname, hoffer⟩ := h.exists_offers candidate hmem
  exact (hleaves name hname).not_mem hoffer

/-- An expansion ends with the first pass that leaves no tokens, or without a pass. -/
theorem expandFrom_of_resolve_of_names_eq_nil (limit remaining : Nat) {t w : Text} {s s' : σ}
    (hrun : resolve ch g (Token.names t) t s = (.ok w, s')) (hw : Token.names w = []) :
    expandFrom ch g limit (remaining + 1) t s
      = (⟨if Token.names t = [] then [] else [(Token.names t).length], .ok w⟩, s') := by
  by_cases htokens : Token.names t = []
  · rw [htokens] at hrun
    cases hrun
    rw [expandFrom_of_names_eq_nil ch g limit _ htokens, if_pos htokens]
  · rw [expandFrom_succ_of_resolve ch g limit remaining htokens hrun, if_neg htokens,
      expandFrom_of_names_eq_nil ch g limit remaining hw]

end

/-- A fragment whose tokens all name categories with candidates and without `#` expands,
in one pass or none, to the fragment with a candidate in the place of each token. One
choice is made for each token, in order, and no token is left. -/
theorem expand_leaves {σ : Type} (ch : Chooser σ) (g : Grammar) {fragment : Text}
    (hleaves : ∀ name ∈ Token.names fragment, g.Leaf name) {limit : Nat} (hlimit : 1 ≤ limit)
    (s : σ) :
    Token.fill (Token.symbols fragment) ((Token.names fragment).map Token.render) = fragment ∧
      ∃ choices candidates, choices.length = (Token.names fragment).length ∧
        Drawn g (Token.names fragment) choices candidates ∧
        (expand ch g limit fragment s).1.outcome
          = .ok (Token.fill (Token.symbols fragment) candidates) ∧
        expand ch.recorded g limit fragment (s, [])
          = ((expand ch g limit fragment s).1, (expand ch g limit fragment s).2, choices) ∧
        Token.names (Token.fill (Token.symbols fragment) candidates) = [] := by
  refine ⟨by rw [Token.names_eq, Token.fill_map_render, Token.spell_symbols], ?_⟩
  obtain ⟨w, s', hrun⟩ := @exists_resolve_of_leaves σ ch g _ hleaves fragment s
  obtain ⟨choices, candidates, hdrawn, hwritten, hmade⟩ := drawn_of_resolve hrun
  -- The pass starts with nothing passed, and the text of the symbols is the fragment.
  have hsown := Token.sown_symbols fragment
  have hplain := hdrawn.not_mem hleaves
  have hlength : candidates.length = ((Token.symbols fragment).filterMap Token.name?).length := by
    rw [← Token.names_eq]
    exact hdrawn.length_candidates
  have hfill := overwrite_eq_fill hsown .nil hlength hplain
  rw [Token.spell_symbols, ← Token.names_eq, List.nil_append, List.nil_append, hwritten] at hfill
  have hnames := hsown.names_fill hlength hplain
  rw [← hfill] at hnames
  refine ⟨choices, candidates, hdrawn.length_choices, hdrawn, ?_⟩
  obtain ⟨remaining, rfl⟩ : ∃ remaining, limit = remaining + 1 := ⟨limit - 1, by omega⟩
  have hexpand : expand ch g (remaining + 1) fragment s = _ :=
    expandFrom_of_resolve_of_names_eq_nil _ remaining hrun hnames
  have hrecorded : expand ch.recorded g (remaining + 1) fragment (s, []) = _ :=
    expandFrom_of_resolve_of_names_eq_nil _ remaining (hmade []) hnames
  rw [← hfill, hexpand, hrecorded]
  exact ⟨rfl, rfl, hnames⟩

/-- Categories without `#`, one of them without a name. -/
def leafParts : Grammar :=
  .ofRules [([], ["e".toList]), ("a".toList, ["p".toList, "q".toList])]

/-- Stray `#` at both ends, and tokens with the name of their category between them. -/
theorem expand_leaves_leafParts :
    Token.names "#x #a#a#a### #b".toList = ["a".toList, "a".toList, []] ∧
      (∀ name ∈ Token.names "#x #a#a#a### #b".toList, leafParts.Leaf name) ∧
      (expand Chooser.scripted leafParts 1 "#x #a#a#a### #b".toList [0, 1, 0]).1.outcome
        = .ok "#x paqe #b".toList ∧
      (∃ choices candidates, choices.length = 3 ∧
        Drawn leafParts ["a".toList, "a".toList, []] choices candidates ∧
        Token.fill (Token.symbols "#x #a#a#a### #b".toList) candidates = "#x paqe #b".toList) ∧
      Token.names "#x paqe #b".toList = [] := by
  have hleaves : ∀ name ∈ Token.names "#x #a#a#a### #b".toList, leafParts.Leaf name := by
    have hparts : leafParts.Leaf "a".toList ∧ leafParts.Leaf [] :=
      ⟨⟨_, rfl, by decide, by decide⟩, ⟨_, rfl, by decide, by decide⟩⟩
    intro name hmem
    have hcases : name = "a".toList ∨ name = "a".toList ∨ name = [] := by
      simpa using (show name ∈ ["a".toList, "a".toList, []] from hmem)
    rcases hcases with rfl | rfl | rfl
    · exact hparts.1
    · exact hparts.1
    · exact hparts.2
  obtain ⟨-, choices, candidates, hlength, hdrawn, houtcome, -, hnames⟩ :=
    expand_leaves Chooser.scripted leafParts hleaves (Nat.le_refl 1) [0, 1, 0]
  have hresult : (expand Chooser.scripted leafParts 1 "#x #a#a#a### #b".toList [0, 1, 0]).1.outcome
      = .ok "#x paqe #b".toList := by rfl
  rw [hresult] at houtcome
  have hfill := Except.ok.inj houtcome
  rw [← hfill] at hnames
  exact ⟨rfl, hleaves, hresult, ⟨choices, candidates, hlength, hdrawn, hfill.symm⟩, hnames⟩

end Expansion

end Vignette
