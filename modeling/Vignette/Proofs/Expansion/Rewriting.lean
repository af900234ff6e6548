import Mathlib.Data.List.Perm.Subperm
import Vignette.Proofs.Expansion.Derivation
import Vignette.Proofs.Grammar.Check

/-!
# `Vignette.Proofs.Expansion.Rewriting`: what the replacements of an expansion hit

A replacement writes over the first occurrence of the text of a token in a text
that already holds what the pass has written before. When every `#` delimits a
token at the start, this goes wrong in one way only: the collected name stands as
plain text between two tokens, in front of all tokens of that name.

* `Replaces`: the replacements of a run, each with the text that it works on.
* `resolve_admits`, `expandFrom_admits`: as long as replacements hit tokens, every
  `#` keeps delimiting one.
* `rewrites_tokens_iff`: a run hits tokens only exactly when no replacement finds
  its name between two tokens.
-/

set_option autoImplicit false

namespace Vignette

/-- Every `#` of every candidate delimits a token. -/
def Grammar.Paired (g : Grammar) : Prop :=
  ∀ rule ∈ g.rules, ∀ candidate ∈ rule.2, Token.Paired candidate

instance (g : Grammar) : Decidable g.Paired :=
  inferInstanceAs (Decidable (∀ rule ∈ g.rules, ∀ candidate ∈ rule.2, Token.Paired candidate))

theorem Grammar.Paired.of_offers {g : Grammar} (h : g.Paired) {name : Name} {candidate : Text}
    (ho : g.Offers name candidate) : Token.Paired candidate := by
  obtain ⟨candidates, hlookup, hmem⟩ := ho
  exact h _ (Grammar.mem_rules_iff.2 hlookup) candidate hmem

/-- A paired fragment whose tokens all name categories. -/
structure Grammar.Admits (g : Grammar) (t : Text) : Prop where
  paired : Token.Paired t
  known : ∀ name ∈ Token.names t, g.has name

namespace Expansion

section
variable {σ : Type} (ch : Chooser σ) (g : Grammar)

/-- A pass that resolves these names, from a text and a state, draws for `name`
when the text has become `w`, and replaces in `w`. -/
inductive Writes : List Name → Text → σ → (name : Name) → (w : Text) → Prop
  | here {name : Name} {names : List Name} {t candidate : Text} {s s' : σ} :
      pick ch g name s = (.ok candidate, s') → Writes (name :: names) t s name t
  | later {first name : Name} {names : List Name} {t candidate w : Text} {s s' : σ} :
      pick ch g first s = (.ok candidate, s') →
      Writes names (t.replaceFirst (Token.render first) candidate) s' name w →
      Writes (first :: names) t s name w

/-- An expansion with some passes remaining, from a text and a state, draws for
`name` when the text has become `w`, and replaces in `w`. -/
inductive Replaces : Nat → Text → σ → (name : Name) → (w : Text) → Prop
  | here {remaining : Nat} {t w : Text} {s : σ} {name : Name} :
      Writes ch g (Token.names t) t s name w → Replaces (remaining + 1) t s name w
  | later {remaining : Nat} {t u w : Text} {s s' : σ} {name : Name} :
      Token.names t ≠ [] → resolve ch g (Token.names t) t s = (.ok u, s') →
      Replaces remaining u s' name w → Replaces (remaining + 1) t s name w

end

section
variable {σ : Type} {ch : Chooser σ} {g : Grammar}

/-! ### What all texts of a run have in common -/

/-- A property of texts that offered candidates keep holds when a pass replaces. -/
theorem Writes.keeps {P : Text → Prop}
    (hstep : ∀ name candidate t, Token.IsWord name → g.Offers name candidate → P t →
      P (t.replaceFirst (Token.render name) candidate))
    {names : List Name} {t w : Text} {s : σ} {name : Name}
    (hnames : ∀ n ∈ names, Token.IsWord n) (ht : P t) (h : Writes ch g names t s name w) :
    P w ∧ Token.IsWord name := by
  induction h with
  | here hpick => exact ⟨ht, hnames _ List.mem_cons_self⟩
  | later hpick _ ih =>
      exact ih (fun n hn => hnames n (List.mem_cons_of_mem _ hn))
        (hstep _ _ _ (hnames _ List.mem_cons_self) (offers_of_pick hpick) ht)

theorem Replaces.keeps {P : Text → Prop}
    (hstep : ∀ name candidate t, Token.IsWord name → g.Offers name candidate → P t →
      P (t.replaceFirst (Token.render name) candidate))
    {remaining : Nat} {t w : Text} {s : σ} {name : Name} (ht : P t)
    (h : Replaces ch g remaining t s name w) : P w ∧ Token.IsWord name := by
  induction h with
  | here hwrites => exact hwrites.keeps hstep (fun n hn => Token.isWord_of_mem_names hn) ht
  | later _ hrun _ ih =>
      refine ih ((resolves_of_resolve hrun).keeps (fun n hn candidate v hoffer hv => ?_) ht)
      exact hstep n candidate v (Token.isWord_of_mem_names hn) hoffer hv

/-- Over separated fragments no name ever stands between two tokens. -/
theorem Replaces.not_bridged (hg : g.Separated) {remaining : Nat} {t w : Text} {s : σ}
    {name : Name} (ht : Token.Separated t) (h : Replaces ch g remaining t s name w) :
    ¬ Token.Bridged name w := by
  obtain ⟨hw, hname⟩ := h.keeps (P := Token.Separated)
    (fun _ _ _ hname hoffer hv => (derives_replaceFirst hg hv hname hoffer).1) ht
  exact hw.not_bridged hname

/-! ### Runs that hit tokens -/

/-- A replacement that hits a token leaves the names that are still to be
resolved, and every `#` delimits a token again. -/
theorem admits_replaceFirst (hg : g.Paired) (hc : g.Complete) {t candidate : Text} {name : Name}
    {todo : List Name} (ht : g.Admits t) (hoffer : g.Offers name candidate)
    (hhit : Token.HitsToken name t) (htodo : List.Subperm (name :: todo) (Token.names t)) :
    g.Admits (t.replaceFirst (Token.render name) candidate) ∧
      List.Subperm todo (Token.names (t.replaceFirst (Token.render name) candidate)) := by
  obtain ⟨hpaired, u, v, hsplit, hsymbols⟩ := hhit.replaceFirst ht.paired (hg.of_offers hoffer)
  -- The names in front of the token and behind it stay, and the candidate's come between.
  have hold : Token.names t = u.filterMap Token.name? ++ name :: v.filterMap Token.name? := by
    rw [Token.names_eq, hsplit, List.filterMap_append]
    rfl
  have hnew : Token.names (t.replaceFirst (Token.render name) candidate)
      = u.filterMap Token.name? ++ Token.names candidate ++ v.filterMap Token.name? := by
    rw [Token.names_eq, hsymbols, List.filterMap_append, List.filterMap_append, ← Token.names_eq]
  refine ⟨⟨hpaired, fun n hn => ?_⟩, ?_⟩
  · rw [hnew, List.mem_append, List.mem_append] at hn
    rcases hn with (hn | hn) | hn
    · exact ht.known n (by simp [hold, hn])
    · exact hc.has_of_offers hoffer n hn
    · exact ht.known n (by simp [hold, hn])
  · -- Any token of the name will do, also one that is not the one collected.
    have hrest : List.Subperm todo (u.filterMap Token.name? ++ v.filterMap Token.name?) := by
      rw [hold] at htodo
      exact (List.subperm_cons name).1 (htodo.trans List.perm_middle.subperm)
    rw [hnew, List.append_assoc]
    refine hrest.trans (List.Sublist.subperm ?_)
    exact (List.Sublist.refl _).append (List.sublist_append_right _ _)

/-- A pass whose replacements hit the tokens that are there is completed. -/
theorem resolve_admits (hg : g.Paired) (hc : g.Complete) {names : List Name} {t : Text} {s : σ}
    (ht : g.Admits t) (htodo : List.Subperm names (Token.names t))
    (hhits : ∀ name w, Writes ch g names t s name w → g.Admits w → name ∈ Token.names w →
      Token.HitsToken name w) :
    (∀ name w, Writes ch g names t s name w → g.Admits w ∧ Token.HitsToken name w) ∧
      ∃ u s', resolve ch g names t s = (.ok u, s') ∧ g.Admits u := by
  induction names generalizing t s with
  | nil => exact ⟨(fun name w h => nomatch h), t, s, rfl, ht⟩
  | cons name names ih =>
      -- What is still to be resolved is in the text, so the first name is.
      have hmem : name ∈ Token.names t := htodo.subset List.mem_cons_self
      rcases pick_cases ch g name s with ⟨candidate, s', hpick, hoffer⟩ | ⟨fault, -, hfault⟩
      · have hhit := hhits name t (.here hpick) ht hmem
        obtain ⟨hadmits, hleft⟩ := admits_replaceFirst hg hc ht hoffer hhit htodo
        obtain ⟨hwrites, u, s'', hrun, hu⟩ := ih hadmits hleft fun n w h =>
          hhits n w (.later hpick h)
        refine ⟨fun n w h => ?_, u, s'', ?_, hu⟩
        · cases h with
          | here => exact ⟨ht, hhit⟩
          | later hpick' h =>
              rw [hpick] at hpick'
              cases hpick'
              exact hwrites n w h
        · rw [resolve, hpick]
          exact hrun
      · -- A known category has candidates to draw from.
        rw [hc.drawFault?_eq_none (ht.known name hmem)] at hfault
        cases hfault

/-- A run whose replacements hit the tokens that are there ends without `#`, or
runs out of passes. -/
theorem expandFrom_admits (hg : g.Paired) (hc : g.Complete) (limit remaining : Nat) {t : Text}
    {s : σ} (ht : g.Admits t)
    (hhits : ∀ name w, Replaces ch g remaining t s name w → g.Admits w →
      name ∈ Token.names w → Token.HitsToken name w) :
    (∀ name w, Replaces ch g remaining t s name w → g.Admits w ∧ Token.HitsToken name w) ∧
      ((∃ u, (expandFrom ch g limit remaining t s).1.outcome = .ok u ∧ '#' ∉ u) ∨
        (expandFrom ch g limit remaining t s).1.outcome = .error (.expansionLimit limit)) := by
  induction remaining generalizing t s with
  | zero =>
      refine ⟨(fun name w h => nomatch h), ?_⟩
      by_cases hnames : Token.names t = []
      · rw [expandFrom_of_names_eq_nil ch g limit 0 hnames]
        exact .inl ⟨t, rfl, ht.paired.not_mem hnames⟩
      · exact .inr (by simp [expandFrom, hnames])
  | succ remaining ih =>
      obtain ⟨hwrites, u, s', hrun, hu⟩ := resolve_admits hg hc ht (List.Subperm.refl _)
        fun name w h => hhits name w (.here h)
      by_cases hnames : Token.names t = []
      · refine ⟨fun name w h => ?_, ?_⟩
        · cases h with
          | here h => exact hwrites name w h
          | later hne => exact absurd hnames hne
        · rw [expandFrom_of_names_eq_nil ch g limit _ hnames]
          exact .inl ⟨t, rfl, ht.paired.not_mem hnames⟩
      · obtain ⟨hlater, hout⟩ := ih hu fun name w h => hhits name w (.later hnames hrun h)
        refine ⟨fun name w h => ?_, ?_⟩
        · cases h with
          | here h => exact hwrites name w h
          | later _ hrun' h =>
              -- There is only one way in which the pass can have gone.
              rw [hrun] at hrun'
              cases hrun'
              exact hlater name w h
        · rwa [(expandFrom_of_resolve ch g limit remaining hnames hrun).1]

end

/-- From a paired fragment with known tokens, over a checked grammar with paired
candidates, a run replaces tokens only exactly when no replacement finds its name
as plain text between two tokens in front of all tokens of that name. Then every
`#` keeps delimiting a token, and the run ends on a text without `#` or runs out of
passes. Otherwise some replacement writes over the end of one token, the name and
the start of the next token. Separated candidates rule that out. -/
theorem rewrites_tokens_iff {g : Grammar} (hcheck : g.check = .ok ()) (hg : g.Paired)
    {fragment : Text} (hpaired : Token.Paired fragment)
    (hknown : ∀ name ∈ Token.names fragment, g.has name) {σ : Type} (ch : Chooser σ)
    (limit : Nat) (s : σ) :
    ((∀ name w, Replaces ch g limit fragment s name w → Token.HitsToken name w) ↔
      ∀ name w, Replaces ch g limit fragment s name w → ¬ Token.Bridged name w) ∧
    ((∀ name w, Replaces ch g limit fragment s name w → ¬ Token.Bridged name w) →
      (∀ name w, Replaces ch g limit fragment s name w → Token.Paired w) ∧
        ((∃ u, (expand ch g limit fragment s).1.outcome = .ok u ∧ '#' ∉ u) ∨
          (expand ch g limit fragment s).1.outcome = .error (.expansionLimit limit))) ∧
    ((∃ name w, Replaces ch g limit fragment s name w ∧ ¬ Token.HitsToken name w) →
      ∃ name w, Replaces ch g limit fragment s name w ∧ Token.HitsBridge name w) ∧
    (g.Separated → Token.Separated fragment →
      ∀ name w, Replaces ch g limit fragment s name w → ¬ Token.Bridged name w) := by
  have hc := (Grammar.check_eq_ok hcheck).1.toComplete
  have hrun := @expandFrom_admits σ ch g hg hc limit limit fragment s ⟨hpaired, hknown⟩
  have hfree (h : ∀ name w, Replaces ch g limit fragment s name w → ¬ Token.Bridged name w) :=
    hrun fun name w hreplaces hw hmem =>
      (Token.hitsToken_iff_not_bridged hw.paired hmem).2 (h name w hreplaces)
  refine ⟨⟨fun h name w hreplaces hbridged => ?_, fun h name w hreplaces => ?_⟩, fun h => ?_,
    ?_, fun hsep hfragment name w hreplaces => hreplaces.not_bridged hsep hfragment⟩
  · exact Token.not_hitsToken_of_bridged hbridged (h name w hreplaces)
  · exact ((hfree h).1 name w hreplaces).2
  · exact ⟨fun name w hreplaces => ((hfree h).1 name w hreplaces).1.paired, (hfree h).2⟩
  · rintro ⟨name, w, hreplaces, hmiss⟩
    by_contra hnone
    push Not at hnone
    refine hmiss ((hrun fun n v hv hadmits hmem => ?_).1 name w hreplaces).2
    exact (Token.hitsToken_or_hitsBridge hadmits.paired hmem).resolve_right (hnone n v hv)

/-- Two parts in front of a full stop. -/
theorem rewrites_tokens_partList :
    (expand Chooser.scripted partList 64 "#part#.".toList [1, 0]).1.outcome
        = .ok "x, x.".toList ∧
      ∀ name w, Replaces Chooser.scripted partList 64 "#part#.".toList [1, 0] name w →
        Token.HitsToken name w ∧ Token.Paired w := by
  have hcheck : partList.check = .ok () := by decide
  have hpaired : Token.Paired "#part#.".toList := by decide
  obtain ⟨hiff, hends, -, hseparated⟩ :=
    rewrites_tokens_iff hcheck (by decide) hpaired (by decide) Chooser.scripted 64 [1, 0]
  have hfree := hseparated (by decide) (by decide)
  refine ⟨by decide, fun name w h => ⟨hiff.2 hfree name w h, (hends hfree).1 name w h⟩⟩

/-- A candidate with `b` between two tokens, put in front of the token `#b#`. -/
def bridging : Grammar :=
  .ofRules [(rootsName, ["#a# #b#".toList]), ("a".toList, ["#c#b#c#".toList]),
    ("b".toList, ["x".toList]), ("c".toList, ["y".toList])]

/-- The second replacement writes over the middle of `#c#b#c#`. -/
theorem expand_bridging :
    bridging.check = .ok () ∧ bridging.Paired ∧ Token.Paired "#a# #b#".toList ∧
      (∀ name ∈ Token.names "#a# #b#".toList, bridging.has name) ∧
      (∃ name w, Replaces Chooser.scripted bridging 64 "#a# #b#".toList [0, 0, 0, 0] name w ∧
        ¬ Token.HitsToken name w) ∧
      (expand Chooser.scripted bridging 64 "#a# #b#".toList [0, 0, 0, 0]).1.outcome
        = .error (.unknownCategory "cxc".toList) := by
  have hbridged : Token.Bridged "b".toList "#c#b#c# #b#".toList :=
    ⟨[], "c".toList, "c".toList, [.terminal ' ', .nonterminal "b".toList], by decide, by decide⟩
  have hwrites : Writes Chooser.scripted bridging ["a".toList, "b".toList] "#a# #b#".toList
      [0, 0, 0, 0] "b".toList "#c#b#c# #b#".toList := by
    have hfirst : pick Chooser.scripted bridging "a".toList [0, 0, 0, 0]
        = (.ok "#c#b#c#".toList, [0, 0, 0]) := by rfl
    have hsecond : pick Chooser.scripted bridging "b".toList [0, 0, 0]
        = (.ok "x".toList, [0, 0]) := by rfl
    have hreplace : Text.replaceFirst "#a# #b#".toList (Token.render "a".toList) "#c#b#c#".toList
        = "#c#b#c# #b#".toList := by decide
    have hlast := @Writes.here _ Chooser.scripted bridging _ [] "#c#b#c# #b#".toList _ _ _ hsecond
    rw [← hreplace] at hlast
    exact .later hfirst hlast
  have hnames : Token.names "#a# #b#".toList = ["a".toList, "b".toList] := by decide
  rw [← hnames] at hwrites
  refine ⟨by decide, by decide, by decide, by decide, ⟨_, _, .here hwrites, ?_⟩, by decide⟩
  exact Token.not_hitsToken_of_bridged hbridged

end Expansion

end Vignette
