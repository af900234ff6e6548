import Mathlib.Computability.ContextFreeGrammar
import Vignette.Proofs.Expansion.Passes

/-!
# `Vignette.Proofs.Expansion.Derivation`: expansion as a context-free derivation

The candidates of a grammar, read as strings of symbols, are the rules of a
context-free grammar (`Grammar.contextFree`). Over separated fragments the
expander computes exactly what this grammar derives.

* Soundness: every replacement is one step of a derivation, since the search for
  a token's text only hits tokens (`Passes.derives`).
* Completeness: `Yields` is a derivation that counts its steps and fixes the
  candidate of every token. The expander replaces the first token of a name and
  not the one it collected, but that token has its candidate in the derivation
  as well, so each replacement takes one step off (`Yields.exists_offer`).
-/

set_option autoImplicit false

namespace Vignette

open Symbol (terminal nonterminal)
open Token (symbols)

/-- The context-free grammar over characters whose nonterminals are the category
names and whose rules are the candidates. -/
@[reducible]
def Grammar.contextFree (g : Grammar) : ContextFreeGrammar Char where
  NT := Name
  initial := rootsName
  rules := (g.rules.flatMap fun rule =>
    rule.2.map fun candidate => ⟨rule.1, symbols candidate⟩).toFinset

namespace Expansion

variable {g : Grammar}

theorem mem_contextFree_rules {r : ContextFreeRule Char Name} :
    r ∈ g.contextFree.rules ↔
      ∃ candidate, g.Offers r.input candidate ∧ symbols candidate = r.output := by
  rw [List.mem_toFinset, List.mem_flatMap]
  constructor
  · rintro ⟨⟨name, candidates⟩, hrule, hr⟩
    obtain ⟨candidate, hmem, rfl⟩ := List.mem_map.1 hr
    exact ⟨candidate, ⟨candidates, Grammar.mem_rules_iff.1 hrule, hmem⟩, rfl⟩
  · rintro ⟨candidate, ⟨candidates, hlookup, hmem⟩, hout⟩
    refine ⟨(r.input, candidates), Grammar.mem_rules_iff.2 hlookup, ?_⟩
    exact List.mem_map.2 ⟨candidate, hmem, by rw [hout]⟩

/-- Writing a candidate in the place of a nonterminal is a step of a derivation. -/
theorem produces_of_offers {name : Name} {candidate : Text} (h : g.Offers name candidate)
    (u v : List (Symbol Char Name)) :
    g.contextFree.Produces (u ++ nonterminal name :: v) (u ++ symbols candidate ++ v) := by
  refine ⟨⟨name, symbols candidate⟩, mem_contextFree_rules.2 ⟨candidate, h, rfl⟩, ?_⟩
  have hrewrite := ContextFreeRule.rewrites_of_exists_parts
    (⟨name, symbols candidate⟩ : ContextFreeRule Char Name) u v
  rwa [List.append_assoc u [_], List.singleton_append] at hrewrite

/-! ### Soundness -/

/-- One replacement derives, in no step or in one. -/
theorem derives_replaceFirst (hg : g.Separated) {t candidate : Text} {name : Name}
    (ht : Token.Separated t) (hname : Token.IsWord name) (h : g.Offers name candidate) :
    Token.Separated (t.replaceFirst (Token.render name) candidate) ∧
      g.contextFree.Derives (symbols t)
        (symbols (t.replaceFirst (Token.render name) candidate)) := by
  by_cases hmem : name ∈ Token.names t
  · obtain ⟨u, v, hsplit, hreplace⟩ := ht.replaceFirst_of_mem hmem
    obtain ⟨hsep, hsymbols⟩ := hreplace candidate (hg.of_offers h)
    refine ⟨hsep, ?_⟩
    rw [hsymbols, hsplit]
    exact (produces_of_offers h u v).single
  · -- A token that is gone by now has nothing written over it.
    rw [ht.replaceFirst_of_not_mem hname hmem]
    exact ⟨ht, .refl _⟩

theorem Resolves.derives (hg : g.Separated) {names : List Name} {t u : Text}
    (hnames : ∀ name ∈ names, Token.IsWord name) (ht : Token.Separated t)
    (h : Resolves g.Offers names t u) :
    Token.Separated u ∧ g.contextFree.Derives (symbols t) (symbols u) := by
  refine h.keeps (P := fun v => Token.Separated v ∧
    g.contextFree.Derives (symbols t) (symbols v)) ?_ ⟨ht, .refl _⟩
  rintro name hname candidate v hoffer ⟨hv, hderives⟩
  obtain ⟨hsep, hstep⟩ := derives_replaceFirst hg hv (hnames name hname) hoffer
  exact ⟨hsep, hderives.trans hstep⟩

/-- What passes make of a separated fragment is separated and derived from it. -/
theorem Passes.derives (hg : g.Separated) {n : Nat} {t u : Text} (ht : Token.Separated t)
    (h : Passes g.Offers n t u) :
    Token.Separated u ∧ g.contextFree.Derives (symbols t) (symbols u) := by
  refine h.keeps (P := fun v => Token.Separated v ∧
    g.contextFree.Derives (symbols t) (symbols v)) ?_ ⟨ht, .refl _⟩
  rintro v w ⟨hv, hderives⟩ hres
  obtain ⟨hsep, hpass⟩ := hres.derives hg (fun _ hn => Token.isWord_of_mem_names hn) hv
  exact ⟨hsep, hderives.trans hpass⟩

/-- The candidates of a complete grammar are fragments over its categories. -/
theorem over_offers (hg : g.Separated) (hc : g.Complete) (name : Name) (candidate : Text)
    (_ : g.has name) (h : g.Offers name candidate) : Token.Over (fun n => g.has n) candidate :=
  ⟨hg.of_offers h, hc.has_of_offers h⟩

/-- An expansion of a separated fragment with known tokens runs out of passes or
ends on a text without `#` that is derived from the fragment. -/
theorem expand_cases_of_separated (hg : g.Separated) (hc : g.Complete) {t : Text}
    (ht : Token.Over (fun n => g.has n) t) {σ : Type} (ch : Chooser σ) (limit : Nat) (s : σ) :
    (expand ch g limit t s).1.outcome = .error (.expansionLimit limit) ∨
      ∃ w, (expand ch g limit t s).1.outcome = .ok w ∧ '#' ∉ w ∧
        g.contextFree.Derives (symbols t) (w.map terminal) := by
  have hend := expandFrom_cases ch g limit limit t s
  unfold expand
  cases hout : (expandFrom ch g limit limit t s).1.outcome with
  | ok w =>
      rw [hout] at hend
      cases hend with
      | done _ hp hnames =>
          obtain ⟨hsep, hderives⟩ := hp.derives hg ht.separated
          rw [Token.symbols_eq_map_terminal hnames] at hderives
          refine .inr ⟨w, rfl, fun hmem => hsep.1 ?_, hderives⟩
          rw [Token.symbols_eq_map_terminal hnames]
          exact List.mem_map_of_mem hmem
  | error fault =>
      rw [hout] at hend
      cases hend with
      | limit => exact .inl rfl
      | fault _ hp hmem hfault =>
          -- Every token on the way names a category with candidates.
          have hover := hp.over (over_offers hg hc) ht
          rw [hc.drawFault?_eq_none (hover.names _ hmem)] at hfault
          cases hfault

/-! ### Derivations that count their steps -/

/-- The symbols derive the text in so many steps. -/
inductive Yields (g : Grammar) : List (Symbol Char Name) → Text → Nat → Prop
  | nil : Yields g [] [] 0
  | terminal (c : Char) {ss : List (Symbol Char Name)} {w : Text} {k : Nat} :
      Yields g ss w k → Yields g (terminal c :: ss) (c :: w) k
  | nonterminal {name : Name} {candidate w w' : Text} {ss : List (Symbol Char Name)}
      {k k' : Nat} : g.Offers name candidate → Yields g (symbols candidate) w k →
      Yields g ss w' k' → Yields g (nonterminal name :: ss) (w ++ w') (k + k' + 1)

theorem Yields.append {u v : List (Symbol Char Name)} {w w' : Text} {k k' : Nat}
    (hu : Yields g u w k) (hv : Yields g v w' k') : Yields g (u ++ v) (w ++ w') (k + k') := by
  induction hu with
  | nil => simpa using hv
  | terminal c _ ih => exact .terminal c ih
  | nonterminal hoffer hc _ _ ih =>
      have hjoined := Yields.nonterminal hoffer hc ih
      rw [List.cons_append, List.append_assoc]
      convert hjoined using 1
      omega

theorem Yields.split {u v : List (Symbol Char Name)} {w : Text} {k : Nat}
    (h : Yields g (u ++ v) w k) :
    ∃ w₁ w₂ k₁ k₂, w = w₁ ++ w₂ ∧ k = k₁ + k₂ ∧ Yields g u w₁ k₁ ∧ Yields g v w₂ k₂ := by
  -- The first symbol of `u` tells the front of the text and its share of the steps.
  induction u generalizing w k with
  | nil => exact ⟨[], w, 0, k, rfl, by omega, .nil, h⟩
  | cons s u ih =>
      cases h with
      | terminal c h =>
          obtain ⟨w₁, w₂, k₁, k₂, rfl, rfl, hu, hv⟩ := ih h
          exact ⟨c :: w₁, w₂, k₁, k₂, rfl, rfl, .terminal c hu, hv⟩
      | @nonterminal name candidate w w' _ k k' hoffer hc h =>
          obtain ⟨w₁, w₂, k₁, k₂, rfl, rfl, hu, hv⟩ := ih h
          exact ⟨w ++ w₁, w₂, k + k₁ + 1, k₂, by rw [List.append_assoc], by omega,
            .nonterminal hoffer hc hu, hv⟩

theorem yields_map_terminal (w : Text) : Yields g (w.map terminal) w 0 := by
  induction w with
  | nil => exact .nil
  | cons c w ih => exact .terminal c ih

theorem eq_of_yields_map_terminal {w w' : Text} {k : Nat} (h : Yields g (w.map terminal) w' k) :
    w' = w := by
  induction w generalizing w' with
  | nil =>
      cases h
      rfl
  | cons c w ih =>
      cases h with
      | terminal c h => rw [ih h]

/-- A step in front of a counted derivation makes it one step longer. -/
theorem Yields.of_produces {u v : List (Symbol Char Name)} {w : Text} {k : Nat}
    (hstep : g.contextFree.Produces u v) (h : Yields g v w k) : Yields g u w (k + 1) := by
  obtain ⟨r, hr, hrewrite⟩ := hstep
  obtain ⟨candidate, hoffer, hout⟩ := mem_contextFree_rules.1 hr
  obtain ⟨p, q, rfl, rfl⟩ := hrewrite.exists_parts
  -- What the rewritten nonterminal yields stands between the yields of `p` and `q`.
  obtain ⟨w₁₂, w₃, k₁₂, k₃, rfl, rfl, h₁₂, h₃⟩ := h.split
  obtain ⟨w₁, w₂, k₁, k₂, rfl, rfl, h₁, h₂⟩ := h₁₂.split
  rw [← hout] at h₂
  have hjoined := h₁.append (.nonterminal hoffer h₂ h₃)
  rw [List.append_assoc, List.append_assoc, List.singleton_append]
  convert hjoined using 1
  omega

theorem exists_yields_of_derives {ss : List (Symbol Char Name)} {w : Text}
    (h : g.contextFree.Derives ss (w.map terminal)) : ∃ k, Yields g ss w k := by
  induction h using Relation.ReflTransGen.head_induction_on with
  | refl => exact ⟨0, yields_map_terminal w⟩
  | head hstep _ ih =>
      obtain ⟨k, hk⟩ := ih
      exact ⟨k + 1, hk.of_produces hstep⟩

/-! ### Completeness -/

/-- A derivation of a separated fragment says what to write for the first token
of a name, and that takes one step off the derivation. -/
theorem Yields.exists_offer (hg : g.Separated) {t w : Text} {k : Nat} {name : Name}
    (ht : Token.Separated t) (hmem : name ∈ Token.names t) (h : Yields g (symbols t) w k) :
    ∃ candidate, g.Offers name candidate ∧ ∃ k' < k,
      Yields g (symbols (t.replaceFirst (Token.render name) candidate)) w k' := by
  obtain ⟨u, v, hsplit, hreplace⟩ := ht.replaceFirst_of_mem hmem
  rw [hsplit] at h
  obtain ⟨w₁, w₂₃, k₁, k₂₃, rfl, rfl, h₁, h₂₃⟩ := h.split
  -- The candidate is the one that the derivation writes for this nonterminal.
  cases h₂₃ with
  | @nonterminal _ candidate w₂ w₃ _ k₂ k₃ hoffer h₂ h₃ =>
      refine ⟨candidate, hoffer, k₁ + (k₂ + k₃), by omega, ?_⟩
      rw [(hreplace candidate (hg.of_offers hoffer)).2, List.append_assoc]
      exact h₁.append (h₂.append h₃)

/-- A pass can follow a derivation, and if it finds its first token the rest of
the derivation is shorter. -/
theorem Yields.exists_resolves (hg : g.Separated) (hc : g.Complete) {names : List Name}
    {t w : Text} {k : Nat} (hnames : ∀ name ∈ names, Token.IsWord name ∧ g.has name)
    (ht : Token.Separated t) (h : Yields g (symbols t) w k) :
    ∃ u, Resolves g.Offers names t u ∧ ∃ k' ≤ k, Yields g (symbols u) w k' ∧
      ∀ name ∈ names.head?, name ∈ Token.names t → k' < k := by
  induction names generalizing t k with
  | nil => exact ⟨t, .nil t, k, Nat.le_refl k, h, by simp⟩
  | cons name names ih =>
      obtain ⟨hword, hhas⟩ := hnames name (by simp)
      have hrest := fun n hn => hnames n (List.mem_cons_of_mem name hn)
      by_cases hmem : name ∈ Token.names t
      · obtain ⟨candidate, hoffer, k₁, hlt, h₁⟩ := h.exists_offer hg ht hmem
        obtain ⟨_, _, _, hreplace⟩ := ht.replaceFirst_of_mem hmem
        obtain ⟨hsep, -⟩ := hreplace candidate (hg.of_offers hoffer)
        obtain ⟨u, hres, k₂, hle, h₂, -⟩ := ih hrest hsep h₁
        exact ⟨u, .cons hoffer hres, k₂, by omega, h₂, fun _ _ _ => by omega⟩
      · -- A name without a token takes any candidate, which is then written nowhere.
        obtain ⟨candidate, hoffer⟩ := hc.exists_offers hhas
        have hsame := ht.replaceFirst_of_not_mem hword hmem candidate
        obtain ⟨u, hres, k₁, hle, h₁, -⟩ := ih hrest ht h
        refine ⟨u, .cons hoffer (hsame.symm ▸ hres), k₁, hle, h₁, ?_⟩
        intro n hn hin
        cases hn
        exact absurd hin hmem

/-- Passes can follow a derivation to its end. -/
theorem Yields.exists_passes (hg : g.Separated) (hc : g.Complete) {t w : Text} {k : Nat}
    (ht : Token.Over (fun n => g.has n) t) (h : Yields g (symbols t) w k) :
    Token.names w = [] ∧ ∃ n, Passes g.Offers n t w := by
  -- A pass takes at least one step off the derivation, and more when it draws for more.
  induction k using Nat.strong_induction_on generalizing t with
  | _ k ih =>
      cases hnames : Token.names t with
      | nil =>
          rw [Token.symbols_eq_map_terminal hnames] at h
          cases eq_of_yields_map_terminal h
          exact ⟨hnames, 0, .zero _⟩
      | cons name names =>
          have hknown (n : Name) (hn : n ∈ Token.names t) : Token.IsWord n ∧ g.has n :=
            ⟨Token.isWord_of_mem_names hn, ht.names n hn⟩
          obtain ⟨u, hres, k', -, hu, hlt⟩ := h.exists_resolves hg hc hknown ht.separated
          -- The first name is sought in the text that it was collected from.
          have hfirst : name ∈ (Token.names t).head? := by simp [hnames]
          have hk' : k' < k := hlt name hfirst (by simp [hnames])
          obtain ⟨hend, n, hp⟩ := ih k' hk' (hres.over (over_offers hg hc) ht) hu
          exact ⟨hend, n + 1, .succ (by simp [hnames]) hres hp⟩

/-! ### The expander and the context-free grammar -/

/-- Over separated candidates the expander computes what the context-free
grammar derives: whatever is drawn, a text that it returns has no `#` and is
derived from the fragment, and every text derived from the fragment is returned
for some draws. -/
theorem expand_refines_contextFree {g : Grammar} (hg : g.Separated) (hc : g.Complete)
    {fragment : Text} (hsep : Token.Separated fragment)
    (hknown : ∀ name ∈ Token.names fragment, g.has name) :
    (∀ (σ : Type) (ch : Chooser σ) (limit : Nat) (s : σ),
      (expand ch g limit fragment s).1.outcome = .error (.expansionLimit limit) ∨
        ∃ w, (expand ch g limit fragment s).1.outcome = .ok w ∧ '#' ∉ w ∧
          g.contextFree.Derives (symbols fragment) (w.map terminal)) ∧
      ∀ w : Text, g.contextFree.Derives (symbols fragment) (w.map terminal) →
        ∃ limit script, (expand Chooser.scripted g limit fragment script).1.outcome = .ok w := by
  refine ⟨fun σ ch limit s => expand_cases_of_separated hg hc ⟨hsep, hknown⟩ ch limit s, ?_⟩
  intro w hderives
  obtain ⟨k, hk⟩ := exists_yields_of_derives hderives
  obtain ⟨hend, n, hp⟩ := hk.exists_passes hg hc ⟨hsep, hknown⟩
  obtain ⟨script, hscript⟩ := hp.exists_script_ok hend
  exact ⟨n, script, hscript n (Nat.le_refl n)⟩

/-- Lists of parts of any length: a part can be followed by another one. -/
def partList : Grammar :=
  .ofRules [(rootsName, ["#part#".toList]), ("part".toList, ["x".toList, "x, #part#".toList])]

theorem expand_refines_contextFree_partList :
    (∀ (σ : Type) (ch : Chooser σ) (limit : Nat) (s : σ),
      (expand ch partList limit "#part#.".toList s).1.outcome = .error (.expansionLimit limit) ∨
        ∃ w, (expand ch partList limit "#part#.".toList s).1.outcome = .ok w ∧ '#' ∉ w ∧
          partList.contextFree.Derives (symbols "#part#.".toList) (w.map terminal)) ∧
      ∀ w : Text, partList.contextFree.Derives (symbols "#part#.".toList) (w.map terminal) →
        ∃ limit script,
          (expand Chooser.scripted partList limit "#part#.".toList script).1.outcome = .ok w :=
  expand_refines_contextFree (by decide) (by decide) (by decide) (by decide)

end Expansion

end Vignette
