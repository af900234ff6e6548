import Vignette.Proofs.Expansion.Derivation
import Vignette.Proofs.Expansion.Rank
import Vignette.Proofs.Grammar.Check

/-!
# `Vignette.Proofs.Expansion.Cycle`: the cycle check foretells the expander

Over separated candidates a category can finish expanding exactly when it is
productive. A category that is not derives no text, so its token runs out of
passes whatever is drawn. One that is was added to the closure at some time, because
of a candidate that only has tokens of categories added before. So its place in the
order in which categories were added is a rank, and drawing such candidates finishes
within as many passes as there are categories.
-/

set_option autoImplicit false

namespace Vignette.Expansion

open Symbol (terminal nonterminal)
open Token (symbols)

variable {g : Grammar}

/-! ### Categories that cannot finish -/

/-- The nonterminals of symbols that derive a text are productive. -/
theorem Yields.productive {ss : List (Symbol Char Name)} {w : Text} {k : Nat}
    (h : Yields g ss w k) : ∀ name, Symbol.nonterminal name ∈ ss → g.Productive name := by
  induction h with
  | nil => simp
  | terminal c _ ih => simpa using ih
  | nonterminal hoffer _ _ ihc ih =>
      intro n hn
      rcases List.mem_cons.1 hn with heq | hn
      · cases heq
        exact .intro hoffer fun m hm => ihc m (Token.mem_names_iff.1 hm)
      · exact ih n hn

/-- What is reached by a chain of tokens can be named by a token. -/
theorem isWord_of_reachable {name : Name} (h : g.Reachable rootsName name) :
    Token.IsWord name := by
  cases h with
  | start => decide
  | token _ _ hin _ => exact Token.isWord_of_mem_names hin

/-- The token of a category is a separated fragment. -/
theorem over_render {S : Name → Prop} {name : Name} (hword : Token.IsWord name) (h : S name) :
    Token.Over S (Token.render name) where
  separated := by
    have hsep := (Token.spaced_singleton hword).separated
    rwa [← Token.symbols_render hword, Token.spell_symbols] at hsep
  names n hn := by
    rw [Token.names_render hword] at hn
    cases List.mem_singleton.1 hn
    exact h

/-- The token of a category that is not productive runs out of passes. -/
theorem expand_eq_limit (hg : g.Separated) (hc : g.Complete) {name : Name}
    (hword : Token.IsWord name) (hhas : g.has name) (hstuck : ¬ g.Productive name) {σ : Type}
    (ch : Chooser σ) (limit : Nat) (s : σ) :
    (expand ch g limit (Token.render name) s).1.outcome = .error (.expansionLimit limit) := by
  have hover : Token.Over (fun n => g.has n) (Token.render name) := over_render hword hhas
  rcases expand_cases_of_separated hg hc hover ch limit s with h | ⟨w, -, -, hderives⟩
  · exact h
  · -- A text without tokens would be derived from what cannot be finished.
    obtain ⟨k, hk⟩ := exists_yields_of_derives hderives
    exact absurd (hk.productive name (by simp [Token.symbols_render hword])) hstuck

/-! ### Categories that can finish -/

/-- How many categories stand behind this one. -/
def rankIn (name : Name) : List Name → Nat
  | [] => 0
  | first :: order => if first = name then order.length else rankIn name order

section
variable {order : List Name} {first name : Name}

theorem rankIn_cons_self : rankIn name (name :: order) = order.length :=
  if_pos rfl

theorem rankIn_cons_of_mem (hnew : first ∉ order) (h : name ∈ order) :
    rankIn name (first :: order) = rankIn name order :=
  if_neg fun heq : first = name => hnew (heq ▸ h)

theorem rankIn_lt_length (h : name ∈ order) : rankIn name order < order.length := by
  induction order with
  | nil => cases h
  | cons first order ih =>
      unfold rankIn
      split
      · exact Nat.lt_succ_self _
      · rename_i hne
        have hin : name ∈ order := (List.mem_cons.1 h).resolve_left fun heq => hne heq.symm
        exact Nat.lt_succ_of_lt (ih hin)

/-- A candidate whose tokens name categories of smaller rank. -/
def Sooner (g : Grammar) (order : List Name) (name : Name) (candidate : Text) : Prop :=
  g.Offers name candidate ∧
    ∀ n ∈ Token.names candidate, n ∈ order ∧ rankIn n order < rankIn name order

theorem exists_sooner (h : g.Staged order) (hname : name ∈ order) :
    ∃ candidate, Sooner g order name candidate := by
  induction h with
  | nil => cases hname
  | @cons first candidate order _ hnew hoffer hnames ih =>
      rcases List.mem_cons.1 hname with rfl | hin
      · -- The first one has everything else behind it.
        refine ⟨candidate, hoffer, fun n hn => ⟨List.mem_cons_of_mem _ (hnames n hn), ?_⟩⟩
        rw [rankIn_cons_of_mem hnew (hnames n hn), rankIn_cons_self]
        exact rankIn_lt_length (hnames n hn)
      · -- One in front of all others changes none of their ranks.
        obtain ⟨sooner, hoffer, hbehind⟩ := ih hin
        refine ⟨sooner, hoffer, fun n hn => ?_⟩
        obtain ⟨hn, hlt⟩ := hbehind n hn
        rw [rankIn_cons_of_mem hnew hn, rankIn_cons_of_mem hnew hin]
        exact ⟨List.mem_cons_of_mem _ hn, hlt⟩

/-- Drawing such candidates lowers the rank. -/
theorem ranked_sooner (hg : g.Separated) :
    Ranked (Sooner g order) (· ∈ order) fun name => rankIn name order where
  isOver _ _ _ h := ⟨hg.of_offers h.1, fun n hn => (h.2 n hn).1⟩
  lt _ _ _ h n hn := (h.2 n hn).2

end

/-- The token of a productive category can be expanded in as many passes as
there are categories. -/
theorem exists_expand_eq_ok (hg : g.Separated) {name : Name} (hword : Token.IsWord name)
    (h : g.Productive name) :
    ∃ script w, ∀ limit, g.size ≤ limit →
      (expand Chooser.scripted g limit (Token.render name) script).1.outcome = .ok w := by
  obtain ⟨order, hstaged, hmem⟩ := g.exists_staged
  have hname : name ∈ order := (hmem name).2 h
  have hrank : ∀ n ∈ Token.names (Token.render name), rankIn n order < order.length := by
    intro n hn
    rw [Token.names_render hword] at hn
    cases List.mem_singleton.1 hn
    exact rankIn_lt_length hname
  -- Drawing what was found productive sooner uses up the rank, a pass at a time.
  obtain ⟨n, hn, w, hpasses, hend⟩ :=
    (ranked_sooner hg).exists_passes (fun _ => exists_sooner hstaged) (over_render hword hname)
      hrank
  obtain ⟨script, hscript⟩ := (hpasses.mono fun _ _ hc => hc.1).exists_script_ok hend
  refine ⟨script, w, fun limit hle => hscript limit ?_⟩
  calc n ≤ order.length := hn
    _ ≤ g.size := hstaged.length_le_size
    _ ≤ limit := hle

/-- Over separated candidates the check tells what the expander does. A category
reported as a cycle is reachable, and its token runs out of passes whatever is
drawn. In a grammar that passes, the token of every reachable category can be
expanded in as many passes as there are categories. -/
theorem check_foretells_expand {g : Grammar} (hg : g.Separated) :
    (∀ name, g.check = .error (.cyclicCategory name) →
      g.Reachable rootsName name ∧ ∀ (σ : Type) (ch : Chooser σ) (limit : Nat) (s : σ),
        (expand ch g limit (Token.render name) s).1.outcome = .error (.expansionLimit limit)) ∧
    (g.check = .ok () → ∀ name, g.Reachable rootsName name →
      ∃ script w, ∀ limit, g.size ≤ limit →
        (expand Chooser.scripted g limit (Token.render name) script).1.outcome = .ok w) := by
  constructor
  · intro name hcheck
    obtain ⟨hwell, hcycle⟩ := Grammar.check_eq_cycle hcheck
    obtain ⟨hreach, hstuck⟩ := Grammar.of_cycleFault?_eq_some hcycle
    refine ⟨hreach, fun σ ch limit s => ?_⟩
    exact expand_eq_limit hg hwell.toComplete (isWord_of_reachable hreach)
      hreach.has hstuck ch limit s
  · intro hcheck name hreach
    obtain ⟨-, hcycle⟩ := Grammar.check_eq_ok hcheck
    exact exists_expand_eq_ok hg (isWord_of_reachable hreach)
      (Grammar.cycleFault?_eq_none_iff.1 hcycle name hreach)

/-- A part that is always followed by another one. -/
def endlessList : Grammar :=
  .ofRules [(rootsName, ["none".toList, "#part#".toList]), ("part".toList, ["x, #part#".toList])]

theorem check_foretells_expand_lists :
    (∀ (σ : Type) (ch : Chooser σ) (limit : Nat) (s : σ),
      (expand ch endlessList limit "#part#".toList s).1.outcome
        = .error (.expansionLimit limit)) ∧
      ∃ script w, ∀ limit, 2 ≤ limit →
        (expand Chooser.scripted partList limit "#part#".toList script).1.outcome = .ok w := by
  constructor
  · have hcheck : endlessList.check = .error (.cyclicCategory "part".toList) := by decide
    exact ((check_foretells_expand (by decide)).1 _ hcheck).2
  · have hreach : partList.Reachable rootsName "part".toList :=
      Grammar.mem_reachableFrom_iff.1 (by decide)
    exact (check_foretells_expand (by decide)).2 (by decide) _ hreach

end Vignette.Expansion
