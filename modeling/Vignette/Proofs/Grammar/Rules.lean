import Vignette.Fault
import Vignette.Proofs.Token.Separated
import Vignette.Grammar.Basic

/-!
# `Vignette.Proofs.Grammar.Rules`: what a grammar offers for a token

A category is found by its name because the rules are sorted, so looking it up
and being among the rules are the same (`mem_rules_iff`). `Offers` says what may
be written for a token, `drawFault?` why nothing can be.

* `Grammar.Separated`: every candidate is a separated fragment.
* `Grammar.Complete`: every category has a candidate and every token names a
  category.
-/

set_option autoImplicit false

namespace Vignette.Grammar

theorem mem_rules_iff {g : Grammar} {name : Name} {candidates : List Text} :
    (name, candidates) ∈ g.rules ↔ g.candidates? name = some candidates := by
  obtain ⟨rules, hs⟩ := g
  show (name, candidates) ∈ rules ↔ rules.lookup name = some candidates
  induction rules with
  | nil => simp
  | cons rule rules ih =>
      obtain ⟨n, cs⟩ := rule
      obtain ⟨hlt, hrules⟩ := List.pairwise_cons.1 hs
      rw [List.mem_cons, ih hrules, List.lookup_cons]
      by_cases hn : name = n
      · -- The names are in order, so no later rule has this one.
        subst hn
        have hnone : rules.lookup name = none := lookup_eq_none_of_forall_lt hlt
        simp [hnone, eq_comm]
      · simp [hn, beq_false_of_ne hn]

theorem has_iff {g : Grammar} {name : Name} :
    g.has name ↔ ∃ candidates, g.candidates? name = some candidates :=
  Option.isSome_iff_exists

/-- `candidate` is one of the candidates of the category. -/
def Offers (g : Grammar) (name : Name) (candidate : Text) : Prop :=
  ∃ candidates, g.candidates? name = some candidates ∧ candidate ∈ candidates

/-- Why nothing can be drawn from a category: it is absent or empty. -/
def drawFault? (g : Grammar) (name : Name) : Option Fault :=
  match g.candidates? name with
  | none => some (.unknownCategory name)
  | some [] => some (.emptyCategory name)
  | some (_ :: _) => none

theorem drawFault?_of_not_has {g : Grammar} {name : Name} (h : ¬ g.has name) :
    g.drawFault? name = some (.unknownCategory name) := by
  have hnone : g.candidates? name = none := by simpa [has] using h
  simp [drawFault?, hnone]

/-- No fault of a draw is a lack of passes. -/
theorem drawFault?_ne_expansionLimit (g : Grammar) (name : Name) (limit : Nat) :
    g.drawFault? name ≠ some (.expansionLimit limit) := by
  unfold drawFault?
  split <;> simp

/-- All candidates are separated. -/
def Separated (g : Grammar) : Prop :=
  ∀ rule ∈ g.rules, ∀ candidate ∈ rule.2, Token.Separated candidate

instance (g : Grammar) : Decidable g.Separated :=
  inferInstanceAs (Decidable (∀ rule ∈ g.rules, ∀ candidate ∈ rule.2, Token.Separated candidate))

/-- No token can fail to be resolved. -/
structure Complete (g : Grammar) : Prop where
  nonempty : ∀ rule ∈ g.rules, rule.2 ≠ []
  known : ∀ rule ∈ g.rules, ∀ candidate ∈ rule.2, ∀ name ∈ Token.names candidate, g.has name

instance (g : Grammar) : Decidable g.Complete :=
  decidable_of_iff
    ((∀ rule ∈ g.rules, rule.2 ≠ []) ∧
      ∀ rule ∈ g.rules, ∀ candidate ∈ rule.2, ∀ name ∈ Token.names candidate, g.has name)
    ⟨fun h => ⟨h.1, h.2⟩, fun h => ⟨h.nonempty, h.known⟩⟩

theorem Separated.of_offers {g : Grammar} (h : g.Separated) {name : Name} {candidate : Text}
    (ho : g.Offers name candidate) : Token.Separated candidate := by
  obtain ⟨candidates, hlookup, hmem⟩ := ho
  exact h _ (mem_rules_iff.2 hlookup) candidate hmem

theorem Complete.has_of_offers {g : Grammar} (h : g.Complete) {name : Name} {candidate : Text}
    (ho : g.Offers name candidate) : ∀ n ∈ Token.names candidate, g.has n := by
  obtain ⟨candidates, hlookup, hmem⟩ := ho
  exact h.known _ (mem_rules_iff.2 hlookup) candidate hmem

theorem Complete.exists_offers {g : Grammar} (h : g.Complete) {name : Name} (hn : g.has name) :
    ∃ candidate, g.Offers name candidate := by
  obtain ⟨candidates, hlookup⟩ := has_iff.1 hn
  have hne : candidates ≠ [] := h.nonempty _ (mem_rules_iff.2 hlookup)
  obtain ⟨candidate, hmem⟩ := List.exists_mem_of_ne_nil candidates hne
  exact ⟨candidate, candidates, hlookup, hmem⟩

/-- Drawing from a category of a complete grammar never fails. -/
theorem Complete.drawFault?_eq_none {g : Grammar} (h : g.Complete) {name : Name}
    (hn : g.has name) : g.drawFault? name = none := by
  obtain ⟨candidates, hlookup⟩ := has_iff.1 hn
  have hne : candidates ≠ [] := h.nonempty _ (mem_rules_iff.2 hlookup)
  cases candidates with
  | nil => exact absurd rfl hne
  | cons candidate candidates => simp [drawFault?, hlookup]

/-- In a complete grammar a draw can only fail on a name that is no category. -/
theorem Complete.eq_of_drawFault? {g : Grammar} (h : g.Complete) {name : Name} {fault : Fault}
    (hfault : g.drawFault? name = some fault) :
    ¬ g.has name ∧ fault = .unknownCategory name := by
  have hhas : ¬ g.has name := by
    intro hhas
    rw [h.drawFault?_eq_none hhas] at hfault
    cases hfault
  rw [drawFault?_of_not_has hhas] at hfault
  cases hfault
  exact ⟨hhas, rfl⟩

end Vignette.Grammar
