import Vignette.Text
import Vignette.Token

/-!
# `Vignette.Grammar.Basic`: categories and their candidates

A grammar maps category names to candidate fragments. The categories are kept
in the order of their names, each name once.

- `Grammar.candidates?_update`: an update changes the candidates of the one
  category that it names.
-/

set_option autoImplicit false

namespace Vignette

/-- A category and its candidates. -/
abbrev Rule := Name × List Text

/-- The name of the category that generation starts from. -/
def rootsName : Name := ['r', 'o', 'o', 't', 's']

/-- Categories in the order of their names. -/
structure Grammar where
  rules : List Rule
  sorted : rules.Pairwise fun a b => a.1 < b.1
  deriving DecidableEq

namespace Grammar

/-- The grammar without categories. -/
def empty : Grammar :=
  ⟨[], .nil⟩

instance : Inhabited Grammar := ⟨empty⟩

/-! ### Reading -/

/-- The candidates of a category. -/
def candidates? (g : Grammar) (name : Name) : Option (List Text) :=
  g.rules.lookup name

/-- The candidates that generation starts from. -/
def roots? (g : Grammar) : Option (List Text) :=
  g.candidates? rootsName

/-- Whether the grammar has the category. -/
def has (g : Grammar) (name : Name) : Bool :=
  (g.candidates? name).isSome

/-- The names of the categories, in order. -/
def names (g : Grammar) : List Name :=
  g.rules.map (·.1)

/-- The number of categories. -/
def size (g : Grammar) : Nat :=
  g.rules.length

/-! ### Updating -/

/-- Applies `f` to the candidates of the category `name`, which starts empty if
it is new. -/
def updateRules (name : Name) (f : List Text → List Text) : List Rule → List Rule
  | [] => [(name, f [])]
  | (n, cs) :: rules =>
    if name < n then (name, f []) :: (n, cs) :: rules
    else if name = n then (n, f cs) :: rules
    else (n, cs) :: updateRules name f rules

theorem forall_lt_updateRules {m name : Name} {f : List Text → List Text} {rules : List Rule}
    (h : ∀ r ∈ rules, m < r.1) (hm : m < name) : ∀ r ∈ updateRules name f rules, m < r.1 := by
  induction rules with
  | nil => simpa [updateRules] using hm
  | cons rule rules ih =>
    intro r hr
    unfold updateRules at hr
    split at hr
    · rcases List.mem_cons.1 hr with rfl | hr
      · exact hm
      · exact h r hr
    · split at hr
      · rcases List.mem_cons.1 hr with rfl | hr
        · exact h rule (by simp)
        · exact h r (by simp [hr])
      · rcases List.mem_cons.1 hr with rfl | hr
        · exact h rule (by simp)
        · exact ih (fun r hr => h r (by simp [hr])) r hr

theorem pairwise_updateRules {name : Name} {f : List Text → List Text} {rules : List Rule}
    (h : rules.Pairwise fun a b => a.1 < b.1) :
    (updateRules name f rules).Pairwise fun a b => a.1 < b.1 := by
  induction rules with
  | nil => simp [updateRules]
  | cons rule rules ih =>
    obtain ⟨hr, hrules⟩ := List.pairwise_cons.1 h
    unfold updateRules
    split
    · rename_i hlt
      refine List.pairwise_cons.2 ⟨?_, h⟩
      intro r hmem
      rcases List.mem_cons.1 hmem with rfl | hmem
      · exact hlt
      · exact List.lt_trans hlt (hr r hmem)
    · split
      · exact List.pairwise_cons.2 ⟨hr, hrules⟩
      · rename_i hnlt hne
        refine List.pairwise_cons.2 ⟨?_, ih hrules⟩
        have hlt : rule.1 < name :=
          (List.le_iff_lt_or_eq.1 (List.not_lt.1 hnlt)).resolve_right fun heq => hne heq.symm
        exact forall_lt_updateRules hr hlt

/-- Applies `f` to the candidates of one category. -/
def update (g : Grammar) (name : Name) (f : List Text → List Text) : Grammar :=
  ⟨updateRules name f g.rules, pairwise_updateRules g.sorted⟩

/-- Appends candidates to a category. -/
def addRule (g : Grammar) (name : Name) (candidates : List Text) : Grammar :=
  g.update name (· ++ candidates)

/-- Gives a category these candidates and no others. -/
def setRule (g : Grammar) (name : Name) (candidates : List Text) : Grammar :=
  g.update name fun _ => candidates

/-- Adds rules one after another. -/
def addRules (g : Grammar) (rules : List Rule) : Grammar :=
  rules.foldl (fun g rule => g.addRule rule.1 rule.2) g

/-- The grammar that consists of the given rules. -/
def ofRules (rules : List Rule) : Grammar :=
  empty.addRules rules

theorem lookup_eq_none_of_forall_lt {name : Name} {rules : List Rule}
    (h : ∀ r ∈ rules, name < r.1) : rules.lookup name = none := by
  rw [List.lookup_eq_none_iff]
  intro r hr
  have hne : name ≠ r.1 := fun heq => List.lt_irrefl _ (heq ▸ h r hr)
  exact bne_iff_ne.2 hne

/-- An update changes the candidates of the one category that it names. -/
theorem candidates?_update (g : Grammar) (name other : Name) (f : List Text → List Text) :
    (g.update name f).candidates? other =
      if other = name then some (f ((g.candidates? name).getD [])) else g.candidates? other := by
  obtain ⟨rules, hs⟩ := g
  simp only [update, candidates?]
  induction rules with
  | nil =>
    by_cases h : other = name
    · simp [updateRules, h]
    · simp [updateRules, List.lookup_cons, h, beq_false_of_ne h]
  | cons rule rules ih =>
    obtain ⟨n, cs⟩ := rule
    obtain ⟨hr, hrules⟩ := List.pairwise_cons.1 hs
    have ih := ih hrules
    unfold updateRules
    split
    · rename_i hlt
      have hnone : ((n, cs) :: rules).lookup name = none := by
        apply lookup_eq_none_of_forall_lt
        intro r hmem
        rcases List.mem_cons.1 hmem with rfl | hmem
        · exact hlt
        · exact List.lt_trans hlt (hr r hmem)
      rw [hnone]
      by_cases h : other = name
      · simp [h]
      · simp [List.lookup_cons, h, beq_false_of_ne h]
    · split
      · rename_i heq
        subst heq
        by_cases h : other = name
        · simp [h]
        · simp [List.lookup_cons, h, beq_false_of_ne h]
      · rename_i hne
        by_cases hother : other = n
        · subst hother
          have : other ≠ name := fun h => hne h.symm
          simp [this]
        · simp [List.lookup_cons, beq_false_of_ne hother, beq_false_of_ne hne, ih]

end Grammar

end Vignette
