import Vignette.Grammar.Basic
import Vignette.NameSet

/-!
# `Vignette.Grammar.Closure`: reachable and productive categories

*Productive* categories have a candidate all of whose tokens name productive categories:
these can finish expanding. They are found by sweeps over the rules in order. What a
sweep adds counts for the rules behind it, and the first sweep that adds nothing is the
last one.

*Reachable* categories are the start and every category that a token of a candidate of a
reachable one names. They are found with a queue. A category that a token names for the
first time is put in the set and at the end of the queue, and the search is over when the
queue is empty.

Both loops only add categories of the grammar, so each time there are fewer of them left.
They are semireducible so that proofs can evaluate them on closed grammars.

- `Grammar.lacking_sweep_lt`: a sweep that changes something adds a category.
- `Grammar.lacking_visit_le`: a visit puts in the queue only what it adds to the set.
-/

set_option autoImplicit false

namespace Vignette.Grammar

/-! ### What a set lacks -/

/-- The number of categories that a set lacks. -/
def lacking (g : Grammar) (known : NameSet) : Nat :=
  g.names.countP fun name => name ∉ known

theorem lacking_insert_lt {g : Grammar} {known : NameSet} {name : Name} (hname : name ∈ g.names)
    (hnew : name ∉ known) : g.lacking (known.insert name) < g.lacking known := by
  have hmono (names : List Name) :
      names.countP (fun n => n ∉ known.insert name) ≤ names.countP fun n => n ∉ known := by
    refine List.countP_mono_left fun n _ hn => ?_
    simp only [decide_eq_true_eq, NameSet.mem_insert_iff, not_or] at hn ⊢
    exact hn.2
  -- The category itself is one that was missing and no longer is.
  obtain ⟨front, back, hnames⟩ := List.append_of_mem hname
  have hfront := hmono front
  have hback := hmono back
  have hin : name ∈ known.insert name := NameSet.mem_insert_iff.2 (.inl rfl)
  simp only [lacking, hnames, List.countP_append, List.countP_cons, decide_eq_true_eq]
  simp only [hin, hnew, not_true_eq_false, not_false_eq_true, if_true, if_false]
  omega

/-! ### Productive categories -/

/-- Whether the tokens of some candidate name members of the set only. -/
def finishes (known : NameSet) (candidates : List Text) : Bool :=
  candidates.any fun candidate => (Token.names candidate).all fun name => name ∈ known

/-- Looks at one rule: the set so far, and whether the sweep has changed it. -/
def sweepRule (state : NameSet × Bool) (rule : Rule) : NameSet × Bool :=
  if rule.1 ∈ state.1 then state
  else if finishes state.1 rule.2 then (state.1.insert rule.1, true)
  else state

/-- Looks at each rule once, in order. -/
def sweep (g : Grammar) (known : NameSet) : NameSet × Bool :=
  g.rules.foldl sweepRule (known, false)

theorem lacking_sweepRule {g : Grammar} {rule : Rule} (h : rule ∈ g.rules)
    (state : NameSet × Bool) :
    sweepRule state rule = state ∨ g.lacking (sweepRule state rule).1 < g.lacking state.1 := by
  unfold sweepRule
  split
  · exact .inl rfl
  · rename_i hnew
    split
    · exact .inr (lacking_insert_lt (List.mem_map_of_mem h) hnew)
    · exact .inl rfl

theorem lacking_foldl_sweepRule {g : Grammar} {rules : List Rule} (h : ∀ r ∈ rules, r ∈ g.rules)
    (state : NameSet × Bool) :
    rules.foldl sweepRule state = state ∨
      g.lacking (rules.foldl sweepRule state).1 < g.lacking state.1 := by
  induction rules generalizing state with
  | nil => exact .inl rfl
  | cons rule rules ih =>
    rw [List.foldl_cons]
    have hrest := ih (fun r hr => h r (List.mem_cons_of_mem rule hr)) (sweepRule state rule)
    rcases lacking_sweepRule (h rule List.mem_cons_self) state with hsame | hlt
    · rwa [hsame] at hrest ⊢
    · refine .inr ?_
      rcases hrest with hsame | hless
      · rwa [hsame]
      · exact Nat.lt_trans hless hlt

/-- A sweep that changes something adds a category. -/
theorem lacking_sweep_lt {g : Grammar} {known next : NameSet} (h : g.sweep known = (next, true)) :
    g.lacking next < g.lacking known := by
  have hstep := lacking_foldl_sweepRule (g := g) (fun _ hr => hr) (known, false)
  unfold sweep at h
  rw [h] at hstep
  exact hstep.resolve_left fun heq => by cases heq

/-- Makes sweeps until one changes nothing. -/
@[semireducible]
def saturate (g : Grammar) (known : NameSet) : NameSet :=
  match _ : g.sweep known with
  | (next, false) => next
  | (next, true) => g.saturate next
termination_by g.lacking known
decreasing_by exact lacking_sweep_lt ‹_›

/-- The categories that can finish expanding. -/
def productive (g : Grammar) : NameSet :=
  g.saturate .empty

/-! ### Reachable categories -/

theorem mem_names_of_has {g : Grammar} {name : Name} (h : g.has name) : name ∈ g.names := by
  obtain ⟨candidates, hlookup⟩ := Option.isSome_iff_exists.1 h
  obtain ⟨front, back, hrules, -⟩ := List.lookup_eq_some_iff.1 hlookup
  have hrule : (name, candidates) ∈ g.rules := by simp [hrules]
  exact List.mem_map_of_mem hrule

/-- Looks at the name in one token: what has been seen, and the queue. -/
def visitName (g : Grammar) (state : NameSet × List Name) (name : Name) : NameSet × List Name :=
  if g.has name ∧ name ∉ state.1 then (state.1.insert name, state.2 ++ [name]) else state

/-- The names in the tokens of all candidates of a category. -/
def asked (g : Grammar) (name : Name) : List Name :=
  ((g.candidates? name).getD []).flatMap Token.names

/-- Looks at all tokens of a category. -/
def visit (g : Grammar) (state : NameSet × List Name) (name : Name) : NameSet × List Name :=
  (g.asked name).foldl g.visitName state

theorem lacking_visitName_le (g : Grammar) (state : NameSet × List Name) (name : Name) :
    g.lacking (g.visitName state name).1 + (g.visitName state name).2.length
      ≤ g.lacking state.1 + state.2.length := by
  unfold visitName
  split
  · rename_i h
    have hlt := lacking_insert_lt (mem_names_of_has h.1) h.2
    simp only [List.length_append, List.length_singleton]
    omega
  · exact Nat.le_refl _

/-- A visit puts in the queue only what it adds to the set. -/
theorem lacking_visit_le (g : Grammar) (state : NameSet × List Name) (name : Name) :
    g.lacking (g.visit state name).1 + (g.visit state name).2.length
      ≤ g.lacking state.1 + state.2.length := by
  unfold visit
  induction g.asked name generalizing state with
  | nil => exact Nat.le_refl _
  | cons first names ih =>
    rw [List.foldl_cons]
    exact Nat.le_trans (ih _) (lacking_visitName_le g state first)

/-- Visits the categories in the queue, and those that this puts there. -/
@[semireducible]
def search (g : Grammar) (seen : NameSet) : (queue : List Name) → NameSet
  | [] => seen
  | name :: queue =>
    let visited := g.visit (seen, queue) name
    g.search visited.1 visited.2
termination_by queue => g.lacking seen + queue.length
decreasing_by exact Nat.lt_succ_of_le (lacking_visit_le g (seen, queue) name)

/-- The categories that chains of tokens lead to from `start`. -/
def reachableFrom (g : Grammar) (start : Name) : NameSet :=
  if g.has start then g.search (NameSet.empty.insert start) [start] else .empty

/-- The categories that chains of tokens lead to from the roots. -/
def reachable (g : Grammar) : NameSet :=
  g.reachableFrom rootsName

end Vignette.Grammar
