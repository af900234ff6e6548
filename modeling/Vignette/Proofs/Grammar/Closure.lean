import Mathlib.Data.List.Perm.Subperm
import Vignette.Grammar.Closure
import Vignette.Proofs.Grammar.Rules

/-!
# `Vignette.Proofs.Grammar.Closure`: the two closures are exact

`Reachable` and `Productive` say in one rule each what a chain of tokens leads to and
what can finish expanding. Both loops stop (`Vignette.Grammar.Closure`), and what they
stop with are exactly these sets.

A sweep changes the set that it reads, so what it adds depends on the order of the rules.
Whatever the order, an added category has a candidate whose tokens name categories added
before it. `Staged` lists categories in such an order, and a set stays a `Staged` one in
every step of a sweep. In the end a whole sweep has changed nothing: no category that it
left out has a candidate with known tokens only, so none that is left out is productive.

The queue holds what has been seen and not yet visited. All that has been seen is
reachable, and what the tokens of a visited category name has been seen (`Searched`).
When the queue is empty everything has been visited.

* `exists_staged`: the productive categories in an order in which they can be found.
* `mem_productive_iff`, `mem_reachableFrom_iff`: the sets are the ones described.
-/

set_option autoImplicit false

namespace Vignette.Grammar

variable {g : Grammar}

/-- What chains of tokens lead to from `start`. -/
inductive Reachable (g : Grammar) (start : Name) : Name → Prop
  | start : g.has start → Reachable g start start
  | token {name next : Name} {candidate : Text} : Reachable g start name →
      g.Offers name candidate → next ∈ Token.names candidate → g.has next →
      Reachable g start next

/-- What has a candidate all of whose tokens are productive again. -/
inductive Productive (g : Grammar) : Name → Prop
  | intro {name : Name} {candidate : Text} : g.Offers name candidate →
      (∀ n ∈ Token.names candidate, Productive g n) → Productive g name

theorem Reachable.has {start name : Name} (h : g.Reachable start name) : g.has name := by
  cases h with
  | start hhas => exact hhas
  | token _ _ _ hhas => exact hhas

/-! ### The names of a grammar -/

theorem has_iff_mem_names {name : Name} : g.has name ↔ name ∈ g.names := by
  constructor
  · exact mem_names_of_has
  · intro h
    obtain ⟨⟨n, candidates⟩, hrule, rfl⟩ := List.mem_map.1 h
    exact has_iff.2 ⟨candidates, mem_rules_iff.1 hrule⟩

theorem Offers.has {name : Name} {candidate : Text} (h : g.Offers name candidate) :
    g.has name := by
  obtain ⟨candidates, hlookup, -⟩ := h
  exact has_iff.2 ⟨candidates, hlookup⟩

/-! ### Productive categories -/

/-- Categories, each with a candidate whose tokens name categories behind it. -/
inductive Staged (g : Grammar) : List Name → Prop
  | nil : Staged g []
  | cons {name : Name} {candidate : Text} {order : List Name} : Staged g order → name ∉ order →
      g.Offers name candidate → (∀ n ∈ Token.names candidate, n ∈ order) →
      Staged g (name :: order)

namespace Staged

variable {order : List Name}

theorem productive (h : g.Staged order) : ∀ name ∈ order, g.Productive name := by
  induction h with
  | nil => simp
  | cons _ _ hoffer hnames ih =>
      intro n hn
      rcases List.mem_cons.1 hn with rfl | hn
      · exact .intro hoffer fun m hm => ih m (hnames m hm)
      · exact ih n hn

theorem nodup (h : g.Staged order) : order.Nodup := by
  induction h with
  | nil => exact List.nodup_nil
  | cons _ hnew _ _ ih => exact List.nodup_cons.2 ⟨hnew, ih⟩

/-- There are no more of them than the grammar has. -/
theorem length_le_size (h : g.Staged order) : order.length ≤ g.size := by
  have hsub : order ⊆ g.names := by
    intro name hname
    cases h.productive name hname with
    | intro hoffer _ => exact has_iff_mem_names.1 hoffer.has
  have hle := (List.subperm_of_subset h.nodup hsub).length_le
  rwa [names, List.length_map] at hle

end Staged

/-- The set can be put in such an order. -/
def Founded (g : Grammar) (known : NameSet) : Prop :=
  ∃ order, g.Staged order ∧ ∀ name, name ∈ order ↔ name ∈ known

theorem finishes_iff {known : NameSet} {candidates : List Text} :
    finishes known candidates ↔
      ∃ candidate ∈ candidates, ∀ name ∈ Token.names candidate, name ∈ known := by
  simp [finishes, List.any_eq_true, List.all_eq_true]

/-- A step of a sweep adds a category behind those that its candidate needs. -/
theorem founded_sweepRule {state : NameSet × Bool} {rule : Rule} (hrule : rule ∈ g.rules)
    (h : g.Founded state.1) : g.Founded (sweepRule state rule).1 := by
  unfold sweepRule
  split
  · exact h
  · rename_i hnew
    split
    · rename_i hfinishes
      obtain ⟨order, hstaged, hmem⟩ := h
      obtain ⟨candidate, hcandidate, hnames⟩ := finishes_iff.1 hfinishes
      have hoffer : g.Offers rule.1 candidate := ⟨rule.2, mem_rules_iff.1 hrule, hcandidate⟩
      refine ⟨rule.1 :: order, .cons hstaged ?_ hoffer ?_, ?_⟩
      · rwa [hmem]
      · exact fun n hn => (hmem n).2 (hnames n hn)
      · intro n
        rw [List.mem_cons, hmem, NameSet.mem_insert_iff]
    · exact h

theorem founded_sweep {known : NameSet} (h : g.Founded known) : g.Founded (g.sweep known).1 :=
  List.foldlRecOn g.rules sweepRule (motive := fun state => g.Founded state.1) h
    fun _ hstate _ hrule => founded_sweepRule hrule hstate

/-- A step that changes nothing has found the rule known already or without a candidate
to add it for. -/
theorem of_sweepRule_unchanged {state : NameSet × Bool} {rule : Rule}
    (h : (sweepRule state rule).2 = false) :
    sweepRule state rule = state ∧ (finishes state.1 rule.2 → rule.1 ∈ state.1) := by
  unfold sweepRule at h ⊢
  split at h
  · rename_i hknown
    simp [hknown]
  · rename_i hnew
    split at h
    · cases h
    · rename_i hstuck
      simp [hnew, hstuck]

theorem of_foldl_sweepRule_unchanged {rules : List Rule} {state : NameSet × Bool}
    (h : (rules.foldl sweepRule state).2 = false) :
    rules.foldl sweepRule state = state ∧
      ∀ rule ∈ rules, finishes state.1 rule.2 → rule.1 ∈ state.1 := by
  induction rules generalizing state with
  | nil => exact ⟨rfl, by simp⟩
  | cons first rules ih =>
      rw [List.foldl_cons] at h ⊢
      -- The rest has changed nothing, so neither has the first step.
      obtain ⟨hrest, hrules⟩ := ih h
      rw [hrest] at h
      obtain ⟨hfirst, hrule⟩ := of_sweepRule_unchanged h
      rw [hfirst] at hrules
      exact ⟨hrest.trans hfirst, List.forall_mem_cons.2 ⟨hrule, hrules⟩⟩

/-- A sweep that changes nothing has looked at every rule with the same set. -/
theorem of_sweep_unchanged {known next : NameSet} (h : g.sweep known = (next, false)) :
    next = known ∧ ∀ rule ∈ g.rules, finishes known rule.2 → rule.1 ∈ known := by
  unfold sweep at h
  obtain ⟨hsame, hrules⟩ := of_foldl_sweepRule_unchanged (congrArg Prod.snd h)
  rw [h] at hsame
  cases hsame
  exact ⟨rfl, hrules⟩

/-- The set that the sweeps end with is still in order, and it leaves no rule out that has
a candidate for it. -/
theorem founded_saturate {known : NameSet} (h : g.Founded known) :
    g.Founded (g.saturate known) ∧
      ∀ rule ∈ g.rules, finishes (g.saturate known) rule.2 → rule.1 ∈ g.saturate known := by
  fun_induction saturate g known with
  | case1 known next hsweep =>
      obtain ⟨rfl, hrules⟩ := of_sweep_unchanged hsweep
      exact ⟨h, hrules⟩
  | case2 known next hsweep ih =>
      refine ih ?_
      have hnext := founded_sweep h
      rwa [hsweep] at hnext

theorem founded_productive (g : Grammar) :
    g.Founded g.productive ∧
      ∀ rule ∈ g.rules, finishes g.productive rule.2 → rule.1 ∈ g.productive :=
  founded_saturate ⟨[], .nil, fun name => by simp⟩

/-- The productive categories are what can finish expanding. -/
theorem mem_productive_iff {name : Name} : name ∈ g.productive ↔ g.Productive name := by
  obtain ⟨⟨order, hstaged, hmem⟩, hrules⟩ := founded_productive g
  constructor
  · intro h
    exact hstaged.productive name ((hmem name).2 h)
  · -- A category with a productive candidate would have been added.
    intro h
    induction h with
    | intro hoffer _ ih =>
        obtain ⟨candidates, hlookup, hcandidate⟩ := hoffer
        exact hrules _ (mem_rules_iff.2 hlookup) (finishes_iff.2 ⟨_, hcandidate, ih⟩)

/-- The productive categories in an order in which they can be found. -/
theorem exists_staged (g : Grammar) :
    ∃ order, g.Staged order ∧ ∀ name, name ∈ order ↔ g.Productive name := by
  obtain ⟨⟨order, hstaged, hmem⟩, -⟩ := founded_productive g
  exact ⟨order, hstaged, fun name => (hmem name).trans mem_productive_iff⟩

/-! ### Reachable categories -/

theorem mem_asked_iff {name next : Name} :
    next ∈ g.asked name ↔ ∃ candidate, g.Offers name candidate ∧ next ∈ Token.names candidate := by
  unfold asked Offers
  rw [List.mem_flatMap]
  cases g.candidates? name with
  | none => simp
  | some candidates => simp

section
variable {state : NameSet × List Name} {names : List Name} {n : Name}

/-- The names in tokens are seen if they are categories. -/
theorem mem_foldl_visitName_iff :
    n ∈ (names.foldl g.visitName state).1 ↔ n ∈ state.1 ∨ n ∈ names ∧ g.has n := by
  induction names generalizing state with
  | nil => simp
  | cons first names ih =>
      have hfirst : n ∈ (g.visitName state first).1 ↔ n ∈ state.1 ∨ n = first ∧ g.has n := by
        unfold visitName
        split
        · rw [NameSet.mem_insert_iff]
          grind
        · grind
      rw [List.foldl_cons, ih, hfirst, List.mem_cons]
      grind

/-- Those that are seen for the first time are put in the queue. -/
theorem mem_queue_foldl_visitName_iff :
    n ∈ (names.foldl g.visitName state).2 ↔
      n ∈ state.2 ∨ n ∈ names ∧ g.has n ∧ n ∉ state.1 := by
  induction names generalizing state with
  | nil => simp
  | cons first names ih =>
      rw [List.foldl_cons, ih, List.mem_cons]
      unfold visitName
      split
      · rw [NameSet.mem_insert_iff, List.mem_append, List.mem_singleton]
        grind
      · grind

end

/-- What has been found out when so much has been seen and so much waits in the queue. -/
structure Searched (g : Grammar) (start : Name) (seen : NameSet) (queue : List Name) : Prop where
  reachable : ∀ name ∈ seen, g.Reachable start name
  /-- What waits has been seen. -/
  waiting : ∀ name ∈ queue, name ∈ seen
  /-- What has been seen and no longer waits has been visited. -/
  visited : ∀ name ∈ seen, name ∉ queue → ∀ next ∈ g.asked name, g.has next → next ∈ seen

namespace Searched

variable {start : Name} {seen : NameSet} {queue : List Name}

/-- A visit of the first category in the queue. -/
theorem visit {name : Name} (h : g.Searched start seen (name :: queue)) :
    g.Searched start (g.visit (seen, queue) name).1 (g.visit (seen, queue) name).2 := by
  have hname : name ∈ seen := h.waiting name List.mem_cons_self
  constructor
  · intro n hn
    rcases mem_foldl_visitName_iff.1 hn with hold | ⟨hasked, hhas⟩
    · exact h.reachable n hold
    · obtain ⟨candidate, hoffer, hin⟩ := mem_asked_iff.1 hasked
      exact .token (h.reachable name hname) hoffer hin hhas
  · intro n hn
    refine mem_foldl_visitName_iff.2 ?_
    rcases mem_queue_foldl_visitName_iff.1 hn with hold | ⟨hasked, hhas, -⟩
    · exact .inl (h.waiting n (List.mem_cons_of_mem name hold))
    · exact .inr ⟨hasked, hhas⟩
  · intro n hn hgone next hnext hhas
    have hqueue : ¬ (n ∈ queue ∨ n ∈ g.asked name ∧ g.has n ∧ n ∉ seen) := fun h =>
      hgone (mem_queue_foldl_visitName_iff.2 h)
    refine mem_foldl_visitName_iff.2 ?_
    by_cases heq : n = name
    · -- This is the category that has just been visited.
      subst heq
      exact .inr ⟨hnext, hhas⟩
    · have hold : n ∈ seen := by
        rcases mem_foldl_visitName_iff.1 hn with hold | ⟨hasked, hn⟩
        · exact hold
        · by_contra hnew
          exact hqueue (.inr ⟨hasked, hn, hnew⟩)
      have hwaits : n ∉ name :: queue := by
        rw [List.mem_cons, not_or]
        exact ⟨heq, fun hin => hqueue (.inl hin)⟩
      exact .inl (h.visited n hold hwaits next hnext hhas)

/-- The search ends with nothing left to visit, and loses nothing on the way. -/
theorem search (h : g.Searched start seen queue) :
    g.Searched start (g.search seen queue) [] ∧ ∀ name ∈ seen, name ∈ g.search seen queue := by
  fun_induction Grammar.search g seen queue with
  | case1 seen => exact ⟨h, fun _ hname => hname⟩
  | case2 seen name queue visited ih =>
      obtain ⟨hend, hkept⟩ := ih h.visit
      exact ⟨hend, fun n hn => hkept n (mem_foldl_visitName_iff.2 (.inl hn))⟩

end Searched

/-- The reachable categories are what chains of tokens lead to. -/
theorem mem_reachableFrom_iff {start name : Name} :
    name ∈ g.reachableFrom start ↔ g.Reachable start name := by
  unfold reachableFrom
  split
  · rename_i hstart
    have hseen (n : Name) : n ∈ NameSet.empty.insert start ↔ n = start := by
      simp [NameSet.mem_insert_iff]
    have hsearched : g.Searched start (NameSet.empty.insert start) [start] := by
      constructor
      · intro n hn
        rw [(hseen n).1 hn]
        exact .start hstart
      · intro n hn
        exact (hseen n).2 (List.mem_singleton.1 hn)
      · intro n hn hgone
        exact absurd (List.mem_singleton.2 ((hseen n).1 hn)) hgone
    obtain ⟨hend, hkept⟩ := hsearched.search
    constructor
    · exact hend.reachable name
    · intro h
      induction h with
      | start => exact hkept start ((hseen start).2 rfl)
      | token _ hoffer hin hhas ih =>
          exact hend.visited _ ih List.not_mem_nil _ (mem_asked_iff.2 ⟨_, hoffer, hin⟩) hhas
  · -- Without the start there is nothing that a chain could begin with.
    rename_i hstart
    constructor
    · exact fun h => absurd h (NameSet.not_mem_empty name)
    · intro h
      induction h with
      | start hhas => exact absurd hhas hstart
      | token _ _ _ _ ih => exact absurd ih (NameSet.not_mem_empty _)

theorem mem_reachable_iff {name : Name} : name ∈ g.reachable ↔ g.Reachable rootsName name :=
  mem_reachableFrom_iff

end Vignette.Grammar
