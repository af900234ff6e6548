import Vignette.Grammar.Check
import Vignette.Proofs.Grammar.Closure

/-!
# `Vignette.Proofs.Grammar.Check`: what a checked grammar promises

Each check that passes is a property of the grammar. A grammar without a fault
has roots, is complete, and everything reachable from the roots is productive. A
grammar whose fault is a cycle has passed all other checks.
-/

set_option autoImplicit false

namespace Vignette.Grammar

variable {g : Grammar}

/-- What the first four checks promise. -/
structure Wellformed (g : Grammar) : Prop extends Complete g where
  roots : g.has rootsName
  named : ¬ g.has []

theorem emptyNameFault?_eq_none_iff : g.emptyNameFault? = none ↔ ¬ g.has [] := by
  unfold emptyNameFault?
  split <;> simp_all

theorem missingRootsFault?_eq_none_iff : g.missingRootsFault? = none ↔ g.has rootsName := by
  unfold missingRootsFault?
  split <;> simp_all

theorem emptyCategoryFault?_eq_none_iff :
    g.emptyCategoryFault? = none ↔ ∀ rule ∈ g.rules, rule.2 ≠ [] := by
  simp [emptyCategoryFault?]

theorem unknownTokenFault?_eq_none_iff :
    g.unknownTokenFault? = none ↔
      ∀ rule ∈ g.rules, ∀ candidate ∈ rule.2, ∀ name ∈ Token.names candidate, g.has name := by
  simp only [unknownTokenFault?, Option.map_eq_none_iff, List.find?_eq_none, List.mem_flatMap,
    Bool.not_eq_true', Bool.not_eq_false]
  constructor
  · intro h rule hrule candidate hc name hname
    exact h name ⟨rule, hrule, candidate, hc, hname⟩
  · rintro h name ⟨rule, hrule, candidate, hc, hname⟩
    exact h rule hrule candidate hc name hname

theorem cycleFault?_eq_none_iff :
    g.cycleFault? = none ↔ ∀ name, g.Reachable rootsName name → g.Productive name := by
  simp only [cycleFault?, Option.map_eq_none_iff, List.find?_eq_none, decide_eq_true_eq, not_not,
    NameSet.mem_names, mem_reachable_iff, mem_productive_iff]

/-- The cycle that is reported is reachable and cannot finish expanding. -/
theorem of_cycleFault?_eq_some {name : Name} (h : g.cycleFault? = some (.cyclicCategory name)) :
    g.Reachable rootsName name ∧ ¬ g.Productive name := by
  obtain ⟨n, hfind, heq⟩ := Option.map_eq_some_iff.1 h
  cases heq
  have hmem := List.mem_of_find?_eq_some hfind
  have hstuck := List.find?_some hfind
  refine ⟨mem_reachable_iff.1 hmem, fun hprod => ?_⟩
  simp [mem_productive_iff.2 hprod] at hstuck

/-- The first four checks in one. -/
theorem wellformed_of_faults (hempty : g.emptyNameFault? = none)
    (hroots : g.missingRootsFault? = none) (hcategory : g.emptyCategoryFault? = none)
    (htoken : g.unknownTokenFault? = none) : g.Wellformed where
  nonempty := emptyCategoryFault?_eq_none_iff.1 hcategory
  known := unknownTokenFault?_eq_none_iff.1 htoken
  roots := missingRootsFault?_eq_none_iff.1 hroots
  named := emptyNameFault?_eq_none_iff.1 hempty

theorem check_eq_ok_iff : g.check = .ok () ↔ g.fault? = none := by
  unfold check
  split <;> simp_all

theorem check_eq_error_iff {fault : Fault} : g.check = .error fault ↔ g.fault? = some fault := by
  unfold check
  split <;> simp_all

/-- A grammar passes when no check finds a fault. -/
theorem check_eq_ok (h : g.check = .ok ()) : g.Wellformed ∧ g.cycleFault? = none := by
  have hfault := check_eq_ok_iff.1 h
  simp only [fault?, Option.orElse_eq_orElse, Option.orElse_eq_or, Option.or_eq_none_iff]
    at hfault
  obtain ⟨hempty, hroots, hcategory, htoken, hcycle⟩ := hfault
  exact ⟨wellformed_of_faults hempty hroots hcategory htoken, hcycle⟩

/-- A grammar that is loaded has passed the check, whatever has read it. -/
theorem check_of_loadWith {read : Text → Except Complaint Grammar} {t : Text}
    (h : loadWith read t = .ok g) : g.check = .ok () := by
  unfold loadWith at h
  split at h
  · cases h
  · rename_i grammar _
    unfold checked at h
    cases hcheck : grammar.check with
    | error fault =>
        rw [hcheck] at h
        cases h
    | ok =>
        rw [hcheck] at h
        cases h
        exact hcheck

/-- A cycle is reported only when the other checks find no fault. -/
theorem check_eq_cycle {name : Name} (h : g.check = .error (.cyclicCategory name)) :
    g.Wellformed ∧ g.cycleFault? = some (.cyclicCategory name) := by
  have hfault := check_eq_error_iff.1 h
  -- Each of the other checks reports a fault of its own kind.
  have hempty : g.emptyNameFault? ≠ some (.cyclicCategory name) := by
    unfold emptyNameFault?
    split <;> simp
  have hroots : g.missingRootsFault? ≠ some (.cyclicCategory name) := by
    unfold missingRootsFault?
    split <;> simp
  have hcategory : g.emptyCategoryFault? ≠ some (.cyclicCategory name) := by
    simp [emptyCategoryFault?]
  have htoken : g.unknownTokenFault? ≠ some (.cyclicCategory name) := by
    intro h
    obtain ⟨n, -, hn⟩ := Option.map_eq_some_iff.1 h
    cases hn
  simp only [fault?, Option.orElse_eq_orElse, Option.orElse_eq_or, Option.or_eq_some_iff]
    at hfault
  rcases hfault with h | ⟨h₁, h | ⟨h₂, h | ⟨h₃, h | ⟨h₄, hcycle⟩⟩⟩⟩
  · exact absurd h hempty
  · exact absurd h hroots
  · exact absurd h hcategory
  · exact absurd h htoken
  · exact ⟨wellformed_of_faults h₁ h₂ h₃ h₄, hcycle⟩

end Vignette.Grammar
