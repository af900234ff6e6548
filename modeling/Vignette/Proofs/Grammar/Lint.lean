import Vignette.Grammar.Lint
import Vignette.Proofs.Grammar.Closure

/-!
# `Vignette.Proofs.Grammar.Lint`: what the findings mean

A category is reported as never reached exactly when it is not one of the roots and
no chain of tokens leads to it from them.
-/

set_option autoImplicit false

namespace Vignette.Grammar

variable {g : Grammar}

/-- The findings about single categories are of other kinds. -/
theorem unreached_not_mem_lintRule (name : Name) (rule : Rule) :
    Finding.unreached name ∉ lintRule rule := by
  intro hmem
  rcases List.mem_append.1 hmem with hmem | hmem
  · split at hmem <;> simp at hmem
  · obtain ⟨⟨candidate, index⟩, -, hmem⟩ := List.mem_flatMap.1 hmem
    rcases List.mem_append.1 hmem with hmem | hmem
    · split at hmem <;> simp at hmem
    · split at hmem <;> simp at hmem

theorem mem_lint_unreached_iff {name : Name} :
    Finding.unreached name ∈ g.lint ↔
      g.has name ∧ name ≠ rootsName ∧ ¬ g.Reachable rootsName name := by
  -- Only the first part of the findings can hold this one.
  have hrules : Finding.unreached name ∉ g.rules.flatMap lintRule := by
    rw [List.mem_flatMap]
    rintro ⟨rule, -, hmem⟩
    exact unreached_not_mem_lintRule name rule hmem
  rw [has_iff_mem_names, ← mem_reachable_iff]
  simp [lint, hrules]

/-- What the roots lead to is not reported. -/
theorem Reachable.not_mem_lint {name : Name} (h : g.Reachable rootsName name) :
    Finding.unreached name ∉ g.lint := by
  intro hmem
  exact (mem_lint_unreached_iff.1 hmem).2.2 h

end Vignette.Grammar
