import Mathlib.Data.List.Sort
import Vignette.Proofs.Grammar.FirstFault
import Vignette.Proofs.Grammar.Lint
import Vignette.Proofs.Span.Unpaired

/-!
# `Vignette.Proofs.Grammar.Findings`: which findings there are, and in which order

The findings are computed: categories are looked for in a closure, and candidates are
looked at after all their spans have been cut out. What is found can be told without
either. `Finds` says for each kind of finding what the grammar must be like, looking at
one category, one candidate or one delimiter. `Finding.Before` is the order in which
findings come.

* `Finding.Reads`: the text of a finding.
* `mem_lint_iff`: what is found is what there is to find.
* `pairwise_lint`: the findings come in order, each of them once.
* `lint_exact`: the findings are the one list of which both are true, and the messages
  are their texts.
-/

set_option autoImplicit false

namespace Vignette

namespace Finding

/-- The category that a finding is about. -/
def category : Finding → Name
  | unreached category => category
  | selfReference category => category
  | unclosed category _ _ => category
  | stray category _ _ => category

/-- Categories that are never reached make the first part of the findings. -/
def part : Finding → Nat
  | unreached _ => 0
  | selfReference _ => 1
  | unclosed _ _ _ => 1
  | stray _ _ _ => 1

/-- The place among the findings about one category in one part. The category as a
whole comes before its candidates, and `<` before `>`. -/
def rank : Finding → Nat
  | unreached _ => 0
  | selfReference _ => 0
  | unclosed _ index _ => 2 * index + 1
  | stray _ index _ => 2 * index + 2

/-- The order of findings: by part, then by category, then by rank. -/
def Before (f h : Finding) : Prop :=
  f.part < h.part ∨ f.part = h.part ∧
    (f.category.bytes < h.category.bytes ∨ f.category = h.category ∧ f.rank < h.rank)

theorem Before.asymm {f h : Finding} (hfh : f.Before h) : ¬ h.Before f := by
  intro hhf
  rcases hfh with hpart | ⟨hpart, hbytes | ⟨hcategory, hrank⟩⟩
  · rcases hhf with hpart' | ⟨hpart', -⟩
    · omega
    · omega
  · rcases hhf with hpart' | ⟨-, hbytes' | ⟨hcategory', -⟩⟩
    · omega
    · exact List.lt_irrefl _ (List.lt_trans hbytes hbytes')
    · rw [hcategory'] at hbytes
      exact List.lt_irrefl _ hbytes
  · rcases hhf with hpart' | ⟨-, hbytes' | ⟨-, hrank'⟩⟩
    · omega
    · rw [hcategory] at hbytes'
      exact List.lt_irrefl _ hbytes'
    · omega

instance : Std.Asymm Before where
  asymm _ _ := Before.asymm

/-- What a finding reads like. Names stand there as they are, the candidate in quotes. -/
inductive Reads : Finding → Text → Prop
  | unreached (category : Name) :
      Reads (.unreached category)
        ("category '".toList ++ category ++ "' is never reached from roots".toList)
  | selfReference (category : Name) :
      Reads (.selfReference category)
        ("category '".toList ++ category ++ "' references itself".toList)
  | unclosed (category : Name) (index : Nat) (candidate : Text) :
      Reads (.unclosed category index candidate)
        ("'".toList ++ category ++ "' candidate ".toList ++ Nat.toDigits 10 index ++
          " has a '<' that never closes: ".toList ++ candidate.quoted)
  | stray (category : Name) (index : Nat) (candidate : Text) :
      Reads (.stray category index candidate)
        ("'".toList ++ category ++ "' candidate ".toList ++ Nat.toDigits 10 index ++
          " has a stray '>': ".toList ++ candidate.quoted)

theorem Reads.unique {f : Finding} {t u : Text} (ht : f.Reads t) (hu : f.Reads u) : t = u := by
  cases ht <;> cases hu <;> rfl

theorem reads_message (f : Finding) : f.Reads f.message.toList := by
  cases f <;> simp only [message, toString, Nat.repr, Text.string, String.toList_append,
    String.toList_ofList]
  case unreached category => exact .unreached category
  case selfReference category => exact .selfReference category
  case unclosed category index candidate => exact .unclosed category index candidate
  case stray category index candidate => exact .stray category index candidate

/-- The texts of some findings are what their messages say. -/
theorem forall₂_reads_iff {findings : List Finding} {texts : List Text} :
    List.Forall₂ Reads findings texts ↔ findings.map (fun f => f.message.toList) = texts := by
  have hreads : Reads = fun f t => f.message.toList = t := by
    funext f t
    rw [eq_iff_iff]
    constructor
    · intro h
      exact (reads_message f).unique h
    · rintro rfl
      exact reads_message f
  rw [hreads, ← List.forall₂_map_left_iff, List.forall₂_eq_eq_eq]

/-- Findings about a category come before those about a later one. -/
theorem before_of_category_lt {f h : Finding} (hpart : f.part = h.part)
    (hlt : f.category < h.category) : f.Before h :=
  .inr ⟨hpart, .inl (Text.bytes_lt_iff.2 hlt)⟩

/-- Findings about one category come by rank. -/
theorem before_of_rank_lt {f h : Finding} (hpart : f.part = h.part)
    (hcategory : f.category = h.category) (hrank : f.rank < h.rank) : f.Before h :=
  .inr ⟨hpart, .inr ⟨hcategory, hrank⟩⟩

end Finding

namespace Grammar

variable {g : Grammar} {f : Finding}

/-- What there is to find about a grammar. -/
inductive Finds (g : Grammar) : Finding → Prop
  | unreached {name : Name} : g.has name → name ≠ rootsName → ¬ g.Reachable rootsName name →
      Finds g (.unreached name)
  | selfReference {name : Name} {candidate : Text} : g.Offers name candidate →
      name ∈ Token.names candidate → Finds g (.selfReference name)
  | unclosed {name : Name} {candidates : List Text} {index : Nat} {candidate : Text} :
      g.candidates? name = some candidates → candidates[index]? = some candidate →
      Span.NeverCloses candidate → Finds g (.unclosed name index candidate)
  | stray {name : Name} {candidates : List Text} {index : Nat} {candidate : Text} :
      g.candidates? name = some candidates → candidates[index]? = some candidate →
      Span.ClosesNothing candidate → Finds g (.stray name index candidate)

/-! ### What is found -/

theorem mem_lintCandidate_iff {category : Name} {index : Nat} {candidate : Text} :
    f ∈ lintCandidate category index candidate ↔
      Span.NeverCloses candidate ∧ f = .unclosed category index candidate ∨
        Span.ClosesNothing candidate ∧ f = .stray category index candidate := by
  rw [lintCandidate, List.mem_append, ← Span.open_mem_cutAll_iff, ← Span.close_mem_cutAll_iff]
  simp [List.mem_ite_nil_right]

theorem mem_lintRule_iff {rule : Rule} :
    f ∈ lintRule rule ↔
      (∃ candidate ∈ rule.2, rule.1 ∈ Token.names candidate) ∧ f = .selfReference rule.1 ∨
        ∃ index candidate, rule.2[index]? = some candidate ∧
          f ∈ lintCandidate rule.1 index candidate := by
  rw [lintRule, List.mem_append, List.mem_flatMap]
  refine or_congr ?_ ?_
  · simp [List.mem_ite_nil_right]
  · constructor
    · intro h
      obtain ⟨⟨candidate, index⟩, hmem, hf⟩ := h
      exact ⟨index, candidate, List.mem_zipIdx_iff_getElem?.1 hmem, hf⟩
    · intro h
      obtain ⟨index, candidate, hcandidate, hf⟩ := h
      exact ⟨(candidate, index), List.mem_zipIdx_iff_getElem?.2 hcandidate, hf⟩

/-- The findings about the category itself and its candidates. -/
theorem exists_mem_lintRule_iff (hpart : f.part = 1) :
    (∃ rule ∈ g.rules, f ∈ lintRule rule) ↔ g.Finds f := by
  constructor
  · intro h
    obtain ⟨⟨name, candidates⟩, hrule, hf⟩ := h
    have hlookup := mem_rules_iff.1 hrule
    rcases mem_lintRule_iff.1 hf with ⟨⟨candidate, hmem, hname⟩, rfl⟩ | ⟨index, candidate, hat, hf⟩
    · exact .selfReference ⟨candidates, hlookup, hmem⟩ hname
    · rcases mem_lintCandidate_iff.1 hf with ⟨hopen, rfl⟩ | ⟨hclose, rfl⟩
      · exact .unclosed hlookup hat hopen
      · exact .stray hlookup hat hclose
  · intro h
    cases h with
    | unreached => cases hpart
    | selfReference hoffer hname =>
        obtain ⟨candidates, hlookup, hmem⟩ := hoffer
        exact ⟨_, mem_rules_iff.2 hlookup, mem_lintRule_iff.2 (.inl ⟨⟨_, hmem, hname⟩, rfl⟩)⟩
    | unclosed hlookup hat hopen =>
        refine ⟨_, mem_rules_iff.2 hlookup, mem_lintRule_iff.2 (.inr ⟨_, _, hat, ?_⟩)⟩
        exact mem_lintCandidate_iff.2 (.inl ⟨hopen, rfl⟩)
    | stray hlookup hat hclose =>
        refine ⟨_, mem_rules_iff.2 hlookup, mem_lintRule_iff.2 (.inr ⟨_, _, hat, ?_⟩)⟩
        exact mem_lintCandidate_iff.2 (.inr ⟨hclose, rfl⟩)

/-- What is found is what there is to find. -/
theorem mem_lint_iff : f ∈ g.lint ↔ g.Finds f := by
  cases f with
  | unreached name =>
      rw [mem_lint_unreached_iff]
      constructor
      · intro h
        exact .unreached h.1 h.2.1 h.2.2
      · intro h
        cases h with
        | unreached hhas hne hreach => exact ⟨hhas, hne, hreach⟩
  | selfReference name =>
      rw [← exists_mem_lintRule_iff rfl]
      simp [lint]
  | unclosed name index candidate =>
      rw [← exists_mem_lintRule_iff rfl]
      simp [lint]
  | stray name index candidate =>
      rw [← exists_mem_lintRule_iff rfl]
      simp [lint]

/-! ### In which order -/

theorem pairwise_lintCandidate (category : Name) (index : Nat) (candidate : Text) :
    (lintCandidate category index candidate).Pairwise Finding.Before := by
  rw [lintCandidate, List.pairwise_append]
  refine ⟨?_, ?_, ?_⟩
  · split <;> simp
  · split <;> simp
  · intro f hf h hh
    cases List.mem_singleton.1 (List.mem_ite_nil_right.1 hf).2
    cases List.mem_singleton.1 (List.mem_ite_nil_right.1 hh).2
    exact Finding.before_of_rank_lt rfl rfl (Nat.lt_succ_self _)

/-- A finding about a candidate says which one and is of its category. -/
theorem of_mem_lintCandidate {category : Name} {index : Nat} {candidate : Text}
    (h : f ∈ lintCandidate category index candidate) :
    f.part = 1 ∧ f.category = category ∧ 2 * index < f.rank ∧ f.rank ≤ 2 * index + 2 := by
  rcases mem_lintCandidate_iff.1 h with ⟨-, rfl⟩ | ⟨-, rfl⟩
  · exact ⟨rfl, rfl, Nat.lt_succ_self _, Nat.le_succ _⟩
  · exact ⟨rfl, rfl, Nat.lt_add_of_pos_right Nat.two_pos, Nat.le_refl _⟩

theorem of_mem_lintRule {rule : Rule} (h : f ∈ lintRule rule) :
    f.part = 1 ∧ f.category = rule.1 := by
  rcases mem_lintRule_iff.1 h with ⟨-, rfl⟩ | ⟨index, candidate, -, hf⟩
  · exact ⟨rfl, rfl⟩
  · obtain ⟨hpart, hcategory, -⟩ := of_mem_lintCandidate hf
    exact ⟨hpart, hcategory⟩

theorem pairwise_lintRule (rule : Rule) : (lintRule rule).Pairwise Finding.Before := by
  rw [lintRule, List.pairwise_append, List.pairwise_flatMap]
  refine ⟨?_, ⟨?_, ?_⟩, ?_⟩
  · split <;> simp
  · intro candidate _
    exact pairwise_lintCandidate rule.1 candidate.2 candidate.1
  · -- The candidates come by number, and so do the ranks of what is found about them.
    refine (pairwise_zipIdx rule.2).imp ?_
    intro a b hlt f hf h hh
    obtain ⟨hpart, hcategory, -, hle⟩ := of_mem_lintCandidate hf
    obtain ⟨hpart', hcategory', hge, -⟩ := of_mem_lintCandidate hh
    refine Finding.before_of_rank_lt (hpart.trans hpart'.symm) (hcategory.trans hcategory'.symm) ?_
    omega
  · intro f hf h hh
    cases List.mem_singleton.1 (List.mem_ite_nil_right.1 hf).2
    obtain ⟨candidate, -, hh⟩ := List.mem_flatMap.1 hh
    obtain ⟨hpart, hcategory, hge, -⟩ := of_mem_lintCandidate hh
    refine Finding.before_of_rank_lt hpart.symm hcategory.symm ?_
    exact Nat.zero_lt_of_lt hge

/-- The findings come in order, each of them once. -/
theorem pairwise_lint (g : Grammar) : g.lint.Pairwise Finding.Before := by
  rw [lint, List.pairwise_append, List.pairwise_map, List.pairwise_flatMap]
  refine ⟨?_, ⟨?_, ?_⟩, ?_⟩
  · have hsorted : g.names.Pairwise (· < ·) := List.pairwise_map.2 g.sorted
    refine (hsorted.filter _).imp ?_
    intro a b hlt
    exact Finding.before_of_category_lt rfl hlt
  · intro rule _
    exact pairwise_lintRule rule
  · refine g.sorted.imp ?_
    intro r s hlt f hf h hh
    obtain ⟨hpart, hcategory⟩ := of_mem_lintRule hf
    obtain ⟨hpart', hcategory'⟩ := of_mem_lintRule hh
    refine Finding.before_of_category_lt (hpart.trans hpart'.symm) ?_
    rwa [hcategory, hcategory']
  · -- What is never reached comes before all else.
    intro f hf h hh
    obtain ⟨name, -, rfl⟩ := List.mem_map.1 hf
    obtain ⟨rule, -, hh⟩ := List.mem_flatMap.1 hh
    refine .inl ?_
    rw [(of_mem_lintRule hh).1]
    exact Nat.zero_lt_one

theorem lint_eq_iff {findings : List Finding} :
    g.lint = findings ↔
      findings.Pairwise Finding.Before ∧ ∀ f, f ∈ findings ↔ g.Finds f := by
  constructor
  · intro h
    rw [← h]
    exact ⟨pairwise_lint g, fun f => mem_lint_iff⟩
  · intro h
    obtain ⟨hpairwise, hmem⟩ := h
    -- In order there is only one list of the same findings.
    refine (pairwise_lint g).eq_of_mem_iff hpairwise ?_
    intro f
    rw [mem_lint_iff, hmem]

/-- The findings about a grammar are everything that there is to find, each of them once,
in order: first the categories other than the roots that no chain of tokens leads to;
then category by category whether it names itself, and candidate by candidate whether
a `<` never closes and whether a `>` closes nothing. The messages are the texts of these
findings in the same order, and there are no others. -/
theorem lint_exact (g : Grammar) :
    (∀ findings, g.lint = findings ↔
      findings.Pairwise Finding.Before ∧ ∀ f, f ∈ findings ↔ g.Finds f) ∧
    ∀ messages, g.lintMessages = messages ↔
      ∃ findings, findings.Pairwise Finding.Before ∧ (∀ f, f ∈ findings ↔ g.Finds f) ∧
        List.Forall₂ Finding.Reads findings messages := by
  refine ⟨fun findings => lint_eq_iff, fun messages => ?_⟩
  constructor
  · intro h
    obtain ⟨hpairwise, hmem⟩ := lint_eq_iff.1 (rfl : g.lint = g.lint)
    exact ⟨g.lint, hpairwise, hmem, Finding.forall₂_reads_iff.2 h⟩
  · intro h
    obtain ⟨findings, hpairwise, hmem, hreads⟩ := h
    have hlint : g.lint = findings := lint_eq_iff.2 ⟨hpairwise, hmem⟩
    rw [lintMessages, hlint]
    exact Finding.forall₂_reads_iff.1 hreads

/-- A `<` without a `>` before the line feed, and a `>` that another one stands in front
of. -/
example :
    (ofRules [(rootsName, ["#item#<, please>".toList, "a <broken\nspan> <or> two>".toList]),
      ("item".toList, ["scone".toList, "#item# and #tea#".toList]),
      ("spare".toList, ["#item#".toList])]).lint
      = [.unreached "spare".toList, .selfReference "item".toList,
        .unclosed rootsName 1 "a <broken\nspan> <or> two>".toList,
        .stray rootsName 1 "a <broken\nspan> <or> two>".toList] := by
  decide

end Grammar

end Vignette
