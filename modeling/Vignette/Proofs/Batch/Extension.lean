import Mathlib.Data.List.Basic
import Vignette.Batch
import Vignette.Proofs.Expansion.Passes
import Vignette.Proofs.Generator.Attempts

/-!
# `Vignette.Proofs.Batch.Extension`: a longer batch goes on where a shorter one ends

One random state runs through a batch, and a text that is skipped has used it too.
So the runs of a batch do not depend on how many are asked for: a longer batch makes
the runs of the shorter one, and then it goes on from the state that these leave.

* `make_add`: a batch of `n + k` runs is one of `n` runs, and one of `k` runs behind
  it unless the first one was stopped.
* `runs_isPrefix`, `make_of_failure`: the two cases of it for a longer batch.
* `length_texts_add_length_skips`: a batch that is not stopped has a text or a skip for
  each of its runs.
* `fault_of_mem_skips`: texts are skipped for one reason only.
-/

set_option autoImplicit false

namespace Vignette

/-- The run does not stop its batch. -/
def Run.GoesOn (r : Run) : Prop :=
  ∀ fault, r.batchStep ≠ .stop fault

/-- A run stops its batch or lets it go on. -/
theorem Run.goesOn_or_stop (r : Run) : r.GoesOn ∨ ∃ fault, r.batchStep = .stop fault := by
  cases hstep : r.batchStep with
  | stop fault => exact .inr ⟨fault, rfl⟩
  | text t => exact .inl fun fault heq => by simp [hstep] at heq
  | skip why => exact .inl fun fault heq => by simp [hstep] at heq

/-- A text is skipped when its run has used up its attempts. -/
theorem Run.outcome_of_skip {r : Run} {fault : Fault} (h : r.batchStep = .skip fault) :
    ∃ attempts maxLength, fault = .generationFailure attempts maxLength ∧
      r.outcome = .error fault := by
  unfold Run.batchStep at h
  split at h
  · cases h
  · rename_i attempts maxLength hout
    cases h
    exact ⟨attempts, maxLength, rfl, hout⟩
  · cases h

namespace Batch

variable {σ : Type} (ch : Chooser σ) (g : Generator)

/-! ### One run more -/

section
variable {ch g} {run : Run} {s s' : σ}

theorem make_succ_of_stop {fault : Fault} (count : Nat)
    (hrun : g.run ch g.settings.maxLength s = (run, s')) (hstop : run.batchStep = .stop fault) :
    make ch g (count + 1) s = (⟨[run]⟩, s') := by
  rw [make]
  simp only [hrun, hstop]

theorem make_succ_of_goesOn (count : Nat)
    (hrun : g.run ch g.settings.maxLength s = (run, s')) (hon : run.GoesOn) :
    make ch g (count + 1) s
      = (⟨run :: (make ch g count s').1.runs⟩, (make ch g count s').2) := by
  rw [make]
  simp only [hrun]
  cases hstep : run.batchStep with
  | stop fault => exact absurd hstep (hon fault)
  | text t => rfl
  | skip fault => rfl

theorem failure?_of_stop {fault : Fault} (hstop : run.batchStep = .stop fault) :
    failure? ⟨[run]⟩ = some fault := by
  simp [failure?, hstop]

/-- A run that goes on does not matter to how the batch ends. -/
theorem failure?_cons_of_goesOn (hon : run.GoesOn) (runs : List Run) :
    failure? ⟨run :: runs⟩ = failure? ⟨runs⟩ := by
  cases runs with
  | nil =>
      cases hstep : run.batchStep with
      | stop fault => exact absurd hstep (hon fault)
      | text t => simp [failure?, hstep]
      | skip fault => simp [failure?, hstep]
  | cons next runs =>
      unfold failure?
      rw [List.getLast?_cons_cons]

end

/-! ### Many runs more -/

/-- A batch of `n + k` runs is a batch of `n` runs and, unless that one was stopped, a
batch of `k` runs from the state that it leaves. -/
theorem make_add (n k : Nat) (s : σ) :
    make ch g (n + k) s =
      match (make ch g n s).1.failure? with
      | some _ => make ch g n s
      | none =>
        (⟨(make ch g n s).1.runs ++ (make ch g k (make ch g n s).2).1.runs⟩,
          (make ch g k (make ch g n s).2).2) := by
  induction n generalizing s with
  | zero =>
      rw [Nat.zero_add]
      rfl
  | succ n ih =>
      rw [Nat.succ_add]
      rcases hrun : g.run ch g.settings.maxLength s with ⟨run, s'⟩
      rcases run.goesOn_or_stop with hon | ⟨fault, hstop⟩
      · -- The first run is common to both, the others start from its state.
        rw [make_succ_of_goesOn (n + k) hrun hon, make_succ_of_goesOn n hrun hon, ih,
          failure?_cons_of_goesOn hon]
        cases (make ch g n s').1.failure? with
        | none => rfl
        | some fault => rfl
      · rw [make_succ_of_stop (n + k) hrun hstop, make_succ_of_stop n hrun hstop,
          failure?_of_stop hstop]

section
variable {ch g} {n m : Nat} {s : σ}

/-- A batch that was stopped is all that a longer one makes. -/
theorem make_of_failure (h : n ≤ m) {fault : Fault}
    (hfault : (make ch g n s).1.failure? = some fault) : make ch g m s = make ch g n s := by
  obtain ⟨k, rfl⟩ := Nat.exists_eq_add_of_le h
  rw [make_add, hfault]

/-- A longer batch makes the runs of a shorter one first. -/
theorem runs_isPrefix (h : n ≤ m) : (make ch g n s).1.runs <+: (make ch g m s).1.runs := by
  obtain ⟨k, rfl⟩ := Nat.exists_eq_add_of_le h
  rw [make_add]
  cases (make ch g n s).1.failure? with
  | none => exact List.prefix_append _ _
  | some fault => exact List.prefix_refl _

/-- A batch that was not stopped has made all its runs. -/
theorem length_runs (h : (make ch g n s).1.failure? = none) :
    (make ch g n s).1.runs.length = n ∧ ∀ run ∈ (make ch g n s).1.runs, run.GoesOn := by
  induction n generalizing s with
  | zero => exact ⟨rfl, fun run hrun => nomatch hrun⟩
  | succ n ih =>
      rcases hrun : g.run ch g.settings.maxLength s with ⟨run, s'⟩
      rcases run.goesOn_or_stop with hon | ⟨fault, hstop⟩
      · rw [make_succ_of_goesOn n hrun hon] at h ⊢
        rw [failure?_cons_of_goesOn hon] at h
        obtain ⟨hlength, hall⟩ := ih h
        exact ⟨congrArg (· + 1) hlength, List.forall_mem_cons.2 ⟨hon, hall⟩⟩
      · rw [make_succ_of_stop n hrun hstop, failure?_of_stop hstop] at h
        cases h

/-- The runs of a batch are runs of its generator. -/
theorem exists_of_mem_runs {run : Run} (h : run ∈ (make ch g n s).1.runs) :
    ∃ s', run = (g.run ch g.settings.maxLength s').1 := by
  induction n generalizing s with
  | zero => cases h
  | succ n ih =>
      rcases hrun : g.run ch g.settings.maxLength s with ⟨first, s'⟩
      have hfirst : first = (g.run ch g.settings.maxLength s).1 := by rw [hrun]
      rcases first.goesOn_or_stop with hon | ⟨fault, hstop⟩
      · rw [make_succ_of_goesOn n hrun hon] at h
        rcases List.mem_cons.1 h with rfl | h
        · exact ⟨s, hfirst⟩
        · exact ih h
      · rw [make_succ_of_stop n hrun hstop] at h
        cases List.mem_singleton.1 h
        exact ⟨s, hfirst⟩

end

/-! ### Texts and skips -/

theorem texts_isPrefix {b b' : Batch} (h : b.runs <+: b'.runs) : b.texts <+: b'.texts :=
  h.filterMap _

theorem mem_skips_iff {b : Batch} {number : Nat} {fault : Fault} :
    (number, fault) ∈ b.skips ↔
      ∃ index run, b.runs[index]? = some run ∧ run.batchStep = .skip fault ∧
        number = index + 1 := by
  unfold skips
  rw [List.mem_filterMap]
  constructor
  · rintro ⟨⟨run, index⟩, hmem, hstep⟩
    refine ⟨index, run, List.mem_zipIdx_iff_getElem?.1 hmem, ?_⟩
    dsimp only at hstep
    split at hstep
    · rename_i why hskip
      cases hstep
      exact ⟨hskip, rfl⟩
    · cases hstep
  · rintro ⟨index, run, hget, hskip, rfl⟩
    exact ⟨(run, index), List.mem_zipIdx_iff_getElem?.2 hget, by simp [hskip]⟩

theorem length_texts (b : Batch) :
    b.texts.length = b.runs.countP fun run => run.batchStep matches .text _ := by
  unfold texts
  rw [List.length_filterMap_eq_countP]
  refine List.countP_congr fun run _ => ?_
  cases run.batchStep <;> simp

theorem length_skips (b : Batch) :
    b.skips.length = b.runs.countP fun run => run.batchStep matches .skip _ := by
  unfold skips
  -- The numbers do not count.
  rw [List.length_filterMap_eq_countP]
  conv_rhs => rw [← List.zipIdx_map_fst 0 b.runs, List.countP_map]
  refine List.countP_congr fun ⟨run, index⟩ _ => ?_
  cases hstep : run.batchStep <;> simp [hstep]

/-- When no run stops the batch, each gives a text or is skipped. -/
theorem length_texts_add_length_skips {b : Batch} (h : ∀ run ∈ b.runs, run.GoesOn) :
    b.texts.length + b.skips.length = b.runs.length := by
  rw [length_texts, length_skips, List.length_eq_countP_add_countP fun run : Run =>
    run.batchStep matches .text _]
  congr 1
  refine List.countP_congr fun run hrun => ?_
  cases hstep : run.batchStep with
  | stop fault => exact absurd hstep (h run hrun fault)
  | text t => simp
  | skip fault => simp

end Batch

/-! ### Why a text is skipped -/

/-- A run that uses up its attempts says how many there were, and its budget. -/
theorem Generator.eq_of_outcome_eq_failure {σ : Type} {ch : Chooser σ} {g : Generator}
    {maxLength attempts length : Nat} {s : σ}
    (h : (g.run ch maxLength s).1.outcome = .error (.generationFailure attempts length)) :
    attempts = g.settings.maxAttempts ∧ length = maxLength := by
  unfold run at h
  split at h
  · cases h
  · split at h
    · cases h
    · split at h
      · cases h
      · cases h
      · rename_i root roots _
        have hending := attemptsFrom_ending ch g maxLength root roots 1 g.settings.maxAttempts s
        cases hending with
        | done _ _ hout => cases h.symm.trans hout
        | exhausted hout =>
            cases h.symm.trans hout
            exact ⟨rfl, rfl⟩
        | @fatal drawn s' fault _ hverdict hout =>
            -- A draw fails on a category that is unknown or empty.
            cases h.symm.trans hout
            obtain ⟨hexpand, -⟩ := Attempt.make_eq_fatal_iff.1 hverdict
            have hend := Expansion.expandFrom_cases ch g.grammar g.settings.maxPasses
              g.settings.maxPasses drawn s'
            unfold Expansion.expand at hexpand
            rw [hexpand] at hend
            cases hend with
            | fault _ _ _ hdraw =>
                unfold Grammar.drawFault? at hdraw
                split at hdraw <;> cases hdraw

/-- A text is skipped only because its run has used up its attempts. -/
theorem Batch.fault_of_mem_skips {σ : Type} {ch : Chooser σ} {g : Generator} {n number : Nat}
    {s : σ} {fault : Fault} (h : (number, fault) ∈ (Batch.make ch g n s).1.skips) :
    fault = .generationFailure g.settings.maxAttempts g.settings.maxLength := by
  obtain ⟨index, run, hget, hskip, -⟩ := mem_skips_iff.1 h
  obtain ⟨attempts, maxLength, rfl, hout⟩ := run.outcome_of_skip hskip
  obtain ⟨s', rfl⟩ := exists_of_mem_runs (List.mem_of_getElem? hget)
  obtain ⟨rfl, rfl⟩ := Generator.eq_of_outcome_eq_failure hout
  rfl

end Vignette
