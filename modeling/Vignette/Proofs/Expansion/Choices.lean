import Mathlib.Algebra.Ring.Nat
import Vignette.Proofs.Expansion.Passes

/-!
# `Vignette.Proofs.Expansion.Choices`: the choices that an expansion makes

A chooser that lists what it has chosen makes the same expansions as one that does not,
and its list tells how many choices there were and what each of them was.

A pass draws a candidate for each collected name without looking at the text, and
`overwrite` writes the candidates into it. So a pass is told by its candidates alone.

* `resolve_recorded`: a completed pass makes one choice for each name, in order, and
  writes what has been drawn.
* `expandFrom_recorded`: an expansion that no fault breaks off makes one choice for each
  name that one of its passes has collected.
-/

set_option autoImplicit false

namespace Vignette

/-- Which of how many alternatives was chosen. -/
structure Choice where
  index : Nat
  total : Nat
  deriving DecidableEq, Repr

/-- Makes the choices of another chooser and lists them, the latest one last. -/
def Chooser.recorded {σ : Type} (ch : Chooser σ) : Chooser (σ × List Choice) where
  candidate n s :=
    let (i, next) := ch.candidate n s.1
    (i, next, s.2 ++ [⟨i, n + 1⟩])
  span n s :=
    let (i, next) := ch.span n s.1
    (i, next, s.2 ++ [⟨i, n + 1⟩])

/-- The choice is one among all candidates of the category and falls on this one. -/
def Grammar.Draws (g : Grammar) (name : Name) (choice : Choice) (candidate : Text) : Prop :=
  ∃ candidates, g.candidates? name = some candidates ∧ choice.total = candidates.length ∧
    candidates[choice.index]? = some candidate

theorem Grammar.Draws.offers {g : Grammar} {name : Name} {choice : Choice} {candidate : Text}
    (h : g.Draws name choice candidate) : g.Offers name candidate := by
  obtain ⟨candidates, hlookup, -, hat⟩ := h
  exact ⟨candidates, hlookup, List.mem_of_getElem? hat⟩

namespace Expansion

/-- One choice for each name, in order, falls on these candidates. -/
inductive Drawn (g : Grammar) : List Name → List Choice → List Text → Prop
  | nil : Drawn g [] [] []
  | cons {name : Name} {choice : Choice} {candidate : Text} {names : List Name}
      {choices : List Choice} {candidates : List Text} :
      g.Draws name choice candidate → Drawn g names choices candidates →
      Drawn g (name :: names) (choice :: choices) (candidate :: candidates)

/-- Writes the candidates over the first occurrences of the texts of the tokens, one
after another. -/
def overwrite : List Name → List Text → Text → Text
  | [], _, t => t
  | _ :: _, [], t => t
  | name :: names, candidate :: candidates, t =>
    overwrite names candidates (t.replaceFirst (Token.render name) candidate)

section
variable {g : Grammar} {names : List Name} {choices : List Choice} {candidates : List Text}

theorem Drawn.length_choices (h : Drawn g names choices candidates) :
    choices.length = names.length := by
  induction h with
  | nil => rfl
  | cons _ _ ih => rw [List.length_cons, List.length_cons, ih]

theorem Drawn.length_candidates (h : Drawn g names choices candidates) :
    candidates.length = names.length := by
  induction h with
  | nil => rfl
  | cons _ _ ih => rw [List.length_cons, List.length_cons, ih]

/-- Every candidate is one that a category of a collected name offers. -/
theorem Drawn.exists_offers (h : Drawn g names choices candidates) :
    ∀ candidate ∈ candidates, ∃ name ∈ names, g.Offers name candidate := by
  induction h with
  | nil => simp
  | @cons name _ _ names _ _ hdraws _ ih =>
      intro candidate hmem
      rcases List.mem_cons.1 hmem with rfl | hmem
      · exact ⟨name, List.mem_cons_self, hdraws.offers⟩
      · obtain ⟨n, hn, hoffer⟩ := ih candidate hmem
        exact ⟨n, List.mem_cons_of_mem name hn, hoffer⟩

end

section
variable {σ : Type} {ch : Chooser σ} {g : Grammar}

/-! ### The listing chooser makes the same expansions -/

/-- A draw is listed as one choice, and a failed draw is not listed. -/
theorem pick_recorded (ch : Chooser σ) (g : Grammar) (name : Name) (s : σ) :
    (∃ choice candidate s', pick ch g name s = (.ok candidate, s') ∧
        g.Draws name choice candidate ∧
        ∀ made, pick ch.recorded g name (s, made) = (.ok candidate, s', made ++ [choice])) ∨
      ∃ fault, pick ch g name s = (.error fault, s) ∧ g.drawFault? name = some fault ∧
        ∀ made, pick ch.recorded g name (s, made) = (.error fault, s, made) := by
  unfold pick Grammar.drawFault?
  cases hlookup : g.candidates? name with
  | none => exact .inr ⟨_, rfl, rfl, fun _ => rfl⟩
  | some candidates =>
      cases candidates with
      | nil => exact .inr ⟨_, rfl, rfl, fun _ => rfl⟩
      | cons candidate candidates =>
          refine .inl ⟨⟨(ch.candidate candidates.length s).1, candidates.length + 1⟩, _, _, rfl,
            ⟨_, hlookup, rfl, ?_⟩, fun _ => rfl⟩
          exact List.getElem?_eq_getElem (Fin.isLt _)

/-- A pass draws for its names in order, without looking at the text, and writes what it
has drawn. -/
theorem resolve_recorded (ch : Chooser σ) (g : Grammar) (names : List Name) (t : Text) (s : σ) :
    (∃ choices candidates s', Drawn g names choices candidates ∧
        resolve ch g names t s = (.ok (overwrite names candidates t), s') ∧
        ∀ made, resolve ch.recorded g names t (s, made)
          = (.ok (overwrite names candidates t), s', made ++ choices)) ∨
      ∃ name fault choices s', g.drawFault? name = some fault ∧
        resolve ch g names t s = (.error fault, s') ∧
        ∀ made, resolve ch.recorded g names t (s, made)
          = (.error fault, s', made ++ choices) := by
  induction names generalizing t s with
  | nil =>
      refine .inl ⟨[], [], s, .nil, rfl, ?_⟩
      intro made
      rw [List.append_nil]
      rfl
  | cons name names ih =>
      rcases pick_recorded ch g name s with
        ⟨choice, candidate, s₁, hpick, hdraws, hmade⟩ | ⟨fault, hpick, hfault, hmade⟩
      · -- The other names go on from what the first one leaves.
        rcases ih (t.replaceFirst (Token.render name) candidate) s₁ with
          ⟨choices, candidates, s₂, hdrawn, hrun, hrest⟩ |
            ⟨n, fault, choices, s₂, hfault, hrun, hrest⟩
        · refine .inl ⟨choice :: choices, candidate :: candidates, s₂, .cons hdraws hdrawn, ?_, ?_⟩
          · rw [resolve, hpick]
            exact hrun
          · intro made
            rw [resolve, hmade]
            show resolve ch.recorded g names _ (s₁, made ++ [choice]) = _
            rw [hrest, List.append_assoc]
            rfl
        · refine .inr ⟨n, fault, choice :: choices, s₂, hfault, ?_, ?_⟩
          · rw [resolve, hpick]
            exact hrun
          · intro made
            rw [resolve, hmade]
            show resolve ch.recorded g names _ (s₁, made ++ [choice]) = _
            rw [hrest, List.append_assoc]
            rfl
      · refine .inr ⟨name, fault, [], s, hfault, ?_, ?_⟩
        · rw [resolve, hpick]
        · intro made
          rw [resolve, hmade, List.append_nil]

/-- What a completed pass has drawn, and how that has told its result. -/
theorem drawn_of_resolve {names : List Name} {t w : Text} {s s' : σ}
    (h : resolve ch g names t s = (.ok w, s')) :
    ∃ choices candidates, Drawn g names choices candidates ∧ overwrite names candidates t = w ∧
      ∀ made, resolve ch.recorded g names t (s, made) = (.ok w, s', made ++ choices) := by
  rcases resolve_recorded ch g names t s with
    ⟨choices, candidates, s₁, hdrawn, hrun, hmade⟩ | ⟨_, _, _, _, -, hrun, -⟩
  · rw [hrun] at h
    cases h
    exact ⟨choices, candidates, hdrawn, rfl, hmade⟩
  · rw [hrun] at h
    cases h

/-- The names of a completed pass can be resolved in two goes. -/
theorem resolve_append {names : List Name} {t w : Text} {s s' : σ}
    (h : resolve ch g names t s = (.ok w, s')) (more : List Name) :
    resolve ch g (names ++ more) t s = resolve ch g more w s' := by
  induction names generalizing t s with
  | nil =>
      cases h
      rfl
  | cons name names ih =>
      rw [resolve] at h
      rw [List.cons_append, resolve]
      rcases pick_cases ch g name s with ⟨candidate, s₁, hpick, -⟩ | ⟨fault, hpick, -⟩
      · rw [hpick] at h ⊢
        exact ih h
      · rw [hpick] at h
        cases h

/-- Only running out of passes can have ended the expansion early. -/
def Unbroken (limit : Nat) (outcome : Except Fault Text) : Prop :=
  ∀ fault, outcome = .error fault → fault = .expansionLimit limit

/-- Listing the choices changes neither how an expansion goes nor what it leaves of the
state. Unless a fault breaks off a pass, there is one choice for each name collected. -/
theorem expandFrom_recorded (ch : Chooser σ) (g : Grammar) (limit remaining : Nat) (t : Text)
    (s : σ) :
    ∃ choices,
      (∀ made, expandFrom ch.recorded g limit remaining t (s, made)
        = ((expandFrom ch g limit remaining t s).1, (expandFrom ch g limit remaining t s).2,
          made ++ choices)) ∧
      (Unbroken limit (expandFrom ch g limit remaining t s).1.outcome →
        choices.length = (expandFrom ch g limit remaining t s).1.passes.sum) := by
  induction remaining generalizing t s with
  | zero =>
      refine ⟨[], ?_, ?_⟩
      · intro made
        rw [List.append_nil]
        by_cases hnames : Token.names t = []
        · rw [expandFrom_of_names_eq_nil _ g limit 0 hnames,
            expandFrom_of_names_eq_nil _ g limit 0 hnames]
        · rw [expandFrom_zero _ g limit hnames, expandFrom_zero _ g limit hnames]
      · intro _
        by_cases hnames : Token.names t = []
        · rw [expandFrom_of_names_eq_nil _ g limit 0 hnames]
          rfl
        · rw [expandFrom_zero ch g limit hnames]
          rfl
  | succ remaining ih =>
      by_cases hnames : Token.names t = []
      · refine ⟨[], ?_, ?_⟩
        · intro made
          rw [expandFrom_of_names_eq_nil _ g limit _ hnames,
            expandFrom_of_names_eq_nil _ g limit _ hnames, List.append_nil]
        · intro _
          rw [expandFrom_of_names_eq_nil _ g limit _ hnames]
          rfl
      · rcases resolve_recorded ch g (Token.names t) t s with
          ⟨choices, candidates, s₁, hdrawn, hrun, hmade⟩ |
            ⟨n, fault, choices, s₁, hfault, hrun, hmade⟩
        · obtain ⟨later, hlater, hlength⟩ := ih (overwrite (Token.names t) candidates t) s₁
          rw [expandFrom_succ_of_resolve ch g limit remaining hnames hrun]
          refine ⟨choices ++ later, ?_, ?_⟩
          · intro made
            rw [expandFrom_succ_of_resolve _ g limit remaining hnames (hmade made), hlater,
              List.append_assoc]
          · intro hunbroken
            rw [List.length_append, hlength hunbroken, hdrawn.length_choices, List.sum_cons]
        · rw [expandFrom_of_resolve_error ch g limit remaining hnames hrun]
          refine ⟨choices, ?_, ?_⟩
          · intro made
            rw [expandFrom_of_resolve_error _ g limit remaining hnames (hmade made)]
          · -- Running out of passes is no fault of a draw.
            intro hunbroken
            rw [hunbroken fault rfl] at hfault
            exact absurd hfault (g.drawFault?_ne_expansionLimit n limit)

end

end Expansion

end Vignette
