import Vignette.Proofs.Expansion.Choices
import Vignette.Proofs.Expansion.Derivation

/-!
# `Vignette.Proofs.Expansion.Limit`: what a higher limit changes

Whether passes remain is asked only while tokens are left, and before anything is drawn
for them. So an expansion goes the same way under every limit, up to the pass that a limit
stops.

* `expandFrom_add`: passes that are not used do not matter, and others are gone on with.
* `expandFrom_add_isPrefix`: more passes go on drawing where fewer have stopped.
* `limit_cuts_off`: two limits compared, and the result expanded again.
-/

set_option autoImplicit false

namespace Vignette

/-- What has been taken from a source of randomness, when each draw only adds to it. -/
def Chooser.Logs {σ α : Type} (ch : Chooser σ) (taken : σ → List α) : Prop :=
  ∀ n s, taken s <+: taken (ch.candidate n s).2

theorem Chooser.logs_recorded {σ : Type} (ch : Chooser σ) : ch.recorded.Logs Prod.snd := by
  intro n s
  exact List.prefix_append s.2 _

namespace Expansion

/-! ### More passes -/

section
variable {σ : Type} {ch : Chooser σ}

/-- With more passes an expansion goes the same way, or it has run out of the fewer ones
and goes on with the others from the text that these have led to. -/
theorem expandFrom_add (ch : Chooser σ) (g : Grammar) (limit limit' remaining more : Nat) (t : Text)
    (s : σ) :
    expandFrom ch g limit' (remaining + more) t s = expandFrom ch g limit remaining t s ∨
      (expandFrom ch g limit remaining t s).1.outcome = .error (.expansionLimit limit) ∧
        ∃ u, (expandFrom ch g limit' (remaining + more) t s).2
          = (expandFrom ch g limit' more u (expandFrom ch g limit remaining t s).2).2 := by
  induction remaining generalizing t s with
  | zero =>
      by_cases hnames : Token.names t = []
      · left
        rw [expandFrom_of_names_eq_nil ch g _ _ hnames,
          expandFrom_of_names_eq_nil ch g _ _ hnames]
      · rw [expandFrom_zero ch g limit hnames, Nat.zero_add]
        exact .inr ⟨rfl, t, rfl⟩
  | succ remaining ih =>
      rw [Nat.add_right_comm]
      by_cases hnames : Token.names t = []
      · left
        rw [expandFrom_of_names_eq_nil ch g _ _ hnames,
          expandFrom_of_names_eq_nil ch g _ _ hnames]
      · rcases resolve_cases ch g (Token.names t) t s with
          ⟨u, s', hrun, -⟩ | ⟨_, -, fault, s', hrun, -⟩
        · -- Both have the first pass in front.
          rw [expandFrom_succ_of_resolve ch g limit' _ hnames hrun,
            expandFrom_succ_of_resolve ch g limit remaining hnames hrun]
          rcases ih u s' with hsame | ⟨hout, v, hstate⟩
          · rw [hsame]
            exact .inl rfl
          · exact .inr ⟨hout, v, hstate⟩
        · left
          rw [expandFrom_of_resolve_error ch g limit' _ hnames hrun,
            expandFrom_of_resolve_error ch g limit remaining hnames hrun]

/-! ### What is taken -/

variable {α : Type} {taken : σ → List α}

theorem pick_isPrefix (h : ch.Logs taken) (g : Grammar) (name : Name) (s : σ) :
    taken s <+: taken (pick ch g name s).2 := by
  unfold pick
  split
  · exact List.prefix_refl _
  · exact List.prefix_refl _
  · exact h _ s

theorem resolve_isPrefix (h : ch.Logs taken) (g : Grammar) (names : List Name) (t : Text)
    (s : σ) : taken s <+: taken (resolve ch g names t s).2 := by
  induction names generalizing t s with
  | nil => exact List.prefix_refl _
  | cons name names ih =>
      have hfirst := pick_isPrefix h g name s
      rw [resolve]
      split
      · rename_i hpick
        rwa [hpick] at hfirst
      · rename_i hpick
        rw [hpick] at hfirst
        exact hfirst.trans (ih _ _)

theorem expandFrom_isPrefix (h : ch.Logs taken) (g : Grammar) (limit remaining : Nat) (t : Text)
    (s : σ) : taken s <+: taken (expandFrom ch g limit remaining t s).2 := by
  induction remaining generalizing t s with
  | zero =>
      by_cases hnames : Token.names t = []
      · rw [expandFrom_of_names_eq_nil ch g limit 0 hnames]
      · rw [expandFrom_zero ch g limit hnames]
  | succ remaining ih =>
      by_cases hnames : Token.names t = []
      · rw [expandFrom_of_names_eq_nil ch g limit _ hnames]
      · have hpass := resolve_isPrefix h g (Token.names t) t s
        rcases resolve_cases ch g (Token.names t) t s with
          ⟨u, s', hrun, -⟩ | ⟨_, -, fault, s', hrun, -⟩
        · rw [hrun] at hpass
          rw [expandFrom_succ_of_resolve ch g limit remaining hnames hrun]
          exact hpass.trans (ih u s')
        · rw [hrun] at hpass
          rwa [expandFrom_of_resolve_error ch g limit remaining hnames hrun]

/-- With more passes an expansion takes what it takes with fewer, and then perhaps more. -/
theorem expandFrom_add_isPrefix (h : ch.Logs taken) (g : Grammar) (limit limit' remaining : Nat)
    (more : Nat) (t : Text) (s : σ) :
    taken (expandFrom ch g limit remaining t s).2
      <+: taken (expandFrom ch g limit' (remaining + more) t s).2 := by
  rcases expandFrom_add ch g limit limit' remaining more t s with hsame | ⟨-, u, hstate⟩
  · rw [hsame]
  · rw [hstate]
    exact expandFrom_isPrefix h g limit' more u _

end

/-- An expansion that does not run out of passes goes the same way under every higher
limit, and one that runs out of passes does so under every lower limit too. In any case
what is taken from the source of randomness under the lower limit is the start of what is
taken under the higher one. The result expands to itself, under any limit and over any
grammar, and nothing is drawn for that. -/
theorem limit_cuts_off {σ : Type} (ch : Chooser σ) (g : Grammar) (fragment : Text) (s : σ)
    {limit limit' : Nat} (hle : limit ≤ limit') :
    ((expand ch g limit fragment s).1.outcome ≠ .error (.expansionLimit limit) →
      expand ch g limit' fragment s = expand ch g limit fragment s) ∧
    ((expand ch g limit' fragment s).1.outcome = .error (.expansionLimit limit') →
      (expand ch g limit fragment s).1.outcome = .error (.expansionLimit limit)) ∧
    (∀ (α : Type) (taken : σ → List α), ch.Logs taken →
      taken (expand ch g limit fragment s).2 <+: taken (expand ch g limit' fragment s).2) ∧
    (∃ choices more,
      expand ch.recorded g limit fragment (s, [])
        = ((expand ch g limit fragment s).1, (expand ch g limit fragment s).2, choices) ∧
      expand ch.recorded g limit' fragment (s, [])
        = ((expand ch g limit' fragment s).1, (expand ch g limit' fragment s).2,
          choices ++ more)) ∧
    ∀ w, (expand ch g limit fragment s).1.outcome = .ok w →
      ∀ (τ : Type) (other : Chooser τ) (grammar : Grammar) (any : Nat) (s' : τ),
        expand other grammar any w s' = (⟨[], .ok w⟩, s') := by
  obtain ⟨more, rfl⟩ := Nat.exists_eq_add_of_le hle
  have hsame (h : (expand ch g limit fragment s).1.outcome ≠ .error (.expansionLimit limit)) :
      expand ch g (limit + more) fragment s = expand ch g limit fragment s := by
    rcases expandFrom_add ch g limit (limit + more) limit more fragment s with hsame | ⟨hout, -⟩
    · exact hsame
    · exact absurd hout h
  refine ⟨hsame, ?_, ?_, ?_, ?_⟩
  · intro hout
    by_contra hne
    -- The lower limit is not the higher one, so the outcome would be no lack of passes.
    rw [hsame hne] at hout
    have hlimit := eq_of_outcome_eq_limit hout
    rw [hlimit] at hout
    exact hne hout
  · intro α taken hlogs
    exact expandFrom_add_isPrefix hlogs g limit (limit + more) limit more fragment s
  · obtain ⟨choices, hfewer, -⟩ := expandFrom_recorded ch g limit limit fragment s
    obtain ⟨choices', hmore, -⟩ :=
      expandFrom_recorded ch g (limit + more) (limit + more) fragment s
    have hprefix := expandFrom_add_isPrefix ch.logs_recorded g limit (limit + more) limit more
      fragment (s, [])
    rw [hfewer, hmore] at hprefix
    obtain ⟨later, hlater⟩ := hprefix
    simp only [List.nil_append] at hlater hfewer hmore
    refine ⟨choices, later, hfewer [], ?_⟩
    rw [hlater]
    exact hmore []
  · intro w hout τ other grammar any s'
    exact expandFrom_of_names_eq_nil other grammar any any (names_eq_nil_of_outcome_eq_ok hout) s'

/-- A list of parts that ends after two passes, and one that has not ended by then. -/
theorem limit_cuts_off_partList :
    (expand Chooser.scripted partList 2 "#part#.".toList [1, 0]).1.outcome
        = .ok "x, x.".toList ∧
      expand Chooser.scripted partList 64 "#part#.".toList [1, 0]
        = expand Chooser.scripted partList 2 "#part#.".toList [1, 0] ∧
      expand Chooser.scripted partList 0 "x, x.".toList [1, 0]
        = (⟨[], .ok "x, x.".toList⟩, [1, 0]) ∧
      (expand Chooser.scripted partList 2 "#part#.".toList [1, 1]).1.outcome
        = .error (.expansionLimit 2) ∧
      (expand Chooser.scripted partList 1 "#part#.".toList [1, 1]).1.outcome
        = .error (.expansionLimit 1) ∧
      (expand Chooser.scripted.recorded partList 1 "#part#.".toList ([1, 0], [])).2.2
        <+: (expand Chooser.scripted.recorded partList 2 "#part#.".toList ([1, 0], [])).2.2 := by
  have hdone : (expand Chooser.scripted partList 2 "#part#.".toList [1, 0]).1.outcome
      = .ok "x, x.".toList := by rfl
  have hlimit : (expand Chooser.scripted partList 2 "#part#.".toList [1, 1]).1.outcome
      = .error (.expansionLimit 2) := by rfl
  have hle : 1 ≤ 2 := by decide
  obtain ⟨hmore, -, -, -, hfixed⟩ :=
    limit_cuts_off Chooser.scripted partList "#part#.".toList [1, 0] (show 2 ≤ 64 by decide)
  obtain ⟨-, hfewer, -, -, -⟩ :=
    limit_cuts_off Chooser.scripted partList "#part#.".toList [1, 1] hle
  obtain ⟨-, -, htaken, -, -⟩ :=
    limit_cuts_off Chooser.scripted.recorded partList "#part#.".toList ([1, 0], []) hle
  refine ⟨hdone, hmore ?_, hfixed _ hdone _ _ _ _ _, hlimit, hfewer hlimit, ?_⟩
  · rw [hdone]
    intro h
    cases h
  · exact htaken _ Prod.snd Chooser.scripted.logs_recorded

end Expansion

end Vignette
