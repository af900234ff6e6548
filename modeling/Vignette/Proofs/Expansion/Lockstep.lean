import Vignette.Proofs.Expansion.Passes

/-!
# `Vignette.Proofs.Expansion.Lockstep`: two expansions side by side

Two expansions start from the same text. They may draw from different grammars, with
different choosers and states. As long as both sides draw the same candidates they
work on the same text, so both collect the same names and both end together. What
is asked of the states is a relation that every draw keeps.

* `resolve_agree`: draws that agree make passes that agree.
* `Lockstep.expandFrom_agree`: the expansions agree when all draws for tokens of the
  texts they can meet do.
-/

set_option autoImplicit false

namespace Vignette.Expansion

variable {σ σ' : Type}

/-- Both sides give the same and leave related states. -/
structure Agree {α : Type} (R : σ → σ' → Prop) (a : α × σ) (b : α × σ') : Prop where
  value : a.1 = b.1
  state : R a.2 b.2

/-- Draws for the tokens of a text of `P` agree, and no pass leaves `P`. -/
structure Lockstep (ch : Chooser σ) (g : Grammar) (ch' : Chooser σ') (g' : Grammar)
    (R : σ → σ' → Prop) (P : Text → Prop) : Prop where
  draw : ∀ t, P t → ∀ name ∈ Token.names t, ∀ s s', R s s' →
    Agree R (pick ch g name s) (pick ch' g' name s')
  pass : ∀ t u, P t → Resolves g.Offers (Token.names t) t u → P u

variable {ch : Chooser σ} {g : Grammar} {ch' : Chooser σ'} {g' : Grammar} {R : σ → σ' → Prop}

theorem resolve_agree {names : List Name}
    (hdraw : ∀ name ∈ names, ∀ s s', R s s' → Agree R (pick ch g name s) (pick ch' g' name s'))
    (t : Text) {s : σ} {s' : σ'} (hs : R s s') :
    Agree R (resolve ch g names t s) (resolve ch' g' names t s') := by
  -- The first draw gives both sides the same text and related states to go on with.
  induction names generalizing t s s' with
  | nil => exact ⟨rfl, hs⟩
  | cons name names ih =>
      have hfirst := hdraw name List.mem_cons_self s s' hs
      unfold resolve
      rcases hpick : pick ch g name s with ⟨out, s₁⟩
      rcases hpick' : pick ch' g' name s' with ⟨out', s₁'⟩
      rw [hpick, hpick'] at hfirst
      obtain ⟨hout, hs₁⟩ := hfirst
      cases hout
      cases out with
      | error fault => exact ⟨rfl, hs₁⟩
      | ok candidate => exact ih (fun n hn => hdraw n (List.mem_cons_of_mem name hn)) _ hs₁

/-- Both sides complete the same passes and end in the same way. -/
theorem Lockstep.expandFrom_agree {P : Text → Prop} (h : Lockstep ch g ch' g' R P)
    (limit remaining : Nat) {t : Text} (ht : P t) {s : σ} {s' : σ'} (hs : R s s') :
    Agree R (expandFrom ch g limit remaining t s) (expandFrom ch' g' limit remaining t s') := by
  induction remaining generalizing t s s' with
  | zero =>
      unfold expandFrom
      split
      · exact ⟨rfl, hs⟩
      · exact ⟨rfl, hs⟩
  | succ remaining ih =>
      -- The pass draws for the tokens of `t` only, and there the draws agree.
      have hpass := resolve_agree (h.draw t ht) t hs
      cases hnames : Token.names t with
      | nil =>
          rw [expandFrom_of_names_eq_nil ch g limit _ hnames,
            expandFrom_of_names_eq_nil ch' g' limit _ hnames]
          exact ⟨rfl, hs⟩
      | cons name names =>
          rcases hrun : resolve ch g (Token.names t) t s with ⟨out, s₁⟩
          rcases hrun' : resolve ch' g' (Token.names t) t s' with ⟨out', s₁'⟩
          rw [hrun, hrun'] at hpass
          obtain ⟨hout, hs₁⟩ := hpass
          cases hout
          cases out with
          | error fault =>
              have hne : Token.names t ≠ [] := by simp [hnames]
              rw [expandFrom_of_resolve_error ch g limit remaining hne hrun,
                expandFrom_of_resolve_error ch' g' limit remaining hne hrun']
              exact ⟨rfl, hs₁⟩
          | ok u =>
              -- Both sides go on from the text that the first one has reached.
              obtain ⟨hrest, hstate⟩ := ih (h.pass t u ht (resolves_of_resolve hrun)) hs₁
              rw [hnames] at hrun hrun'
              simp only [expandFrom, hnames, hrun, hrun']
              exact ⟨by rw [hrest], hstate⟩

theorem Lockstep.expand_agree {P : Text → Prop} (h : Lockstep ch g ch' g' R P) (limit : Nat)
    {fragment : Text} (ht : P fragment) {s : σ} {s' : σ'} (hs : R s s') :
    Agree R (expand ch g limit fragment s) (expand ch' g' limit fragment s') :=
  h.expandFrom_agree limit limit ht hs

end Vignette.Expansion
