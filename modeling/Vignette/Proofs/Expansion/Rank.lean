import Vignette.Proofs.Expansion.Passes

/-!
# `Vignette.Proofs.Expansion.Rank`: a bound on the number of passes

Suppose that categories have ranks and that all that may be written for one only
has tokens of smaller rank. A pass does not replace the tokens it collected but
the first ones of their names, and some collected tokens may survive it. Yet a
category of the highest rank comes from no candidate, so each of its tokens is
collected and replaced: the highest rank drops in every pass.

* `Ranked.lt_of_resolves`: after a pass all ranks are below the former highest.
* `Ranked.add_lt_of_passes`: so a number of passes lowers the highest rank by as much.
* `Ranked.exists_passes`: as many passes as there are ranks are enough.
-/

set_option autoImplicit false

namespace Vignette.Expansion

open Symbol (nonterminal)

/-- What may be written for a category of `S` is a separated fragment over `S`
whose tokens have smaller ranks. -/
structure Ranked (allowed : Name → Text → Prop) (S : Name → Prop) (rank : Name → Nat) : Prop where
  isOver : ∀ name candidate, S name → allowed name candidate → Token.Over S candidate
  lt : ∀ name candidate, S name → allowed name candidate →
    ∀ n ∈ Token.names candidate, rank n < rank name

variable {allowed : Name → Text → Prop} {S : Name → Prop} {rank : Name → Nat}

/-- A replacement takes one token away and brings those of what is written. -/
theorem count_names_replaceFirst {t candidate : Text} {name : Name} (ht : Token.Separated t)
    (hmem : name ∈ Token.names t) (hc : Token.Separated candidate) (n : Name) :
    (Token.names (t.replaceFirst (Token.render name) candidate)).count n
        + (if name = n then 1 else 0)
      = (Token.names t).count n + (Token.names candidate).count n := by
  obtain ⟨u, v, hsplit, hreplace⟩ := ht.replaceFirst_of_mem hmem
  have hsymbols := (hreplace candidate hc).2
  rw [Token.count_names, Token.count_names, Token.count_names, hsymbols, hsplit]
  simp only [List.count_append, List.count_cons, beq_iff_eq, Symbol.nonterminal.injEq]
  omega

/-- The names of rank `b` and above that are still in the text are among those
still to be resolved, as often as they occur. -/
theorem Ranked.not_mem_of_resolves (hR : Ranked allowed S rank) {b : Nat} {names : List Name}
    {t u : Text}
    (hnames : ∀ name ∈ names, Token.IsWord name ∧ S name ∧ rank name ≤ b)
    (ht : Token.Over S t)
    (hcount : ∀ n, b ≤ rank n → (Token.names t).count n ≤ names.count n)
    (h : Resolves allowed names t u) : ∀ n, b ≤ rank n → n ∉ Token.names u := by
  induction h with
  | nil t =>
      intro n hn hmem
      have hpos : 0 < (Token.names t).count n := List.count_pos_iff.2 hmem
      have hle := hcount n hn
      rw [List.count_nil] at hle
      omega
  | @cons name names candidate t u hc _ ih =>
      obtain ⟨hword, hname, hrank⟩ := hnames name (by simp)
      have hover := hR.isOver name candidate hname hc
      refine ih (fun n hn => hnames n (List.mem_cons_of_mem name hn))
        (ht.replaceFirst hover hword) fun n hn => ?_
      have hle := hcount n hn
      rw [List.count_cons] at hle
      by_cases hmem : name ∈ Token.names t
      · -- One token of this name goes, and none of rank `b` comes with the candidate.
        have hnone : (Token.names candidate).count n = 0 := by
          refine List.count_eq_zero.2 fun hin => ?_
          have hlt := hR.lt name candidate hname hc n hin
          omega
        have hbalance := count_names_replaceFirst ht.separated hmem hover.separated n
        rw [hnone] at hbalance
        simp only [beq_iff_eq] at hle
        omega
      · -- Nothing is replaced, and the text has no token of this name to lose.
        rw [ht.separated.replaceFirst_of_not_mem hword hmem]
        by_cases heq : name = n
        · rw [← heq, List.count_eq_zero.2 hmem]
          exact Nat.zero_le _
        · simpa [heq] using hle

/-- After a pass all ranks are below the former highest. -/
theorem Ranked.lt_of_resolves (hR : Ranked allowed S rank) {b : Nat} {t u : Text}
    (ht : Token.Over S t) (hb : ∀ name ∈ Token.names t, rank name ≤ b)
    (h : Resolves allowed (Token.names t) t u) : ∀ name ∈ Token.names u, rank name < b := by
  intro name hmem
  -- All tokens of the highest rank were collected at the start of the pass.
  by_contra hle
  have hnames : ∀ n ∈ Token.names t, Token.IsWord n ∧ S n ∧ rank n ≤ b := fun n hn =>
    ⟨Token.isWord_of_mem_names hn, ht.names n hn, hb n hn⟩
  exact hR.not_mem_of_resolves hnames ht (fun _ _ => Nat.le_refl _) h name (by omega) hmem

/-- Each pass takes one off the highest rank. -/
theorem Ranked.add_lt_of_passes (hR : Ranked allowed S rank) {n b : Nat} {t u : Text}
    (ht : Token.Over S t) (hb : ∀ name ∈ Token.names t, rank name < b)
    (h : Passes allowed n t u) : ∀ name ∈ Token.names u, rank name + n < b := by
  induction h generalizing b with
  | zero t => exact hb
  | @succ n t u v hne hres _ ih =>
      -- A pass is only made while there are tokens, so the bound is not zero yet.
      obtain ⟨first, hfirst⟩ := List.exists_mem_of_ne_nil _ hne
      have hpos : b ≠ 0 := Nat.ne_of_gt (Nat.zero_lt_of_lt (hb first hfirst))
      obtain ⟨highest, rfl⟩ := Nat.exists_eq_succ_of_ne_zero hpos
      have hlt := hR.lt_of_resolves ht (fun name hn => Nat.le_of_lt_succ (hb name hn)) hres
      intro name hmem
      have hrest := ih (hres.over hR.isOver ht) hlt name hmem
      omega

theorem exists_resolves (hsome : ∀ name, S name → ∃ candidate, allowed name candidate)
    {names : List Name} (hnames : ∀ name ∈ names, S name) (t : Text) :
    ∃ u, Resolves allowed names t u := by
  induction names generalizing t with
  | nil => exact ⟨t, .nil t⟩
  | cons name names ih =>
      obtain ⟨candidate, hc⟩ := hsome name (hnames name (by simp))
      obtain ⟨u, hu⟩ := ih (fun n hn => hnames n (List.mem_cons_of_mem name hn))
        (t.replaceFirst (Token.render name) candidate)
      exact ⟨u, .cons hc hu⟩

/-- When something may be written for every category, as many passes as there
are ranks leave no token. -/
theorem Ranked.exists_passes (hR : Ranked allowed S rank)
    (hsome : ∀ name, S name → ∃ candidate, allowed name candidate) {b : Nat} {t : Text}
    (ht : Token.Over S t) (hb : ∀ name ∈ Token.names t, rank name < b) :
    ∃ n ≤ b, ∃ w, Passes allowed n t w ∧ Token.names w = [] := by
  induction b generalizing t with
  | zero =>
      refine ⟨0, Nat.le_refl 0, t, .zero t, ?_⟩
      exact List.eq_nil_iff_forall_not_mem.2 fun name hmem => Nat.not_lt_zero _ (hb name hmem)
  | succ b ih =>
      by_cases hnames : Token.names t = []
      · exact ⟨0, Nat.zero_le _, t, .zero t, hnames⟩
      · -- Any pass will do: whatever it writes, the highest rank drops.
        obtain ⟨u, hres⟩ := exists_resolves hsome ht.names t
        have hu := hres.over hR.isOver ht
        have hlt := hR.lt_of_resolves ht (fun name hn => Nat.le_of_lt_succ (hb name hn)) hres
        obtain ⟨n, hn, w, hp, hend⟩ := ih hu hlt
        exact ⟨n + 1, Nat.succ_le_succ hn, w, .succ hnames hres hp, hend⟩

end Vignette.Expansion
