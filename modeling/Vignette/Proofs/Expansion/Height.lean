import Vignette.Proofs.Expansion.Derivation
import Vignette.Proofs.Expansion.Rank
import Vignette.Proofs.Grammar.Check
import Vignette.Proofs.Grammar.References

/-!
# `Vignette.Proofs.Expansion.Height`: how many passes a fragment needs

Suppose that no category that a separated fragment leads to leads back to itself.
The height of a category's token is then a rank: what may be written for the token
is less high. So every pass makes the text less high, and as many passes as the
fragment is high leave no token, whatever is drawn.

Fewer are not always enough. A pass uses up as many tokens of a name as it has
collected, so a token that comes with a candidate of the pass is not used up, or
takes the place of one that is. Drawing along a longest chain of references
therefore leaves a token after each pass but the last.

* `expand_eq_ok_of_height_le`: as many passes as the height are enough.
* `exists_passes_of_chain`: some draws follow a chain of references.
* `expand_height`: the height is the least number of passes that is always enough.
-/

set_option autoImplicit false

namespace Vignette.Expansion

open Grammar (Grounded)

variable {g : Grammar}

/-! ### Enough passes -/

/-- What may be written for a category is less high than its token. -/
theorem ranked_height {t : Text} (hg : g.Separated) (hc : g.Complete) (h : g.Grounded t) :
    Ranked g.Offers (fun name => g.ReachedFrom t name ∧ Token.IsWord name)
      (fun name => g.height (Token.render name)) where
  isOver _ candidate hname hoffer :=
    ⟨hg.of_offers hoffer, fun _ hn =>
      ⟨hname.1.tail ⟨candidate, hoffer, hn⟩, Token.isWord_of_mem_names hn⟩⟩
  lt _ candidate hname hoffer _ hn :=
    h.height_render_lt hc hname.2 hname.1 ⟨candidate, hoffer, hn⟩

/-- As many passes as the height leave no token. -/
theorem names_eq_nil_of_passes {t u : Text} (hg : g.Separated) (hc : g.Complete)
    (h : g.Grounded t) (ht : Token.Separated t) {n : Nat} (hn : g.height t ≤ n)
    (hpasses : Passes g.Offers n t u) : Token.names u = [] := by
  have hR := ranked_height hg hc h
  have hover : Token.Over (fun name => g.ReachedFrom t name ∧ Token.IsWord name) t :=
    ⟨ht, fun name hmem => ⟨⟨name, hmem, .refl⟩, Token.isWord_of_mem_names hmem⟩⟩
  -- The heights of the tokens of `t` stay below one more than its own.
  have hb : ∀ name ∈ Token.names t, g.height (Token.render name) < g.height t + 1 :=
    fun name hmem => Nat.lt_succ_of_le (h.height_render_le hc hmem)
  rw [List.eq_nil_iff_forall_not_mem]
  intro name hmem
  -- A token that is left has a height of its own to pass through.
  obtain ⟨hreached, hword⟩ := (hpasses.over hR.isOver hover).names name hmem
  have hpos := h.height_render_pos hc hword hreached
  have hlt := hR.add_lt_of_passes hover hb hpasses name hmem
  omega

theorem expand_eq_ok_of_height_le {t : Text} (hg : g.Separated) (hc : g.Complete)
    (h : g.Grounded t) (ht : Token.Separated t) {limit : Nat} (hlimit : g.height t ≤ limit)
    {σ : Type} (ch : Chooser σ) (s : σ) :
    ∃ w, (expand ch g limit t s).1.outcome = .ok w ∧ '#' ∉ w := by
  rcases expand_cases_of_separated hg hc ⟨ht, h.known⟩ ch limit s with hout | ⟨w, hw, hhash, -⟩
  · -- Running out of passes means that tokens are left after `limit` of them.
    have hend := expandFrom_cases ch g limit limit t s
    rw [show (expandFrom ch g limit limit t s).1.outcome = .error (.expansionLimit limit)
      from hout] at hend
    cases hend with
    | limit hpasses hne =>
        exact absurd (names_eq_nil_of_passes hg hc h ht hlimit hpasses) hne
    | fault _ _ _ hfault => cases (hc.eq_of_drawFault? hfault).2
  · exact ⟨w, hw, hhash⟩

/-! ### Fewer passes -/

/-- A name that the text has more often than it is to be resolved is not used up. -/
theorem mem_names_of_resolves (hg : g.Separated) {names : List Name} {t u : Text} {next : Name}
    (hwords : ∀ name ∈ names, Token.IsWord name) (ht : Token.Separated t)
    (hcount : names.count next < (Token.names t).count next)
    (h : Resolves g.Offers names t u) : next ∈ Token.names u := by
  -- Each name resolved takes one from both counts when it is `next`, and its candidate
  -- can only add to the text's.
  induction h with
  | nil t => exact List.count_pos_iff.1 hcount
  | @cons name names candidate t u hoffer _ ih =>
      have hrest := fun n hn => hwords n (List.mem_cons_of_mem name hn)
      rw [List.count_cons] at hcount
      by_cases hmem : name ∈ Token.names t
      · obtain ⟨_, _, _, hreplace⟩ := ht.replaceFirst_of_mem hmem
        have hsep := (hreplace candidate (hg.of_offers hoffer)).1
        have hbalance := count_names_replaceFirst ht hmem (hg.of_offers hoffer) next
        refine ih hrest hsep ?_
        simp only [beq_iff_eq] at hcount
        omega
      · rw [ht.replaceFirst_of_not_mem (hwords name List.mem_cons_self) hmem] at ih
        exact ih hrest ht (by omega)

/-- Some draws of a pass leave a token of a category that a collected one refers to. -/
theorem exists_resolves_of_refers (hg : g.Separated) (hc : g.Complete) {names : List Name}
    {t : Text} {name next : Name} (hnames : ∀ n ∈ names, Token.IsWord n ∧ g.has n)
    (ht : Token.Separated t) (hcount : ∀ n, names.count n ≤ (Token.names t).count n)
    (hmem : name ∈ names) (hrefers : g.Refers name next) :
    ∃ u, Resolves g.Offers names t u ∧ next ∈ Token.names u := by
  induction names generalizing t with
  | nil => cases hmem
  | cons first names ih =>
      have hrest := fun n hn => hnames n (List.mem_cons_of_mem first hn)
      have hfirst : first ∈ Token.names t := by
        have hpos := hcount first
        rw [List.count_cons_self] at hpos
        exact List.count_pos_iff.1 (by omega)
      obtain ⟨_, _, _, hreplace⟩ := ht.replaceFirst_of_mem hfirst
      -- What is still to be resolved stays in the text, whatever is written.
      have hafter {candidate : Text} (hoffer : g.Offers first candidate) (n : Name) :
          names.count n + (Token.names candidate).count n
            ≤ (Token.names (t.replaceFirst (Token.render first) candidate)).count n := by
        have hbalance := count_names_replaceFirst ht hfirst (hg.of_offers hoffer) n
        have hle := hcount n
        rw [List.count_cons] at hle
        simp only [beq_iff_eq] at hle
        omega
      rcases List.mem_cons.1 hmem with rfl | hmem
      · -- The candidate that names `next` is drawn here, and the others do not matter.
        obtain ⟨candidate, hoffer, hnext⟩ := hrefers
        obtain ⟨u, hres⟩ := exists_resolves (fun _ => hc.exists_offers)
          (fun n hn => (hrest n hn).2) (t.replaceFirst (Token.render name) candidate)
        refine ⟨u, .cons hoffer hres, ?_⟩
        refine mem_names_of_resolves hg (fun n hn => (hrest n hn).1)
          (hreplace candidate (hg.of_offers hoffer)).1 ?_ hres
        have hpos := List.count_pos_iff.2 hnext
        have hle := hafter hoffer next
        omega
      · -- Any candidate does for a name in front of `name`.
        obtain ⟨candidate, hoffer⟩ := hc.exists_offers (hnames first List.mem_cons_self).2
        obtain ⟨u, hres, hnext⟩ := ih hrest (hreplace candidate (hg.of_offers hoffer)).1
          (fun n => Nat.le_trans (Nat.le_add_right _ _) (hafter hoffer n)) hmem
        exact ⟨u, .cons hoffer hres, hnext⟩

/-- Some draws follow a chain of references, one pass for each of them. -/
theorem exists_passes_of_chain (hg : g.Separated) (hc : g.Complete) {t : Text}
    (ht : Token.Over (fun n => g.has n) t) {name : Name} {rest : List Name}
    (hmem : name ∈ Token.names t) (hlinked : (name :: rest).IsChain g.Refers) :
    ∃ u, Passes g.Offers rest.length t u ∧ Token.names u ≠ [] := by
  -- The token that the pass leaves is where the rest of the chain starts from.
  induction rest generalizing t name with
  | nil => exact ⟨t, .zero t, List.ne_nil_of_mem hmem⟩
  | cons next rest ih =>
      obtain ⟨hrefers, hrest⟩ := List.isChain_cons_cons.1 hlinked
      obtain ⟨u, hres, hnext⟩ := exists_resolves_of_refers hg hc
        (fun n hn => ⟨Token.isWord_of_mem_names hn, ht.names n hn⟩) ht.separated
        (fun _ => Nat.le_refl _) hmem hrefers
      obtain ⟨v, hpasses, hne⟩ := ih (hres.over (over_offers hg hc) ht) hnext hrest
      exact ⟨v, .succ (List.ne_nil_of_mem hmem) hres hpasses, hne⟩

theorem exists_limit_of_lt_height {t : Text} (hg : g.Separated) (hc : g.Complete)
    (h : g.Grounded t) (ht : Token.Separated t) {limit : Nat} (hlimit : limit < g.height t) :
    ∃ script,
      (expand Chooser.scripted g limit t script).1.outcome = .error (.expansionLimit limit) := by
  obtain ⟨chain, hchain, hlength⟩ := h.exists_longest hc
  -- One category more of the chain than there are passes.
  have htake : (chain.take (limit + 1)).length = limit + 1 := by
    rw [List.length_take]
    omega
  have hlinked := hchain.linked.take (limit + 1)
  cases chain with
  | nil => cases htake
  | cons name rest =>
      rw [List.take_succ_cons] at htake hlinked
      rw [List.length_cons, Nat.add_right_cancel_iff] at htake
      obtain ⟨u, hpasses, hne⟩ :=
        exists_passes_of_chain hg hc ⟨ht, h.known⟩ (hchain.first name rfl) hlinked
      rw [htake] at hpasses
      exact hpasses.exists_script_limit hne

/-- Over a checked grammar with separated candidates, let no category that a
separated fragment leads to lead back to itself. The fragment's height is then the
number of categories on a longest chain of references. With at least as many passes
every expansion of the fragment succeeds, whatever is drawn, and with fewer some
expansion runs out of passes. -/
theorem expand_height {g : Grammar} (hcheck : g.check = .ok ()) (hg : g.Separated)
    {fragment : Text} (hsep : Token.Separated fragment) (h : g.Grounded fragment) :
    IsGreatest (g.chainLengths fragment) (g.height fragment) ∧
    (∀ limit, g.height fragment ≤ limit → ∀ (σ : Type) (ch : Chooser σ) (s : σ),
      ∃ w, (expand ch g limit fragment s).1.outcome = .ok w ∧ '#' ∉ w) ∧
    ∀ limit < g.height fragment, ∃ script,
      (expand Chooser.scripted g limit fragment script).1.outcome
        = .error (.expansionLimit limit) := by
  have hc := (Grammar.check_eq_ok hcheck).1.toComplete
  exact ⟨h.isGreatest_height hc,
    fun limit hlimit σ ch s => expand_eq_ok_of_height_le hg hc h hsep hlimit ch s,
    fun limit hlimit => exists_limit_of_lt_height hg hc h hsep hlimit⟩

/-- A meal has a side dish, and both may come with tea. -/
def mealParts : Grammar :=
  .ofRules [(rootsName, ["#meal# #side#".toList]),
    ("meal".toList, ["soup, #side#".toList, "tea".toList]),
    ("side".toList, ["rolls".toList, "cake and #drink#".toList]), ("drink".toList, ["tea".toList])]

/-- The first pass over this fragment writes over the side dish that comes with the
meal and leaves the one that it has collected. Three passes are enough. -/
theorem expand_height_mealParts :
    mealParts.height "#meal# #side#".toList = 3 ∧
      ∀ limit, 3 ≤ limit → ∀ (σ : Type) (ch : Chooser σ) (s : σ),
        ∃ w, (expand ch mealParts limit "#meal# #side#".toList s).1.outcome = .ok w ∧ '#' ∉ w := by
  have hrank : mealParts.Drops fun name =>
      ["drink".toList, "side".toList, "meal".toList, rootsName].idxOf name := by decide
  have hsep : Token.Separated "#meal# #side#".toList := by decide
  obtain ⟨hgreatest, henough, -⟩ :=
    expand_height (by decide) (by decide) hsep (hrank.grounded (by decide))
  have hle : mealParts.height "#meal# #side#".toList ≤ 3 := by
    obtain ⟨chain, hchain, hlength⟩ := hgreatest.1
    rw [← hlength]
    exact hrank.length_le (by decide) hchain
  have hge : 3 ≤ mealParts.height "#meal# #side#".toList :=
    hgreatest.2 ⟨["meal".toList, "side".toList, "drink".toList], by decide, rfl⟩
  exact ⟨by omega, fun limit hlimit => henough limit (by omega)⟩

end Vignette.Expansion
