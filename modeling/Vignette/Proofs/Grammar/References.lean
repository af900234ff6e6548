import Mathlib.Data.List.Chain
import Mathlib.Order.Lattice.Nat
import Vignette.Proofs.Grammar.Closure

/-!
# `Vignette.Proofs.Grammar.References`: chains of references and their height

A category refers to the categories that tokens of its candidates name. From the
tokens of a fragment such references make chains. Suppose that no category on them
leads back to itself. Then no chain holds a category twice, so no chain is longer
than the grammar has categories, and there is a longest one. Its length is the
height of the fragment.

* `Grounded.isGreatest_height`: the height is the length of a longest chain.
* `Grounded.height_render_lt`: the token of a category is higher than those of the
  categories that it refers to.
* `Drops.grounded`, `Drops.length_le`: a rank that drops along references excludes
  cycles and bounds the length of the chains.
-/

set_option autoImplicit false

namespace Vignette.Grammar

open Relation (ReflTransGen TransGen)

/-- A token of a candidate of the first category names the second one. -/
def Refers (g : Grammar) (name next : Name) : Prop :=
  ∃ candidate, g.Offers name candidate ∧ next ∈ Token.names candidate

/-- A token of the fragment names the category, or references lead to it from one
that a token names. -/
def ReachedFrom (g : Grammar) (t : Text) (name : Name) : Prop :=
  ∃ start ∈ Token.names t, ReflTransGen g.Refers start name

/-- The tokens of the fragment name categories, and no category that they lead to
leads back to itself. -/
structure Grounded (g : Grammar) (t : Text) : Prop where
  known : ∀ name ∈ Token.names t, g.has name
  acyclic : ∀ name, g.ReachedFrom t name → ¬ TransGen g.Refers name name

/-- A chain of references whose first category a token of the fragment names. -/
structure ChainFrom (g : Grammar) (t : Text) (chain : List Name) : Prop where
  first : ∀ name ∈ chain.head?, name ∈ Token.names t
  linked : chain.IsChain g.Refers

/-- How many categories the chains of references of a fragment have. -/
def chainLengths (g : Grammar) (t : Text) : Set Nat :=
  {k | ∃ chain, g.ChainFrom t chain ∧ chain.length = k}

/-- The number of categories on the longest chain of references of a fragment. -/
noncomputable def height (g : Grammar) (t : Text) : Nat :=
  sSup (g.chainLengths t)

variable {g : Grammar} {t u : Text} {name next : Name} {chain : List Name}

theorem refers_iff :
    g.Refers name next ↔
      ∃ rule ∈ g.rules, rule.1 = name ∧ ∃ candidate ∈ rule.2, next ∈ Token.names candidate := by
  constructor
  · rintro ⟨candidate, ⟨candidates, hlookup, hmem⟩, hnext⟩
    exact ⟨(name, candidates), mem_rules_iff.2 hlookup, rfl, candidate, hmem, hnext⟩
  · rintro ⟨⟨_, candidates⟩, hrule, rfl, candidate, hmem, hnext⟩
    exact ⟨candidate, ⟨candidates, mem_rules_iff.1 hrule, hmem⟩, hnext⟩

instance (g : Grammar) (name next : Name) : Decidable (g.Refers name next) :=
  decidable_of_iff
    (∃ rule ∈ g.rules, rule.1 = name ∧ ∃ candidate ∈ rule.2, (Token.names candidate).contains next)
    (by simp only [refers_iff, List.contains_iff_mem])

instance (g : Grammar) (t : Text) (chain : List Name) : Decidable (g.ChainFrom t chain) :=
  decidable_of_iff
    ((∀ name ∈ chain.head?, (Token.names t).contains name) ∧ chain.IsChain g.Refers)
    ⟨fun h => ⟨fun name hname => List.contains_iff_mem.1 (h.1 name hname), h.2⟩,
      fun h => ⟨fun name hname => List.contains_iff_mem.2 (h.first name hname), h.linked⟩⟩

/-! ### Chains -/

theorem ReachedFrom.tail (h : g.ReachedFrom t name) (hrefers : g.Refers name next) :
    g.ReachedFrom t next := by
  obtain ⟨start, hstart, hpath⟩ := h
  exact ⟨start, hstart, hpath.tail hrefers⟩

/-- A chain goes on from the token that starts it, wherever that token stands. -/
theorem ChainFrom.of_head (h : g.ChainFrom u chain)
    (hfirst : ∀ name ∈ chain.head?, name ∈ Token.names t) : g.ChainFrom t chain :=
  ⟨hfirst, h.linked⟩

theorem ChainFrom.cons (h : g.ChainFrom u chain) (hname : name ∈ Token.names t)
    (hrefers : ∀ next ∈ chain.head?, g.Refers name next) : g.ChainFrom t (name :: chain) where
  first n hn := by
    cases hn
    exact hname
  linked := h.linked.cons hrefers

theorem ChainFrom.reached (h : g.ChainFrom t chain) : ∀ name ∈ chain, g.ReachedFrom t name := by
  cases chain with
  | nil => simp
  | cons first rest =>
      -- Being reached is handed on from link to link.
      refine h.linked.induction (g.ReachedFrom t) _ (fun _ _ hrefers hname => ?_) fun _ => ?_
      · exact hname.tail hrefers
      · exact ⟨first, h.first first rfl, .refl⟩

theorem Complete.has_of_refers (hc : g.Complete) (h : g.Refers name next) : g.has next := by
  obtain ⟨candidate, hoffer, hmem⟩ := h
  exact hc.has_of_offers hoffer next hmem

namespace Grounded

theorem has_of_reached (h : g.Grounded t) (hc : g.Complete) (hname : g.ReachedFrom t name) :
    g.has name := by
  obtain ⟨start, hstart, hpath⟩ := hname
  -- Either a token of the fragment names it, or a candidate's token at the end of the path.
  cases hpath with
  | refl => exact h.known name hstart
  | tail _ hrefers => exact hc.has_of_refers hrefers

/-- Without cycles no chain holds a category twice. -/
theorem nodup (h : g.Grounded t) (hchain : g.ChainFrom t chain) : chain.Nodup := by
  -- Along a chain every category leads to all later ones, so none of these is the same.
  have hlinked : chain.IsChain (TransGen g.Refers) := hchain.linked.imp fun _ _ => .single
  refine (List.isChain_iff_pairwise.1 hlinked).imp_of_mem fun {a b} ha _ hpath heq => ?_
  subst heq
  exact h.acyclic a (hchain.reached a ha) hpath

theorem length_le_size (h : g.Grounded t) (hc : g.Complete) (hchain : g.ChainFrom t chain) :
    chain.length ≤ g.size := by
  have hsub : chain ⊆ g.names := fun name hname =>
    has_iff_mem_names.1 (h.has_of_reached hc (hchain.reached name hname))
  have hle := (List.subperm_of_subset (h.nodup hchain) hsub).length_le
  rwa [Grammar.names, List.length_map] at hle

/-- The height is the length of a longest chain. -/
theorem isGreatest_height (h : g.Grounded t) (hc : g.Complete) :
    IsGreatest (g.chainLengths t) (g.height t) := by
  -- The lengths are some numbers, of which the empty chain gives one, and bounded.
  have hempty : 0 ∈ g.chainLengths t := ⟨[], ⟨by simp, .nil⟩, rfl⟩
  have hbounded : BddAbove (g.chainLengths t) := by
    refine ⟨g.size, ?_⟩
    rintro k ⟨chain, hchain, rfl⟩
    exact h.length_le_size hc hchain
  exact ⟨Nat.sSup_mem ⟨0, hempty⟩ hbounded, fun k hk => le_csSup hbounded hk⟩

theorem length_le_height (h : g.Grounded t) (hc : g.Complete) (hchain : g.ChainFrom t chain) :
    chain.length ≤ g.height t :=
  (h.isGreatest_height hc).2 ⟨chain, hchain, rfl⟩

theorem exists_longest (h : g.Grounded t) (hc : g.Complete) :
    ∃ chain, g.ChainFrom t chain ∧ chain.length = g.height t :=
  (h.isGreatest_height hc).1

/-! ### The height of the token of a category -/

/-- The token of a category that is reached is grounded as well. -/
theorem render (h : g.Grounded t) (hc : g.Complete) (hword : Token.IsWord name)
    (hname : g.ReachedFrom t name) : g.Grounded (Token.render name) where
  known n hn := by
    rw [Token.names_render hword] at hn
    cases List.mem_singleton.1 hn
    exact h.has_of_reached hc hname
  acyclic n hn := by
    obtain ⟨start, hstart, hpath⟩ := hn
    rw [Token.names_render hword] at hstart
    cases List.mem_singleton.1 hstart
    -- Put behind a path from the fragment, a path from the token is one from the fragment.
    obtain ⟨first, hfirst, hfront⟩ := hname
    exact h.acyclic n ⟨first, hfirst, hfront.trans hpath⟩

/-- The token of a category is no higher than a fragment that has this token. -/
theorem height_render_le (h : g.Grounded t) (hc : g.Complete) (hmem : name ∈ Token.names t) :
    g.height (Token.render name) ≤ g.height t := by
  have hword := Token.isWord_of_mem_names hmem
  obtain ⟨chain, hchain, hlength⟩ :=
    (h.render hc hword ⟨name, hmem, .refl⟩).exists_longest hc
  rw [← hlength]
  -- A chain that starts from the token alone also starts from the fragment.
  refine h.length_le_height hc (hchain.of_head fun n hn => ?_)
  have hn := hchain.first n hn
  rw [Token.names_render hword] at hn
  cases List.mem_singleton.1 hn
  exact hmem

theorem height_render_pos (h : g.Grounded t) (hc : g.Complete) (hword : Token.IsWord name)
    (hname : g.ReachedFrom t name) : 0 < g.height (Token.render name) := by
  have hchain : g.ChainFrom (Token.render name) [name] :=
    ⟨fun n hn => by rw [Token.names_render hword]; cases hn; exact List.mem_singleton.2 rfl,
      .singleton name⟩
  exact (h.render hc hword hname).length_le_height hc hchain

/-- A reference leads to a category whose token is less high. -/
theorem height_render_lt (h : g.Grounded t) (hc : g.Complete) (hword : Token.IsWord name)
    (hname : g.ReachedFrom t name) (hrefers : g.Refers name next) :
    g.height (Token.render next) < g.height (Token.render name) := by
  have hnext : Token.IsWord next := by
    obtain ⟨candidate, -, hmem⟩ := hrefers
    exact Token.isWord_of_mem_names hmem
  obtain ⟨chain, hchain, hlength⟩ :=
    (h.render hc hnext (hname.tail hrefers)).exists_longest hc
  -- The category in front makes a longest chain of the next one longer.
  have hlonger : g.ChainFrom (Token.render name) (name :: chain) := by
    refine hchain.cons (by simp [Token.names_render hword]) fun n hn => ?_
    have hn := hchain.first n hn
    rw [Token.names_render hnext] at hn
    cases List.mem_singleton.1 hn
    exact hrefers
  have hle := (h.render hc hword hname).length_le_height hc hlonger
  rw [List.length_cons] at hle
  omega

end Grounded

/-! ### Ranks -/

/-- The rank drops from every category to those that its candidates name. -/
def Drops (g : Grammar) (rank : Name → Nat) : Prop :=
  ∀ rule ∈ g.rules, ∀ candidate ∈ rule.2, ∀ n ∈ Token.names candidate, rank n < rank rule.1

instance (g : Grammar) (rank : Name → Nat) : Decidable (g.Drops rank) :=
  inferInstanceAs (Decidable (∀ rule ∈ g.rules, ∀ candidate ∈ rule.2,
    ∀ n ∈ Token.names candidate, rank n < rank rule.1))

section
variable {rank : Name → Nat}

theorem Drops.lt_of_refers (hrank : g.Drops rank) (h : g.Refers name next) :
    rank next < rank name := by
  obtain ⟨rule, hrule, rfl, candidate, hmem, hnext⟩ := refers_iff.1 h
  exact hrank rule hrule candidate hmem next hnext

/-- Where a rank drops no category leads back to itself. -/
theorem Drops.grounded (hrank : g.Drops rank) (hknown : ∀ name ∈ Token.names t, g.has name) :
    g.Grounded t where
  known := hknown
  acyclic name _ hcycle := by
    -- The rank drops along every path, and it cannot drop to itself.
    have hdrop : ∀ {n m}, TransGen g.Refers n m → rank m < rank n := by
      intro n m hpath
      induction hpath with
      | single hrefers => exact hrank.lt_of_refers hrefers
      | tail _ hrefers ih => exact (hrank.lt_of_refers hrefers).trans ih
    exact Nat.lt_irrefl _ (hdrop hcycle)

/-- Each category of a chain has a smaller rank than the one before. -/
theorem Drops.length_le_rank (hrank : g.Drops rank) {first : Name} {rest : List Name}
    (h : (first :: rest).IsChain g.Refers) : rest.length ≤ rank first := by
  induction rest generalizing first with
  | nil => exact Nat.zero_le _
  | cons next rest ih =>
      obtain ⟨hrefers, hrest⟩ := List.isChain_cons_cons.1 h
      have hdrop := hrank.lt_of_refers hrefers
      have hle := ih hrest
      rw [List.length_cons]
      omega

/-- No chain is longer than there are ranks. -/
theorem Drops.length_le (hrank : g.Drops rank) {b : Nat}
    (hb : ∀ name ∈ Token.names t, rank name < b) (h : g.ChainFrom t chain) :
    chain.length ≤ b := by
  cases chain with
  | nil => exact Nat.zero_le b
  | cons first rest =>
      have hfirst := hb first (h.first first rfl)
      have hle := hrank.length_le_rank h.linked
      rw [List.length_cons]
      omega

end

end Vignette.Grammar
