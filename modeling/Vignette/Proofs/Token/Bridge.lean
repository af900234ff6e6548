import Vignette.Proofs.Text.Search
import Vignette.Proofs.Token.Symbols

/-!
# `Vignette.Proofs.Token.Bridge`: what a search for the text of a token hits

The text of a token also stands where the closing `#` of one token, the name as
plain text and the opening `#` of another token follow one another. In a paired
fragment, where every `#` belongs to a token, this is the only other thing that
the search can hit.

* `lands_splitFirst?`: the search hits a token, such a bridge or nothing.
* `hitsToken_or_hitsBridge`: the same for a fragment with a token of that name.
* `hitsToken_iff_not_bridged`: it hits a token unless a bridge stands in front of
  all tokens of that name.
-/

set_option autoImplicit false

namespace Vignette.Token

open Symbol (terminal nonterminal)

/-! ### Tokens and bridges -/

/-- Every `#` of the fragment delimits a token. -/
def Paired (fragment : Text) : Prop :=
  terminal '#' ∉ symbols fragment

instance (fragment : Text) : Decidable (Paired fragment) :=
  inferInstanceAs (Decidable (_ ∉ _))

/-- The first occurrence of the text of the token is one of the tokens that the
scan finds. -/
def HitsToken (name : Name) (t : Text) : Prop :=
  ∃ u v, symbols t = u ++ nonterminal name :: v ∧
    Text.splitFirst? (render name) t = some (spell u, spell v)

/-- The first occurrence of the text of the token starts with the closing `#` of
one token and ends with the opening `#` of the next one. -/
def HitsBridge (name : Name) (t : Text) : Prop :=
  ∃ u a b v, symbols t = u ++ nonterminal a :: (name.map terminal ++ nonterminal b :: v) ∧
    Text.splitFirst? (render name) t = some (spell u ++ '#' :: a, b ++ '#' :: spell v)

/-- The name stands as plain text between two tokens, and no token of that name
stands in front of it. -/
def Bridged (name : Name) (t : Text) : Prop :=
  ∃ u a b v, symbols t = u ++ nonterminal a :: (name.map terminal ++ nonterminal b :: v) ∧
    nonterminal name ∉ u ++ [nonterminal a]

theorem Paired.clean {t : Text} (h : Paired t) : Clean (symbols t) :=
  clean_symbols h

theorem paired_spell {ss : List (Symbol Char Name)} (h : Clean ss) : Paired (spell ss) := by
  unfold Paired
  rw [symbols_spell h]
  exact fun hmem => h.terminal_ne '#' hmem rfl

/-- A paired fragment without tokens has no `#` at all. -/
theorem Paired.not_mem {t : Text} (h : Paired t) (hnames : names t = []) : '#' ∉ t := by
  intro hmem
  apply h
  rw [symbols_eq_map_terminal hnames]
  exact List.mem_map_of_mem hmem

/-! ### Where the text of a token occurs -/

/-- At the token of another name the search moves on. -/
theorem not_prefix_render {m name : Name} (hm : IsWord m) (hname : IsWord name) (hne : name ≠ m)
    (t : Text) : ¬ render name <+: render m ++ t := by
  intro hfront
  have hfront : name ++ ['#'] <+: m ++ '#' :: t := by
    have htail : name ++ ['#'] <+: (m ++ ['#']) ++ t := (List.cons_prefix_cons.1 hfront).2
    rwa [List.append_assoc] at htail
  -- The two words end at the first `#` of the text, so they are the same.
  have htake (n : Name) (u : Text) (hn : IsWord n) :
      (n ++ '#' :: u).takeWhile (· ≠ '#') = n := by
    rw [List.takeWhile_append_of_pos]
    · simp
    · intro c hc
      have : c ≠ '#' := fun heq => not_mem_of_isWord hn (heq ▸ hc)
      simpa using this
  obtain ⟨rest, hrest⟩ := hfront
  rw [List.append_assoc] at hrest
  have heq := congrArg (List.takeWhile (· ≠ '#')) hrest
  rw [htake m t hm, List.singleton_append, htake name rest hname] at heq
  exact hne heq

/-- A name with a `#` behind it is plain text in front of a token. -/
theorem exists_of_prefix_spell {ss : List (Symbol Char Name)} {name : Name} (h : Clean ss)
    (hname : '#' ∉ name) (hfront : name ++ ['#'] <+: spell ss) :
    ∃ b v, ss = name.map terminal ++ nonterminal b :: v := by
  induction name generalizing ss with
  | nil =>
      cases ss with
      | nil => simp at hfront
      | cons s ss =>
          cases s with
          | nonterminal b => exact ⟨b, ss, rfl⟩
          | terminal c =>
              have hc : '#' = c := (List.cons_prefix_cons.1 hfront).1
              exact absurd hc.symm (h.terminal_ne c (by simp))
  | cons c name ih =>
      cases ss with
      | nil => simp at hfront
      | cons s ss =>
          cases s with
          | nonterminal b =>
              have hc : c = '#' := (List.cons_prefix_cons.1 hfront).1
              exact absurd hc fun heq => hname (by simp [heq])
          | terminal d =>
              -- The first characters are the same, and the rest is as before.
              obtain ⟨rfl, htail⟩ := List.cons_prefix_cons.1 hfront
              obtain ⟨b, v, rfl⟩ := ih (h.of_subset (List.subset_cons_self _ _))
                (fun hin => hname (List.mem_cons_of_mem c hin)) htail
              exact ⟨b, v, rfl⟩

/-- Where no token of the name starts, the search moves on to the closing `#`. -/
theorem splitFirst?_render_append {m name : Name} (hm : IsWord m) (hname : IsWord name)
    (hne : name ≠ m) (t : Text) :
    Text.splitFirst? (render name) (render m ++ t)
      = (Text.splitFirst? (render name) ('#' :: t)).map fun s => ('#' :: m ++ s.1, s.2) := by
  have hopen := not_prefix_render hm hname hne t
  have hrender : render m ++ t = '#' :: (m ++ '#' :: t) := by simp [render]
  rw [hrender] at hopen ⊢
  rw [Text.splitFirst?_cons_of_not_prefix hopen]
  show Option.map _ (Text.splitFirst? ('#' :: (name ++ ['#'])) _) = _
  rw [Text.splitFirst?_skip _ (not_mem_of_isWord hm), Option.map_map]
  rfl

/-- Where the search for the text of a token may end in a string of symbols. -/
inductive Lands (name : Name) : List (Symbol Char Name) → Option (Text × Text) → Prop
  /-- On a token of the name. -/
  | token (u v : List (Symbol Char Name)) :
      Lands name (u ++ nonterminal name :: v) (some (spell u, spell v))
  /-- On the name between two tokens. -/
  | bridge (u : List (Symbol Char Name)) (a b : Name) (v : List (Symbol Char Name)) :
      Lands name (u ++ nonterminal a :: (name.map terminal ++ nonterminal b :: v))
        (some (spell u ++ '#' :: a, b ++ '#' :: spell v))
  /-- Nowhere, and there is no token of the name. -/
  | nowhere {ss : List (Symbol Char Name)} : nonterminal name ∉ ss → Lands name ss none

/-- What the search hits behind a symbol it hits behind the text of that symbol. -/
theorem Lands.cons {name : Name} {s : Symbol Char Name} {ss : List (Symbol Char Name)}
    {r : Option (Text × Text)} (hs : s ≠ nonterminal name) (h : Lands name ss r) :
    Lands name (s :: ss) (r.map fun r => (spellSymbol s ++ r.1, r.2)) := by
  cases h with
  | token u v => exact .token (s :: u) v
  | bridge u a b v =>
      rw [Option.map_some, ← List.append_assoc]
      exact .bridge (s :: u) a b v
  | nowhere hmem =>
      refine .nowhere ?_
      rw [List.mem_cons, not_or]
      exact ⟨hs.symm, hmem⟩

/-- The search goes through the symbols from left to right. -/
theorem lands_splitFirst? {ss : List (Symbol Char Name)} {name : Name} (h : Clean ss)
    (hname : IsWord name) : Lands name ss (Text.splitFirst? (render name) (spell ss)) := by
  induction ss with
  | nil => exact .nowhere (by simp)
  | cons s ss ih =>
      have htail : Clean ss := h.of_subset (List.subset_cons_self s ss)
      cases s with
      | terminal c =>
          -- A plain character starts no occurrence.
          have hc : c ≠ '#' := h.terminal_ne c (by simp)
          show Lands name _ (Text.splitFirst? ('#' :: (name ++ ['#'])) ([c] ++ spell ss))
          rw [Text.splitFirst?_skip _ (by simpa using hc.symm)]
          exact (ih htail).cons (by simp)
      | nonterminal m =>
          rw [spell_cons, spellSymbol]
          by_cases hne : name = m
          · rw [hne, Text.splitFirst?_append (by simp [render])]
            exact .token [] ss
          · have hm : IsWord m := h.isWord m (by simp)
            rw [splitFirst?_render_append hm hname hne]
            -- The closing `#` of another token may be where the text of this one starts.
            by_cases hclose : name ++ ['#'] <+: spell ss
            · obtain ⟨b, v, rfl⟩ := exists_of_prefix_spell htail (not_mem_of_isWord hname) hclose
              have hbridge : '#' :: spell (name.map terminal ++ nonterminal b :: v)
                  = render name ++ (b ++ '#' :: spell v) := by
                simp [spellSymbol, render]
              rw [hbridge, Text.splitFirst?_append (by simp [render]), Option.map_some,
                List.append_nil]
              exact .bridge [] m b v
            · have hnot : ¬ render name <+: '#' :: spell ss := fun hfront =>
                hclose (List.cons_prefix_cons.1 hfront).2
              rw [Text.splitFirst?_cons_of_not_prefix hnot, Option.map_map]
              have hbehind := (ih htail).cons (s := nonterminal m) (by simpa using Ne.symm hne)
              convert hbehind using 2
              funext r
              simp [spellSymbol, render]

/-! ### What is hit in a paired fragment -/

section
variable {t candidate : Text} {name : Name}

/-- The search hits a token or a bridge unless it finds nothing. -/
theorem hits_cases (ht : Paired t) (hname : IsWord name) :
    HitsToken name t ∨ HitsBridge name t ∨
      name ∉ names t ∧ Text.splitFirst? (render name) t = none := by
  have hlands := lands_splitFirst? ht.clean hname
  rw [spell_symbols] at hlands
  rw [mem_names_iff]
  unfold HitsToken HitsBridge
  generalize symbols t = ss at hlands ⊢
  generalize Text.splitFirst? (render name) t = r at hlands ⊢
  cases hlands with
  | token u v => exact .inl ⟨u, v, rfl, rfl⟩
  | bridge u a b v => exact .inr (.inl ⟨u, a, b, v, rfl, rfl⟩)
  | nowhere hmem => exact .inr (.inr ⟨hmem, rfl⟩)

/-- A search for a token that is there hits a token or a bridge. -/
theorem hitsToken_or_hitsBridge (ht : Paired t) (h : name ∈ names t) :
    HitsToken name t ∨ HitsBridge name t := by
  rcases hits_cases ht (isWord_of_mem_names h) with htoken | hbridge | ⟨hmem, -⟩
  · exact .inl htoken
  · exact .inr hbridge
  · exact absurd h hmem

/-- A bridge in front of the tokens of the name is in the way. -/
theorem not_hitsToken_of_bridged (h : Bridged name t) : ¬ HitsToken name t := by
  rintro ⟨u', v', hsplit', hhit⟩
  obtain ⟨u, a, b, v, hsplit, hmem⟩ := h
  -- The bridge is an occurrence, so the first one starts no later.
  have hoccurs : t = (spell u ++ '#' :: a) ++ render name ++ (b ++ '#' :: spell v) := by
    rw [← spell_symbols t, hsplit]
    simp [spellSymbol, render]
  rw [hoccurs] at hhit
  have hfirst := Text.length_le_of_splitFirst? (by simp [render]) hhit
  -- A token of the name stands behind the bridge.
  have hbehind : u ++ [nonterminal a] <+: u' := by
    have hsame : (u ++ [nonterminal a]) ++ (name.map terminal ++ nonterminal b :: v)
        = u' ++ nonterminal name :: v' := by
      rw [← hsplit', hsplit, List.append_assoc, List.singleton_append]
    rcases List.append_eq_append_iff.1 hsame with ⟨w, rfl, -⟩ | ⟨w, hw, hrest⟩
    · exact List.prefix_append _ w
    · cases w with
      | nil => rw [hw, List.append_nil]
      | cons s w =>
          cases hrest
          exact absurd (by rw [hw]; simp) hmem
  obtain ⟨w, rfl⟩ := hbehind
  simp only [spell_append, spell_cons, spell_nil, spellSymbol, render, List.length_append,
    List.length_cons, List.length_nil] at hfirst
  omega

/-- What is hit starts no later than the first token of the name. -/
theorem bridged_of_hitsBridge (h : HitsBridge name t) : Bridged name t := by
  obtain ⟨u, a, b, v, hsplit, hhit⟩ := h
  refine ⟨u, a, b, v, hsplit, fun hmem => ?_⟩
  obtain ⟨u₁, u₂, hu⟩ := List.append_of_mem hmem
  -- A token of the name in front of the bridge would be found before it.
  have hoccurs : t = spell u₁ ++ render name
      ++ spell (u₂ ++ (name.map terminal ++ nonterminal b :: v)) := by
    rw [← spell_symbols t, hsplit, ← List.singleton_append, ← List.append_assoc, hu]
    simp [spellSymbol, render]
  rw [hoccurs] at hhit
  have hfirst := Text.length_le_of_splitFirst? (by simp [render]) hhit
  have hlength := congrArg (fun ss => (spell ss).length) hu
  simp only [spell_append, spell_cons, spell_nil, spellSymbol, render, List.length_append,
    List.length_cons, List.length_nil] at hfirst hlength
  omega

theorem hitsToken_iff_not_bridged (ht : Paired t) (h : name ∈ names t) :
    HitsToken name t ↔ ¬ Bridged name t := by
  constructor
  · exact fun hhit hbridged => not_hitsToken_of_bridged hbridged hhit
  · intro hfree
    exact (hitsToken_or_hitsBridge ht h).resolve_right fun hhit => hfree (bridged_of_hitsBridge hhit)

/-- Writing a paired fragment over a token puts its symbols in the place of that
token. -/
theorem HitsToken.replaceFirst (ht : Paired t) (hc : Paired candidate) (h : HitsToken name t) :
    Paired (t.replaceFirst (render name) candidate) ∧
      ∃ u v, symbols t = u ++ nonterminal name :: v ∧
        symbols (t.replaceFirst (render name) candidate) = u ++ symbols candidate ++ v := by
  obtain ⟨u, v, hsplit, hhit⟩ := h
  have hresult : t.replaceFirst (render name) candidate = spell (u ++ symbols candidate ++ v) := by
    simp [Text.replaceFirst, hhit]
  have hold : Clean (u ++ nonterminal name :: v) := hsplit ▸ ht.clean
  have hclean : Clean (u ++ symbols candidate ++ v) :=
    ((hold.of_subset (List.subset_append_left u _)).append hc.clean).append
      (hold.of_subset fun s hs => by simp [hs])
  rw [hresult]
  exact ⟨paired_spell hclean, u, v, hsplit, symbols_spell hclean⟩

end

end Vignette.Token
