import Mathlib.Computability.Language
import Vignette.Token

/-!
# `Vignette.Proofs.Token.Symbols`: a fragment as a string of symbols

The token scan sees a fragment as a string over characters and category names:
every token is one nonterminal symbol, every other character a terminal one.
`symbols` is this reading and `spell` writes a string of symbols out again.

* `spell_symbols`: reading loses nothing.
* `names_eq`: the names that the scan reports are the nonterminals, in order.
* `symbols_spell`: a string of symbols is read back from its spelling when no
  terminal is a `#` and every name is a word.
-/

set_option autoImplicit false

namespace Vignette.Token

open Symbol (terminal nonterminal)

/-- A name that a token can hold. -/
def IsWord (name : Name) : Prop :=
  ∀ c ∈ name, isWordChar c

instance (name : Name) : Decidable (IsWord name) :=
  List.decidableBAll _ _

/-- The symbols of the rest of a fragment. As in `namesFrom` the state is the
word read since a `#` that may still open a token; a word that breaks off turns
out to be plain text. -/
def symbolsFrom : Option Text → Text → List (Symbol Char Name)
  | none, [] => []
  | some word, [] => terminal '#' :: word.reverse.map terminal
  | none, c :: t => if c = '#' then symbolsFrom (some []) t else terminal c :: symbolsFrom none t
  | some word, c :: t =>
    if c = '#' then nonterminal word.reverse :: symbolsFrom none t
    else if isWordChar c then symbolsFrom (some (c :: word)) t
    else terminal '#' :: (word.reverse.map terminal ++ terminal c :: symbolsFrom none t)

/-- The symbols of a fragment, left to right. -/
def symbols (fragment : Text) : List (Symbol Char Name) :=
  symbolsFrom none fragment

/-- The text of one symbol. -/
def spellSymbol : Symbol Char Name → Text
  | .terminal c => [c]
  | .nonterminal name => render name

/-- The text of a string of symbols. -/
def spell (ss : List (Symbol Char Name)) : Text :=
  ss.flatMap spellSymbol

/-- The name of a nonterminal. -/
def name? : Symbol Char Name → Option Name
  | .terminal _ => none
  | .nonterminal name => some name

@[simp]
theorem spell_nil : spell [] = [] := rfl

@[simp]
theorem spell_cons (s : Symbol Char Name) (ss : List (Symbol Char Name)) :
    spell (s :: ss) = spellSymbol s ++ spell ss := rfl

@[simp]
theorem spell_append (ss us : List (Symbol Char Name)) : spell (ss ++ us) = spell ss ++ spell us :=
  List.flatMap_append

@[simp]
theorem spell_map_terminal (t : Text) : spell (t.map terminal) = t := by
  induction t with
  | nil => rfl
  | cons c t ih =>
      rw [List.map_cons, spell_cons, ih]
      rfl

/-! ### Reading and writing -/

/-- The text that a state of the scan has read and not yet given a symbol. -/
def pending : Option Text → Text
  | none => []
  | some word => '#' :: word.reverse

theorem spell_symbolsFrom (state : Option Text) (t : Text) :
    spell (symbolsFrom state t) = pending state ++ t := by
  -- What the state holds is written once it is known to be a token or plain text.
  induction t generalizing state with
  | nil => cases state <;> simp [symbolsFrom, pending, spellSymbol, -List.map_reverse]
  | cons c t ih =>
      cases state with
      | none =>
          rw [symbolsFrom]
          split
          · rename_i hc
            rw [ih, hc]
            rfl
          · rw [spell_cons, ih]
            rfl
      | some word =>
          rw [symbolsFrom]
          split
          · rename_i hc
            rw [spell_cons, ih, hc]
            simp [spellSymbol, render, pending]
          · split
            · rw [ih]
              simp [pending]
            · simp [spellSymbol, pending, ih, -List.map_reverse]

/-- Writing the symbols of a fragment out again gives the fragment. -/
@[simp]
theorem spell_symbols (t : Text) : spell (symbols t) = t :=
  spell_symbolsFrom none t

/-- Plain text holds no names. -/
@[simp]
theorem filterMap_map_terminal (t : Text) : (t.map terminal).filterMap name? = [] := by
  rw [List.filterMap_map]
  exact List.filterMap_none t

theorem namesFrom_eq (state : Option Text) (t : Text) :
    namesFrom state t = (symbolsFrom state t).filterMap name? := by
  induction t generalizing state with
  | nil => cases state <;> simp [namesFrom, symbolsFrom, name?]
  | cons c t ih =>
      cases state with
      | none =>
          rw [namesFrom, symbolsFrom]
          split
          · exact ih _
          · rw [ih, List.filterMap_cons]
            rfl
      | some word =>
          rw [namesFrom, symbolsFrom]
          split
          · rw [ih, List.filterMap_cons]
            rfl
          · split
            · exact ih _
            · -- The word that broke off has become plain characters.
              rw [ih, List.filterMap_cons, List.filterMap_append, filterMap_map_terminal,
                List.filterMap_cons]
              rfl

/-- The names that the scan reports are the nonterminals among the symbols. -/
theorem names_eq (t : Text) : names t = (symbols t).filterMap name? :=
  namesFrom_eq none t

theorem mem_names_iff {name : Name} {t : Text} :
    name ∈ names t ↔ nonterminal name ∈ symbols t := by
  rw [names_eq, List.mem_filterMap]
  constructor
  · rintro ⟨s, hs, hname⟩
    cases s with
    | terminal c => cases hname
    | nonterminal n => cases hname; exact hs
  · intro h
    exact ⟨_, h, rfl⟩

theorem names_eq_nil_iff {t : Text} : names t = [] ↔ ∀ name, nonterminal name ∉ symbols t := by
  rw [List.eq_nil_iff_forall_not_mem]
  exact forall_congr' fun name => not_congr mem_names_iff

/-- A fragment without tokens is a string of terminals. -/
theorem symbols_eq_map_terminal {t : Text} (h : names t = []) : symbols t = t.map terminal := by
  have hplain (ss : List (Symbol Char Name)) (hss : ∀ name, nonterminal name ∉ ss) :
      ss = (spell ss).map terminal := by
    induction ss with
    | nil => rfl
    | cons s ss ih =>
        cases s with
        | terminal c =>
            have ih := ih fun name hin => hss name (List.mem_cons_of_mem _ hin)
            rw [spell_cons, List.map_append, ← ih]
            rfl
        | nonterminal name => exact absurd List.mem_cons_self (hss name)
  have hsymbols := hplain (symbols t) (names_eq_nil_iff.1 h)
  rwa [spell_symbols] at hsymbols

theorem count_names (name : Name) (t : Text) :
    (names t).count name = (symbols t).count (nonterminal name) := by
  rw [names_eq, List.count_filterMap, List.count_eq_countP]
  refine List.countP_congr fun s _ => ?_
  cases s <;> simp [name?]

theorem isWord_of_mem_symbolsFrom {state : Option Text} {t : Text} {name : Name}
    (hstate : ∀ word ∈ state, IsWord word) (h : nonterminal name ∈ symbolsFrom state t) :
    IsWord name := by
  induction t generalizing state with
  | nil => cases state <;> simp [symbolsFrom] at h
  | cons c t ih =>
      cases state with
      | none =>
          rw [symbolsFrom] at h
          split at h
          · exact ih (by simp [IsWord]) h
          · exact @ih none (by simp) (by simpa using h)
      | some word =>
          have hword : IsWord word := hstate word rfl
          rw [symbolsFrom] at h
          split at h
          · -- The word that the `#` closes is the only new name.
            rcases List.mem_cons.1 h with heq | h
            · cases heq
              intro d hd
              exact hword d (List.mem_reverse.1 hd)
            · exact ih (by simp) h
          · split at h
            · -- The word that is being read grows by a word character.
              rename_i hc
              refine @ih (some (c :: word)) ?_ h
              intro w hw d hd
              cases hw
              rcases List.mem_cons.1 hd with rfl | hd
              · exact hc
              · exact hword d hd
            · exact @ih none (by simp) (by simpa using h)

/-- A token names a word. -/
theorem isWord_of_mem_names {name : Name} {t : Text} (h : name ∈ names t) : IsWord name :=
  isWord_of_mem_symbolsFrom (by simp) (mem_names_iff.1 h)

theorem not_mem_of_isWord {name : Name} (h : IsWord name) : '#' ∉ name := by
  intro hmem
  exact absurd (h _ hmem) (by decide)

/-! ### Reading back what was written -/

/-- A string of symbols whose `#` all belong to tokens. -/
structure Clean (ss : List (Symbol Char Name)) : Prop where
  terminal_ne : ∀ c, terminal c ∈ ss → c ≠ '#'
  isWord : ∀ name, nonterminal name ∈ ss → IsWord name

theorem Clean.append {ss us : List (Symbol Char Name)} (hs : Clean ss) (hu : Clean us) :
    Clean (ss ++ us) where
  terminal_ne c h := (List.mem_append.1 h).elim (hs.terminal_ne c) (hu.terminal_ne c)
  isWord name h := (List.mem_append.1 h).elim (hs.isWord name) (hu.isWord name)

theorem Clean.of_subset {ss us : List (Symbol Char Name)} (hu : Clean us) (h : ss ⊆ us) :
    Clean ss where
  terminal_ne c hc := hu.terminal_ne c (h hc)
  isWord name hn := hu.isWord name (h hn)

/-- Inside a token the scan collects the characters of the name. -/
theorem symbolsFrom_word {name : Name} (h : IsWord name) (word t : Text) :
    symbolsFrom (some word) (name ++ t) = symbolsFrom (some (name.reverse ++ word)) t := by
  induction name generalizing word with
  | nil => rfl
  | cons c name ih =>
      have hc : isWordChar c := h c (by simp)
      have hne : c ≠ '#' := fun heq => absurd (heq ▸ hc) (by decide)
      rw [List.cons_append, symbolsFrom, if_neg hne, if_pos hc, ih fun d hd => h d (by simp [hd])]
      simp

theorem symbols_render_append {name : Name} (h : IsWord name) (t : Text) :
    symbols (render name ++ t) = nonterminal name :: symbols t := by
  show symbolsFrom none ('#' :: (name ++ ['#'] ++ t)) = _
  rw [symbolsFrom, if_pos rfl, List.append_assoc, symbolsFrom_word h]
  simp [symbolsFrom, symbols]

/-- The text of a token holds this token and nothing else. -/
theorem symbols_render {name : Name} (h : IsWord name) :
    symbols (render name) = [nonterminal name] := by
  have hread := symbols_render_append h []
  rwa [List.append_nil] at hread

/-- A token is read first, then what follows it. -/
theorem names_render_append {name : Name} (h : IsWord name) (t : Text) :
    names (render name ++ t) = name :: names t := by
  rw [names_eq, symbols_render_append h, names_eq]
  rfl

theorem names_render {name : Name} (h : IsWord name) : names (render name) = [name] := by
  rw [names_eq, symbols_render h]
  rfl

/-- A clean string of symbols is read back from its spelling, whatever follows. -/
theorem symbols_spell_append {ss : List (Symbol Char Name)} (h : Clean ss) (t : Text) :
    symbols (spell ss ++ t) = ss ++ symbols t := by
  induction ss with
  | nil => rfl
  | cons s ss ih =>
      have ih := ih (h.of_subset (List.subset_cons_self s ss))
      cases s with
      | terminal c =>
          -- Only a `#` makes the scan leave its initial state.
          have hc : c ≠ '#' := h.terminal_ne c (by simp)
          show symbolsFrom none (c :: (spell ss ++ t)) = _
          rw [symbolsFrom, if_neg hc]
          exact congrArg _ ih
      | nonterminal name =>
          rw [spell_cons, spellSymbol, List.append_assoc,
            symbols_render_append (h.isWord name (by simp)), ih]
          rfl

/-- A clean string of symbols is read back from its spelling. -/
theorem symbols_spell {ss : List (Symbol Char Name)} (h : Clean ss) : symbols (spell ss) = ss := by
  have hread := symbols_spell_append h []
  rwa [List.append_nil, show symbols [] = [] from rfl, List.append_nil] at hread

/-- The symbols of a fragment are clean unless a stray `#` is among them. -/
theorem clean_symbols {t : Text} (h : terminal '#' ∉ symbols t) : Clean (symbols t) where
  terminal_ne _ hc heq := h (heq ▸ hc)
  isWord _ hn := isWord_of_mem_names (mem_names_iff.2 hn)

end Vignette.Token
