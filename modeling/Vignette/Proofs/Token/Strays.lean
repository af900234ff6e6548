import Vignette.Proofs.Text.Search
import Vignette.Proofs.Token.Breaks

/-!
# `Vignette.Proofs.Token.Strays`: `#` characters that belong to no token

A stray `#` in front of a token has a word and a break behind it, or the scan would have
taken it for the start of a token. Whatever is written for the tokens, the break stays
where it is, so no stray `#` ever pairs up with another `#`.

* `Idle`: texts whose `#` all stay strays, whatever follows. Neither the scan nor a
  search starts a token in them.
* `Sown`: in front of each token stands an idle text, and behind the last one a text
  without tokens. `sown_symbols` says that this is so of every fragment.
* `fill`, `names_fill`: filling the tokens with texts that hold no `#` leaves no tokens.
-/

set_option autoImplicit false

namespace Vignette.Token

open Symbol (terminal nonterminal)

/-! ### Idle texts -/

/-- Behind every `#` of the text there is a word with a break behind it. -/
inductive Idle : Text → Prop
  | nil : Idle []
  | plain {c : Char} {t : Text} : c ≠ '#' → Idle t → Idle (c :: t)
  | stray {word : Text} {c : Char} {t : Text} : IsWord word → isBreak c → Idle t →
      Idle ('#' :: (word ++ c :: t))

theorem Idle.append {t u : Text} (ht : Idle t) (hu : Idle u) : Idle (t ++ u) := by
  induction ht with
  | nil => exact hu
  | plain hc _ ih => exact .plain hc ih
  | stray hword hc _ ih =>
      rw [List.cons_append, List.append_assoc]
      exact .stray hword hc ih

theorem Idle.of_not_mem {t : Text} (h : '#' ∉ t) : Idle t := by
  induction t with
  | nil => exact .nil
  | cons c t ih =>
      have hc : c ≠ '#' := fun heq => h (by simp [heq])
      exact .plain hc (ih fun hmem => h (List.mem_cons_of_mem c hmem))

/-- A `#` is a stray one if no word stands between it and the next `#`. -/
theorem idle_of_not_isWord {text : Text} (h : '#' ∉ text) (hword : ¬ IsWord text) :
    Idle ('#' :: text) := by
  obtain ⟨d, hd, hnot⟩ : ∃ d ∈ text, ¬ isWordChar d := by
    unfold IsWord at hword
    push Not at hword
    exact hword
  have hfind : (text.find? fun d => !isWordChar d).isSome :=
    List.find?_isSome.2 ⟨d, hd, by simpa using hnot⟩
  obtain ⟨c, hfirst⟩ := Option.isSome_iff_exists.1 hfind
  obtain ⟨hc, word, rest, rfl, hfront⟩ := List.find?_eq_some_iff_append.1 hfirst
  have hbreak : isBreak c := isBreak_iff.2 ⟨fun heq => h (by simp [heq]), by simpa using hc⟩
  exact .stray (by simpa [IsWord] using hfront) hbreak
    (.of_not_mem fun hmem => h (by simp [hmem]))

/-- The scan drops a word that a break ends. -/
theorem names_stray {word : Text} {c : Char} (hword : IsWord word) (hc : isBreak c) (t : Text) :
    names ('#' :: (word ++ c :: t)) = names t := by
  show namesFrom (some []) (word ++ c :: t) = namesFrom none t
  rw [namesFrom_eq, symbolsFrom_word hword, ← namesFrom_eq, namesFrom_break hc]

/-- The scan drops a word that the text ends with. -/
theorem names_open {word : Text} (hword : IsWord word) : names ('#' :: word) = [] := by
  have hread := symbolsFrom_word hword [] []
  rw [List.append_nil] at hread
  show namesFrom (some []) word = []
  rw [namesFrom_eq, hread, ← namesFrom_eq]
  rfl

/-- The scan passes over an idle text. -/
theorem Idle.names_append {t : Text} (h : Idle t) (u : Text) : names (t ++ u) = names u := by
  induction h with
  | nil => rfl
  | @plain c t hc _ ih =>
      rw [List.cons_append, ← ih]
      exact @names_append_of_not_mem [c] (by simpa using hc.symm) (t ++ u)
  | stray hword hc _ ih =>
      rw [List.cons_append, List.append_assoc]
      exact (names_stray hword hc _).trans ih

/-- Behind a stray `#` there is no other up to the end of the break. -/
theorem not_mem_word_break {word : Text} {c : Char} (hword : IsWord word) (hc : isBreak c) :
    '#' ∉ word ++ [c] := by
  intro hmem
  rcases List.mem_append.1 hmem with hmem | hmem
  · exact not_mem_of_isWord hword hmem
  · exact (isBreak_iff.1 hc).1 (List.mem_singleton.1 hmem).symm

/-- A name with a `#` behind it is no word with a break behind it. -/
theorem not_prefix_word {name word : Text} {c : Char} (hname : IsWord name) (hword : IsWord word)
    (hc : isBreak c) (t : Text) : ¬ name ++ ['#'] <+: word ++ c :: t := by
  obtain ⟨hsharp, hbreak⟩ := isBreak_iff.1 hc
  intro hfront
  -- The first place where the two differ is the end of the shorter one.
  induction name generalizing word with
  | nil =>
      cases word with
      | nil => exact hsharp (List.cons_prefix_cons.1 hfront).1.symm
      | cons d word =>
          have hd : '#' = d := (List.cons_prefix_cons.1 hfront).1
          exact not_mem_of_isWord hword (hd ▸ List.mem_cons_self)
  | cons d name ih =>
      have hd : isWordChar d := hname d List.mem_cons_self
      cases word with
      | nil =>
          have heq : d = c := (List.cons_prefix_cons.1 hfront).1
          rw [heq, hbreak] at hd
          cases hd
      | cons e word =>
          exact ih (fun x hx => hname x (List.mem_cons_of_mem d hx))
            (fun x hx => hword x (List.mem_cons_of_mem e hx)) (List.cons_prefix_cons.1 hfront).2

/-- The search for a token passes over an idle text. -/
theorem Idle.splitFirst?_render {t : Text} (h : Idle t) {name : Name} (hname : IsWord name)
    (u : Text) : Text.splitFirst? (render name) (t ++ (render name ++ u)) = some (t, u) := by
  induction h with
  | nil => exact Text.splitFirst?_append (List.cons_ne_nil _ _) u
  | @plain c t hc _ ih =>
      have hnot : ¬ render name <+: c :: (t ++ (render name ++ u)) := by
        intro hfront
        exact hc (List.cons_prefix_cons.1 hfront).1.symm
      rw [List.cons_append, Text.splitFirst?_cons_of_not_prefix hnot, ih]
      rfl
  | @stray word c t hword hc _ ih =>
      have hnot : ¬ render name <+: '#' :: (word ++ c :: (t ++ (render name ++ u))) := by
        intro hfront
        exact not_prefix_word hname hword hc _ (List.cons_prefix_cons.1 hfront).2
      have hsearch : Text.splitFirst? (render name) (word ++ [c] ++ (t ++ (render name ++ u)))
          = some (word ++ [c] ++ t, u) := by
        refine (Text.splitFirst?_skip (name ++ ['#']) (not_mem_word_break hword hc) _).trans ?_
        show Option.map _ (Text.splitFirst? (render name) (t ++ (render name ++ u))) = _
        rw [ih]
        rfl
      rw [List.append_assoc, List.append_assoc] at hsearch
      rw [List.cons_append, List.append_assoc, List.cons_append,
        Text.splitFirst?_cons_of_not_prefix hnot]
      show Option.map _ (Text.splitFirst? _ (word ++ ([c] ++ (t ++ (render name ++ u))))) = _
      rw [hsearch]
      rfl

/-! ### Where the tokens of a fragment stand -/

/-- An idle text stands in front of each token, and behind the last one a text without
tokens. -/
inductive Sown : List (Symbol Char Name) → Prop
  | last {t : Text} : names t = [] → Sown (t.map terminal)
  | token {t : Text} {name : Name} {ss : List (Symbol Char Name)} : Idle t → IsWord name →
      Sown ss → Sown (t.map terminal ++ nonterminal name :: ss)

/-- What a state of the scan goes on to find, behind the idle text passed since the last
token. -/
theorem sown_symbolsFrom (t : Text) :
    (∀ passed, Idle passed → Sown (passed.map terminal ++ symbolsFrom none t)) ∧
      ∀ passed word, Idle passed → IsWord word →
        Sown (passed.map terminal ++ symbolsFrom (some word) t) := by
  induction t with
  | nil =>
      constructor
      · intro passed hpassed
        have hnames := hpassed.names_append []
        rw [List.append_nil] at hnames
        have hend := Sown.last hnames
        rwa [← List.append_nil (passed.map terminal)] at hend
      · intro passed word hpassed hword
        have hreverse : IsWord word.reverse := fun c hc => hword c (List.mem_reverse.1 hc)
        have hend := Sown.last ((hpassed.names_append _).trans (names_open hreverse))
        rwa [List.map_append] at hend
  | cons c t ih =>
      obtain ⟨hstart, hinside⟩ := ih
      constructor
      · intro passed hpassed
        rw [symbolsFrom]
        split
        · exact hinside passed [] hpassed (by simp [IsWord])
        · rename_i hc
          have hon := hstart (passed ++ [c]) (hpassed.append (.plain hc .nil))
          rwa [List.map_append, List.append_assoc] at hon
      · intro passed word hpassed hword
        have hreverse : IsWord word.reverse := fun d hd => hword d (List.mem_reverse.1 hd)
        rw [symbolsFrom]
        split
        · -- The word is the name of a token, and what is passed starts anew behind it.
          exact .token hpassed hreverse (hstart [] .nil)
        · rename_i hc
          split
          · rename_i hchar
            exact hinside passed (c :: word) hpassed (List.forall_mem_cons.2 ⟨hchar, hword⟩)
          · -- The word breaks off, and the `#` in front of it is a stray one.
            rename_i hchar
            have hbreak : isBreak c := isBreak_iff.2 ⟨hc, by simpa using hchar⟩
            have hon := hstart (passed ++ '#' :: (word.reverse ++ [c]))
              (hpassed.append (.stray hreverse hbreak .nil))
            simpa [-List.map_reverse] using hon

/-- The tokens that the scan finds stand behind idle texts. -/
theorem sown_symbols (t : Text) : Sown (symbols t) :=
  (sown_symbolsFrom t).1 [] .nil

/-! ### Filling the tokens -/

/-- Puts the texts in the places of the tokens, in order and all at once. -/
def fill : List (Symbol Char Name) → List Text → Text
  | [], _ => []
  | .terminal c :: ss, texts => c :: fill ss texts
  | .nonterminal name :: ss, [] => render name ++ fill ss []
  | .nonterminal _ :: ss, text :: texts => text ++ fill ss texts

theorem fill_map_terminal_append (t : Text) (ss : List (Symbol Char Name)) (texts : List Text) :
    fill (t.map terminal ++ ss) texts = t ++ fill ss texts := by
  induction t with
  | nil => rfl
  | cons c t ih => exact congrArg (c :: ·) ih

theorem fill_map_terminal (t : Text) (texts : List Text) : fill (t.map terminal) texts = t := by
  have hfill := fill_map_terminal_append t [] texts
  rwa [List.append_nil, fill, List.append_nil] at hfill

/-- Filling the tokens with their own texts gives the text back. -/
theorem fill_map_render (ss : List (Symbol Char Name)) :
    fill ss ((ss.filterMap name?).map render) = spell ss := by
  induction ss with
  | nil => rfl
  | cons symbol ss ih =>
      cases symbol with
      | terminal c => exact congrArg (c :: ·) ih
      | nonterminal name => exact congrArg (render name ++ ·) ih

/-- Texts without `#` in the places of all tokens leave no tokens. -/
theorem Sown.names_fill {ss : List (Symbol Char Name)} (h : Sown ss) {texts : List Text}
    (hlength : texts.length = (ss.filterMap name?).length) (htexts : ∀ text ∈ texts, '#' ∉ text) :
    names (fill ss texts) = [] := by
  induction h generalizing texts with
  | last hnames =>
      rw [fill_map_terminal]
      exact hnames
  | token ht _ _ ih =>
      rw [List.filterMap_append, filterMap_map_terminal] at hlength
      cases texts with
      | nil => cases hlength
      | cons text texts =>
          obtain ⟨htext, htexts⟩ := List.forall_mem_cons.1 htexts
          rw [fill_map_terminal_append, ht.names_append, fill, names_append_of_not_mem htext]
          exact ih (Nat.succ.inj hlength) htexts

end Vignette.Token
