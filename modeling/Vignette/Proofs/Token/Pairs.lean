import Mathlib.Data.List.Induction
import Vignette.Proofs.Token.Leftmost

/-!
# `Vignette.Proofs.Token.Pairs`: the tokens of a fragment, told without a scan

Between two neighbouring `#` characters stands a text without `#`. If it is a word, the two
could delimit a token, but they do not if the first one closes a token already. So in a run
of words every other one is a name, beginning with the first. A text that is no word ends
the run, and the `#` behind it is free to open a token.

* `between`: the texts between neighbouring `#`. `mem_between_iff` tells them by where they
  occur.
* `names_pieces`: the scan goes through these texts one by one, and two by two at a word.
* `Paired.names_append`: what follows a fragment whose `#` all delimit tokens is read apart.
* `names_exact`: the names are every other text of each run of words.
-/

set_option autoImplicit false

namespace Vignette.Token

/-! ### The texts between neighbouring `#` -/

/-- The texts between neighbouring `#`, left to right. -/
def between (t : Text) : List Text :=
  (t.splitOn '#').tail.dropLast

/-- A text split at its `#` has none left. -/
theorem not_mem_of_mem_splitOn {text t : Text} (h : text ∈ t.splitOn '#') : '#' ∉ text := by
  induction t generalizing text with
  | nil =>
      rw [List.mem_singleton.1 h]
      exact List.not_mem_nil
  | cons c t ih =>
      rw [List.splitOn_cons_eq_if_modifyHead] at h
      split at h
      · rcases List.mem_cons.1 h with rfl | h
        · exact List.not_mem_nil
        · exact ih h
      · rename_i hc
        obtain ⟨first, texts, hsplit⟩ := List.exists_cons_of_ne_nil (List.splitOn_ne_nil '#' t)
        rw [hsplit] at h ih
        rcases List.mem_cons.1 h with rfl | h
        · rw [List.mem_cons, not_or]
          exact ⟨fun heq => hc (beq_iff_eq.2 heq.symm), ih List.mem_cons_self⟩
        · exact ih (List.mem_cons_of_mem first h)

/-- What stands between two `#` of a text split at its `#` occurs there. -/
theorem infix_of_mem_tail_dropLast {text : Text} {texts : List Text}
    (h : text ∈ texts.tail.dropLast) : render text <:+: ['#'].intercalate texts := by
  induction texts with
  | nil => cases h
  | cons first texts ih =>
      cases texts with
      | nil => cases h
      | cons second texts =>
          rw [List.intercalate_cons_cons]
          cases texts with
          | nil => cases h
          | cons third texts =>
              rcases List.mem_cons.1 h with rfl | h
              · -- The text is the first one that has a `#` in front.
                refine ⟨first, ['#'].intercalate (third :: texts), ?_⟩
                rw [List.intercalate_cons_cons]
                simp [render]
              · exact (ih h).trans (List.suffix_append _ _).isInfix

/-- The texts between neighbouring `#` are those with a `#` in front, a `#` behind and no
`#` inside. -/
theorem mem_between_iff {text t : Text} : text ∈ between t ↔ '#' ∉ text ∧ render text <:+: t := by
  constructor
  · intro h
    have hmem : text ∈ t.splitOn '#' := List.mem_of_mem_tail (List.mem_of_mem_dropLast h)
    have hin := infix_of_mem_tail_dropLast h
    rw [List.intercalate_splitOn] at hin
    exact ⟨not_mem_of_mem_splitOn hmem, hin⟩
  · rintro ⟨hsharp, before, after, rfl⟩
    have hsplit : (before ++ render text ++ after).splitOn '#'
        = before.splitOn '#' ++ text :: after.splitOn '#' := by
      have htext : before ++ render text ++ after = before ++ '#' :: (text ++ '#' :: after) := by
        simp [render]
      rw [htext, List.splitOn_append_cons_self, List.splitOn_append_cons_self_of_not_mem hsharp]
    -- There are pieces on both sides, so the text is neither the first one nor the last.
    rw [between, hsplit, List.tail_append_of_ne_nil (List.splitOn_ne_nil _ _),
      List.dropLast_append_of_ne_nil (List.cons_ne_nil _ _),
      List.dropLast_cons_of_ne_nil (List.splitOn_ne_nil _ _)]
    simp

/-! ### Runs of words -/

/-- The longest runs of words in a list of texts, left to right. Two neighbours that are no
words have an empty run between them. -/
def wordRuns (texts : List Text) : List (List Text) :=
  texts.splitOnP fun text => ¬ IsWord text

/-- The 1st, 3rd, 5th, … of a list. -/
def everyOther {α : Type} : List α → List α
  | [] => []
  | [a] => [a]
  | a :: _ :: as => a :: everyOther as

section
variable {text : Text}

theorem wordRuns_ne_nil (texts : List Text) : wordRuns texts ≠ [] :=
  List.splitOnP_ne_nil _ texts

theorem wordRuns_cons_of_not_isWord (h : ¬ IsWord text) (texts : List Text) :
    wordRuns (text :: texts) = [] :: wordRuns texts := by
  rw [wordRuns, List.splitOnP_cons_eq_if_modifyHead, if_pos (by simpa using h)]
  rfl

theorem wordRuns_cons_of_isWord (h : IsWord text) (texts : List Text) :
    wordRuns (text :: texts) = (wordRuns texts).modifyHead (text :: ·) := by
  rw [wordRuns, List.splitOnP_cons_eq_if_modifyHead, if_neg (by simpa using h)]
  rfl

/-- A text that is no word counts for nothing but the end of a run. -/
theorem everyOther_runs_of_not_isWord (h : ¬ IsWord text) (texts : List Text) :
    (wordRuns (text :: texts)).flatMap everyOther = (wordRuns texts).flatMap everyOther := by
  rw [wordRuns_cons_of_not_isWord h, List.flatMap_cons]
  rfl

/-- Behind the first word of a run the next text is passed over, be it a word or not. -/
theorem everyOther_runs_of_isWord (h : IsWord text) (texts : List Text) :
    (wordRuns (text :: texts)).flatMap everyOther
      = text :: (wordRuns texts.tail).flatMap everyOther := by
  rw [wordRuns_cons_of_isWord h]
  cases texts with
  | nil => rfl
  | cons next texts =>
      by_cases hnext : IsWord next
      · -- The next word is the second one of the run.
        obtain ⟨run, runs, hruns⟩ := List.exists_cons_of_ne_nil (wordRuns_ne_nil texts)
        rw [wordRuns_cons_of_isWord hnext, List.tail_cons, hruns]
        rfl
      · rw [wordRuns_cons_of_not_isWord hnext]
        rfl

end

/-! ### The scan from `#` to `#` -/

section
variable {text : Text}

/-- One `#` makes no token. -/
theorem names_sharp (h : '#' ∉ text) : names ('#' :: text) = [] := by
  by_cases hword : IsWord text
  · exact names_open hword
  · have hread := (idle_of_not_isWord h hword).names_append []
    rwa [List.append_nil] at hread

/-- What stands in front of the first `#` counts for nothing. -/
theorem names_intercalate_cons (h : '#' ∉ text) (texts : List Text) :
    names (['#'].intercalate (text :: texts)) = names ('#' :: ['#'].intercalate texts) := by
  cases texts with
  | nil =>
      rw [List.intercalate_singleton]
      exact names_of_not_mem h
  | cons next texts =>
      rw [List.intercalate_cons_cons, List.append_assoc, names_append_of_not_mem h]
      rfl

end

/-- The scan takes the texts between neighbouring `#` one by one, and two by two where the
first is a word. -/
theorem names_pieces {texts : List Text} (h : ∀ text ∈ texts, '#' ∉ text) :
    names ('#' :: ['#'].intercalate texts) = (wordRuns texts.dropLast).flatMap everyOther := by
  -- In front of the first text the scan has read a `#` that may open a token. It is in this
  -- state again at the next `#`, or at the one after that if a token has ended.
  induction texts using List.twoStepInduction with
  | nil => rfl
  | singleton text =>
      rw [List.intercalate_singleton, names_sharp (h text List.mem_cons_self)]
      rfl
  | cons_cons text next texts ihbehind ih =>
      obtain ⟨htext, hrest⟩ := List.forall_mem_cons.1 h
      obtain ⟨hnext, hbehind⟩ := List.forall_mem_cons.1 hrest
      rw [List.intercalate_cons_cons, List.dropLast_cons_cons]
      by_cases hword : IsWord text
      · -- The second `#` closes the token, so the next text is passed over.
        have htoken : '#' :: (text ++ ['#'] ++ ['#'].intercalate (next :: texts))
            = render text ++ ['#'].intercalate (next :: texts) := rfl
        rw [htoken, names_render_append hword, names_intercalate_cons hnext, ihbehind hbehind,
          everyOther_runs_of_isWord hword, List.tail_dropLast]
        rfl
      · -- The second `#` is free to open a token.
        have hstray : '#' :: (text ++ ['#'] ++ ['#'].intercalate (next :: texts))
            = '#' :: text ++ '#' :: ['#'].intercalate (next :: texts) := by
          simp
        rw [hstray, (idle_of_not_isWord htext hword).names_append, ih next hrest,
          everyOther_runs_of_not_isWord hword]

/-! ### All of it -/

/-- The names of a fragment, from the texts between neighbouring `#`: the 1st, 3rd, 5th, …
of each run of words. -/
theorem names_eq_everyOther (t : Text) :
    names t = (wordRuns (between t)).flatMap everyOther := by
  have hsplit : ['#'].intercalate (t.splitOn '#') = t := List.intercalate_splitOn '#'
  have hsharp : ∀ text ∈ t.splitOn '#', '#' ∉ text := fun text => not_mem_of_mem_splitOn
  rw [between]
  generalize t.splitOn '#' = texts at hsplit hsharp
  subst hsplit
  cases texts with
  | nil => rfl
  | cons text texts =>
      obtain ⟨htext, hrest⟩ := List.forall_mem_cons.1 hsharp
      rw [names_intercalate_cons htext, names_pieces hrest]
      rfl

/-- There are no tokens exactly when no word stands between neighbouring `#`. -/
theorem names_eq_nil_iff_between {t : Text} :
    names t = [] ↔ ∀ text ∈ between t, ¬ IsWord text := by
  have hnone : names t = [] ↔ ∀ name, IsWord name → ¬ render name <:+: t :=
    names_eq_nil_iff_not_infix
  rw [hnone]
  constructor
  · intro h text htext hword
    exact h text hword (mem_between_iff.1 htext).2
  · intro h name hname hin
    exact h name (mem_between_iff.2 ⟨not_mem_of_isWord hname, hin⟩) hname

/-- A fragment whose `#` all delimit tokens is read apart from what follows. -/
theorem Paired.names_append {t : Text} (h : Paired t) (u : Text) :
    names (t ++ u) = names t ++ names u := by
  have hread := symbols_spell_append h.clean u
  rw [spell_symbols] at hread
  rw [names_eq, hread, List.filterMap_append, ← names_eq, ← names_eq]

/-- The names that the scan reports are those in the leftmost texts of tokens that share no
character. They are the 1st, 3rd, 5th, … text of each longest run of words between
neighbouring `#`. There are none exactly when no word stands between neighbouring `#`, which
is when the text of no token occurs. A fragment whose `#` all delimit tokens is read apart
from what follows it. -/
theorem names_exact (t : Text) :
    (∀ found, Leftmost t found ↔ found = names t) ∧
    names t = (wordRuns (between t)).flatMap everyOther ∧
    (names t = [] ↔ ∀ text ∈ between t, ¬ IsWord text) ∧
    (names t = [] ↔ ∀ name, IsWord name → ¬ render name <:+: t) ∧
    (Paired t → ∀ u, names (t ++ u) = names t ++ names u) := by
  have hnone : names t = [] ↔ ∀ name, IsWord name → ¬ render name <:+: t :=
    names_eq_nil_iff_not_infix
  exact ⟨fun found => leftmost_iff, names_eq_everyOther t, names_eq_nil_iff_between, hnone,
    Paired.names_append⟩

/-- The second run holds the empty word, and `##` delimits no token there. -/
theorem names_exact_twoRuns :
    Paired "#a# b#c##d#".toList ∧
      wordRuns (between "#a# b#c##d#".toList)
        = [["a".toList], ["c".toList, [], "d".toList]] ∧
      names ("#a# b#c##d#".toList ++ "e#f# #".toList)
        = ["a".toList, "c".toList, "d".toList, "f".toList] := by
  have hpaired : Paired "#a# b#c##d#".toList := by decide
  have hruns : wordRuns (between "#a# b#c##d#".toList)
      = [["a".toList], ["c".toList, [], "d".toList]] := by decide
  obtain ⟨-, hnames, -, -, happend⟩ := names_exact "#a# b#c##d#".toList
  refine ⟨hpaired, hruns, ?_⟩
  rw [happend hpaired, hnames, hruns]
  decide

end Vignette.Token
