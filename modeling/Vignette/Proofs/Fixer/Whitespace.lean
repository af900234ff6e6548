import Mathlib.Data.List.TakeWhile
import Vignette.Proofs.Fixer.Tokens

/-!
# `Vignette.Proofs.Fixer.Whitespace`: what trimming and collapsing leave

White space of all kinds goes at the ends of a text, but inside only a run of spaces is
shortened. A tab or a no-break space between two spaces stays, and so do the spaces.

* `Respaces`: two texts that are the same but for the lengths of their runs of spaces.
* `respaces_collapseFrom`: collapsing leaves one space of each run.
* `Uncovers`: a text without some of the white space at its ends. `Uncovers.eq_trim`:
  without all of it, it is the text trimmed.
* `whitespace_unique`: the one tidy text that can be made of a text in this way.
-/

set_option autoImplicit false

namespace Vignette.Fixer

/-- Neither end of the text is white space. -/
structure Unpadded (t : Text) : Prop where
  head : ∀ c ∈ t.head?, Text.isBlank c = false
  last : ∀ c ∈ t.getLast?, Text.isBlank c = false

/-- Neither end of the text is white space, and no two spaces stand next to each other. -/
structure Tidy (t : Text) : Prop extends Unpadded t where
  spaces : ¬ [' ', ' '] <:+: t

/-- The second text is the first one without some white space at its ends. -/
def Uncovers (t body : Text) : Prop :=
  ∃ front back, t = front ++ body ++ back ∧ (∀ c ∈ front, Text.isBlank c) ∧
    ∀ c ∈ back, Text.isBlank c

/-! ### Runs of spaces -/

/-- The second text is the first one with another run of spaces for each of its longest
runs of spaces. `allowed` tells which lengths the new runs may have. -/
inductive Respaces (allowed : Nat → Prop) : Text → Text → Prop
  | nil : Respaces allowed [] []
  | char {c : Char} {t u : Text} :
      c ≠ ' ' → Respaces allowed t u → Respaces allowed (c :: t) (c :: u)
  | run {n m : Nat} {t u : Text} :
      0 < n → allowed m → t.head? ≠ some ' ' → Respaces allowed t u →
      Respaces allowed (List.replicate n ' ' ++ t) (List.replicate m ' ' ++ u)

theorem Respaces.run_one {n : Nat} {t u : Text} (hn : 0 < n) (ht : t.head? ≠ some ' ')
    (h : Respaces (· = 1) t u) : Respaces (· = 1) (List.replicate n ' ' ++ t) (' ' :: u) :=
  @Respaces.run (· = 1) n 1 t u hn rfl ht h

/-- Behind the spaces of a run, collapsing goes on with what is left of it. -/
theorem respaces_collapseFrom (t : Text) :
    Respaces (· = 1) t (collapseFrom false t) ∧
      ∀ n, 0 < n → Respaces (· = 1) (List.replicate n ' ' ++ t) (' ' :: collapseFrom true t) := by
  induction t with
  | nil => exact ⟨.nil, fun n hn => .run_one hn (by simp) .nil⟩
  | cons c t ih =>
      by_cases hc : c = ' '
      · subst hc
        constructor
        · rw [collapseFrom, if_pos rfl, if_neg (by decide)]
          exact ih.2 1 (by decide)
        · intro n hn
          have hlonger : List.replicate n ' ' ++ ' ' :: t = List.replicate (n + 1) ' ' ++ t := by
            rw [List.replicate_succ', List.append_assoc, List.singleton_append]
          rw [collapseFrom, if_pos rfl, if_pos rfl, hlonger]
          exact ih.2 (n + 1) (Nat.succ_pos n)
      · have hrest (after : Bool) : Respaces (· = 1) (c :: t) (collapseFrom after (c :: t)) := by
          rw [collapseFrom, if_neg hc]
          exact .char hc ih.1
        have hhead : (c :: t).head? ≠ some ' ' := by simpa using hc
        exact ⟨hrest false, fun n hn => .run_one hn hhead (hrest true)⟩

namespace Respaces
variable {t u : Text}

theorem positive (h : Respaces (· = 1) t u) : Respaces (0 < ·) t u := by
  induction h with
  | nil => exact .nil
  | char hc _ ih => exact .char hc ih
  | run hn hm ht _ ih => exact .run hn (hm.symm ▸ Nat.one_pos) ht ih

/-- All characters but spaces keep their order and number. -/
theorem filter_eq {allowed : Nat → Prop} (h : Respaces allowed t u) :
    u.filter (· ≠ ' ') = t.filter (· ≠ ' ') := by
  induction h with
  | nil => rfl
  | char hc _ ih => simp only [List.filter_cons, ih]
  | run hn hm ht _ ih => simpa [List.filter_append, List.filter_replicate] using ih

/-- Every text splits into its runs of spaces and its other characters. -/
theorem refl (t : Text) : Respaces (0 < ·) t t := by
  obtain ⟨u, hcollapse⟩ : ∃ u, Respaces (· = 1) t u := ⟨_, (respaces_collapseFrom t).1⟩
  induction hcollapse with
  | nil => exact .nil
  | char hc _ ih => exact .char hc ih
  | run hn hm ht _ ih => exact .run hn hn ht ih

/-! #### Where no run goes -/

theorem head?_eq (h : Respaces (0 < ·) t u) : u.head? = t.head? := by
  induction h with
  | nil => rfl
  | char hc _ ih => rfl
  | run hn hm ht _ ih => simp [List.head?_append, List.head?_replicate, hn.ne', Nat.ne_of_gt hm]

theorem getLast?_eq (h : Respaces (0 < ·) t u) : u.getLast? = t.getLast? := by
  induction h with
  | nil => rfl
  | char hc _ ih => rw [List.getLast?_cons, List.getLast?_cons, ih]
  | run hn hm ht _ ih =>
      simp [List.getLast?_append, List.getLast?_replicate, hn.ne', Nat.ne_of_gt hm, ih]

theorem unpadded (h : Respaces (0 < ·) t u) : Unpadded u ↔ Unpadded t := by
  constructor
  · intro hu
    exact ⟨h.head?_eq ▸ hu.head, h.getLast?_eq ▸ hu.last⟩
  · intro ht
    exact ⟨h.head?_eq.symm ▸ ht.head, h.getLast?_eq.symm ▸ ht.last⟩

end Respaces

/-! ### Collapsing -/

/-- At a character that is no space it does not matter what has been read in front. -/
theorem collapseFrom_of_head? {t : Text} (h : t.head? ≠ some ' ') :
    collapseFrom true t = collapseFrom false t := by
  cases t with
  | nil => rfl
  | cons c t =>
      have hc : c ≠ ' ' := by simpa using h
      rw [collapseFrom, if_neg hc, collapseFrom, if_neg hc]

theorem collapseFrom_true_replicate (n : Nat) (t : Text) :
    collapseFrom true (List.replicate n ' ' ++ t) = collapseFrom true t := by
  induction n with
  | zero => rfl
  | succ n ih =>
      rw [List.replicate_succ, List.cons_append, collapseFrom, if_pos rfl, if_pos rfl]
      exact ih

/-- A run of spaces is collapsed to its first one. -/
theorem collapseFrom_run {n : Nat} {t : Text} (hn : 0 < n) (h : t.head? ≠ some ' ') :
    collapseFrom false (List.replicate n ' ' ++ t) = ' ' :: collapseFrom false t := by
  obtain ⟨n, rfl⟩ := Nat.exists_eq_add_one.2 hn
  rw [List.replicate_succ, List.cons_append, collapseFrom, if_pos rfl, if_neg (by decide),
    collapseFrom_true_replicate, collapseFrom_of_head? h]

/-- Without two spaces next to each other each run is one space, and that is the text
collapsed. -/
theorem Respaces.eq_collapseFrom {t u : Text} (h : Respaces (0 < ·) t u)
    (hspaces : ¬ [' ', ' '] <:+: u) : u = collapseFrom false t := by
  induction h with
  | nil => rfl
  | char hc _ ih =>
      rw [List.infix_cons_iff, not_or] at hspaces
      rw [collapseFrom, if_neg hc, ← ih hspaces.2]
  | @run n m t u hn hm ht _ ih =>
      -- A longer run would begin with two spaces.
      have hone : m = 1 := by
        by_contra hne
        obtain ⟨k, rfl⟩ : ∃ k, m = k + 2 := ⟨m - 2, by omega⟩
        exact hspaces ⟨[], List.replicate k ' ' ++ u, rfl⟩
      subst hone
      have hrest : ¬ [' ', ' '] <:+: u :=
        fun hin => hspaces (hin.trans (List.suffix_append _ u).isInfix)
      rw [collapseFrom_run hn ht, ← ih hrest]
      rfl

/-- What is collapsed has no two spaces next to each other. -/
theorem Respaces.spaces {t u : Text} (h : Respaces (· = 1) t u) : ¬ [' ', ' '] <:+: u := by
  induction h with
  | nil => simp
  | char hc _ ih =>
      rw [List.infix_cons_iff]
      simp [ih, Ne.symm hc]
  | @run n m t u hn hm ht hrest ih =>
      -- The run ends where another character or the end comes.
      have hhead := hrest.positive.head?_eq
      subst hm
      show ¬ [' ', ' '] <:+: ' ' :: u
      rw [List.infix_cons_iff, not_or]
      refine ⟨?_, ih⟩
      intro hfront
      obtain ⟨rest, heq⟩ := hfront
      exact ht (hhead ▸ (List.cons.inj heq).2 ▸ rfl)

/-! ### Trimming -/

theorem dropWhile_blank_append {front rest : Text} (hfront : ∀ c ∈ front, Text.isBlank c)
    (hrest : ∀ c ∈ rest.head?, Text.isBlank c = false) :
    (front ++ rest).dropWhile Text.isBlank = rest := by
  rw [List.dropWhile_append_of_pos hfront]
  cases rest with
  | nil => rfl
  | cons c rest => exact List.dropWhile_cons_of_neg (by simp [hrest c rfl])

theorem head?_dropWhile_blank (t : Text) :
    ∀ c ∈ (t.dropWhile Text.isBlank).head?, Text.isBlank c = false := by
  intro c hc
  have hnot := List.head?_dropWhile_not Text.isBlank t
  rw [hc] at hnot
  exact hnot

/-- No white space is left at the ends of a trimmed text. -/
theorem unpadded_trim (t : Text) : Unpadded t.trim := by
  constructor
  · intro c hc
    obtain ⟨back, hback, -⟩ := exists_dropEndWhile Text.isBlank (t.dropWhile Text.isBlank)
    refine head?_dropWhile_blank t c ?_
    rw [hback, List.head?_append]
    exact Option.or_eq_some_iff.2 (.inl hc)
  · intro c hc
    rw [Text.trim, Text.dropEndWhile, List.getLast?_reverse] at hc
    exact head?_dropWhile_blank _ c hc

theorem uncovers_trim (t : Text) : Uncovers t t.trim :=
  exists_trim t

/-- What has no white space left at its ends is the text trimmed. -/
theorem Uncovers.eq_trim {t body : Text} (h : Uncovers t body) (hends : Unpadded body) :
    body = t.trim := by
  obtain ⟨front, back, rfl, hfront, hback⟩ := h
  rw [Text.trim, List.append_assoc]
  by_cases hbody : body = []
  · -- A text of white space alone goes as a whole.
    subst hbody
    rw [List.nil_append, List.dropWhile_append_of_pos hfront, List.dropWhile_eq_nil_iff.2 hback]
    rfl
  · have hhead : (body ++ back).head? = body.head? := List.head?_append_of_ne_nil body hbody
    rw [dropWhile_blank_append hfront (hhead ▸ hends.head), Text.dropEndWhile, List.reverse_append,
      dropWhile_blank_append (by simpa using hback) (by simpa using hends.last),
      List.reverse_reverse]

/-! ### The tidy text -/

theorem tidy_whitespace (t : Text) : Tidy (whitespace.fix t) := by
  have hruns : Respaces (· = 1) t.trim (whitespace.fix t) := (respaces_collapseFrom t.trim).1
  exact ⟨hruns.positive.unpadded.2 (unpadded_trim t), hruns.spaces⟩

/-- A tidy text has no white space left to take from its ends and no run left to shorten. -/
theorem Tidy.eq_whitespace {t body u : Text} (hu : Tidy u) (hbody : Uncovers t body)
    (hruns : Respaces (0 < ·) body u) : u = whitespace.fix t := by
  have htrim : body = t.trim := hbody.eq_trim (hruns.unpadded.1 hu.toUnpadded)
  show u = collapseFrom false t.trim
  rw [← htrim]
  exact hruns.eq_collapseFrom hu.spaces

/-- The fix takes all white space from the ends of a text, leaves one space of each run of
spaces in what is left and keeps all other characters. The outcome is tidy, and no other
tidy text can be made of the text by taking white space from its ends and changing the
lengths of its runs of spaces. So a second fix changes nothing. -/
theorem whitespace_unique (t : Text) :
    (∃ body, Uncovers t body ∧ Unpadded body ∧ Respaces (· = 1) body (whitespace.fix t) ∧
      (whitespace.fix t).filter (· ≠ ' ') = body.filter (· ≠ ' ')) ∧
    Tidy (whitespace.fix t) ∧
    (∀ body u, Uncovers t body → Respaces (0 < ·) body u → Tidy u → u = whitespace.fix t) ∧
    whitespace.fix (whitespace.fix t) = whitespace.fix t := by
  have hruns : Respaces (· = 1) t.trim (whitespace.fix t) := (respaces_collapseFrom t.trim).1
  have htidy := tidy_whitespace t
  refine ⟨⟨t.trim, uncovers_trim t, unpadded_trim t, hruns, hruns.filter_eq⟩, htidy,
    fun body u hbody hu htidy => htidy.eq_whitespace hbody hu, ?_⟩
  have hsame : Uncovers (whitespace.fix t) (whitespace.fix t) := ⟨[], [], by simp, by simp, by simp⟩
  exact (htidy.eq_whitespace hsame (.refl _)).symm

/-- A no-break space goes at the end, and a tab parts two runs. -/
theorem whitespace_unique_mixedRuns :
    Tidy "a \t b<c".toList ∧
      "a \t b<c".toList = whitespace.fix "\t a  \t   b<c \u00a0\n".toList := by
  have htidy : Tidy "a \t b<c".toList := by
    refine ⟨⟨?_, ?_⟩, by decide⟩
    · intro c hc
      rw [← Option.some_inj.1 hc]
      decide
    · intro c hc
      rw [← Option.some_inj.1 hc]
      decide
  have hends : Uncovers "\t a  \t   b<c \u00a0\n".toList "a  \t   b<c".toList :=
    ⟨"\t ".toList, " \u00a0\n".toList, by decide, List.all_eq_true.1 (by decide),
      List.all_eq_true.1 (by decide)⟩
  have hword : Respaces (0 < ·) "b<c".toList "b<c".toList := .refl _
  have htab : Respaces (0 < ·) "\t   b<c".toList "\t b<c".toList :=
    .char (by decide) (@Respaces.run _ 3 1 _ _ (by decide) (by decide) (by decide) hword)
  have hruns : Respaces (0 < ·) "a  \t   b<c".toList "a \t b<c".toList :=
    .char (by decide) (@Respaces.run _ 2 1 _ _ (by decide) (by decide) (by decide) htab)
  obtain ⟨-, -, honly, -⟩ := whitespace_unique "\t a  \t   b<c \u00a0\n".toList
  exact ⟨htidy, honly _ _ hends hruns htidy⟩

end Vignette.Fixer
