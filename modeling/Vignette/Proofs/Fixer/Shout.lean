import Vignette.Proofs.Fixer.Notation
import Vignette.Proofs.Span.Covered

/-!
# `Vignette.Proofs.Fixer.Shout`: uppercase outside spans

`upcaseOutside` asks the spans of a text which letters to put in uppercase. `shout` reads
the text once and goes by the last delimiter in front of a letter. The two agree as long as
every `<` closes on its line. A `<` that never closes begins no span, yet `shout` keeps what
stands behind it as it is, up to the next `>`, and across line feeds.

* `getElem?_shout`, `getElem?_upcaseOutside`: one character under each of the two.
* `Hushed`: a lowercase letter outside all spans that `shout` keeps.
* `shout_upcases`: what `shout` does to every character, and where it is `upcaseOutside`.
-/

set_option autoImplicit false

namespace Vignette

namespace Span

/-! ### The last delimiter -/

/-- The last delimiter is a `<` when a `<` has none behind it. -/
theorem getLast?_delimiters_iff {t : Text} :
    (delimiters t).getLast? = some '<' ↔
      ∃ front held, t = front ++ '<' :: held ∧ ∀ c ∈ held, isDelimiter c = false := by
  constructor
  · intro h
    obtain ⟨earlier, hearlier⟩ := List.getLast?_eq_some_iff.1 h
    obtain ⟨front, rest, rfl, -, hrest⟩ := List.filter_eq_append_iff.1 hearlier
    obtain ⟨plain, held, rfl, -, -, hheld⟩ := List.filter_eq_cons_iff.1 hrest
    refine ⟨front ++ plain, held, by simp, ?_⟩
    simpa using List.filter_eq_nil_iff.1 hheld
  · intro h
    obtain ⟨front, held, rfl, hheld⟩ := h
    have hopen : delimiters ('<' :: held) = '<' :: delimiters held := rfl
    rw [delimiters_append, hopen, delimiters_eq_nil hheld, List.getLast?_concat]

/-- A `<` that waits for its `>` has no delimiter behind it but further ones that wait. -/
theorem getLast?_delimiters_of_open_mem {t : Text} (h : '<' ∈ sinceClose t) :
    (delimiters t).getLast? = some '<' := by
  induction t using List.reverseRecOn with
  | nil => simp [sinceClose] at h
  | append_singleton t c ih =>
      by_cases hopen : c = '<'
      · rw [hopen, delimiters_concat_of_isDelimiter (by decide), List.getLast?_concat]
      · obtain ⟨hclose, -, hmem⟩ := (open_mem_sinceClose_concat_iff.1 h).resolve_left hopen
        rw [delimiters_concat_of_not_isDelimiter (isDelimiter_eq_false_iff.2 ⟨hopen, hclose⟩)]
        exact ih hmem

/-- Behind a `<` only a line feed ends the wait, where no delimiter follows. -/
theorem open_mem_sinceClose_append_iff {front held : Text}
    (h : ∀ c ∈ held, isDelimiter c = false) :
    '<' ∈ sinceClose (front ++ '<' :: held) ↔ '\n' ∉ held := by
  induction held using List.reverseRecOn with
  | nil => simp [open_mem_sinceClose_concat_iff]
  | append_singleton held c ih =>
      obtain ⟨hopen, hclose⟩ := isDelimiter_eq_false_iff.1 (h c (by simp))
      have hconcat : front ++ '<' :: (held ++ [c]) = front ++ '<' :: held ++ [c] := by simp
      rw [hconcat, open_mem_sinceClose_concat_iff,
        ih fun d hd => h d (List.mem_append_left _ hd)]
      simp [hopen, hclose, and_comm, eq_comm]

/-- A line goes on to a `>` behind a stretch without one when the stretch has no line feed. -/
theorem close_mem_restOfLine_append_iff {held : Text} (h : ∀ c ∈ held, isDelimiter c = false)
    (back : Text) : '>' ∈ restOfLine (held ++ back) ↔ '\n' ∉ held ∧ '>' ∈ restOfLine back := by
  induction held with
  | nil => simp
  | cons c held ih =>
      obtain ⟨-, hclose⟩ := isDelimiter_eq_false_iff.1 (h c List.mem_cons_self)
      rw [List.cons_append, close_mem_restOfLine_cons_iff,
        ih fun d hd => h d (List.mem_cons_of_mem c hd)]
      simp [hclose, and_assoc, eq_comm]

end Span

namespace Fixer

/-! ### One character under each of the two -/

/-- Whether the last delimiter of a text is a `<`. Without one, `inside` tells. -/
def insideAfter (inside : Bool) (t : Text) : Bool :=
  t.foldl (fun inside c => if c = '<' then true else if c = '>' then false else inside) inside

theorem shoutFrom_append (inside : Bool) (t u : Text) :
    shoutFrom inside (t ++ u) = shoutFrom inside t ++ shoutFrom (insideAfter inside t) u := by
  induction t generalizing inside with
  | nil => rfl
  | cons c t ih =>
      rw [List.cons_append, shoutFrom, ih, shoutFrom]
      rfl

theorem length_shoutFrom (inside : Bool) (t : Text) : (shoutFrom inside t).length = t.length := by
  induction t generalizing inside with
  | nil => rfl
  | cons c t ih => rw [shoutFrom, List.length_cons, List.length_cons, ih]

theorem insideAfter_iff (t : Text) :
    insideAfter false t ↔ (Span.delimiters t).getLast? = some '<' := by
  induction t using List.reverseRecOn with
  | nil => simp [insideAfter, Span.delimiters]
  | append_singleton t c ih =>
      rw [insideAfter, List.foldl_concat, ← insideAfter]
      by_cases hopen : c = '<'
      · rw [if_pos hopen, hopen, Span.delimiters_concat_of_isDelimiter (by decide)]
        simp
      · by_cases hclose : c = '>'
        · rw [if_neg hopen, if_pos hclose, hclose,
            Span.delimiters_concat_of_isDelimiter (by decide)]
          simp
        · have hplain := Span.isDelimiter_eq_false_iff.2 ⟨hopen, hclose⟩
          rw [if_neg hopen, if_neg hclose, ih, Span.delimiters_concat_of_not_isDelimiter hplain]

/-- `shout` goes by the last delimiter in front. A delimiter itself has no uppercase. -/
theorem getElem?_shout (front : Text) (c : Char) (back : Text) :
    (shout.fix (front ++ c :: back))[front.length]?
      = some (if (Span.delimiters front).getLast? = some '<' then c else c.toUpper) := by
  show (shoutFrom false (front ++ c :: back))[front.length]? = _
  rw [shoutFrom_append, List.getElem?_append_right (length_shoutFrom false front).le,
    length_shoutFrom, Nat.sub_self, shoutFrom]
  rw [List.getElem?_cons_zero, Option.some_inj]
  by_cases hopen : c = '<'
  · subst hopen
    simp [show '<'.toUpper = '<' from rfl]
  · by_cases hclose : c = '>'
    · subst hclose
      simp [show '>'.toUpper = '>' from rfl]
    · simp [hopen, hclose, insideAfter_iff]

/-- The rest of a text, which starts at byte `pos`, in uppercase outside the spans. -/
def upcaseOutsideFrom (spans : List Span) (pos : Nat) : Text → Text
  | [] => []
  | c :: t =>
    (if spans.any (·.covers pos) then c else c.toUpper)
      :: upcaseOutsideFrom spans (pos + c.utf8Size) t

/-- The text with exactly the ASCII letters outside its spans in uppercase. -/
def upcaseOutside (t : Text) : Text :=
  upcaseOutsideFrom (Span.all t) 0 t

theorem length_upcaseOutsideFrom (spans : List Span) (pos : Nat) (t : Text) :
    (upcaseOutsideFrom spans pos t).length = t.length := by
  induction t generalizing pos with
  | nil => rfl
  | cons c t ih => rw [upcaseOutsideFrom, List.length_cons, List.length_cons, ih]

theorem upcaseOutsideFrom_append (spans : List Span) (pos : Nat) (t u : Text) :
    upcaseOutsideFrom spans pos (t ++ u)
      = upcaseOutsideFrom spans pos t
        ++ upcaseOutsideFrom spans (pos + Text.byteLength t) u := by
  induction t generalizing pos with
  | nil => rfl
  | cons c t ih =>
      rw [List.cons_append, upcaseOutsideFrom, ih, upcaseOutsideFrom, Text.byteLength,
        Nat.add_assoc]
      rfl

theorem getElem?_upcaseOutside (front : Text) (c : Char) (back : Text) :
    (upcaseOutside (front ++ c :: back))[front.length]?
      = some (if Span.covered (front ++ c :: back) (Text.byteLength front) then c
          else c.toUpper) := by
  rw [upcaseOutside, upcaseOutsideFrom_append,
    List.getElem?_append_right (length_upcaseOutsideFrom _ 0 front).le, length_upcaseOutsideFrom,
    Nat.sub_self, upcaseOutsideFrom, Nat.zero_add]
  rfl

/-! ### Where the two agree -/

/-- Two texts of the length of `t` are the same when they agree at every character of `t`. -/
theorem eq_iff_getElem?_split {t u v : Text} (hu : u.length = t.length) (hv : v.length = t.length) :
    u = v ↔ ∀ front c back, t = front ++ c :: back → u[front.length]? = v[front.length]? := by
  constructor
  · intro heq front c back ht
    rw [heq]
  · intro h
    refine List.ext_getElem? fun i => ?_
    by_cases hi : i < t.length
    · have hsplit := h (t.take i) t[i] (t.drop (i + 1)) (by simp)
      rwa [List.length_take_of_le hi.le] at hsplit
    · rw [List.getElem?_eq_none (by omega), List.getElem?_eq_none (by omega)]

/-- A lowercase letter stands behind a `<` with no other delimiter between them, and the `<`
has no `>` on its line. -/
def Hushed (t : Text) : Prop :=
  ∃ front held c back, t = front ++ '<' :: (held ++ c :: back) ∧
    (∀ d ∈ held, Span.isDelimiter d = false) ∧ c.isLower ∧
    ('\n' ∈ held ∨ '>' ∉ Span.restOfLine back)

theorem ne_of_isLower {c d : Char} (h : c.isLower) (hd : d.isLower = false) : c ≠ d := by
  intro heq
  rw [heq, hd] at h
  cases h

/-- In a span `shout` keeps every letter: the last delimiter in front of one is a `<`. -/
theorem getLast?_delimiters_of_covered {front back : Text} {c : Char} (hc : c.isLower)
    (h : Span.covered (front ++ c :: back) (Text.byteLength front)) :
    (Span.delimiters front).getLast? = some '<' := by
  have hopen := ((Span.covered_iff front c back).1 h).1
  rw [List.mem_append, List.mem_singleton] at hopen
  exact Span.getLast?_delimiters_of_open_mem
    (hopen.resolve_right (ne_of_isLower hc (by decide)).symm)

/-- A letter behind a `<`, with no delimiter between them, lies in a span when they stand on
one line that goes on to a `>`. -/
theorem covered_letter_iff {held : Text} {c : Char} (hheld : ∀ d ∈ held, Span.isDelimiter d = false)
    (hc : c.isLower) (front back : Text) :
    Span.covered (front ++ '<' :: held ++ c :: back) (Text.byteLength (front ++ '<' :: held)) ↔
      '\n' ∉ held ∧ '>' ∈ Span.restOfLine back := by
  rw [Span.covered_iff, List.mem_append, Span.open_mem_sinceClose_append_iff hheld,
    List.mem_singleton, or_iff_left (ne_of_isLower hc (by decide)).symm,
    Span.close_mem_restOfLine_cons_iff, or_iff_right (ne_of_isLower hc (by decide)),
    and_iff_right (ne_of_isLower hc (by decide))]

/-- What is hushed is a letter that lies in no span and has a `<` for its last delimiter in
front. -/
theorem hushed_iff {t : Text} :
    Hushed t ↔ ∃ front c back, t = front ++ c :: back ∧ c.isLower ∧
      (Span.delimiters front).getLast? = some '<' ∧
      ¬ Span.covered t (Text.byteLength front) := by
  constructor
  · intro h
    obtain ⟨front, held, c, back, rfl, hheld, hc, hback⟩ := h
    have hsplit : front ++ '<' :: (held ++ c :: back) = front ++ '<' :: held ++ c :: back := by simp
    refine ⟨front ++ '<' :: held, c, back, hsplit, hc, ?_, ?_⟩
    · exact Span.getLast?_delimiters_iff.2 ⟨front, held, rfl, hheld⟩
    · rw [hsplit, covered_letter_iff hheld hc]
      tauto
  · intro h
    obtain ⟨read, c, back, rfl, hc, hlast, hcovered⟩ := h
    obtain ⟨front, held, rfl, hheld⟩ := Span.getLast?_delimiters_iff.1 hlast
    rw [covered_letter_iff hheld hc] at hcovered
    refine ⟨front, held, c, back, by simp, hheld, hc, ?_⟩
    tauto

/-- The `<` in front of what is hushed begins no span. -/
theorem Hushed.neverCloses {t : Text} (h : Hushed t) : Span.NeverCloses t := by
  obtain ⟨front, held, c, back, rfl, hheld, hc, hback⟩ := h
  refine ⟨front, held ++ c :: back, rfl, ?_⟩
  rw [Span.close_mem_restOfLine_append_iff hheld, Span.close_mem_restOfLine_cons_iff,
    or_iff_right (ne_of_isLower hc (by decide))]
  tauto

/-- The two part at a character exactly when it is hushed. -/
theorem shout_eq_upcaseOutside_iff (t : Text) : shout.fix t = upcaseOutside t ↔ ¬ Hushed t := by
  have hshout : (shout.fix t).length = t.length := length_shoutFrom false t
  have hupcase : (upcaseOutside t).length = t.length := length_upcaseOutsideFrom _ 0 t
  rw [eq_iff_getElem?_split hshout hupcase, hushed_iff]
  constructor
  · intro h hhushed
    obtain ⟨front, c, back, rfl, hc, hlast, hcovered⟩ := hhushed
    have hsame := h front c back rfl
    rw [getElem?_shout, getElem?_upcaseOutside, if_pos hlast, if_neg hcovered,
      Option.some_inj] at hsame
    exact absurd hc (by simp [Text.toUpper_eq_self_iff.1 hsame.symm])
  · intro h front c back ht
    subst ht
    rw [getElem?_shout, getElem?_upcaseOutside, Option.some_inj]
    by_cases hc : c.isLower
    · have hiff : (Span.delimiters front).getLast? = some '<' ↔
          Span.covered (front ++ c :: back) (Text.byteLength front) := by
        constructor
        · intro hlast
          exact by_contra fun hcovered => h ⟨front, c, back, rfl, hc, hlast, hcovered⟩
        · exact getLast?_delimiters_of_covered hc
      simp only [hiff]
    · rw [Text.toUpper_of_not_isLower (Bool.eq_false_iff.2 hc), ite_self, ite_self]

/-- `shout` keeps what lies in a span and what has a `<` for its last delimiter in front,
and puts everything else in uppercase. So it is uppercase outside spans for the texts in
which nothing is hushed, among them all texts whose every `<` closes on its line. -/
theorem shout_upcases (t : Text) :
    (shout.fix t).length = t.length ∧
    (∀ front c back, t = front ++ c :: back →
      (shout.fix t)[front.length]? = some (if Span.covered t (Text.byteLength front) ∨
        (Span.delimiters front).getLast? = some '<' then c else c.toUpper)) ∧
    (shout.fix t = upcaseOutside t ↔ ¬ Hushed t) ∧
    (¬ Span.NeverCloses t → shout.fix t = upcaseOutside t) := by
  refine ⟨length_shoutFrom false t, ?_, shout_eq_upcaseOutside_iff t, ?_⟩
  · intro front c back ht
    subst ht
    rw [getElem?_shout]
    by_cases hc : c.isLower
    · simp only [or_iff_right_of_imp (getLast?_delimiters_of_covered hc)]
    · rw [Text.toUpper_of_not_isLower (Bool.eq_false_iff.2 hc), ite_self, ite_self]
  · intro h
    exact (shout_eq_upcaseOutside_iff t).2 fun hhushed => h hhushed.neverCloses

/-- A `<` inside a span and a `>` behind one make no difference. -/
theorem shout_upcases_strayDelimiters :
    ¬ Span.NeverCloses "tea <and <cake> for> two".toList ∧
      shout.fix "tea <and <cake> for> two".toList
        = upcaseOutside "tea <and <cake> for> two".toList ∧
      upcaseOutside "tea <and <cake> for> two".toList = "TEA <and <cake> FOR> TWO".toList := by
  have hcloses : ¬ Span.NeverCloses "tea <and <cake> for> two".toList := by
    rw [← Span.open_mem_cutAll_iff]
    decide
  exact ⟨hcloses, (shout_upcases "tea <and <cake> for> two".toList).2.2.2 hcloses, by decide⟩

/-- A text with no spans, of which `shout` keeps the end as it is. -/
theorem shout_openLine :
    Span.all "two <cups\nof tea".toList = [] ∧
      shout.fix "two <cups\nof tea".toList = "TWO <cups\nof tea".toList ∧
      upcaseOutside "two <cups\nof tea".toList = "TWO <CUPS\nOF TEA".toList := by
  decide

end Fixer

end Vignette
