import Vignette.Proofs.Span.Pieces

/-!
# `Vignette.Proofs.Span.Pairing`: which delimiters make a span

Two texts of different bytes can be compared by the delimiters that the scan for spans
pairs. `pairing` tells each span by the numbers of its two delimiters among those of
the text.

* `pairing_eq`: a scan that counts delimiters finds the pairing.
* `pairing_congr`: only delimiters and line feeds matter.
* `pairing_surround`: line feeds in front of the first delimiter and behind the last one
  do not.
-/

set_option autoImplicit false

namespace Vignette.Span

/-- The delimiters of a text, left to right. -/
def delimiters (t : Text) : Text :=
  t.filter isDelimiter

/-- How many delimiters of the text stand in front of each delimiter of the span. -/
def ordinals (t : Text) (s : Span) : Nat × Nat :=
  ((delimiters (t.takeBytes s.start)).length, (delimiters (t.takeBytes (s.stop - 1))).length)

/-- The numbers of the delimiters that are paired into spans, left to right. -/
def pairing (t : Text) : List (Nat × Nat) :=
  (all t).map (ordinals t)

theorem delimiters_append (t u : Text) : delimiters (t ++ u) = delimiters t ++ delimiters u :=
  List.filter_append t u

theorem delimiters_eq_nil {t : Text} (h : ∀ c ∈ t, isDelimiter c = false) : delimiters t = [] :=
  List.filter_eq_nil_iff.2 fun c hc => by simp [h c hc]

theorem delimiters_concat_of_isDelimiter {c : Char} (h : isDelimiter c) (t : Text) :
    delimiters (t ++ [c]) = delimiters t ++ [c] := by
  rw [delimiters_append]
  simp [delimiters, h]

theorem delimiters_concat_of_not_isDelimiter {c : Char} (h : isDelimiter c = false) (t : Text) :
    delimiters (t ++ [c]) = delimiters t := by
  rw [delimiters_append]
  simp [delimiters, h]

/-- The numbers of a span, told by what stands in front of its two delimiters. -/
theorem ordinals_eq (front content back : Text) :
    ordinals (front ++ content ++ '>' :: back)
        ⟨Text.byteLength front, Text.byteLength (front ++ content) + '>'.utf8Size⟩
      = ((delimiters front).length, (delimiters (front ++ content)).length) := by
  have hone : '>'.utf8Size = 1 := rfl
  rw [ordinals, hone, Nat.add_sub_cancel, Text.takeBytes_append, List.append_assoc,
    Text.takeBytes_append]

/-! ### A scan that counts -/

/-- The pairs in the rest of a text that `k` delimiters stand in front of. `opened` is
the number of the first `<` that no `>` or line feed has met yet. -/
def pairsFrom (k : Nat) (opened : Option Nat) : Text → List (Nat × Nat)
  | [] => []
  | c :: t =>
    if c = '<' then pairsFrom (k + 1) (opened.or (some k)) t
    else if c = '>' then (opened.map fun i => (i, k)).toList ++ pairsFrom (k + 1) none t
    else if c = '\n' then pairsFrom k none t
    else pairsFrom k opened t

theorem allFrom_cons (pos : Nat) (opened : Option Nat) (c : Char) (t : Text) :
    allFrom pos opened (c :: t) =
      if c = '<' then allFrom (pos + c.utf8Size) (opened.or (some pos)) t
      else if c = '>' then
        (opened.map fun start => ⟨start, pos + c.utf8Size⟩).toList
          ++ allFrom (pos + c.utf8Size) none t
      else if c = '\n' then allFrom (pos + c.utf8Size) none t
      else allFrom (pos + c.utf8Size) opened t := by
  cases opened <;> rfl

/-- Bytes and delimiters are counted in step. A `<` that waits for its `>` has a
leading part of what has been read in front of it. -/
theorem map_ordinals_allFrom (read : Text) (opened : Option Text)
    (hopened : ∀ front ∈ opened, front <+: read) (t : Text) :
    (allFrom (Text.byteLength read) (opened.map Text.byteLength) t).map (ordinals (read ++ t))
      = pairsFrom (delimiters read).length (opened.map fun front => (delimiters front).length)
          t := by
  induction t generalizing read opened with
  | nil => rfl
  | cons c t ih =>
      have hread : read ++ c :: t = read ++ [c] ++ t := by simp
      have hnext : Text.byteLength read + c.utf8Size = Text.byteLength (read ++ [c]) := by
        simp [Text.byteLength_append, Text.byteLength]
      have hkept : ∀ front ∈ opened, front <+: read ++ [c] :=
        fun front hfront => (hopened front hfront).trans (List.prefix_append read [c])
      have hcount (hc : isDelimiter c) :
          (delimiters read).length + 1 = (delimiters (read ++ [c])).length := by
        rw [delimiters_concat_of_isDelimiter hc, List.length_append]
        rfl
      rw [allFrom_cons, pairsFrom]
      split
      · -- All that has been read stands in front of this `<`.
        rename_i hopen
        have hfirst : ∀ front ∈ opened.or (some read), front <+: read ++ [c] := by
          intro front hfront
          rcases Option.or_eq_some_iff.1 hfront with hfront | ⟨-, hfront⟩
          · exact hkept front hfront
          · cases hfront
            exact List.prefix_append read [c]
        have hrest := ih (read ++ [c]) (opened.or (some read)) hfirst
        rw [Option.map_or, Option.map_or] at hrest
        rw [hread, hnext, hcount (by simp [hopen, isDelimiter])]
        exact hrest
      · split
        · -- The span that closes here, if one does, and then the rest.
          rename_i hclose
          have hrest := ih (read ++ [c]) none (by simp)
          rw [← hread, ← hnext, ← hcount (by simp [hclose, isDelimiter])] at hrest
          rw [List.map_append]
          refine congrArg₂ _ ?_ hrest
          subst hclose
          cases opened with
          | none => rfl
          | some front =>
              obtain ⟨behind, rfl⟩ := hopened front rfl
              exact congrArg (· :: []) (ordinals_eq front behind t)
        · rename_i hopen hclose
          have hplain := isDelimiter_eq_false_iff.2 ⟨hopen, hclose⟩
          rw [hread, hnext, ← delimiters_concat_of_not_isDelimiter hplain read]
          split
          · exact ih (read ++ [c]) none (by simp)
          · exact ih (read ++ [c]) opened hkept

/-- Counting delimiters gives the pairing. -/
theorem pairing_eq (t : Text) : pairing t = pairsFrom 0 none t :=
  map_ordinals_allFrom [] none (by simp) t

/-! ### What the scan looks at -/

/-- Whether the scan for spans tells `c` from other characters. -/
def isSign (c : Char) : Bool :=
  isDelimiter c || c == '\n'

/-- The delimiters and line feeds of a text, left to right. -/
def signs (t : Text) : Text :=
  t.filter isSign

theorem signs_append (t u : Text) : signs (t ++ u) = signs t ++ signs u :=
  List.filter_append t u

/-- The same character in front keeps the signs of two texts the same. -/
theorem signs_cons_congr {t u : Text} (h : signs u = signs t) (c : Char) :
    signs (c :: u) = signs (c :: t) := by
  rw [← List.singleton_append, ← List.singleton_append (l := t), signs_append, signs_append, h]

theorem signs_cons_of_not_isSign {c : Char} (h : isSign c = false) (t : Text) :
    signs (c :: t) = signs t :=
  List.filter_cons_of_neg (by simp [h])

theorem pairsFrom_cons_of_not_isSign {c : Char} (h : isSign c = false) (k : Nat)
    (opened : Option Nat) (t : Text) : pairsFrom k opened (c :: t) = pairsFrom k opened t := by
  rw [isSign, Bool.or_eq_false_iff, isDelimiter_eq_false_iff, beq_eq_false_iff_ne] at h
  obtain ⟨⟨hopen, hclose⟩, hfeed⟩ := h
  rw [pairsFrom, if_neg hopen, if_neg hclose, if_neg hfeed]

theorem pairsFrom_signs (k : Nat) (opened : Option Nat) (t : Text) :
    pairsFrom k opened (signs t) = pairsFrom k opened t := by
  -- Other characters leave the state as it is.
  induction t generalizing k opened with
  | nil => rfl
  | cons c t ih =>
      cases hc : isSign c with
      | false =>
          rw [signs_cons_of_not_isSign hc, pairsFrom_cons_of_not_isSign hc]
          exact ih k opened
      | true =>
          rw [signs, List.filter_cons_of_pos hc, ← signs]
          simp only [pairsFrom, ih]

/-- Texts with the same delimiters and line feeds have the same pairs. -/
theorem pairing_congr {t u : Text} (h : signs u = signs t) : pairing u = pairing t := by
  rw [pairing_eq, pairing_eq, ← pairsFrom_signs, h, pairsFrom_signs]

theorem delimiters_congr {t u : Text} (h : signs u = signs t) : delimiters u = delimiters t := by
  have hsigns (t : Text) : delimiters (signs t) = delimiters t := by
    rw [delimiters, signs, List.filter_filter]
    refine List.filter_congr fun c _ => ?_
    cases hc : isDelimiter c <;> simp [isSign, hc]
  rw [← hsigns, h, hsigns]

/-! ### The ends of a text -/

/-- In front of the first `<` nothing waits, so a line feed has nothing to end. -/
theorem pairsFrom_append_of_front {front : Text} (h : ∀ c ∈ front, isDelimiter c = false)
    (k : Nat) (t : Text) : pairsFrom k none (front ++ t) = pairsFrom k none t := by
  induction front with
  | nil => rfl
  | cons c front ih =>
      obtain ⟨hopen, hclose⟩ := isDelimiter_eq_false_iff.1 (h c List.mem_cons_self)
      rw [List.cons_append, pairsFrom, if_neg hopen, if_neg hclose, ite_self]
      exact ih fun d hd => h d (List.mem_cons_of_mem c hd)

/-- Where no delimiter follows there is no pair. -/
theorem pairsFrom_of_back {back : Text} (h : ∀ c ∈ back, isDelimiter c = false) (k : Nat)
    (opened : Option Nat) : pairsFrom k opened back = [] := by
  induction back generalizing opened with
  | nil => rfl
  | cons c back ih =>
      obtain ⟨hopen, hclose⟩ := isDelimiter_eq_false_iff.1 (h c List.mem_cons_self)
      have hrest := ih fun d hd => h d (List.mem_cons_of_mem c hd)
      rw [pairsFrom, if_neg hopen, if_neg hclose, hrest, hrest, ite_self]

theorem pairsFrom_append_of_back {back : Text} (h : ∀ c ∈ back, isDelimiter c = false)
    (k : Nat) (opened : Option Nat) (t : Text) :
    pairsFrom k opened (t ++ back) = pairsFrom k opened t := by
  induction t generalizing k opened with
  | nil => exact pairsFrom_of_back h k opened
  | cons c t ih => simp only [List.cons_append, pairsFrom, ih]

/-- Text without delimiters can be put around a text. -/
theorem pairing_surround {front back : Text} (hfront : ∀ c ∈ front, isDelimiter c = false)
    (hback : ∀ c ∈ back, isDelimiter c = false) (t : Text) :
    pairing (front ++ t ++ back) = pairing t := by
  rw [pairing_eq, pairing_eq, pairsFrom_append_of_back hback, pairsFrom_append_of_front hfront]

theorem delimiters_surround {front back : Text} (hfront : ∀ c ∈ front, isDelimiter c = false)
    (hback : ∀ c ∈ back, isDelimiter c = false) (t : Text) :
    delimiters (front ++ t ++ back) = delimiters t := by
  rw [delimiters_append, delimiters_append, delimiters_eq_nil hfront, delimiters_eq_nil hback,
    List.nil_append, List.append_nil]

end Vignette.Span
