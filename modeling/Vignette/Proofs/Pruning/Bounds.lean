import Vignette.Proofs.Pruning.Order
import Vignette.Proofs.Span.Bytes

/-!
# `Vignette.Proofs.Pruning.Bounds`: every cut is on character boundaries

A range of bytes can be read or cut out of a text only when both its ends are character
boundaries of the text and in order. `parts?` checks this. The checked forms of cutting
and pruning give no result where one of their ranges fails the check.

* `parts?_eq_some_iff`: when a range passes.
* `cut?_of_mem`: a span of the text does.
* `prune?_eq`, `cutAll?_eq`: the checks of pruning and of cutting out all spans, the last
  one first, never fail.
* `spans_exact`: which ranges the spans are, and that they can be cut out.
-/

set_option autoImplicit false

namespace Vignette

/-- The text in front of byte `n` and behind it, if that is a character boundary. -/
def Text.splitAt? (n : Nat) : Text → Option (Text × Text)
  | [] => if n = 0 then some ([], []) else none
  | c :: t =>
    if n = 0 then some ([], c :: t)
    else if n < c.utf8Size then none
    else (splitAt? (n - c.utf8Size) t).map fun (front, back) => (c :: front, back)

theorem Text.splitAt?_append (front back : Text) :
    splitAt? (byteLength front) (front ++ back) = some (front, back) := by
  induction front with
  | nil => cases back <;> rfl
  | cons c front ih =>
      have hc := c.utf8Size_pos
      rw [List.cons_append, splitAt?, byteLength, if_neg (by omega), if_neg (by omega),
        Nat.add_sub_cancel_left, ih]
      rfl

theorem Text.splitAt?_eq_some_iff {n : Nat} {t front back : Text} :
    splitAt? n t = some (front, back) ↔ t = front ++ back ∧ byteLength front = n := by
  refine ⟨fun h => ?_, fun ⟨ht, hn⟩ => by rw [ht, ← hn, splitAt?_append]⟩
  induction t generalizing n front with
  | nil =>
      rw [splitAt?] at h
      split at h
      · rename_i hn
        cases h
        exact ⟨rfl, hn.symm⟩
      · cases h
  | cons c t ih =>
      rw [splitAt?] at h
      split at h
      · rename_i hn
        cases h
        exact ⟨rfl, hn.symm⟩
      · split at h
        · cases h
        · rename_i hn hlong
          obtain ⟨⟨front', back'⟩, hrest, heq⟩ := Option.map_eq_some_iff.1 h
          cases heq
          obtain ⟨rfl, hlength⟩ := ih hrest
          exact ⟨rfl, by rw [byteLength]; omega⟩

namespace Span

/-! ### Checked ranges -/

/-- The text in front of the range, in it and behind it, if both ends of the range are
character boundaries and in order. -/
def parts? (s : Span) (t : Text) : Option (Text × Text × Text) := do
  let (front, back) ← t.splitAt? s.stop
  let (front, content) ← front.splitAt? s.start
  return (front, content, back)

/-- The text that the range covers, if there is one. -/
def slice? (s : Span) (t : Text) : Option Text :=
  (s.parts? t).map fun (_, content, _) => content

/-- The text with the range cut out, if it can be. -/
def cut? (s : Span) (t : Text) : Option Text :=
  (s.parts? t).map fun (front, _, back) => front ++ back

theorem parts?_eq_some_iff {s : Span} {t front content back : Text} :
    s.parts? t = some (front, content, back) ↔
      t = front ++ content ++ back ∧ Text.byteLength front = s.start ∧
        Text.byteLength (front ++ content) = s.stop := by
  simp only [parts?, Option.bind_eq_bind, Option.bind_eq_some_iff, Prod.exists, Option.pure_def,
    Option.some_inj, Prod.mk.injEq, Text.splitAt?_eq_some_iff]
  constructor
  · rintro ⟨_, _, ⟨rfl, hstop⟩, _, _, ⟨rfl, hstart⟩, rfl, rfl, rfl⟩
    exact ⟨rfl, hstart, hstop⟩
  · rintro ⟨rfl, hstart, hstop⟩
    exact ⟨_, _, ⟨rfl, hstop⟩, _, _, ⟨rfl, hstart⟩, rfl, rfl, rfl⟩

section
variable {s : Span} {t : Text}

/-- A range that passes the check is what an unchecked cut takes it for. -/
theorem slice_and_cut_of_parts? {front content back : Text}
    (h : s.parts? t = some (front, content, back)) :
    s.slice t = content ∧ s.cut t = front ++ back := by
  obtain ⟨rfl, hstart, hstop⟩ := parts?_eq_some_iff.1 h
  have hlength : s.stop - s.start = Text.byteLength content := by
    rw [← hstart, ← hstop, Text.byteLength_append, Nat.add_sub_cancel_left]
  constructor
  · rw [slice, hlength, ← hstart, List.append_assoc, Text.dropBytes_append, Text.takeBytes_append]
  · rw [cut, ← hstop, Text.dropBytes_append, ← hstart, List.append_assoc, Text.takeBytes_append]

theorem cut_eq_of_cut? {u : Text} (h : s.cut? t = some u) : s.cut t = u := by
  obtain ⟨⟨front, content, back⟩, hparts, rfl⟩ := Option.map_eq_some_iff.1 h
  exact (slice_and_cut_of_parts? hparts).2

theorem parts?_rangeAfter (front back : List Piece) (content : Text) :
    (rangeAfter 0 front content).parts? (spell (front ++ .span content :: back))
      = some (spell front, (Piece.span content).text, spell back) := by
  refine parts?_eq_some_iff.2 ⟨by simp, ?_, ?_⟩
  · simp [rangeAfter]
  · simp [rangeAfter, Text.byteLength_append]

theorem cut?_eq_of_parts? {front content back : Text}
    (h : s.parts? t = some (front, content, back)) : s.cut? t = some (s.cut t) := by
  rw [cut?, h, (slice_and_cut_of_parts? h).2]
  rfl

/-- Both ends of a span of the text are character boundaries. -/
theorem exists_parts_of_mem (h : s ∈ all t) :
    ∃ front back, s.parts? t = some (front, s.slice t, back) := by
  rw [all_eq] at h
  obtain ⟨front, content, back, hpieces, rfl⟩ := exists_piece_of_mem h
  have hparts := parts?_rangeAfter front back content
  rw [← hpieces, spell_pieces] at hparts
  rw [(slice_and_cut_of_parts? hparts).1]
  exact ⟨_, _, hparts⟩

/-- A span of the text can be read. -/
theorem slice?_of_mem (h : s ∈ all t) : s.slice? t = some (s.slice t) := by
  obtain ⟨front, back, hparts⟩ := exists_parts_of_mem h
  rw [slice?, hparts]
  rfl

/-- A span of the text can be cut out. -/
theorem cut?_of_mem (h : s ∈ all t) : s.cut? t = some (s.cut t) := by
  obtain ⟨front, back, hparts⟩ := exists_parts_of_mem h
  exact cut?_eq_of_parts? hparts

end

/-! ### Checked runs -/

/-- The text with all its spans cut out, the last one first, if each of them can be cut
out when its turn comes. -/
def cutAll? (t : Text) : Option Text :=
  (all t).foldrM cut? t

/-- Cutting from the right, each span stands between the pieces in front of it, which are
all there still, and the plain characters behind it. -/
theorem foldrM_cut?_spansFrom (front ps : List Piece) :
    (spansFrom (Text.byteLength (spell front)) ps).foldrM cut? (spell (front ++ ps))
      = some ((spansFrom (Text.byteLength (spell front)) ps).foldr cut (spell (front ++ ps))) := by
  induction ps generalizing front with
  | nil => rfl
  | cons p ps ih =>
      have hrest := ih (front ++ [p])
      have hleft := foldr_cut_spansFrom (front ++ [p]) ps
      rw [List.append_assoc, List.singleton_append, spell_append front [p],
        Text.byteLength_append] at hrest hleft
      cases p with
      | plain c =>
          have hnext : Text.byteLength (spell [.plain c]) = c.utf8Size := by
            simp [Piece.text, Text.byteLength]
          rw [hnext] at hrest
          exact hrest
      | span content =>
          have hnext : Text.byteLength (spell [.span content])
              = Text.byteLength (Piece.span content).text := by
            simp
          have hrange : rangeAfter 0 front content = ⟨Text.byteLength (spell front),
              Text.byteLength (spell front) + Text.byteLength (Piece.span content).text⟩ := by
            rw [rangeAfter, Nat.zero_add]
          rw [hnext] at hrest hleft
          rw [List.append_assoc, List.singleton_append] at hleft
          rw [spansFrom, List.foldrM_cons, List.foldr_cons, hrest, hleft, ← hrange]
          exact cut?_eq_of_parts? (parts?_rangeAfter front _ content)

/-- Cutting out all spans never fails. -/
theorem cutAll?_eq (t : Text) : cutAll? t = some (cutAll t) := by
  have hchecked := foldrM_cut?_spansFrom [] (pieces t)
  rw [List.nil_append, spell_pieces] at hchecked
  rw [cutAll?, cutAll, all_eq]
  exact hchecked

end Span

namespace Pruning

variable {σ : Type}

/-- Pruning as long as each chosen span can be read and cut out. -/
def prune? (ch : Chooser σ) (maxLength : Nat) (t : Text) (s : σ) : Option (Pruning × σ) :=
  match spans_eq : Span.all t with
  | [] => some (⟨[], t⟩, s)
  | span :: spans =>
    if Span.effectiveLength t ≤ maxLength then some (⟨[], t⟩, s)
    else
      let choice := ch.span spans.length s
      let chosen := (span :: spans).get choice.1
      match chosen.slice? t, cut_eq : chosen.cut? t with
      | some content, some rest =>
        have shorter : rest.byteLength < t.byteLength := by
          rw [← Span.cut_eq_of_cut? cut_eq]
          exact Span.byteLength_cut_lt (by rw [spans_eq]; exact List.get_mem _ _)
        (prune? ch maxLength rest choice.2).map fun (p, s) =>
          ({ p with cuts := ⟨choice.1, spans.length + 1, content⟩ :: p.cuts }, s)
      | _, _ => none
termination_by t.byteLength

/-- Pruning never fails. -/
theorem prune?_eq (ch : Chooser σ) (maxLength : Nat) (t : Text) (s : σ) :
    prune? ch maxLength t s = some (prune ch maxLength t s) := by
  induction hn : t.byteLength using Nat.strong_induction_on generalizing t s with
  | _ n ih =>
      rw [prune?]
      split
      · rename_i hspans
        rw [prune_of_stop (.inr hspans)]
      · rename_i span spans hspans
        by_cases hfits : Span.effectiveLength t ≤ maxLength
        · rw [if_pos hfits, prune_of_stop (.inl hfits)]
        · -- The chosen span passes its checks, and the rest is shorter.
          have hmem : (span :: spans).get (ch.span spans.length s).1 ∈ Span.all t := by
            rw [hspans]
            exact List.get_mem _ _
          rw [if_neg hfits, prune_of_choice hspans (Nat.not_le.1 hfits)]
          dsimp only
          split
          · rename_i content rest hslice hcut
            cases (Span.slice?_of_mem hmem).symm.trans hslice
            cases (Span.cut?_of_mem hmem).symm.trans hcut
            rw [ih _ (hn ▸ Span.byteLength_cut_lt hmem) _ _ rfl]
            rfl
          · rename_i hnone
            exact absurd (Span.cut?_of_mem hmem) (hnone _ _ (Span.slice?_of_mem hmem))

/-! ### Spans and cuts -/

/-- The spans are the ranges from the first `<` behind a `>` or line feed to the next `>`,
looked for among the bytes. They are in order and share no byte, and both ends of each are
character boundaries. So neither pruning nor cutting out all spans ever cuts a character
apart. -/
theorem spans_exact (t : Text) :
    Span.all t = Span.closings t.bytes ∧
    Span.all t = Span.lookAhead 0 t.bytes ∧
    ((Span.all t).Pairwise fun a b => a.start < a.stop ∧ a.stop ≤ b.start ∧ b.start < b.stop) ∧
    (∀ s ∈ Span.all t, s.start < s.stop ∧ ∃ front back, t = front ++ s.slice t ++ back ∧
      Text.byteLength front = s.start ∧ Text.byteLength (front ++ s.slice t) = s.stop) ∧
    (∀ (σ : Type) (ch : Chooser σ) (maxLength : Nat) (s : σ),
      prune? ch maxLength t s = some (prune ch maxLength t s)) ∧
    Span.cutAll? t = some (Span.cutAll t) := by
  refine ⟨Span.all_eq_closings t, Span.all_eq_lookAhead t, ?_, fun s hs => ?_,
    fun σ ch maxLength s => prune?_eq ch maxLength t s, Span.cutAll?_eq t⟩
  · refine (Span.pairwise_all t).imp_of_mem fun {a b} ha hb hle => ?_
    exact ⟨Span.start_lt_stop_of_mem_all ha, hle, Span.start_lt_stop_of_mem_all hb⟩
  · obtain ⟨front, back, hparts⟩ := Span.exists_parts_of_mem hs
    exact ⟨Span.start_lt_stop_of_mem_all hs, front, back, Span.parts?_eq_some_iff.1 hparts⟩

/-- Characters of two to four bytes around, between and inside the delimiters. -/
theorem spans_exact_wideCharacters :
    Span.all "é<ü<€>😀<\n<→>>".toList = [⟨2, 10⟩, ⟨16, 21⟩] ∧
      Span.cutAll? "é<ü<€>😀<\n<→>>".toList = some "é😀<\n>".toList := by
  obtain ⟨hspans, -, -, -, -, hcut⟩ := spans_exact "é<ü<€>😀<\n<→>>".toList
  exact ⟨hspans.trans (by decide), hcut.trans (by decide)⟩

end Pruning

end Vignette
