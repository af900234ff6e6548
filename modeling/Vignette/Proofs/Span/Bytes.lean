import Mathlib.Data.List.Basic
import Vignette.Proofs.Span.Pairing
import Vignette.Proofs.Text.Order

/-!
# `Vignette.Proofs.Span.Bytes`: the spans of a text, told by its bytes

Delimiters and line feeds take one byte, and in UTF-8 no other character has such a
byte. So the spans can be looked for among the bytes of a text, whatever characters
stand there.

* `closings`: for each `>`, the first `<` behind the nearest `>` or line feed in front
  of it. `all_eq_closings`: this gives the spans.
* `lookAhead`: a scan that looks from each `<` for the byte that closes it and goes on
  behind it, or at the next byte when there is none. `all_eq_lookAhead`: it finds the
  same spans.
* `firstOpen_succ`, `bytesFrom_some`: where the first `<` is known the byte that closes
  it decides.
-/

set_option autoImplicit false

namespace Vignette.Span

/-! ### Bytes of a character -/

def openByte : UInt8 := 0x3C

def closeByte : UInt8 := 0x3E

def feedByte : UInt8 := 0x0A

/-- Whether no `<` waits for its `>` behind the byte. -/
def isBreak (b : UInt8) : Bool :=
  b == closeByte || b == feedByte

/-- A character beyond ASCII has no byte of ASCII. -/
theorem encode_high {c : Char} (h : 127 < c.toNat) :
    ∀ b ∈ String.utf8EncodeChar c, 127 < b.toNat := by
  -- Every byte is made of a number from 128 to 255.
  have hhigh {n : Nat} (hlow : 127 < n) (hlt : n < 256) : 127 < (UInt8.ofNat n).toNat := by
    rwa [UInt8.toNat_ofNat_of_lt' hlt]
  unfold String.utf8EncodeChar
  show ∀ b ∈ ite (c.toNat ≤ 127) _ _, _
  rw [if_neg (Nat.not_le.2 h)]
  show ∀ b ∈ ite (c.toNat ≤ 2047) _ _, _
  generalize c.toNat = v
  split
  · simp only [List.forall_mem_cons]
    refine ⟨hhigh ?_ ?_, hhigh ?_ ?_, by simp⟩ <;> omega
  · split
    · simp only [List.forall_mem_cons]
      refine ⟨hhigh ?_ ?_, hhigh ?_ ?_, hhigh ?_ ?_, by simp⟩ <;> omega
    · simp only [List.forall_mem_cons]
      refine ⟨hhigh ?_ ?_, hhigh ?_ ?_, hhigh ?_ ?_, hhigh ?_ ?_, by simp⟩ <;> omega

/-- A character of ASCII is its own byte. -/
theorem encode_low {c : Char} (h : ¬ 127 < c.toNat) :
    String.utf8EncodeChar c = [UInt8.ofNat c.toNat] :=
  if_pos (Nat.le_of_not_lt h)

theorem utf8Size_low {c : Char} (h : ¬ 127 < c.toNat) : c.utf8Size = 1 := by
  rw [← String.length_utf8EncodeChar, encode_low h]
  rfl

/-- Characters of ASCII are told apart by their bytes. -/
theorem ofNat_toNat_eq_iff {c d : Char} (hc : ¬ 127 < c.toNat) (hd : ¬ 127 < d.toNat) :
    UInt8.ofNat c.toNat = UInt8.ofNat d.toNat ↔ c = d := by
  have hsize : UInt8.size = 256 := rfl
  rw [← UInt8.toNat_inj, UInt8.toNat_ofNat_of_lt' (by omega), UInt8.toNat_ofNat_of_lt' (by omega)]
  exact ⟨fun h => Char.ext (UInt32.toNat_inj.1 h), congrArg _⟩

/-! ### The scan, byte by byte -/

/-- The spans in the rest of a string of bytes that starts at byte `pos`. `opened` is
where the first `<` stands that no `>` or line feed has met yet. -/
def bytesFrom (pos : Nat) (opened : Option Nat) : List UInt8 → List Span
  | [] => []
  | b :: bs =>
    if b = openByte then bytesFrom (pos + 1) (opened.or (some pos)) bs
    else if b = closeByte then
      (opened.map fun start => ⟨start, pos + 1⟩).toList ++ bytesFrom (pos + 1) none bs
    else if b = feedByte then bytesFrom (pos + 1) none bs
    else bytesFrom (pos + 1) opened bs

/-- The bytes of a character beyond ASCII are passed over. -/
theorem bytesFrom_append_of_high {high : List UInt8} (h : ∀ b ∈ high, 127 < b.toNat) (pos : Nat)
    (opened : Option Nat) (bs : List UInt8) :
    bytesFrom pos opened (high ++ bs) = bytesFrom (pos + high.length) opened bs := by
  induction high generalizing pos with
  | nil => rfl
  | cons b high ih =>
      have hb := h b List.mem_cons_self
      have hne {c : UInt8} (hc : c.toNat ≤ 127) : b ≠ c := by
        rintro rfl
        omega
      rw [List.cons_append, bytesFrom, if_neg (hne (by decide)), if_neg (hne (by decide)),
        if_neg (hne (by decide)), ih fun d hd => h d (List.mem_cons_of_mem b hd), List.length_cons,
        Nat.add_right_comm, Nat.add_assoc]

/-- Character by character and byte by byte the scan finds the same spans. -/
theorem allFrom_eq_bytesFrom (pos : Nat) (opened : Option Nat) (t : Text) :
    allFrom pos opened t = bytesFrom pos opened t.bytes := by
  induction t generalizing pos opened with
  | nil => rfl
  | cons c t ih =>
      rw [allFrom_cons, Text.bytes_cons]
      simp only [ih]
      by_cases hc : 127 < c.toNat
      · have hne {d : Char} (hd : d.toNat ≤ 127) : c ≠ d := by
          rintro rfl
          omega
        rw [if_neg (hne (by decide)), if_neg (hne (by decide)), if_neg (hne (by decide)),
          bytesFrom_append_of_high (encode_high hc), String.length_utf8EncodeChar]
      · have hbyte (d : Char) (hd : ¬ 127 < d.toNat) :
            UInt8.ofNat c.toNat = UInt8.ofNat d.toNat ↔ c = d := ofNat_toNat_eq_iff hc hd
        have hopen : UInt8.ofNat c.toNat = openByte ↔ c = '<' := hbyte '<' (by decide)
        have hclose : UInt8.ofNat c.toNat = closeByte ↔ c = '>' := hbyte '>' (by decide)
        have hfeed : UInt8.ofNat c.toNat = feedByte ↔ c = '\n' := hbyte '\n' (by decide)
        rw [encode_low hc, utf8Size_low hc, List.singleton_append, bytesFrom]
        simp only [hopen, hclose, hfeed]

/-! ### For each `>` the `<` that it closes -/

section
variable (bs : List UInt8)

/-- The byte just behind the nearest `>` or line feed among the first `j` bytes, or the
start. -/
def behindBreak (j : Nat) : Nat :=
  match (List.range j).reverse.find? fun k => bs[k]?.any isBreak with
  | some k => k + 1
  | none => 0

/-- The first `<` among the first `j` bytes that no `>` or line feed follows there. -/
def firstOpen (j : Nat) : Option Nat :=
  let start := behindBreak bs j
  (List.range' start (j - start)).find? fun i => bs[i]? = some openByte

/-- The span that byte `j` ends. -/
def closing (j : Nat) : Option Span :=
  if bs[j]? = some closeByte then (firstOpen bs j).map fun i => ⟨i, j + 1⟩ else none

/-- The spans that end with some byte, left to right. -/
def closings : List Span :=
  (List.range bs.length).filterMap (closing bs)

variable {bs}

theorem behindBreak_succ {j : Nat} {b : UInt8} (hb : bs[j]? = some b) :
    behindBreak bs (j + 1) = if isBreak b then j + 1 else behindBreak bs j := by
  rw [behindBreak, List.range_succ, List.reverse_append, List.reverse_singleton,
    List.singleton_append, List.find?_cons, hb, Option.any_some]
  cases isBreak b <;> rfl

theorem behindBreak_le (j : Nat) : behindBreak bs j ≤ j := by
  rw [behindBreak]
  split
  · rename_i k hk
    have hmem := List.mem_of_find?_eq_some hk
    rw [List.mem_reverse, List.mem_range] at hmem
    exact hmem
  · exact Nat.zero_le j

/-- One byte more: it ends every wait, or it may be the first `<`. -/
theorem firstOpen_succ {j : Nat} {b : UInt8} (hb : bs[j]? = some b) :
    firstOpen bs (j + 1) =
      if isBreak b then none
      else (firstOpen bs j).or (if b = openByte then some j else none) := by
  rw [firstOpen, firstOpen, behindBreak_succ hb]
  cases isBreak b with
  | true =>
      rw [if_pos rfl, if_pos rfl, Nat.sub_self]
      rfl
  | false =>
      have hle : behindBreak bs j ≤ j := behindBreak_le j
      have hlast : behindBreak bs j + (j - behindBreak bs j) = j := by omega
      rw [if_neg (by decide), if_neg (by decide), Nat.succ_sub hle, List.range'_concat,
        List.find?_append, Nat.one_mul, hlast, List.find?_singleton, hb]
      simp only [Option.some_inj, decide_eq_true_eq]

/-- The scan ends a span where a `>` stands, at the `<` that it waits with. -/
theorem bytesFrom_firstOpen (front back : List UInt8) :
    bytesFrom front.length (firstOpen (front ++ back) front.length) back
      = (List.range' front.length back.length).filterMap (closing (front ++ back)) := by
  induction back generalizing front with
  | nil => rfl
  | cons b back ih =>
      have hb : (front ++ b :: back)[front.length]? = some b := by simp
      have hrest := ih (front ++ [b])
      rw [List.append_assoc, List.singleton_append, List.length_append, List.length_singleton,
        firstOpen_succ hb] at hrest
      rw [List.length_cons, List.range'_succ, List.filterMap_eq_flatMap_toList, List.flatMap_cons,
        ← List.filterMap_eq_flatMap_toList, ← hrest, closing, hb, bytesFrom]
      by_cases hopen : b = openByte
      · subst hopen
        rfl
      · by_cases hclose : b = closeByte
        · subst hclose
          rfl
        · by_cases hfeed : b = feedByte
          · subst hfeed
            rfl
          · have hbreak : isBreak b = false := by simp [isBreak, hclose, hfeed]
            simp [hopen, hclose, hfeed, hbreak]

/-- The spans of a text: for each `>` the range from the first `<` behind the nearest
`>` or line feed. -/
theorem all_eq_closings (t : Text) : all t = closings t.bytes := by
  rw [closings, List.range_eq_range', all, allFrom_eq_bytesFrom]
  exact bytesFrom_firstOpen [] t.bytes

example : closings (Text.bytes "é<\n>x<a<b>c>y".toList) = [⟨6, 11⟩] := by decide

end

/-! ### Looking ahead from each `<` -/

/-- How many bytes stand in front of the `>` that ends a span which began just in front
of these bytes. -/
def closeAhead (bs : List UInt8) : Option Nat :=
  (bs.findIdx? isBreak).filter fun k => bs[k]? = some closeByte

/-- The spans in the rest of a string of bytes that starts at byte `pos`. Behind a `<`
that nothing closes the next byte is looked at. -/
def lookAhead (pos : Nat) : List UInt8 → List Span
  | [] => []
  | b :: bs =>
    if b = openByte then
      match closeAhead bs with
      | some k => ⟨pos, pos + 1 + k + 1⟩ :: lookAhead (pos + 1 + k + 1) (bs.drop (k + 1))
      | none => lookAhead (pos + 1) bs
    else lookAhead (pos + 1) bs
termination_by bs => bs.length
decreasing_by all_goals simp only [List.length_drop, List.length_cons]; omega

theorem closeAhead_cons (b : UInt8) (bs : List UInt8) :
    closeAhead (b :: bs) =
      if b = closeByte then some 0
      else if b = feedByte then none
      else (closeAhead bs).map (· + 1) := by
  rw [closeAhead, closeAhead, List.findIdx?_cons]
  by_cases hclose : b = closeByte
  · subst hclose
    rfl
  · by_cases hfeed : b = feedByte
    · subst hfeed
      rfl
    · have hbreak : isBreak b = false := by simp [isBreak, hclose, hfeed]
      rw [hbreak, if_neg (by decide), if_neg hclose, if_neg hfeed]
      cases bs.findIdx? isBreak with
      | none => rfl
      | some k => simp [Option.filter, apply_ite]

/-- A `<` waits for the byte that closes it. When there is none its wait is in vain. -/
theorem bytesFrom_some (pos start : Nat) (bs : List UInt8) :
    bytesFrom pos (some start) bs =
      match closeAhead bs with
      | some k => ⟨start, pos + k + 1⟩ :: bytesFrom (pos + k + 1) none (bs.drop (k + 1))
      | none => bytesFrom pos none bs := by
  induction bs generalizing pos start with
  | nil => rfl
  | cons b bs ih =>
      rw [closeAhead_cons, bytesFrom]
      by_cases hclose : b = closeByte
      · subst hclose
        rfl
      · by_cases hfeed : b = feedByte
        · subst hfeed
          rfl
        · -- A `<` on the way waits for the same byte.
          rw [if_neg hclose, if_neg hfeed, if_neg hclose, if_neg hfeed, Option.some_or, ite_self,
            ih]
          cases hahead : closeAhead bs with
          | some k => simp [Nat.add_right_comm, Nat.add_assoc]
          | none =>
              rw [Option.map_none]
              show bytesFrom (pos + 1) none bs = bytesFrom pos none (b :: bs)
              rw [bytesFrom, if_neg hclose, if_neg hfeed, Option.none_or, ih, hahead, ite_self]

theorem bytesFrom_none_eq_lookAhead (pos : Nat) (bs : List UInt8) :
    bytesFrom pos none bs = lookAhead pos bs := by
  induction pos, bs using lookAhead.induct with
  | case1 pos => rw [lookAhead, bytesFrom]
  | case2 pos bs k hahead ih =>
      rw [lookAhead, if_pos rfl, bytesFrom, if_pos rfl, Option.none_or, bytesFrom_some, hahead]
      exact congrArg _ ih
  | case3 pos bs hahead ih =>
      rw [lookAhead, if_pos rfl, bytesFrom, if_pos rfl, Option.none_or, bytesFrom_some, hahead, ih]
  | case4 pos b bs hopen ih =>
      rw [lookAhead, if_neg hopen, bytesFrom, if_neg hopen, Option.map_none, ih]
      split <;> simp

/-- The spans of a text are those that the scan with a look ahead finds. -/
theorem all_eq_lookAhead (t : Text) : all t = lookAhead 0 t.bytes := by
  rw [all, allFrom_eq_bytesFrom, bytesFrom_none_eq_lookAhead]

end Vignette.Span
