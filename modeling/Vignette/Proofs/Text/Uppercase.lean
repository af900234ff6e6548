import Vignette.Text.Uppercase

/-!
# `Vignette.Proofs.Text.Uppercase`: how a text grows in uppercase

One character has an uppercase form of one, two or three characters, so putting
the first character of a text in uppercase can make the text longer.

* `length_upper_bounds`: the bounds on the form of one character.
* `length_capitalize`: a text grows by as much as its first character does.
* `eq_of_mem_upper`: it gains no character below `A`.
* `not_lower_of_mem_upper`: an uppercase form holds no letter from `a` to `z`.
-/

set_option autoImplicit false

namespace Vignette.Text

/-- By how many characters a text grows when its first one is put in uppercase. -/
def growth : Text → Nat
  | [] => 0
  | c :: _ => (upper c).length - 1

/-- The expansions are of two or three characters. -/
theorem length_of_mem_uppercaseExpansions :
    ∀ e ∈ uppercaseExpansions, 2 ≤ e.2.length ∧ e.2.length ≤ 3 := by
  decide

theorem length_of_lookup_eq_some {n : Nat} {codes : List Nat}
    (h : uppercaseExpansions.lookup n = some codes) : 2 ≤ codes.length ∧ codes.length ≤ 3 := by
  obtain ⟨l, r, hsplit, -⟩ := List.lookup_eq_some_iff.1 h
  have hmem : (n, codes) ∈ uppercaseExpansions := by
    rw [hsplit]
    simp
  exact length_of_mem_uppercaseExpansions _ hmem

/-- Characters without an expansion stay single. -/
theorem length_upper_of_lookup_eq_none {c : Char}
    (h : uppercaseExpansions.lookup c.toNat = none) : (upper c).length = 1 := by
  unfold upper
  rw [h]
  cases hrun : uppercaseRuns.find? (·.covers c.toNat) <;> rfl

theorem length_upper_of_lookup_eq_some {c : Char} {codes : List Nat}
    (h : uppercaseExpansions.lookup c.toNat = some codes) :
    (upper c).length = codes.length := by
  unfold upper
  rw [h]
  exact List.length_map _

/-- One character becomes at least one and at most three. -/
theorem length_upper_bounds (c : Char) : 1 ≤ (upper c).length ∧ (upper c).length ≤ 3 := by
  cases h : uppercaseExpansions.lookup c.toNat with
  | none =>
      have hlength := length_upper_of_lookup_eq_none h
      omega
  | some codes =>
      have hlength := length_upper_of_lookup_eq_some h
      have hbounds := length_of_lookup_eq_some h
      omega

theorem growth_le_two (t : Text) : growth t ≤ 2 := by
  cases t with
  | nil => exact Nat.zero_le 2
  | cons c t =>
      have hbounds := length_upper_bounds c
      show (upper c).length - 1 ≤ 2
      omega

theorem length_capitalize (t : Text) : t.capitalize.length = t.length + growth t := by
  cases t with
  | nil => rfl
  | cons c t =>
      have hbounds := length_upper_bounds c
      show (upper c ++ t).length = (c :: t).length + ((upper c).length - 1)
      rw [List.length_append, List.length_cons]
      omega

/-! ### Where an uppercase form comes from -/

/-- A character of an uppercase form is of an expansion, or where a run moves the
character, or the character itself if nothing moves it. -/
theorem mem_upper_cases {c d : Char} (h : d ∈ upper c) :
    (∃ e ∈ uppercaseExpansions, ∃ n ∈ e.2, d = Char.ofNat n) ∨
      (∃ r ∈ uppercaseRuns, r.covers c.toNat ∧ d = Char.ofNat (r.move c.toNat)) ∨
      d = c ∧ ∀ r ∈ uppercaseRuns, ¬ r.covers c.toNat := by
  unfold upper at h
  split at h
  · rename_i codes hlookup
    obtain ⟨l, r, hsplit, -⟩ := List.lookup_eq_some_iff.1 hlookup
    obtain ⟨n, hn, rfl⟩ := List.mem_map.1 h
    have hmem : (c.toNat, codes) ∈ uppercaseExpansions := by
      rw [hsplit]
      simp
    exact .inl ⟨_, hmem, n, hn, rfl⟩
  · split at h
    · rename_i r hfind
      have hcovers := List.find?_some hfind
      exact .inr (.inl ⟨r, List.mem_of_find?_eq_some hfind, hcovers, List.mem_singleton.1 h⟩)
    · rename_i hfind
      exact .inr (.inr ⟨List.mem_singleton.1 h, List.find?_eq_none.1 hfind⟩)

theorem toNat_ofNat_cases (n : Nat) : (Char.ofNat n).toNat = n ∨ (Char.ofNat n).toNat = 0 := by
  by_cases h : n.isValidChar
  · have hvalid : Char.ofNat n = Char.ofNatAux n h := dif_pos h
    left
    rw [hvalid]
    rfl
  · have hzero : Char.ofNat n = '\x00' := dif_neg h
    right
    rw [hzero]
    rfl

theorem CaseRun.covers_iff {r : CaseRun} {n : Nat} :
    r.covers n ↔ (r.first ≤ n ∧ n ≤ r.last) ∧ (n - r.first) % r.step = 0 := by
  simp [covers]

/-! ### Characters below the capital letters -/

/-- No expansion has a code point below `A`. -/
theorem le_of_mem_uppercaseExpansions : ∀ e ∈ uppercaseExpansions, ∀ n ∈ e.2, 65 ≤ n := by
  decide

/-- No run moves a character below `A`. -/
theorem le_of_mem_uppercaseRuns : ∀ r ∈ uppercaseRuns, 65 ≤ r.first + r.shift := by
  decide +kernel

/-- Putting a character in uppercase gives no new character below `A`. -/
theorem eq_of_mem_upper {c d : Char} (h : d ∈ upper c) (hpos : 0 < d.toNat) (hlt : d.toNat < 65) :
    d = c := by
  -- Both tables only lead to codes from `A` on, of which `d` is none.
  have hcode (n : Nat) (hn : 65 ≤ n) : d ≠ Char.ofNat n := by
    rintro rfl
    rcases toNat_ofNat_cases n with heq | heq <;> omega
  rcases mem_upper_cases h with ⟨e, he, n, hn, heq⟩ | ⟨r, hr, hcovers, heq⟩ | ⟨heq, -⟩
  · exact absurd heq (hcode n (le_of_mem_uppercaseExpansions e he n hn))
  · have hmove : 65 ≤ r.move c.toNat := by
      have hshift := le_of_mem_uppercaseRuns r hr
      have hbounds := (CaseRun.covers_iff.1 hcovers).1
      unfold CaseRun.move
      omega
    exact absurd heq (hcode _ hmove)
  · exact heq

/-! ### The letters from `a` to `z` -/

theorem not_lower_of_mem_uppercaseExpansions :
    ∀ e ∈ uppercaseExpansions, ∀ n ∈ e.2, n < 97 ∨ 122 < n := by
  decide

/-- Every run moves all its characters below `a` or all behind `z`. -/
theorem not_lower_of_mem_uppercaseRuns :
    ∀ r ∈ uppercaseRuns, r.last + r.shift < 97 ∨ 122 < r.first + r.shift := by
  decide +kernel

/-- An uppercase form holds no letter from `a` to `z`. -/
theorem not_lower_of_mem_upper {c d : Char} (h : d ∈ upper c) : d.toNat < 97 ∨ 122 < d.toNat := by
  have hcode (n : Nat) (hn : n < 97 ∨ 122 < n) :
      (Char.ofNat n).toNat < 97 ∨ 122 < (Char.ofNat n).toNat := by
    rcases toNat_ofNat_cases n with heq | heq <;> omega
  rcases mem_upper_cases h with ⟨e, he, n, hn, rfl⟩ | ⟨r, hr, hcovers, rfl⟩ | ⟨rfl, hnone⟩
  · exact hcode n (not_lower_of_mem_uppercaseExpansions e he n hn)
  · refine hcode _ ?_
    have hmoved := not_lower_of_mem_uppercaseRuns r hr
    have hbounds := (CaseRun.covers_iff.1 hcovers).1
    unfold CaseRun.move
    omega
  · -- The letters themselves make up the first run.
    have hletters : (⟨0x61, 0x7A, 1, -32⟩ : CaseRun) ∈ uppercaseRuns := List.mem_cons_self
    have houtside := hnone _ hletters
    simp only [CaseRun.covers_iff, Nat.mod_one, and_true] at houtside
    omega

end Vignette.Text
