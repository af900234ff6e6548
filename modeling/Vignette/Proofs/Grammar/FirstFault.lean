import Vignette.Proofs.Grammar.Check
import Vignette.Proofs.Text.Order

/-!
# `Vignette.Proofs.Grammar.FirstFault`: which fault a check reports

Every check walks over a list that is in order and reports the first element
with a fault, so it reports the least one (`find?_eq_some_iff_of_pairwise`). The
categories are in the order of their bytes, what is reachable is a part of them,
and the tokens are in the order of their places. What is reachable and what can
finish are found by two loops, which stop and are exact (`mem_reachable_iff`,
`mem_productive_iff`).

* `Place`, `nameAt?`: where a token stands and which name it asks for.
* `Usable`: the five conditions.
* `FirstFault`: the first condition that fails, and what is named then.
* `check_exact`: the check accepts what is usable and reports the first fault of
  everything else.
-/

set_option autoImplicit false

namespace Vignette

/-! ### The first element of a list in order -/

/-- In a list that is in order, the first element with a property is the one
that no other such element comes before. -/
theorem find?_eq_some_iff_of_pairwise {α : Type} {r : α → α → Prop}
    (hasymm : ∀ a b, r a b → ¬ r b a) {l : List α} (hl : l.Pairwise r) {p : α → Bool} {a : α} :
    l.find? p = some a ↔ a ∈ l ∧ p a ∧ ∀ b ∈ l, p b → ¬ r b a := by
  induction l with
  | nil => simp
  | cons x l ih =>
      obtain ⟨hx, hl⟩ := List.pairwise_cons.1 hl
      by_cases hpx : p x
      · rw [List.find?_cons_of_pos hpx, Option.some_inj]
        constructor
        · rintro rfl
          refine ⟨List.mem_cons_self, hpx, fun b hb _ => ?_⟩
          rcases List.mem_cons.1 hb with rfl | hb
          · exact fun hbb => hasymm b b hbb hbb
          · exact hasymm x b (hx b hb)
        · rintro ⟨ha, -, hfirst⟩
          rcases List.mem_cons.1 ha with rfl | ha
          · rfl
          · exact absurd (hx a ha) (hfirst x List.mem_cons_self hpx)
      · rw [List.find?_cons_of_neg hpx, ih hl]
        constructor
        · rintro ⟨ha, hpa, hfirst⟩
          refine ⟨List.mem_cons_of_mem x ha, hpa, fun b hb hpb => ?_⟩
          rcases List.mem_cons.1 hb with rfl | hb
          · exact absurd hpb hpx
          · exact hfirst b hb hpb
        · rintro ⟨ha, hpa, hfirst⟩
          rcases List.mem_cons.1 ha with rfl | ha
          · exact absurd hpa hpx
          · exact ⟨ha, hpa, fun b hb => hfirst b (List.mem_cons_of_mem x hb)⟩

theorem pairwise_zipIdx {α : Type} (l : List α) : l.zipIdx.Pairwise fun a b => a.2 < b.2 := by
  have h : (l.zipIdx.map (·.2)).Pairwise (· < ·) := by
    rw [List.zipIdx_map_snd]
    exact List.pairwise_lt_range'
  exact List.pairwise_map.1 h

namespace Grammar

variable {g : Grammar}

/-! ### The places of tokens -/

/-- Where a token stands: in which category, in which of its candidates, and
which of the tokens there it is, from left to right. -/
structure Place where
  category : Name
  candidate : Nat
  token : Nat

/-- The order of places: by category, then by candidate, then by token. -/
def Place.Before (p q : Place) : Prop :=
  p.category.bytes < q.category.bytes ∨
    p.category = q.category ∧
      (p.candidate < q.candidate ∨ p.candidate = q.candidate ∧ p.token < q.token)

theorem Place.Before.asymm (p q : Place) (h : p.Before q) : ¬ q.Before p := by
  rintro (hgt | ⟨heq, hgt⟩)
  · rcases h with hlt | ⟨heq, -⟩
    · exact List.lt_irrefl _ (List.lt_trans hlt hgt)
    · exact List.lt_irrefl _ (heq ▸ hgt)
  · rcases h with hlt | ⟨-, hlt⟩
    · exact List.lt_irrefl _ (heq ▸ hlt)
    · omega

/-- The name that the token at a place asks for. -/
def nameAt? (g : Grammar) (place : Place) : Option Name :=
  (g.candidates? place.category).bind fun candidates =>
    candidates[place.candidate]?.bind fun candidate =>
      (Token.names candidate)[place.token]?

/-- The tokens of a candidate with their places. -/
def placesOf (category : Name) (candidate : Text × Nat) : List (Place × Name) :=
  (Token.names candidate.1).zipIdx.map fun token => (⟨category, candidate.2, token.2⟩, token.1)

/-- All tokens with their places. -/
def places (g : Grammar) : List (Place × Name) :=
  g.rules.flatMap fun rule => rule.2.zipIdx.flatMap (placesOf rule.1)

theorem map_snd_placesOf (category : Name) (candidate : Text × Nat) :
    (placesOf category candidate).map (·.2) = Token.names candidate.1 := by
  rw [placesOf, List.map_map]
  exact List.zipIdx_map_fst 0 _

/-- The places hold the tokens in the order in which they are checked. -/
theorem map_snd_places (g : Grammar) :
    g.places.map (·.2) = g.rules.flatMap fun rule => rule.2.flatMap Token.names := by
  rw [places, List.map_flatMap]
  refine congrArg (g.rules.flatMap ·) (funext fun rule => ?_)
  calc (rule.2.zipIdx.flatMap (placesOf rule.1)).map (·.2)
      = rule.2.zipIdx.flatMap fun candidate => Token.names candidate.1 := by
        rw [List.map_flatMap]
        simp only [map_snd_placesOf]
    _ = (rule.2.zipIdx.map (·.1)).flatMap Token.names := by rw [List.flatMap_map]
    _ = rule.2.flatMap Token.names := by rw [List.zipIdx_map_fst]

theorem mem_placesOf_iff {category : Name} {candidate : Text × Nat} {place : Place} {name : Name} :
    (place, name) ∈ placesOf category candidate ↔
      place.category = category ∧ place.candidate = candidate.2 ∧
        (Token.names candidate.1)[place.token]? = some name := by
  rw [placesOf, List.mem_map]
  constructor
  · rintro ⟨⟨n, j⟩, hmem, heq⟩
    cases heq
    exact ⟨rfl, rfl, List.mem_zipIdx_iff_getElem?.1 hmem⟩
  · rintro ⟨rfl, hcandidate, hname⟩
    refine ⟨(name, place.token), List.mem_zipIdx_iff_getElem?.2 hname, ?_⟩
    rw [← hcandidate]

theorem mem_places_iff {place : Place} {name : Name} :
    (place, name) ∈ g.places ↔ g.nameAt? place = some name := by
  simp only [places, nameAt?, List.mem_flatMap, mem_placesOf_iff, Option.bind_eq_some_iff]
  constructor
  · rintro ⟨⟨category, candidates⟩, hrule, ⟨candidate, i⟩, hmem, rfl, hi, hname⟩
    refine ⟨candidates, mem_rules_iff.1 hrule, candidate, ?_, hname⟩
    rw [hi]
    exact List.mem_zipIdx_iff_getElem?.1 hmem
  · rintro ⟨candidates, hlookup, candidate, hcandidate, hname⟩
    exact ⟨(place.category, candidates), mem_rules_iff.2 hlookup, (candidate, place.candidate),
      List.mem_zipIdx_iff_getElem?.2 hcandidate, rfl, rfl, hname⟩

theorem pairwise_placesOf (category : Name) (candidate : Text × Nat) :
    (placesOf category candidate).Pairwise fun a b => a.1.Before b.1 := by
  rw [placesOf, List.pairwise_map]
  exact (pairwise_zipIdx _).imp fun hlt => .inr ⟨rfl, .inr ⟨rfl, hlt⟩⟩

theorem pairwise_places (g : Grammar) : g.places.Pairwise fun a b => a.1.Before b.1 := by
  rw [places, List.pairwise_flatMap]
  constructor
  · intro rule _
    rw [List.pairwise_flatMap]
    refine ⟨fun candidate _ => pairwise_placesOf rule.1 candidate, ?_⟩
    refine (pairwise_zipIdx _).imp ?_
    rintro c d hlt ⟨p, n⟩ hp ⟨q, m⟩ hq
    obtain ⟨hpc, hpi, -⟩ := mem_placesOf_iff.1 hp
    obtain ⟨hqc, hqi, -⟩ := mem_placesOf_iff.1 hq
    refine .inr ⟨hpc.trans hqc.symm, .inl ?_⟩
    rw [hpi, hqi]
    exact hlt
  · refine g.sorted.imp ?_
    rintro r s hlt ⟨p, n⟩ hp ⟨q, m⟩ hq
    obtain ⟨c, -, hp⟩ := List.mem_flatMap.1 hp
    obtain ⟨d, -, hq⟩ := List.mem_flatMap.1 hq
    refine .inl ?_
    rw [(mem_placesOf_iff.1 hp).1, (mem_placesOf_iff.1 hq).1]
    exact Text.bytes_lt_iff.2 hlt

/-! ### What each check reports -/

/-- The first token that asks for no category, and the name it asks for. -/
structure FirstUnknown (g : Grammar) (place : Place) (name : Name) : Prop where
  asked : g.nameAt? place = some name
  unknown : ¬ g.has name
  first : ∀ other n, g.nameAt? other = some n → ¬ g.has n → ¬ other.Before place

theorem emptyNameFault?_eq_some_iff {fault : Fault} :
    g.emptyNameFault? = some fault ↔ g.has [] ∧ fault = .emptyName := by
  rw [emptyNameFault?, Option.ite_none_right_eq_some, Option.some_inj, @eq_comm _ fault]

theorem missingRootsFault?_eq_some_iff {fault : Fault} :
    g.missingRootsFault? = some fault ↔ ¬ g.has rootsName ∧ fault = .unknownCategory rootsName := by
  rw [missingRootsFault?, Option.ite_none_left_eq_some, Option.some_inj, @eq_comm _ fault]

theorem emptyCategoryFault?_eq_some_iff {fault : Fault} :
    g.emptyCategoryFault? = some fault ↔
      ∃ name, Least (fun n => g.candidates? n = some []) name ∧ fault = .emptyCategory name := by
  have hasymm (a b : Rule) (h : a.1 < b.1) : ¬ b.1 < a.1 := Text.not_lt_of_lt h
  rw [emptyCategoryFault?, Option.map_eq_some_iff]
  constructor
  · rintro ⟨⟨name, candidates⟩, hfind, rfl⟩
    obtain ⟨hmem, hempty, hfirst⟩ := (find?_eq_some_iff_of_pairwise hasymm g.sorted).1 hfind
    cases List.isEmpty_iff.1 hempty
    refine ⟨name, least_iff.2 ⟨mem_rules_iff.1 hmem, fun other hother => ?_⟩, rfl⟩
    exact hfirst (other, []) (mem_rules_iff.2 hother) rfl
  · rintro ⟨name, hleast, rfl⟩
    obtain ⟨hname, hfirst⟩ := least_iff.1 hleast
    refine ⟨(name, []), (find?_eq_some_iff_of_pairwise hasymm g.sorted).2 ?_, rfl⟩
    refine ⟨mem_rules_iff.2 hname, rfl, ?_⟩
    rintro ⟨other, candidates⟩ hmem hempty
    cases List.isEmpty_iff.1 hempty
    exact hfirst other (mem_rules_iff.1 hmem)

theorem unknownTokenFault?_eq_some_iff {fault : Fault} :
    g.unknownTokenFault? = some fault ↔
      ∃ place name, g.FirstUnknown place name ∧ fault = .unknownCategory name := by
  have hasymm (a b : Place × Name) : a.1.Before b.1 → ¬ b.1.Before a.1 := Place.Before.asymm _ _
  simp only [unknownTokenFault?, Option.map_eq_some_iff, ← map_snd_places, List.find?_map]
  constructor
  · rintro ⟨_, ⟨⟨place, name⟩, hfind, rfl⟩, rfl⟩
    obtain ⟨hmem, hunknown, hfirst⟩ :=
      (find?_eq_some_iff_of_pairwise hasymm g.pairwise_places).1 hfind
    refine ⟨place, name, ⟨mem_places_iff.1 hmem, by simpa using hunknown, ?_⟩, rfl⟩
    intro other n hother hn
    exact hfirst (other, n) (mem_places_iff.2 hother) (by simpa using hn)
  · rintro ⟨place, name, ⟨hasked, hunknown, hfirst⟩, rfl⟩
    refine ⟨name, ⟨(place, name),
      (find?_eq_some_iff_of_pairwise hasymm g.pairwise_places).2 ?_, rfl⟩, rfl⟩
    refine ⟨mem_places_iff.2 hasked, by simpa using hunknown, ?_⟩
    rintro ⟨other, n⟩ hmem hn
    exact hfirst other n (mem_places_iff.1 hmem) (by simpa using hn)

theorem cycleFault?_eq_some_iff {fault : Fault} :
    g.cycleFault? = some fault ↔
      ∃ name, Least (fun n => g.Reachable rootsName n ∧ ¬ g.Productive n) name ∧
        fault = .cyclicCategory name := by
  have hreachable (n : Name) : n ∈ g.reachable.names ↔ g.Reachable rootsName n :=
    mem_reachable_iff
  have hstuck (n : Name) : decide (n ∉ g.productive) = true ↔ ¬ g.Productive n := by
    rw [decide_eq_true_iff, mem_productive_iff]
  have hasymm (a b : Name) (h : a < b) : ¬ b < a := Text.not_lt_of_lt h
  simp only [cycleFault?, Option.map_eq_some_iff,
    find?_eq_some_iff_of_pairwise hasymm g.reachable.sorted, hreachable, hstuck, least_iff]
  constructor
  · rintro ⟨name, ⟨hname, hprod, hfirst⟩, rfl⟩
    exact ⟨name, ⟨⟨hname, hprod⟩, fun other h => hfirst other h.1 h.2⟩, rfl⟩
  · rintro ⟨name, ⟨⟨hname, hprod⟩, hfirst⟩, rfl⟩
    exact ⟨name, ⟨hname, hprod, fun other h h' => hfirst other ⟨h, h'⟩⟩, rfl⟩

/-! ### The check as a whole -/

/-- What the five checks promise. -/
structure Usable (g : Grammar) : Prop extends Wellformed g where
  finishes : ∀ name, g.Reachable rootsName name → g.Productive name

/-- The first of the conditions that fails, and what is named then. -/
inductive FirstFault (g : Grammar) : Fault → Prop
  | emptyName : g.has [] → FirstFault g .emptyName
  | missingRoots : ¬ g.has [] → ¬ g.has rootsName →
      FirstFault g (.unknownCategory rootsName)
  | emptyCategory {name : Name} : ¬ g.has [] → g.has rootsName →
      Least (fun n => g.candidates? n = some []) name → FirstFault g (.emptyCategory name)
  | unknownToken {place : Place} {name : Name} : ¬ g.has [] → g.has rootsName →
      (∀ rule ∈ g.rules, rule.2 ≠ []) → g.FirstUnknown place name →
      FirstFault g (.unknownCategory name)
  | cycle {name : Name} : g.Wellformed →
      Least (fun n => g.Reachable rootsName n ∧ ¬ g.Productive n) name →
      FirstFault g (.cyclicCategory name)

theorem fault?_eq_none_iff : g.fault? = none ↔ g.Usable := by
  simp only [fault?, Option.orElse_eq_orElse, Option.orElse_eq_or, Option.or_eq_none_iff]
  constructor
  · rintro ⟨hempty, hroots, hcategory, htoken, hcycle⟩
    exact ⟨wellformed_of_faults hempty hroots hcategory htoken, cycleFault?_eq_none_iff.1 hcycle⟩
  · intro h
    exact ⟨emptyNameFault?_eq_none_iff.2 h.named, missingRootsFault?_eq_none_iff.2 h.roots,
      emptyCategoryFault?_eq_none_iff.2 h.nonempty, unknownTokenFault?_eq_none_iff.2 h.known,
      cycleFault?_eq_none_iff.2 h.finishes⟩

theorem fault?_eq_some_iff {fault : Fault} : g.fault? = some fault ↔ g.FirstFault fault := by
  simp only [fault?, Option.orElse_eq_orElse, Option.orElse_eq_or, Option.or_eq_some_iff,
    emptyNameFault?_eq_none_iff, missingRootsFault?_eq_none_iff, emptyCategoryFault?_eq_none_iff,
    unknownTokenFault?_eq_none_iff, emptyNameFault?_eq_some_iff, missingRootsFault?_eq_some_iff,
    emptyCategoryFault?_eq_some_iff, unknownTokenFault?_eq_some_iff, cycleFault?_eq_some_iff]
  constructor
  · rintro (⟨hempty, rfl⟩ | ⟨hnamed, ⟨hroots, rfl⟩ | ⟨hroots, ⟨name, hleast, rfl⟩ |
      ⟨hnonempty, ⟨place, name, hfirst, rfl⟩ | ⟨hknown, name, hleast, rfl⟩⟩⟩⟩)
    · exact .emptyName hempty
    · exact .missingRoots hnamed hroots
    · exact .emptyCategory hnamed hroots hleast
    · exact .unknownToken hnamed hroots hnonempty hfirst
    · exact .cycle ⟨⟨hnonempty, hknown⟩, hroots, hnamed⟩ hleast
  · intro h
    cases h with
    | emptyName hempty => exact .inl ⟨hempty, rfl⟩
    | missingRoots hnamed hroots => exact .inr ⟨hnamed, .inl ⟨hroots, rfl⟩⟩
    | emptyCategory hnamed hroots hleast =>
        exact .inr ⟨hnamed, .inr ⟨hroots, .inl ⟨_, hleast, rfl⟩⟩⟩
    | unknownToken hnamed hroots hnonempty hfirst =>
        exact .inr ⟨hnamed, .inr ⟨hroots, .inr ⟨hnonempty, .inl ⟨_, _, hfirst, rfl⟩⟩⟩⟩
    | cycle h hleast =>
        exact .inr ⟨h.named, .inr ⟨h.roots, .inr ⟨h.nonempty, .inr ⟨h.known, _, hleast, rfl⟩⟩⟩⟩

/-- The check accepts exactly the usable grammars and otherwise reports the first
fault. -/
theorem check_exact (g : Grammar) :
    (g.check = .ok () ↔ g.Usable) ∧ ∀ fault, g.check = .error fault ↔ g.FirstFault fault :=
  ⟨check_eq_ok_iff.trans fault?_eq_none_iff, fun _ => check_eq_error_iff.trans fault?_eq_some_iff⟩

end Grammar

end Vignette
