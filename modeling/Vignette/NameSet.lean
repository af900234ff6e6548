import Vignette.Text

/-!
# `Vignette.NameSet`: sets of names

A set keeps its names in order, each of them once, so it lists them the same way
however they came in.

- `NameSet.mem_insert_iff`: inserting a name adds this name and no other.
-/

set_option autoImplicit false

namespace Vignette

/-- Names in order. -/
structure NameSet where
  names : List Name
  sorted : names.Pairwise fun a b => a < b
  deriving DecidableEq

namespace NameSet

/-- The set without names. -/
def empty : NameSet :=
  ⟨[], .nil⟩

instance : Membership Name NameSet where
  mem known name := name ∈ known.names

instance (name : Name) (known : NameSet) : Decidable (name ∈ known) :=
  decidable_of_decidable_of_iff
    (List.contains_iff_mem : known.names.contains name ↔ name ∈ known.names)

/-- Puts a name in its place, unless it is there. -/
def insertNames (name : Name) : List Name → List Name
  | [] => [name]
  | n :: names =>
    if name < n then name :: n :: names
    else if name = n then n :: names
    else n :: insertNames name names

theorem mem_insertNames_iff {name n : Name} {names : List Name} :
    n ∈ insertNames name names ↔ n = name ∨ n ∈ names := by
  induction names with
  | nil => simp [insertNames]
  | cons first names ih =>
    unfold insertNames
    split
    · exact List.mem_cons
    · split
      · rename_i heq
        subst heq
        simp
      · rw [List.mem_cons, ih, List.mem_cons]
        exact or_left_comm

theorem pairwise_insertNames {name : Name} {names : List Name}
    (h : names.Pairwise fun a b => a < b) :
    (insertNames name names).Pairwise fun a b => a < b := by
  induction names with
  | nil => simp [insertNames]
  | cons first names ih =>
    obtain ⟨hfirst, hnames⟩ := List.pairwise_cons.1 h
    unfold insertNames
    split
    · rename_i hlt
      refine List.pairwise_cons.2 ⟨?_, h⟩
      intro n hn
      rcases List.mem_cons.1 hn with rfl | hn
      · exact hlt
      · exact List.lt_trans hlt (hfirst n hn)
    · split
      · exact h
      · rename_i hnlt hne
        refine List.pairwise_cons.2 ⟨?_, ih hnames⟩
        intro n hn
        rcases mem_insertNames_iff.1 hn with rfl | hn
        · exact (List.le_iff_lt_or_eq.1 (List.not_lt.1 hnlt)).resolve_right fun heq => hne heq.symm
        · exact hfirst n hn

/-- Puts a name in the set. -/
def insert (known : NameSet) (name : Name) : NameSet :=
  ⟨insertNames name known.names, pairwise_insertNames known.sorted⟩

@[simp]
theorem mem_names {known : NameSet} {name : Name} : name ∈ known.names ↔ name ∈ known :=
  Iff.rfl

@[simp]
theorem not_mem_empty (name : Name) : name ∉ empty :=
  List.not_mem_nil

theorem mem_insert_iff {known : NameSet} {name n : Name} :
    n ∈ known.insert name ↔ n = name ∨ n ∈ known :=
  mem_insertNames_iff

end NameSet

end Vignette
