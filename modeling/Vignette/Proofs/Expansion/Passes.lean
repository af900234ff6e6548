import Vignette.Expansion
import Vignette.Proofs.Grammar.Rules

/-!
# `Vignette.Proofs.Expansion.Passes`: expansion as a relation on texts

`Resolves` and `Passes` say which texts a pass and a number of passes can lead
to, whatever is drawn. What may be written for a token is a parameter: all that
the grammar offers, or only what some strategy picks.

* `expandFrom_cases`: every run of the expander is such a sequence of passes, and
  its outcome is told by the text that it ends on.
* `Passes.exists_script`: every such sequence is a run of the expander on some
  script of choices.
-/

set_option autoImplicit false

namespace Vignette

/-- Choices read from a list, one entry each. An entry counts modulo the number
of alternatives, and the first alternative is chosen when the list is used up. -/
def Chooser.scripted : Chooser (List Nat) where
  candidate n script := (⟨script.headD 0 % (n + 1), Nat.mod_lt _ n.succ_pos⟩, script.tail)
  span n script := (⟨script.headD 0 % (n + 1), Nat.mod_lt _ n.succ_pos⟩, script.tail)

theorem Chooser.scripted_candidate {i n : Nat} (hi : i < n + 1) (script : List Nat) :
    Chooser.scripted.candidate n (i :: script) = (⟨i, hi⟩, script) := by
  simp [scripted, Nat.mod_eq_of_lt hi]

theorem Chooser.scripted_span {i n : Nat} (hi : i < n + 1) (script : List Nat) :
    Chooser.scripted.span n (i :: script) = (⟨i, hi⟩, script) :=
  scripted_candidate hi script

namespace Expansion

section
variable (allowed : Name → Text → Prop)

/-- Writing allowed texts over the collected names, one after another, can turn
the first text into the second. -/
inductive Resolves : List Name → Text → Text → Prop
  | nil (t : Text) : Resolves [] t t
  | cons {name : Name} {names : List Name} {candidate t u : Text} :
      allowed name candidate →
      Resolves names (t.replaceFirst (Token.render name) candidate) u →
      Resolves (name :: names) t u

/-- So many passes, each over a text with tokens, can turn the first text into
the second. -/
inductive Passes : Nat → Text → Text → Prop
  | zero (t : Text) : Passes 0 t t
  | succ {n : Nat} {t u v : Text} :
      Token.names t ≠ [] → Resolves allowed (Token.names t) t u → Passes n u v →
      Passes (n + 1) t v

end

section
variable {allowed allowed' : Name → Text → Prop}

theorem Resolves.mono (h : ∀ name candidate, allowed name candidate → allowed' name candidate)
    {names : List Name} {t u : Text} (hr : Resolves allowed names t u) :
    Resolves allowed' names t u := by
  induction hr with
  | nil t => exact .nil t
  | cons hc _ ih => exact .cons (h _ _ hc) ih

theorem Passes.mono (h : ∀ name candidate, allowed name candidate → allowed' name candidate)
    {n : Nat} {t u : Text} (hp : Passes allowed n t u) : Passes allowed' n t u := by
  induction hp with
  | zero t => exact .zero t
  | succ hne hr _ ih => exact .succ hne (hr.mono h) ih

/-- A property of texts that allowed texts keep is kept by a pass. -/
theorem Resolves.keeps {P : Text → Prop} {names : List Name}
    (hstep : ∀ name ∈ names, ∀ candidate t, allowed name candidate → P t →
      P (t.replaceFirst (Token.render name) candidate))
    {t u : Text} (hr : Resolves allowed names t u) (ht : P t) : P u := by
  induction hr with
  | nil t => exact ht
  | @cons name names candidate t u hc _ ih =>
      exact ih (fun n hn => hstep n (List.mem_cons_of_mem name hn))
        (hstep name (by simp) candidate t hc ht)

theorem Passes.keeps {P : Text → Prop}
    (hpass : ∀ t u, P t → Resolves allowed (Token.names t) t u → P u)
    {n : Nat} {t u : Text} (hp : Passes allowed n t u) (ht : P t) : P u := by
  induction hp with
  | zero t => exact ht
  | succ _ hr _ ih => exact ih (hpass _ _ ht hr)

end

/-- Passes stay among the separated fragments over `S` when all that may be
written for a category of `S` is such a fragment. -/
theorem Resolves.over {allowed : Name → Text → Prop} {S : Name → Prop}
    (hS : ∀ name candidate, S name → allowed name candidate → Token.Over S candidate)
    {t u : Text} (ht : Token.Over S t) (h : Resolves allowed (Token.names t) t u) :
    Token.Over S u := by
  refine h.keeps (fun name hname candidate v hc hv => ?_) ht
  exact hv.replaceFirst (hS name candidate (ht.names name hname) hc)
    (Token.isWord_of_mem_names hname)

theorem Passes.over {allowed : Name → Text → Prop} {S : Name → Prop}
    (hS : ∀ name candidate, S name → allowed name candidate → Token.Over S candidate)
    {n : Nat} {t u : Text} (ht : Token.Over S t) (h : Passes allowed n t u) : Token.Over S u :=
  h.keeps (fun _ _ hv hres => hres.over hS hv) ht

/-! ### Runs are passes -/

section
variable {σ : Type} (ch : Chooser σ) (g : Grammar)

/-- A draw gives a candidate of the category, or the fault that there is none. -/
theorem pick_cases (name : Name) (s : σ) :
    (∃ candidate s', pick ch g name s = (.ok candidate, s') ∧ g.Offers name candidate) ∨
      ∃ fault, pick ch g name s = (.error fault, s) ∧ g.drawFault? name = some fault := by
  unfold pick Grammar.drawFault?
  cases hlookup : g.candidates? name with
  | none => exact .inr ⟨_, rfl, rfl⟩
  | some candidates =>
      -- Only a category with candidates is drawn from.
      cases candidates with
      | nil => exact .inr ⟨_, rfl, rfl⟩
      | cons candidate candidates =>
          exact .inl ⟨_, _, rfl, _, hlookup, List.get_mem _ _⟩

/-- A pass resolves all names, or ends with the fault of one of them. -/
theorem resolve_cases (names : List Name) (t : Text) (s : σ) :
    (∃ u s', resolve ch g names t s = (.ok u, s') ∧ Resolves g.Offers names t u) ∨
      ∃ name ∈ names, ∃ fault s', resolve ch g names t s = (.error fault, s') ∧
        g.drawFault? name = some fault := by
  -- The first name is drawn for, and the others go on from what that leaves.
  induction names generalizing t s with
  | nil => exact .inl ⟨t, s, rfl, .nil t⟩
  | cons name names ih =>
      unfold resolve
      rcases pick_cases ch g name s with ⟨candidate, s', hpick, hoffer⟩ | ⟨fault, hpick, hfault⟩
      · rw [hpick]
        rcases ih (t.replaceFirst (Token.render name) candidate) s' with
          ⟨u, s'', hrun, hres⟩ | ⟨n, hn, fault, s'', hrun, hfault⟩
        · exact .inl ⟨u, s'', hrun, .cons hoffer hres⟩
        · exact .inr ⟨n, List.mem_cons_of_mem name hn, fault, s'', hrun, hfault⟩
      · rw [hpick]
        exact .inr ⟨name, by simp, fault, s, rfl, hfault⟩

theorem offers_of_pick {ch : Chooser σ} {g : Grammar} {name : Name} {candidate : Text}
    {s s' : σ} (h : pick ch g name s = (.ok candidate, s')) : g.Offers name candidate := by
  rcases pick_cases ch g name s with ⟨candidate', s'', hpick, hoffer⟩ | ⟨fault, hpick, -⟩
  · rw [hpick] at h
    cases h
    exact hoffer
  · rw [hpick] at h
    cases h

theorem resolves_of_resolve {ch : Chooser σ} {g : Grammar} {names : List Name} {t u : Text}
    {s s' : σ} (h : resolve ch g names t s = (.ok u, s')) : Resolves g.Offers names t u := by
  rcases resolve_cases ch g names t s with ⟨u', s'', hrun, hres⟩ | ⟨_, _, _, _, hrun, -⟩
  · rw [hrun] at h
    cases h
    exact hres
  · rw [hrun] at h
    cases h

/-- A pass that collects a name nothing can be drawn for ends with a fault. -/
theorem resolve_error {names : List Name} {name : Name} (hmem : name ∈ names)
    (hfault : g.drawFault? name ≠ none) (t : Text) (s : σ) :
    ∃ n ∈ names, ∃ fault s', resolve ch g names t s = (.error fault, s') ∧
      g.drawFault? n = some fault := by
  rcases resolve_cases ch g names t s with ⟨u, s', -, hres⟩ | h
  · -- Every name of a completed pass has been drawn for.
    exfalso
    induction hres with
    | nil t => cases hmem
    | @cons n names candidate t u hoffer _ ih =>
        rcases List.mem_cons.1 hmem with rfl | hmem
        · obtain ⟨candidates, hlookup, hin⟩ := hoffer
          apply hfault
          cases candidates with
          | nil => cases hin
          | cons candidate candidates => simp [Grammar.drawFault?, hlookup]
        · exact ih hmem
  · exact h

/-- A text without tokens is done, however many passes remain. -/
theorem expandFrom_of_names_eq_nil (limit remaining : Nat) {t : Text} (h : Token.names t = [])
    (s : σ) : expandFrom ch g limit remaining t s = (⟨[], .ok t⟩, s) := by
  cases remaining with
  | zero => simp [expandFrom, h]
  | succ remaining => simp [expandFrom, h]

/-- With tokens left and no pass remaining nothing is drawn any more. -/
theorem expandFrom_zero (limit : Nat) {t : Text} (hne : Token.names t ≠ []) (s : σ) :
    expandFrom ch g limit 0 t s = (⟨[], .error (.expansionLimit limit)⟩, s) := by
  simp [expandFrom, hne]

/-- A completed pass goes on from its text and its state. -/
theorem expandFrom_of_resolve (limit remaining : Nat) {t u : Text} {s s' : σ}
    (hne : Token.names t ≠ []) (hrun : resolve ch g (Token.names t) t s = (.ok u, s')) :
    (expandFrom ch g limit (remaining + 1) t s).1.outcome
        = (expandFrom ch g limit remaining u s').1.outcome ∧
      (expandFrom ch g limit (remaining + 1) t s).2
        = (expandFrom ch g limit remaining u s').2 := by
  cases hnames : Token.names t with
  | nil => exact absurd hnames hne
  | cons name names =>
      rw [hnames] at hrun
      constructor
      · simp only [expandFrom, hnames, hrun]
      · simp only [expandFrom, hnames, hrun]

/-- A completed pass is recorded in front of the later ones. -/
theorem expandFrom_succ_of_resolve (limit remaining : Nat) {t u : Text} {s s' : σ}
    (hne : Token.names t ≠ []) (hrun : resolve ch g (Token.names t) t s = (.ok u, s')) :
    expandFrom ch g limit (remaining + 1) t s
      = (⟨(Token.names t).length :: (expandFrom ch g limit remaining u s').1.passes,
          (expandFrom ch g limit remaining u s').1.outcome⟩,
        (expandFrom ch g limit remaining u s').2) := by
  cases hnames : Token.names t with
  | nil => exact absurd hnames hne
  | cons name names =>
      rw [hnames] at hrun
      simp only [expandFrom, hnames, hrun, List.length_cons]

/-- A broken off pass ends the expansion with its fault. -/
theorem expandFrom_of_resolve_error (limit remaining : Nat) {t : Text} {fault : Fault} {s s' : σ}
    (hne : Token.names t ≠ [])
    (hrun : resolve ch g (Token.names t) t s = (.error fault, s')) :
    expandFrom ch g limit (remaining + 1) t s = (⟨[], .error fault⟩, s') := by
  cases hnames : Token.names t with
  | nil => exact absurd hnames hne
  | cons name names =>
      rw [hnames] at hrun
      simp only [expandFrom, hnames, hrun]

/-- Where an expansion of `t` with some passes remaining may end. -/
inductive Ending (limit remaining : Nat) (t : Text) : Except Fault Text → Prop
  /-- On a text without tokens. -/
  | done {n : Nat} {u : Text} : n ≤ remaining → Passes g.Offers n t u → Token.names u = [] →
      Ending limit remaining t (.ok u)
  /-- On a text with tokens, after the last pass. -/
  | limit {u : Text} : Passes g.Offers remaining t u → Token.names u ≠ [] →
      Ending limit remaining t (.error (.expansionLimit limit))
  /-- In a pass over a text with a token that nothing can be drawn for. -/
  | fault {n : Nat} {u : Text} {name : Name} {fault : Fault} : n < remaining →
      Passes g.Offers n t u → name ∈ Token.names u → g.drawFault? name = some fault →
      Ending limit remaining t (.error fault)

/-- A pass in front lengthens each of the three endings by one. -/
theorem Ending.succ {g : Grammar} {limit remaining : Nat} {t u : Text} {out : Except Fault Text}
    (hne : Token.names t ≠ []) (hres : Resolves g.Offers (Token.names t) t u)
    (h : Ending g limit remaining u out) : Ending g limit (remaining + 1) t out := by
  cases h with
  | done hle hp hend => exact .done (Nat.succ_le_succ hle) (.succ hne hres hp) hend
  | limit hp hend => exact .limit (.succ hne hres hp) hend
  | fault hlt hp hmem hfault => exact .fault (Nat.succ_lt_succ hlt) (.succ hne hres hp) hmem hfault

/-- Every run ends in one of the three ways. -/
theorem expandFrom_cases (limit remaining : Nat) (t : Text) (s : σ) :
    Ending g limit remaining t (expandFrom ch g limit remaining t s).1.outcome := by
  induction remaining generalizing t s with
  | zero =>
      -- A text without tokens is done even now.
      by_cases hnames : Token.names t = []
      · rw [expandFrom_of_names_eq_nil ch g limit 0 hnames]
        exact .done (Nat.le_refl 0) (.zero t) hnames
      · rw [expandFrom_zero ch g limit hnames]
        exact .limit (.zero t) hnames
  | succ remaining ih =>
      by_cases hnames : Token.names t = []
      · rw [expandFrom_of_names_eq_nil ch g limit (remaining + 1) hnames]
        exact .done (Nat.zero_le _) (.zero t) hnames
      · rcases resolve_cases ch g (Token.names t) t s with
          ⟨u, s', hrun, hres⟩ | ⟨name, hmem, fault, s', hrun, hfault⟩
        · -- What follows a completed pass ends in one of the three ways.
          rw [(expandFrom_of_resolve ch g limit remaining hnames hrun).1]
          exact (ih u s').succ hnames hres
        · -- A fault ends the run in its first pass.
          rw [expandFrom_of_resolve_error ch g limit remaining hnames hrun]
          exact .fault (Nat.succ_pos remaining) (.zero t) hmem hfault

/-- The result of an expansion has no tokens. -/
theorem names_eq_nil_of_outcome_eq_ok {ch : Chooser σ} {g : Grammar} {limit remaining : Nat}
    {t w : Text} {s : σ} (h : (expandFrom ch g limit remaining t s).1.outcome = .ok w) :
    Token.names w = [] := by
  have hend := expandFrom_cases ch g limit remaining t s
  rw [h] at hend
  cases hend with
  | done _ _ hnames => exact hnames

/-- An expansion that runs out of passes tells its own limit. -/
theorem eq_of_outcome_eq_limit {ch : Chooser σ} {g : Grammar} {limit limit' remaining : Nat}
    {t : Text} {s : σ}
    (h : (expandFrom ch g limit remaining t s).1.outcome = .error (.expansionLimit limit')) :
    limit' = limit := by
  have hend := expandFrom_cases ch g limit remaining t s
  rw [h] at hend
  cases hend with
  | limit => rfl
  | fault _ _ _ hfault => exact absurd hfault (g.drawFault?_ne_expansionLimit _ _)

end

/-! ### Passes are runs -/

section
variable {g : Grammar}

/-- Some entry of a script makes the draw give any candidate of the category. -/
theorem exists_entry {name : Name} {candidate : Text} (h : g.Offers name candidate) :
    ∃ entry, ∀ rest : List Nat,
      pick Chooser.scripted g name (entry :: rest) = (.ok candidate, rest) := by
  obtain ⟨candidates, hlookup, hmem⟩ := h
  -- The entry is the candidate's place in the list.
  obtain ⟨i, hi, hget⟩ := List.getElem_of_mem hmem
  refine ⟨i, fun rest => ?_⟩
  cases candidates with
  | nil => cases hmem
  | cons first candidates =>
      simp only [pick, hlookup, Chooser.scripted_candidate hi, List.get_eq_getElem, hget]

theorem Resolves.exists_script {names : List Name} {t u : Text}
    (h : Resolves g.Offers names t u) :
    ∃ script, ∀ rest, resolve Chooser.scripted g names t (script ++ rest) = (.ok u, rest) := by
  induction h with
  | nil t => exact ⟨[], fun rest => rfl⟩
  | cons hoffer _ ih =>
      obtain ⟨entry, hentry⟩ := exists_entry hoffer
      obtain ⟨script, hscript⟩ := ih
      refine ⟨entry :: script, fun rest => ?_⟩
      rw [List.cons_append, resolve, hentry]
      exact hscript rest

/-- Any sequence of passes is a run on some script, which then goes on from the
text reached with the rest of the script. -/
theorem Passes.exists_script {n : Nat} {t u : Text} (h : Passes g.Offers n t u) :
    ∃ script, ∀ limit remaining rest,
      (expandFrom Chooser.scripted g limit (remaining + n) t (script ++ rest)).1.outcome
        = (expandFrom Chooser.scripted g limit remaining u rest).1.outcome := by
  induction h with
  | zero t => exact ⟨[], fun _ _ _ => rfl⟩
  | @succ n t u v hne hres _ ih =>
      -- The script of the first pass in front of that of the later ones.
      obtain ⟨first, hfirst⟩ := hres.exists_script
      obtain ⟨later, hlater⟩ := ih
      refine ⟨first ++ later, fun limit remaining rest => ?_⟩
      have hrun := hfirst (later ++ rest)
      rw [← List.append_assoc] at hrun
      rw [← Nat.add_assoc, (expandFrom_of_resolve _ g limit (remaining + n) hne hrun).1]
      exact hlater limit remaining rest

/-- A text without tokens that passes lead to is the result on some script. -/
theorem Passes.exists_script_ok {n : Nat} {t u : Text} (h : Passes g.Offers n t u)
    (hend : Token.names u = []) :
    ∃ script, ∀ limit, n ≤ limit →
      (expand Chooser.scripted g limit t script).1.outcome = .ok u := by
  obtain ⟨script, hscript⟩ := h.exists_script
  refine ⟨script, fun limit hle => ?_⟩
  -- The passes that are left over are not needed.
  have hrun := hscript limit (limit - n) []
  rw [Nat.sub_add_cancel hle, List.append_nil,
    expandFrom_of_names_eq_nil _ g limit (limit - n) hend] at hrun
  exact hrun

/-- A text with tokens that all passes allowed lead to ends the expansion on some
script. -/
theorem Passes.exists_script_limit {limit : Nat} {t u : Text} (h : Passes g.Offers limit t u)
    (hne : Token.names u ≠ []) :
    ∃ script,
      (expand Chooser.scripted g limit t script).1.outcome = .error (.expansionLimit limit) := by
  obtain ⟨script, hscript⟩ := h.exists_script
  refine ⟨script, ?_⟩
  have hrun := hscript limit 0 []
  rw [List.append_nil, Nat.zero_add] at hrun
  show (expandFrom Chooser.scripted g limit limit t script).1.outcome = _
  rw [hrun]
  simp [expandFrom, hne]

/-- A text that passes lead to and that has a token nothing can be drawn for
breaks off the expansion on some script. -/
theorem Passes.exists_script_error {n limit : Nat} {t u : Text} {name : Name}
    (h : Passes g.Offers n t u) (hn : n < limit) (hmem : name ∈ Token.names u)
    (hname : g.drawFault? name ≠ none) :
    ∃ script other fault, g.drawFault? other = some fault ∧
      (expand Chooser.scripted g limit t script).1.outcome = .error fault := by
  obtain ⟨script, hscript⟩ := h.exists_script
  obtain ⟨other, -, fault, s, hbreak, hfault⟩ := resolve_error Chooser.scripted g hmem hname u []
  refine ⟨script, other, fault, hfault, ?_⟩
  -- At least one pass is left for the one that breaks off.
  obtain ⟨later, rfl⟩ := Nat.exists_eq_add_of_lt hn
  have hlimit : n + later + 1 = later + 1 + n := by omega
  have hrun := hscript (n + later + 1) (later + 1) []
  rw [List.append_nil, ← hlimit,
    expandFrom_of_resolve_error _ g _ later (List.ne_nil_of_mem hmem) hbreak] at hrun
  exact hrun

end

end Expansion

end Vignette
