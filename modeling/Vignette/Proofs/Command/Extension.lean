import Vignette.Command.Standard
import Vignette.Proofs.Batch.Extension

/-!
# `Vignette.Proofs.Command.Extension`: asking for more texts

The program loads a grammar and chains its fixers, both regardless of how many texts
are asked for, and then makes a batch from the seed. So what it prints for fewer texts
is the beginning of what it prints for more of them. None of this depends on how the
libraries read arguments and JSON, draw random numbers or write the log, so everything
here is said of arbitrary ones.

* `warnings_batchRecords`: the warnings in the log are those about skipped texts.
* `generate_cases`: a task fails before its batch, or its transcript is that of the
  batch.
* `Extends`: a transcript that goes on where another one ends.
* `ComesTo`: what a run of the program leaves behind when its task has a transcript.
* `run_extends`: two runs of the program that differ in the number of texts.
-/

set_option autoImplicit false

namespace Vignette

open Log (Record)

/-! ### Warnings -/

theorem Log.level_of_mem_passes {counts : List Nat} {record : Record}
    (h : record ∈ Log.passes counts) : record.level = .trace := by
  obtain ⟨_, -, rfl⟩ := List.mem_map.1 h
  rfl

theorem Pruning.level_of_mem_records {p : Pruning} {record : Record} (h : record ∈ p.records) :
    record.level = .trace := by
  obtain ⟨_, -, rfl⟩ := List.mem_map.1 h
  rfl

/-- What is logged about an attempt is no warning. -/
theorem Attempt.level_of_mem_records {maxLength number : Nat} {attempt : Attempt}
    {record : Record} (h : record ∈ attempt.records maxLength number) :
    record.level = .trace ∨ record.level = .debug := by
  unfold Attempt.records at h
  split at h
  · rcases List.mem_append.1 h with h | h
    · exact .inl (Log.level_of_mem_passes h)
    · cases List.mem_singleton.1 h
      exact .inr rfl
  · exact .inl (Log.level_of_mem_passes h)
  · simp only [List.mem_append, List.mem_cons, List.not_mem_nil, or_false] at h
    rcases h with (h | rfl | h) | rfl
    · exact .inl (Log.level_of_mem_passes h)
    · exact .inl rfl
    · exact .inl (Pruning.level_of_mem_records h)
    · exact .inr rfl

theorem Run.level_of_mem_records {maxLength : Nat} {r : Run} {record : Record}
    (h : record ∈ r.records maxLength) : record.level ≠ .warn := by
  obtain ⟨⟨attempt, index⟩, -, hrecord⟩ := List.mem_flatMap.1 h
  rcases Attempt.level_of_mem_records hrecord with hlevel | hlevel <;> simp [hlevel]

namespace Command

/-- The records that are warnings. -/
def warnings (records : List Record) : List Record :=
  records.filter fun record => record.level = .warn

/-- The warning that the text of this number is skipped, and why. -/
def skipWarning (number : Nat) (why : String) : Record :=
  ⟨.warn, "pulp_cafe", s!"skipping text {number}: " ++ why⟩

/-- Why a text is skipped: its attempts are used up. -/
def usedUp (s : Settings) : String :=
  s!"Generation failed: no output within {s.maxLength} characters after {s.maxAttempts} attempts"

theorem warnings_append (records more : List Record) :
    warnings (records ++ more) = warnings records ++ warnings more :=
  List.filter_append _ _

theorem warnings_eq_nil {records : List Record} (h : ∀ r ∈ records, r.level ≠ .warn) :
    warnings records = [] :=
  List.filter_eq_nil_iff.2 fun r hr => by simpa using h r hr

/-- The warnings about a batch tell of the texts that it skips, in order. -/
theorem warnings_batchRecords (maxLength : Nat) (b : Batch) :
    warnings (batchRecords maxLength b)
      = b.skips.map fun (number, fault) => skipWarning number fault.message := by
  unfold batchRecords Batch.skips
  generalize b.runs.zipIdx = runs
  induction runs with
  | nil => rfl
  | cons first runs ih =>
      obtain ⟨run, index⟩ := first
      have hrun : warnings (run.records maxLength) = [] :=
        warnings_eq_nil fun r hr => Run.level_of_mem_records hr
      rw [List.flatMap_cons, warnings_append, warnings_append, hrun, ih, List.filterMap_cons]
      cases hstep : run.batchStep with
      | text t => simp only [hstep]; rfl
      | skip fault => simp only [hstep]; rfl
      | stop fault => simp only [hstep]; rfl

/-! ### Transcripts -/

variable {σ : Type} {lib : Libraries σ} {files : Files} {path : Text} {o : Options}

theorem loadGrammar_level : ∀ r ∈ (loadGrammar lib files path).2, r.level = .debug := by
  unfold loadGrammar
  dsimp only
  split
  · simp [Log.loading, Log.grammarRecord]
  · split
    · simp [Log.loading, Log.grammarRecord]
    · simp [Log.loading, Log.loaded, Log.grammarRecord]

/-- The transcript of a batch, behind the records of what came before it. -/
def batchTranscript (records : List Record) (maxLength : Nat) (b : Batch) : Transcript where
  printed := b.texts
  records := records ++ batchRecords maxLength b
  failure := b.failure?.map Fault.report

/-- Generating texts fails before the batch is made, however many are asked for, or it
comes to the transcript of the batch. -/
theorem generate_cases (lib : Libraries σ) (files : Files) (o : Options) (path : Text) :
    (∃ t : Transcript, t.failure.isSome ∧ warnings t.records = [] ∧
        ∀ fresh count, generate lib files o fresh path count = t) ∨
      ∃ records g chain, warnings records = [] ∧
        ∀ fresh count, generate lib files o fresh path count
          = batchTranscript records o.settings.maxLength
              (generateTexts lib o fresh count g chain) := by
  have hload : ∀ r ∈ (loadGrammar lib files path).2, r.level = .debug := loadGrammar_level
  rcases hgrammar : loadGrammar lib files path with ⟨grammar, records⟩
  rw [hgrammar] at hload
  have hrecords : warnings records = [] := warnings_eq_nil fun r hr => by simp [hload r hr]
  cases grammar with
  | error fault =>
      refine .inl ⟨{ records, failure := some fault.report }, rfl, hrecords, fun _ _ => ?_⟩
      unfold generate
      rw [hgrammar]
  | ok g =>
      -- What is logged in between is no warning either.
      have hinfo {earlier : List Record} (message : String) (h : warnings earlier = []) :
          warnings (earlier ++ [record .info message]) = [] := by
        rw [warnings_append, h]
        rfl
      have hloaded := hinfo s!"loaded {g.size} categories from {path.string}" hrecords
      cases hchain : Fixer.Registry.default.chainOf o.fixers with
      | error fault =>
          refine .inl ⟨⟨[], _, none, some fault.report⟩, rfl, hloaded, fun _ _ => ?_⟩
          unfold generate
          simp only [hgrammar, hchain]
      | ok chain =>
          have hnamed := hinfo s!"post-processing with '{chain.name.string}'" hloaded
          refine .inr ⟨_, g, chain, hnamed, fun _ _ => ?_⟩
          unfold generate batchTranscript
          simp only [hgrammar, hchain, List.append_assoc, List.cons_append, List.nil_append]

/-- The second transcript goes on where the first one ends, which was asked for so many
texts. -/
structure Extends (count : Nat) (short long : Transcript) : Prop where
  printed : short.printed <+: long.printed
  logged : short.records <+: long.records
  warned : warnings short.records <+: warnings long.records
  /-- Behind a fault nothing more is done. -/
  fatal : short.failure.isSome → long = short
  /-- Without a fault every text is printed or skipped. -/
  complete : short.failure = none →
    short.printed.length + (warnings short.records).length = count

theorem batchRecords_isPrefix (maxLength : Nat) {b b' : Batch} (h : b.runs <+: b'.runs) :
    batchRecords maxLength b <+: batchRecords maxLength b' := by
  obtain ⟨later, hlater⟩ := h
  unfold batchRecords
  -- The runs in front keep their numbers.
  rw [← hlater, List.zipIdx_append, List.flatMap_append]
  exact List.prefix_append _ _

/-- A longer batch has a transcript that goes on where the one of the shorter batch
ends. -/
theorem extends_batchTranscript (ch : Chooser σ) (g : Generator) {n m : Nat}
    (h : n ≤ m) (s : σ) {records : List Record} (hrecords : warnings records = [])
    (maxLength : Nat) :
    Extends n (batchTranscript records maxLength (Batch.make ch g n s).1)
      (batchTranscript records maxLength (Batch.make ch g m s).1) := by
  have hwarnings (b : Batch) : warnings (batchTranscript records maxLength b).records
      = b.skips.map fun (number, fault) => skipWarning number fault.message := by
    show warnings (records ++ batchRecords maxLength b) = _
    rw [warnings_append, hrecords, List.nil_append, warnings_batchRecords]
  have hruns : (Batch.make ch g n s).1.runs <+: (Batch.make ch g m s).1.runs :=
    Batch.runs_isPrefix h
  have hlogged : records ++ batchRecords maxLength (Batch.make ch g n s).1
      <+: records ++ batchRecords maxLength (Batch.make ch g m s).1 :=
    (List.prefix_append_right_inj records).2 (batchRecords_isPrefix maxLength hruns)
  constructor
  · exact Batch.texts_isPrefix hruns
  · exact hlogged
  · exact hlogged.filter _
  · intro hfailure
    obtain ⟨report, hreport⟩ := Option.isSome_iff_exists.1 hfailure
    obtain ⟨fault, hfault, -⟩ := Option.map_eq_some_iff.1 hreport
    rw [Batch.make_of_failure h hfault]
  · intro hfailure
    obtain ⟨hlength, hon⟩ := Batch.length_runs (Option.map_eq_none_iff.1 hfailure)
    rw [hwarnings, List.length_map]
    exact (Batch.length_texts_add_length_skips hon).trans hlength

/-- With a seed, asking for more texts extends the transcript. -/
theorem extends_generate (lib : Libraries σ) (files : Files) (hseed : o.seed.isSome) (path : Text)
    {n m : Nat} (h : n ≤ m) (fresh fresh' : σ) :
    Extends n (generate lib files o fresh path n) (generate lib files o fresh' path m) := by
  rcases generate_cases lib files o path with ⟨t, hfailure, -, ht⟩ |
    ⟨records, g, chain, hrecords, hbatch⟩
  · rw [ht, ht]
    refine ⟨List.prefix_refl _, List.prefix_refl _, List.prefix_refl _, fun _ => rfl, ?_⟩
    intro hnone
    rw [hnone] at hfailure
    cases hfailure
  · -- The seed is there, so nothing else decides the choices.
    obtain ⟨seed, hseed⟩ := Option.isSome_iff_exists.1 hseed
    rw [hbatch, hbatch]
    unfold generateTexts
    rw [hseed]
    exact extends_batchTranscript _ _ h _ hrecords _

/-- The warnings about skipped texts name the one reason for which texts are skipped. -/
theorem exists_of_mem_warnings {count : Nat} {fresh : σ} {w : Record}
    (h : w ∈ warnings (generate lib files o fresh path count).records) :
    ∃ number, w = skipWarning number (usedUp o.settings) := by
  rcases generate_cases lib files o path with ⟨t, -, hwarned, ht⟩ |
    ⟨records, g, chain, hrecords, hbatch⟩
  · rw [ht, hwarned] at h
    cases h
  · rw [hbatch] at h
    change w ∈ warnings (records ++ batchRecords _ _) at h
    rw [warnings_append, hrecords, List.nil_append, warnings_batchRecords] at h
    obtain ⟨⟨number, fault⟩, hskip, rfl⟩ := List.mem_map.1 h
    rw [Batch.fault_of_mem_skips hskip]
    exact ⟨number, rfl⟩

/-! ### What the program leaves behind -/

/-- The last line on the error output. -/
def reportLine : Option String → Text
  | none => []
  | some report => "Error: ".toList ++ report.toList ++ ['\n']

theorem unlines_reports (failure : Option String) :
    unlines (failure.map fun report => "Error: ".toList ++ report.toList).toList
      = reportLine failure := by
  cases failure with
  | none => rfl
  | some report => exact List.append_nil _

/-- What the program leaves behind when its task has this transcript: the lines that were
printed, what the logger writes for the records, and the report of the fault. -/
structure ComesTo (logger : Logger) (t : Transcript) (out : Outcome) : Prop where
  output : out.output = t.printed.flatMap fun line => line ++ ['\n']
  errors : out.errors = logger.complaints ++ t.records.flatMap logger.write ++ reportLine t.failure
  exit : out.exit = if t.failure.isSome then 1 else 0
  written : out.written = t.written

/-- The second run of the program goes on where the first one ends. -/
structure RunExtends (short long : Outcome) : Prop where
  output : short.output <+: long.output
  errors : short.exit = 0 → short.errors <+: long.errors
  /-- A run that ends with a fault is all that the other one does. -/
  fatal : short.exit ≠ 0 → long = short

theorem comesTo_run {i : Invocation} {args : List Text} (hargs : lib.arguments args = .ok i)
    (files : Files) (environment : Option Text) (fresh : σ) :
    ComesTo (setUpLogger lib environment i.options) (perform lib files fresh i)
      (run lib files environment fresh args) := by
  unfold run
  rw [hargs]
  exact ⟨rfl, congrArg _ (unlines_reports _), rfl, rfl⟩

theorem ComesTo.unique {logger : Logger} {t : Transcript} {out out' : Outcome}
    (h : ComesTo logger t out) (h' : ComesTo logger t out') : out = out' := by
  obtain ⟨exit, output, errors, written⟩ := out
  obtain ⟨exit', output', errors', written'⟩ := out'
  obtain ⟨rfl, rfl, rfl, rfl⟩ := h
  obtain ⟨rfl, rfl, rfl, rfl⟩ := h'
  rfl

/-- What a longer transcript comes to goes on where what the shorter one comes to ends. -/
theorem Extends.run {count : Nat} {logger : Logger} {short long : Transcript}
    {out out' : Outcome} (h : Extends count short long) (hshort : ComesTo logger short out)
    (hlong : ComesTo logger long out') : RunExtends out out' := by
  constructor
  · rw [hshort.output, hlong.output]
    exact h.printed.flatMap _
  · -- Only a fault adds something behind the records.
    intro hexit
    have hnone : short.failure = none := by
      rw [hshort.exit] at hexit
      by_contra hfailure
      simp [Option.isSome_iff_ne_none.2 hfailure] at hexit
    have hlogged : short.records.flatMap logger.write <+: long.records.flatMap logger.write :=
      h.logged.flatMap _
    rw [hshort.errors, hlong.errors, hnone, List.append_assoc, List.append_assoc,
      List.prefix_append_right_inj]
    calc short.records.flatMap logger.write ++ reportLine none
        = short.records.flatMap logger.write := List.append_nil _
      _ <+: long.records.flatMap logger.write := hlogged
      _ <+: long.records.flatMap logger.write ++ reportLine long.failure := List.prefix_append _ _
  · intro hexit
    have hfailure : short.failure.isSome := by
      by_contra hnone
      exact hexit (hshort.exit.trans (if_neg hnone))
    rw [h.fatal hfailure] at hlong
    exact hlong.unique hshort

/-- What asks for so many texts from a grammar file. -/
def asks (o : Options) (path : Text) (count : Nat) : Invocation :=
  ⟨o, .generate (some path) (some count)⟩

/-- Two runs of the program with one seed that only differ in the number of texts asked
for, whatever the libraries do: the run with more texts prints and warns what the other
one does and goes on from there. When the run with fewer texts ends with a fault, both do
the same. When it succeeds, it has printed or skipped as many texts as it was asked for,
and each skipped text has used up its attempts. The lines printed are the output of the
program, the log as far as it shows and the fault are its error output, and a fault is
what it answers with 1 for. -/
theorem run_extends (lib : Libraries σ) (files : Files) (path : Text) {o : Options}
    (hseed : o.seed.isSome) {n m : Nat} (h : n ≤ m) (fresh fresh' : σ) :
    Extends n (perform lib files fresh (asks o path n))
        (perform lib files fresh' (asks o path m)) ∧
      (∀ w ∈ warnings (perform lib files fresh (asks o path n)).records,
        ∃ number, w = skipWarning number (usedUp o.settings)) ∧
      ∀ environment args args', lib.arguments args = .ok (asks o path n) →
        lib.arguments args' = .ok (asks o path m) →
          ComesTo (setUpLogger lib environment o) (perform lib files fresh (asks o path n))
              (run lib files environment fresh args) ∧
            ComesTo (setUpLogger lib environment o) (perform lib files fresh' (asks o path m))
              (run lib files environment fresh' args') ∧
            RunExtends (run lib files environment fresh args)
              (run lib files environment fresh' args') := by
  have hextends := extends_generate lib files hseed path h fresh fresh'
  refine ⟨hextends, fun w hw => exists_of_mem_warnings hw, ?_⟩
  intro environment args args' hargs hargs'
  have hshort := comesTo_run hargs files environment fresh
  have hlong := comesTo_run hargs' files environment fresh'
  exact ⟨hshort, hlong, Extends.run hextends hshort hlong⟩

/-- A grammar file with two roots, one of which can be shortened to two characters. -/
def twoRoots : Directory where
  files := [("g.json".toList, "\x7b\"roots\":[\"ab<c>\",\"abcdefgh\"]\x7d".toList)]

/-- What asks for so many texts of at most two characters. -/
def twoRootsArgs (count : String) : List Text :=
  ["g.json", count, "--max-len", "2", "--max-attempts", "1", "--seed", "1"].map String.toList

/-- The options among these arguments. -/
def twoRootsOptions : Options where
  settings := { maxLength := 2, maxAttempts := 1 }
  seed := some 1
  fixers := [Fixer.possessive.name]

/-- Of two texts the first one is skipped, and five texts begin with these two. -/
theorem run_extends_twoRoots :
    (perform standard twoRoots.toFiles (.ofSeed 0)
        (asks twoRootsOptions "g.json".toList 2)).printed = ["Ab".toList] ∧
      Extends 2
        (perform standard twoRoots.toFiles (.ofSeed 0) (asks twoRootsOptions "g.json".toList 2))
        (perform standard twoRoots.toFiles (.ofSeed 0) (asks twoRootsOptions "g.json".toList 5)) ∧
      RunExtends (run standard twoRoots.toFiles none (.ofSeed 0) (twoRootsArgs "2"))
        (run standard twoRoots.toFiles none (.ofSeed 0) (twoRootsArgs "5")) := by
  have hshort : standard.arguments (twoRootsArgs "2")
      = .ok (asks twoRootsOptions "g.json".toList 2) := rfl
  have hlong : standard.arguments (twoRootsArgs "5")
      = .ok (asks twoRootsOptions "g.json".toList 5) := rfl
  have hseed : twoRootsOptions.seed.isSome := rfl
  have hcount : 2 ≤ 5 := by decide
  obtain ⟨hextends, -, hrun⟩ :=
    run_extends standard twoRoots.toFiles "g.json".toList hseed hcount (.ofSeed 0) (.ofSeed 0)
  exact ⟨by decide +kernel, hextends, (hrun none _ _ hshort hlong).2.2⟩

end Command

end Vignette
