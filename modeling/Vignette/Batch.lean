import Vignette.Generator

/-!
# `Vignette.Batch`: many texts from one random state

A batch makes one run after another. A run that uses up its attempts skips its
text, any other fault ends the batch.
-/

set_option autoImplicit false

namespace Vignette

/-- What a run means for its batch. -/
inductive BatchStep where
  /-- The run gave a text. -/
  | text (t : Text)
  /-- The text is skipped. -/
  | skip (fault : Fault)
  /-- The batch ends. -/
  | stop (fault : Fault)

def Run.batchStep (r : Run) : BatchStep :=
  match r.outcome with
  | .ok generation => .text generation.text
  | .error (.generationFailure attempts maxLength) =>
    .skip (.generationFailure attempts maxLength)
  | .error fault => .stop fault

/-- The runs of a batch, in order. -/
structure Batch where
  runs : List Run

namespace Batch

variable {σ : Type}

/-- Makes `count` runs, or as many as there are up to the first that stops the
batch. -/
def make (ch : Chooser σ) (g : Generator) : (count : Nat) → σ → Batch × σ
  | 0, s => (⟨[]⟩, s)
  | count + 1, s =>
    let (run, s) := g.run ch g.settings.maxLength s
    match run.batchStep with
    | .stop _ => (⟨[run]⟩, s)
    | _ =>
      let (later, s) := make ch g count s
      (⟨run :: later.runs⟩, s)

/-- The texts, in order. -/
def texts (b : Batch) : List Text :=
  b.runs.filterMap fun run =>
    match run.batchStep with
    | .text t => some t
    | _ => none

/-- The skipped texts, counted from 1, and why they are skipped. -/
def skips (b : Batch) : List (Nat × Fault) :=
  b.runs.zipIdx.filterMap fun (run, index) =>
    match run.batchStep with
    | .skip fault => some (index + 1, fault)
    | _ => none

/-- The fault that ended the batch. -/
def failure? (b : Batch) : Option Fault :=
  b.runs.getLast?.bind fun run =>
    match run.batchStep with
    | .stop fault => some fault
    | _ => none

end Batch

end Vignette
