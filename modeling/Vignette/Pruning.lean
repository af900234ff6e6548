import Vignette.Random.Chooser
import Vignette.Span

/-!
# `Vignette.Pruning`: shortening a text by cutting spans

While spans remain and the text without delimiters is longer than the budget,
one span is chosen among the present ones and cut out with its content. After
each cut the spans are looked up anew. Spans that survive keep their content,
and all delimiters are dropped from the result. When cutting every span is not
enough the result exceeds the budget.
-/

set_option autoImplicit false

namespace Vignette

/-- A span that was cut out. -/
structure Cut where
  /-- Its place among the spans present, counted from 0. -/
  index : Nat
  /-- How many spans there were. -/
  total : Nat
  /-- The text that was cut out, delimiters included. -/
  content : Text
  deriving DecidableEq, Repr

/-- How a pruning went. -/
structure Pruning where
  cuts : List Cut
  /-- What remains, with the delimiters of the spans that survive. -/
  rest : Text
  deriving DecidableEq, Repr

namespace Pruning

variable {σ : Type}

/-- The pruned text. -/
def result (p : Pruning) : Text :=
  Span.strip p.rest

/-- Cuts spans until the text fits or none is left. -/
def prune (ch : Chooser σ) (maxLength : Nat) (t : Text) (s : σ) : Pruning × σ :=
  match spans_eq : Span.all t with
  | [] => (⟨[], t⟩, s)
  | span :: spans =>
    if Span.effectiveLength t ≤ maxLength then (⟨[], t⟩, s)
    else
      let choice := ch.span spans.length s
      let chosen := (span :: spans).get choice.1
      have shorter : (chosen.cut t).byteLength < t.byteLength :=
        Span.byteLength_cut_lt (by rw [spans_eq]; exact List.get_mem _ _)
      let (p, s) := prune ch maxLength (chosen.cut t) choice.2
      ({ p with cuts := ⟨choice.1, spans.length + 1, chosen.slice t⟩ :: p.cuts }, s)
termination_by t.byteLength

end Pruning

end Vignette
