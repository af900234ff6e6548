import Vignette.Generator.Json
import Vignette.Main
import Vignette.Proofs.Command.Example
import Vignette.Proofs.Expansion.Cycle
import Vignette.Proofs.Expansion.Choices
import Vignette.Proofs.Generator.Length
import Vignette.Proofs.Span.Pieces
import Vignette.Proofs.Span.Outside
import Vignette.Proofs.Span.Unpaired
import Vignette.Proofs.Pruning.Order
import Vignette.Proofs.Pruning.Budget
import Vignette.Proofs.Generator.Decision
import Vignette.Proofs.Expansion.Rewriting
import Vignette.Proofs.Fixer.Tokens
import Vignette.Proofs.Generator.Leaks
import Vignette.Proofs.Expansion.Height
import Vignette.Proofs.Grammar.Lint
import Vignette.Proofs.Expansion.Lockstep
import Vignette.Proofs.Generator.Unreached
import Vignette.Proofs.Span.Pairing
import Vignette.Proofs.Fixer.Notation
import Vignette.Proofs.Generator.Sole
import Vignette.Proofs.Batch.Extension
import Vignette.Proofs.Command.Extension
import Vignette.Proofs.Grammar.FirstFault
import Vignette.Proofs.Grammar.Findings
import Vignette.Proofs.Expansion.Intact
import Vignette.Proofs.Token.Strays
import Vignette.Proofs.Token.Pairs
import Vignette.Proofs.Expansion.Leaves
import Vignette.Proofs.Expansion.Limit
import Vignette.Proofs.Generator.Possessive
import Vignette.Proofs.Generator.Retries
import Vignette.Proofs.Pruning.Extension
import Vignette.Proofs.Span.Bytes
import Vignette.Proofs.Pruning.Bounds
import Vignette.Proofs.Fixer.Assembly
import Vignette.Proofs.Span.Removal
import Vignette.Proofs.Pruning.Rounds
import Vignette.Proofs.Span.Covered
import Vignette.Proofs.Fixer.Repeated
import Vignette.Proofs.Fixer.Shout
import Vignette.Proofs.Fixer.Whitespace
