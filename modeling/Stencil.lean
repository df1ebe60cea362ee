import Stencil.Main
import Stencil.Proofs.Evaluation.Rules
import Stencil.Proofs.Evaluation.Values
import Stencil.Proofs.Evaluation.Steady
import Stencil.Proofs.Evaluation.Reading
import Stencil.Proofs.Evaluation.SideBySide
import Stencil.Proofs.Evaluation.Budget
import Stencil.Proofs.Evaluation.FreeHeads
import Stencil.Proofs.Evaluation.Renaming
import Stencil.Proofs.Evaluation.Pruning
import Stencil.Proofs.Evaluation.Concatenation
import Stencil.Proofs.Text.Braces
import Stencil.Proofs.Text.Spelling
import Stencil.Proofs.Json.Texts
import Stencil.Proofs.Filter.Calm
import Stencil.Proofs.Evaluation.Answers
import Stencil.Proofs.Evaluation.Resolved
import Stencil.Proofs.Evaluation.Splicing
import Stencil.Proofs.Evaluation.Requests
import Stencil.Proofs.Evaluation.Discipline
import Stencil.Proofs.Text.Trimming
import Stencil.Proofs.Placeholder.Grammar
import Stencil.Proofs.Placeholder.Pipes
import Stencil.Proofs.Placeholder.Cursor
import Stencil.Proofs.Placeholder.Bare
import Stencil.Proofs.Placeholder.Writing
import Stencil.Proofs.Evaluation.Rows
import Stencil.Proofs.Evaluation.Levels
import Stencil.Proofs.Command.Rendering
import Stencil.Proofs.Evaluation.Foretold
import Stencil.Proofs.Placeholder.Chains
import Stencil.Proofs.Placeholder.Delimiters
import Stencil.Proofs.Placeholder.Fallbacks
import Stencil.Proofs.Placeholder.Padding
import Stencil.Proofs.Evaluation.Operands
import Stencil.Proofs.Evaluation.Negation
import Stencil.Proofs.Calendar.Formats
import Stencil.Proofs.Calendar.Representable
import Stencil.Proofs.Filter.Dates
import Stencil.Proofs.Filter.Epochs
import Stencil.Proofs.Filter.Durations
import Stencil.Proofs.Filter.Entities
