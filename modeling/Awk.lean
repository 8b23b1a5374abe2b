import Awk.Main
import Awk.Proofs.Evaluation.Acts
import Awk.Proofs.Evaluation.Walk
import Awk.Proofs.Evaluation.Statements
import Awk.Proofs.Conduct.Keeps
import Awk.Proofs.Expression.Reduction
import Awk.Proofs.Expression.Build
import Awk.Proofs.Expression.Stack
import Awk.Proofs.Expression.Tracking
import Awk.Proofs.Ast.Parts
import Awk.Proofs.Ast.Assigns
import Awk.Proofs.Conduct.Discipline
import Awk.Proofs.Conduct.Statements
import Awk.Proofs.Conduct.Evaluation
import Awk.Proofs.Expression.Precedence
import Awk.Proofs.Grammar.Derivation
import Awk.Proofs.Grammar.Writing
import Awk.Proofs.Expression.Conforming
import Awk.Proofs.Grammar.Ensures
import Awk.Proofs.Grammar.Levels
import Awk.Proofs.Grammar.Soundness
import Awk.Proofs.Grammar.Programs
import Awk.Proofs.Grammar.Agreement
import Awk.Proofs.Conduct.Malformed
import Awk.Proofs.Conduct.History
import Awk.Proofs.Conduct.Jumps
import Awk.Proofs.Conduct.Runs
import Awk.Proofs.Expression.Segment
import Awk.Proofs.Expression.Layers
import Awk.Proofs.Grammar.Layering
import Awk.Proofs.Order.Commute
import Awk.Proofs.Order.Juxtaposition
import Awk.Proofs.Order.Formatting
import Awk.Proofs.Control.Fuel
import Awk.Proofs.Control.Structured
import Awk.Proofs.Control.Watched
import Awk.Proofs.Control.Adequacy
import Awk.Proofs.Grammar.Fuel
import Awk.Proofs.Grammar.Patterns
import Awk.Proofs.Invariant.Guarded
import Awk.Proofs.Invariant.Motion
import Awk.Proofs.Invariant.Law
import Awk.Proofs.Invariant.Runs
import Awk.Proofs.Scope.Lookup
import Awk.Proofs.Scope.Keeps
import Awk.Proofs.Scope.Calls
import Awk.Proofs.Scope.Arrays
import Awk.Proofs.Scope.Levels
import Awk.Proofs.Scope.Start
import Awk.Proofs.Scope.Renumbering
import Awk.Proofs.Invariant.FieldCount
import Awk.Proofs.Invariant.Scoping
import Awk.Proofs.Input.Reading
import Awk.Proofs.Number.Counting
import Awk.Proofs.Host.Files
import Awk.Proofs.Shell.Files
import Awk.Proofs.Streams.Tables
import Awk.Proofs.Streams.Contents
import Awk.Proofs.Streams.Kinds
import Awk.Proofs.Grammar.Numbering
import Awk.Proofs.Ranges.Blind
import Awk.Proofs.Ranges.Selection
import Awk.Proofs.Delivery.Due
import Awk.Proofs.Delivery.Requests
import Awk.Proofs.Delivery.Records
import Awk.Proofs.Delivery.Runs
import Awk.Proofs.Grammar.Attempts
import Awk.Proofs.Grammar.CarriedExprs
import Awk.Proofs.Grammar.CarriedPrograms
import Awk.Proofs.Grammar.Joined
import Awk.Proofs.Printf.Pieces
import Awk.Proofs.Streams.Closing
import Awk.Proofs.Text.Decoding
import Awk.Proofs.Input.Paragraphs
import Awk.Proofs.Number.Radix
import Awk.Proofs.Printf.Conversions
import Awk.Proofs.Printf.Integers
import Awk.Proofs.Control.Yields
import Awk.Proofs.Expression.Affixed
import Awk.Proofs.Order.Interchange
import Awk.Proofs.Order.Grouping
import Awk.Proofs.Fields.Runs
import Awk.Proofs.Fields.Coherence
import Awk.Proofs.Fields.Rebuilding
import Awk.Proofs.Fields.Oversized
import Awk.Proofs.Expression.Logged
import Awk.Proofs.Expression.Accepting
import Awk.Proofs.Expression.Reported
import Awk.Proofs.Source.Brackets
import Awk.Proofs.Number.Nearest
import Awk.Proofs.Number.Comparing
import Awk.Proofs.Number.Exact
import Awk.Proofs.Regex.Searching
import Awk.Proofs.Text.Replacing
import Awk.Proofs.Grammar.Forks
import Awk.Proofs.Grammar.Parenthesized
import Awk.Proofs.Grammar.Places
import Awk.Proofs.Grammar.Constructs
import Awk.Proofs.Source.Strings
import Awk.Proofs.Fields.Splitting
import Awk.Proofs.Fields.Subscripts
import Awk.Proofs.Number.Rounding
import Awk.Proofs.Number.Grammar
import Awk.Proofs.Text.Positions
import Awk.Proofs.Text.Substrings
import Awk.Proofs.Options.Settings
import Awk.Proofs.Options.Dividing
