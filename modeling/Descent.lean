import Descent.Chars.Run
import Descent.Chars.Space
import Descent.Chars.Numeric
import Descent.Chars.Letter
import Descent.Chars.Lower
import Descent.Chars.Upper
import Descent.Chars.Printable
import Descent.Text.Bytes
import Descent.Text.Numeral
import Descent.Text.Quoted
import Descent.Position
import Descent.Span
import Descent.Cursor
import Descent.Value
import Descent.Rule
import Descent.Failure
import Descent.Reply
import Descent.Snippet
import Descent.Error
import Descent.Journal
import Descent.Verdict
import Descent.CharClass
import Descent.Parser.Basic
import Descent.Parser.Lexeme
import Descent.Pattern
import Descent.Matcher
import Descent.Guard
import Descent.Blueprint
import Descent.RuleBook
import Descent.Blueprint.Build
import Descent.World
import Descent.Session
import Descent.Script.Walk
import Descent.Script.Ledger
import Descent.Proofs.Advance
import Descent.Proofs.Places
import Descent.Proofs.Literal
import Descent.Proofs.Caret
import Descent.Proofs.Dialogue
import Descent.Proofs.Slots
import Descent.Proofs.Growth
import Descent.Proofs.Expansion
import Descent.Proofs.Chronicle
import Descent.Proofs.Defect
import Descent.Proofs.Depth
import Descent.Proofs.Faithful
import Descent.Proofs.Forward
import Descent.Proofs.Termination
import Descent.Proofs.Transparency
import Descent.Proofs.GuardKept
import Descent.Proofs.Recoverable
import Descent.Proofs.GuardIndependence
import Descent.Proofs.Sharing
import Descent.Proofs.Visits
import Descent.Proofs.Packrat
import Descent.Proofs.Kinship
import Descent.Proofs.Pairing
import Descent.Proofs.Labels
import Descent.Proofs.Lossless
import Descent.Proofs.Shift
import Descent.Proofs.Phases
import Descent.Proofs.RuleHistory
import Descent.Proofs.WriteOnce
import Descent.Proofs.Outcomes
import Descent.Proofs.Total
import Descent.Proofs.Distinct
import Descent.Proofs.Fixed
import Descent.Proofs.Alternation
import Descent.Proofs.Greedy
import Descent.Proofs.Continuation
import Descent.Proofs.Chains
import Descent.Proofs.Identifiers
import Descent.Proofs.Bounded
import Descent.Proofs.Anchored
import Descent.Proofs.Terminator
import Descent.Proofs.Ownership
import Descent.Proofs.Provenance
import Descent.Proofs.Holding
import Descent.Proofs.Closed
import Descent.Proofs.HeldRules
import Descent.Proofs.Liveness
import Descent.Proofs.Reading
import Descent.Proofs.Decimals
import Descent.Proofs.Tiling
import Descent.Proofs.Delimited
import Descent.Proofs.Tables
import Descent.Proofs.Arithmetic
import Descent.Proofs.Evaluation
