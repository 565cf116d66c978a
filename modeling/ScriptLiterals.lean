import ScriptLiterals.Main
import ScriptLiterals.Proofs.Recognizer
import ScriptLiterals.Respell
import ScriptLiterals.Walk
import ScriptLiterals.Proofs.Number.Digits
import ScriptLiterals.Proofs.Quoted.Unescape
import ScriptLiterals.Proofs.Quoted.Pieces
import ScriptLiterals.Proofs.Quoted.RoundTrip
import ScriptLiterals.Proofs.Number.Readers
import ScriptLiterals.Proofs.Number.RoundTrip
import ScriptLiterals.Proofs.Placement
import ScriptLiterals.Proofs.Number.Grammar
import ScriptLiterals.Proofs.Number.Longest
import ScriptLiterals.Proofs.Quoted.Grammar
import ScriptLiterals.Proofs.Context
import ScriptLiterals.Proofs.Unambiguous
import ScriptLiterals.Proofs.Regexp.RoundTrip
import ScriptLiterals.Proofs.Regexp.Grammar
import ScriptLiterals.Proofs.Comment.Closers
import ScriptLiterals.Proofs.Lines
import ScriptLiterals.Proofs.Comment.Paragraphs
import ScriptLiterals.Proofs.Comment.LineComments
import ScriptLiterals.Proofs.Double.Magnitudes
import ScriptLiterals.Proofs.Double.Nearest
import ScriptLiterals.Proofs.Double.WholeNumbers
import ScriptLiterals.Proofs.Number.Folding
import ScriptLiterals.Proofs.Number.WholeDoubles
import ScriptLiterals.Proofs.Number.Reprinting
import ScriptLiterals.Proofs.Quoted.EscapePairs
import ScriptLiterals.Proofs.Utf16
import ScriptLiterals.Proofs.Hex
import ScriptLiterals.Proofs.Quoted.CodeUnits
import ScriptLiterals.Proofs.Quoted.Overflow
import ScriptLiterals.Proofs.Quoted.Braces
import ScriptLiterals.Proofs.Quoted.Numbered
import ScriptLiterals.Proofs.Quoted.Kept
import ScriptLiterals.Proofs.Quoted.Splices
import ScriptLiterals.Proofs.Regexp.Normalized
import ScriptLiterals.Proofs.Regexp.Flags
import ScriptLiterals.Proofs.Failures
import ScriptLiterals.Proofs.Comment.Grammar
import ScriptLiterals.Proofs.Constants
import ScriptLiterals.Proofs.Session.OpenEntries
import ScriptLiterals.Proofs.Session.DetectedEntries
import ScriptLiterals.Proofs.Session.ActiveKind
import ScriptLiterals.Proofs.Session.Commands
import ScriptLiterals.Proofs.Session.Completions
import ScriptLiterals.Proofs.Comment.Joining
import ScriptLiterals.Proofs.Cursor.Runs
