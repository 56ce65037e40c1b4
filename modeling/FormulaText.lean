import FormulaText.Character.Alphabetic
import FormulaText.Character.Casing
import FormulaText.Character.Ranges
import FormulaText.Character.Visible
import FormulaText.Character.WhiteSpace
import FormulaText.Expr.Basic
import FormulaText.Expr.Equality
import FormulaText.Expr.Operator
import FormulaText.Expr.Precedence
import FormulaText.Grammar.Depth
import FormulaText.Grammar.Event
import FormulaText.Grammar.Reader
import FormulaText.Grammar.Reading
import FormulaText.Grammar.Rules
import FormulaText.Latex.Formula
import FormulaText.Latex.Lexemes
import FormulaText.Latex.Printer
import FormulaText.Latex.Scanner
import FormulaText.Linear.Formula
import FormulaText.Linear.Lexemes
import FormulaText.Linear.Printer
import FormulaText.Linear.Scanner
import FormulaText.Number.Binary64
import FormulaText.Number.Decimal
import FormulaText.Number.Numeral
import FormulaText.Number.Power
import FormulaText.Number.Rounding
import FormulaText.Number.Shortest
import FormulaText.PrefixMap.Basic
import FormulaText.PrefixMap.Buckets
import FormulaText.PrefixMap.Sorted
import FormulaText.PrefixMap.Subtries
import FormulaText.PrefixMap.Trie
import FormulaText.Proofs.Arithmetic.Kept
import FormulaText.Proofs.Arithmetic.Phrases
import FormulaText.Proofs.Arithmetic.Products
import FormulaText.Proofs.Arithmetic.Reading
import FormulaText.Proofs.Arithmetic.Value
import FormulaText.Proofs.Arithmetic.Written
import FormulaText.Proofs.Character.Classes
import FormulaText.Proofs.Expr.Legible
import FormulaText.Proofs.Expr.Nodes
import FormulaText.Proofs.Expr.Regroup
import FormulaText.Proofs.Expr.SignsOfZero
import FormulaText.Proofs.Grammar.Abbreviations
import FormulaText.Proofs.Grammar.Agreement
import FormulaText.Proofs.Grammar.Brackets
import FormulaText.Proofs.Grammar.Chain
import FormulaText.Proofs.Grammar.Completeness
import FormulaText.Proofs.Grammar.Exact
import FormulaText.Proofs.Grammar.Invariants
import FormulaText.Proofs.Grammar.Locality
import FormulaText.Proofs.Grammar.Lookahead
import FormulaText.Proofs.Grammar.MoreFunctions
import FormulaText.Proofs.Grammar.Phrase
import FormulaText.Proofs.Grammar.Pulls
import FormulaText.Proofs.Grammar.Refusal
import FormulaText.Proofs.Grammar.Rejections
import FormulaText.Proofs.Grammar.Resemblance
import FormulaText.Proofs.Grammar.Shape
import FormulaText.Proofs.Grammar.Soundness
import FormulaText.Proofs.Grammar.Tiers
import FormulaText.Proofs.Grammar.Underway
import FormulaText.Proofs.Grammar.Upcoming
import FormulaText.Proofs.Grammar.Viable
import FormulaText.Proofs.Latex.ControlWords
import FormulaText.Proofs.Latex.Derivation
import FormulaText.Proofs.Latex.Faithful
import FormulaText.Proofs.Latex.Layout
import FormulaText.Proofs.Latex.Neighbours
import FormulaText.Proofs.Latex.Printing
import FormulaText.Proofs.Latex.Rereading
import FormulaText.Proofs.Latex.Roundtrip
import FormulaText.Proofs.Latex.Scanning
import FormulaText.Proofs.Latex.Words
import FormulaText.Proofs.Linear.Ambiguity
import FormulaText.Proofs.Linear.Meaning
import FormulaText.Proofs.Linear.PlusSigns
import FormulaText.Proofs.Linear.Printing
import FormulaText.Proofs.Linear.Products
import FormulaText.Proofs.Linear.Roundtrip
import FormulaText.Proofs.Linear.Row
import FormulaText.Proofs.Linear.Scanning
import FormulaText.Proofs.Linear.Twins
import FormulaText.Proofs.Linear.Value
import FormulaText.Proofs.Number.Notation
import FormulaText.Proofs.Number.Reading
import FormulaText.Proofs.Number.Spelling
import FormulaText.Proofs.PrefixMap.AbsentKeys
import FormulaText.Proofs.PrefixMap.Agreement
import FormulaText.Proofs.PrefixMap.Answer
import FormulaText.Proofs.PrefixMap.Buckets
import FormulaText.Proofs.PrefixMap.Canonical
import FormulaText.Proofs.PrefixMap.Longest
import FormulaText.Proofs.PrefixMap.Sorted
import FormulaText.Proofs.PrefixMap.Subtries
import FormulaText.Proofs.Scan.Carets
import FormulaText.Proofs.Scan.Lines
import FormulaText.Proofs.Scan.Numerals
import FormulaText.Proofs.Scan.Pieces
import FormulaText.Proofs.Scan.Places
import FormulaText.Proofs.Scan.Positions
import FormulaText.Proofs.Scan.Reads
import FormulaText.Proofs.Scan.Settling
import FormulaText.Proofs.Scan.SharedText
import FormulaText.Proofs.Scan.Spans
import FormulaText.Proofs.Scan.Spelling
import FormulaText.Proofs.Vocabulary.Batches
import FormulaText.Proofs.Vocabulary.Names
import FormulaText.Scan.Cursor
import FormulaText.Scan.Lexical
import FormulaText.Text.LowerCase
import FormulaText.Text.Quoted
import FormulaText.Token.Basic
import FormulaText.Token.Bracket
import FormulaText.Token.Fault
import FormulaText.Token.Lexeme
import FormulaText.Token.Playback
import FormulaText.Token.Record
import FormulaText.Token.Source
import FormulaText.Token.SyntaxError
import FormulaText.Vocabulary.Functions
import FormulaText.Vocabulary.Greek
