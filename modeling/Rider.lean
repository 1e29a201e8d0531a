import Rider.Config
import Rider.Config.Settings
import Rider.Context
import Rider.Handler
import Rider.Identifier
import Rider.Ignored
import Rider.Interpreter
import Rider.Json.Basic
import Rider.Json.Decimal
import Rider.Json.Decode
import Rider.Json.Form
import Rider.Json.Print
import Rider.Json.Read
import Rider.Members
import Rider.Mismatch
import Rider.Plugin
import Rider.Reading
import Rider.Reading.Judge
import Rider.Reading.Walk
import Rider.Registry
import Rider.Report
import Rider.Scope
import Rider.Session
import Rider.Session.Fault
import Rider.Shape
import Rider.Shape.Valid
import Rider.Source
import Rider.Statement
import Rider.Text.Blank
import Rider.Text.CaseTable
import Rider.Text.HiddenTable
import Rider.Text.Lines
import Rider.Text.LowerCase
import Rider.Text.Numeral
import Rider.Text.Quoted
import Rider.Text.Ranges
import Rider.Token
import Rider.Token.Scan
import Rider.WordSet
import Rider.Proofs.Lists
import Rider.Proofs.Json.Number
import Rider.Proofs.Json.Layout
import Rider.Proofs.Registry.Index
import Rider.Proofs.Reading.Exhaustive
import Rider.Proofs.Reading.Grammar
import Rider.Proofs.Reading.Unambiguous
import Rider.Proofs.Reading.Acceptance
import Rider.Proofs.Reading.Extension
import Rider.Proofs.Identifier.Spelling
import Rider.Proofs.Members
import Rider.Proofs.Statement.Written
import Rider.Proofs.Statement.Resolution
import Rider.Proofs.Statement.RoundTrip
import Rider.Proofs.Session.Parse
import Rider.Proofs.Session.Trace
import Rider.Proofs.Session.Phase
import Rider.Proofs.Session.Run
import Rider.Proofs.Session.Outcome
import Rider.Proofs.Session.Order
import Rider.Proofs.Session.Consistency
import Rider.Proofs.Shape.Display
import Rider.Proofs.Token.Place
import Rider.Proofs.Reading.Blame
import Rider.Proofs.Source.Underline
import Rider.Proofs.Source.Excerpt
import Rider.Proofs.Report.Findings
import Rider.Proofs.Report.Rows
import Rider.Proofs.Session.Diagnostics
import Rider.Proofs.Token.Quote
import Rider.Proofs.Token.Segmentation
import Rider.Proofs.Token.Concatenation
import Rider.Proofs.Token.Unclosed
import Rider.Proofs.Identifier.Decoding
import Rider.Proofs.Identifier.Code
import Rider.Proofs.Reading.Score
import Rider.Proofs.Reading.OneToken
import Rider.Proofs.Reading.Reordering
import Rider.Proofs.Reading.Account
import Rider.Proofs.Reading.LetterCase
import Rider.Proofs.Reading.Verdict
import Rider.Proofs.Reading.Naming
import Rider.Proofs.Plugin.Registration
import Rider.Proofs.Registry.Merging
import Rider.Proofs.Shape.Identity
import Rider.Proofs.Shape.Grammar
import Rider.Proofs.Source.Window
import Rider.Proofs.Text.Trim
import Rider.Proofs.Text.Numeral
import Rider.Proofs.Text.Cut
import Rider.Proofs.Text.Lines
import Rider.Proofs.Ignored.LogLine
import Rider.Proofs.Ignored.Log
import Rider.Proofs.Context
