import UtilityCss.Cache.Basic
import UtilityCss.Cache.Store
import UtilityCss.ClassList.Group
import UtilityCss.ClassList.Split
import UtilityCss.ClassToken.Arbitrary
import UtilityCss.ClassToken.Basic
import UtilityCss.ClassToken.Variant
import UtilityCss.CommandLine.Basic
import UtilityCss.CommandLine.Usage
import UtilityCss.Compiler.Basic
import UtilityCss.Compiler.Render
import UtilityCss.Compiler.Resolve
import UtilityCss.Config.Basic
import UtilityCss.Diagnostic.Basic
import UtilityCss.Digest.Sha256
import UtilityCss.Document.Basic
import UtilityCss.Event.Basic
import UtilityCss.Event.Bus
import UtilityCss.Failure.Basic
import UtilityCss.Failure.Misuse
import UtilityCss.Handler.Basic
import UtilityCss.Json.Basic
import UtilityCss.Json.Raw
import UtilityCss.Json.Reader
import UtilityCss.Json.Table
import UtilityCss.Json.Writer
import UtilityCss.Log.Basic
import UtilityCss.Main
import UtilityCss.Number.Basic
import UtilityCss.Number.Decimal
import UtilityCss.Number.Reader
import UtilityCss.Pattern.Anchor
import UtilityCss.Pattern.Basic
import UtilityCss.Pattern.CharSet
import UtilityCss.Pattern.Cursor
import UtilityCss.Pattern.Escape
import UtilityCss.Pattern.Fault
import UtilityCss.Pattern.Matching
import UtilityCss.Pattern.Reader
import UtilityCss.Pattern.Set
import UtilityCss.Pattern.Tree
import UtilityCss.Proofs.Cache.Operations
import UtilityCss.Proofs.Compiler.Sheet
import UtilityCss.Proofs.Compiler.Version
import UtilityCss.Proofs.Registry.Lookup
import UtilityCss.Proofs.Registry.Order
import UtilityCss.Proofs.Registry.Roster
import UtilityCss.Registry.Basic
import UtilityCss.Rule.Basic
import UtilityCss.Selector.Basic
import UtilityCss.Template.Basic
import UtilityCss.Template.Fill
import UtilityCss.Template.Layout
import UtilityCss.Text.Basic
import UtilityCss.Text.Blank
import UtilityCss.Text.Bounds
import UtilityCss.Text.Case
import UtilityCss.Text.Digit
import UtilityCss.Text.Identifier
import UtilityCss.Text.Letter
import UtilityCss.Text.Printable
import UtilityCss.Text.Quoted
import UtilityCss.Text.Word
import UtilityCss.Theme.Basic
import UtilityCss.Proofs.Compiler.Caching
import UtilityCss.Proofs.Compiler.Transparency
import UtilityCss.Proofs.Cache.History
import UtilityCss.Proofs.Cache.Recency
import UtilityCss.Proofs.ClassList.Cuts
import UtilityCss.Proofs.ClassList.Forest
import UtilityCss.Proofs.Registry.FullScan
import UtilityCss.Proofs.Cache.Freshness
import UtilityCss.Proofs.Cache.Settings
import UtilityCss.Proofs.Compiler.Runs
import UtilityCss.Proofs.Compiler.Findings
import UtilityCss.Proofs.ClassList.Joined
import UtilityCss.Proofs.ClassToken.Chain
import UtilityCss.Proofs.ClassList.Distribution
import UtilityCss.Proofs.ClassToken.Decomposition
import UtilityCss.Proofs.ClassToken.RoundTrip
import UtilityCss.Proofs.ClassList.Literal
import UtilityCss.Proofs.ClassList.Rejoined
import UtilityCss.Proofs.CommandLine.Verdict
import UtilityCss.Proofs.Cache.Order
import UtilityCss.Proofs.Cache.Views
import UtilityCss.Proofs.ClassList.Restart
import UtilityCss.Proofs.ClassList.Pieces
import UtilityCss.Proofs.Failure.Outcome
import UtilityCss.Proofs.Json.Keys
import UtilityCss.Proofs.Config.Reading
import UtilityCss.Proofs.Number.Digits
import UtilityCss.Proofs.Document.Reading
import UtilityCss.Proofs.Document.Rules
import UtilityCss.Proofs.Registry.Permutation
import UtilityCss.Proofs.Template.Faults
import UtilityCss.Proofs.Document.Generation
import UtilityCss.Proofs.Compiler.Accounting
import UtilityCss.Proofs.Compiler.Retained
import UtilityCss.Proofs.Compiler.Warm
import UtilityCss.Proofs.Pattern.Runs
import UtilityCss.Proofs.Pattern.Paired
import UtilityCss.Proofs.Pattern.Beside
import UtilityCss.Proofs.Pattern.Parts
import UtilityCss.Proofs.Pattern.Groups
import UtilityCss.Proofs.Pattern.Head
import UtilityCss.Proofs.Pattern.Anchoring
import UtilityCss.Proofs.Pattern.Late
import UtilityCss.Proofs.Pattern.Refusal
import UtilityCss.Proofs.Event.Registrations
import UtilityCss.Proofs.Registry.Strict
import UtilityCss.Proofs.Template.Plain
import UtilityCss.Proofs.Document.Templates
import UtilityCss.Proofs.Pattern.Rounds
import UtilityCss.Proofs.Pattern.Ordinary
import UtilityCss.Proofs.Pattern.Bars
import UtilityCss.Proofs.Pattern.Outside
import UtilityCss.Proofs.Pattern.Leading
import UtilityCss.Proofs.Registry.Words
import UtilityCss.Proofs.Event.Delivery
import UtilityCss.Proofs.Text.Ascii
import UtilityCss.Proofs.Text.Hexadecimal
import UtilityCss.Proofs.Text.Order
import UtilityCss.Proofs.Selector.Escaping
import UtilityCss.Proofs.Json.Raw
import UtilityCss.Proofs.Json.Strings
import UtilityCss.Proofs.Json.Alike
import UtilityCss.Proofs.Json.Canonical
import UtilityCss.Proofs.Text.Quoted
import UtilityCss.Proofs.Theme.Fingerprint
import UtilityCss.Proofs.Json.Inspect
import UtilityCss.Proofs.Theme.Mark
import UtilityCss.Proofs.Compiler.ThemeOrder
import UtilityCss.Proofs.Selector.Identifier
import UtilityCss.Proofs.ClassToken.Colons
import UtilityCss.Proofs.Cache.Counts
