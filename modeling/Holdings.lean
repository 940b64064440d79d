import Holdings.Abort
import Holdings.Amount.Checked
import Holdings.Amount.Division
import Holdings.Amount.Range
import Holdings.Amount.Scalar
import Holdings.Amount.Text
import Holdings.Comparison
import Holdings.Contract.Documents
import Holdings.Contract.Forms
import Holdings.Contract.Schema
import Holdings.Document
import Holdings.Document.Keyword
import Holdings.Document.Library
import Holdings.Document.Reader
import Holdings.Document.Schema
import Holdings.Document.Token
import Holdings.Document.Writer
import Holdings.Entity
import Holdings.Entity.Fields
import Holdings.Entity.Records
import Holdings.Entity.Verdict
import Holdings.Fault
import Holdings.Folder
import Holdings.Holding
import Holdings.Holding.Arithmetic
import Holdings.Identity
import Holdings.IssuedSymbol
import Holdings.Journal
import Holdings.Ledger.Attributes
import Holdings.Ledger.Construction
import Holdings.Ledger.Heap
import Holdings.Ledger.Methods
import Holdings.Ledger.Operators
import Holdings.Ledger.Step
import Holdings.Ledger.Term
import Holdings.Ledger.World
import Holdings.Logging
import Holdings.Number.Arithmetic
import Holdings.Number.Binary64
import Holdings.Number.Rounding
import Holdings.Number.Shortest
import Holdings.Path
import Holdings.Pattern
import Holdings.Pattern.Escape
import Holdings.Pattern.Extent
import Holdings.Pattern.Flaw
import Holdings.Pattern.Group
import Holdings.Pattern.Mark
import Holdings.Proofs.Admissible
import Holdings.Proofs.Causes
import Holdings.Proofs.Checks
import Holdings.Proofs.Checks.Bytes
import Holdings.Proofs.Checks.Values
import Holdings.Proofs.Contract.Copies
import Holdings.Proofs.Contract.Keywords
import Holdings.Proofs.Contract.Meaning
import Holdings.Proofs.Contract.Numbers
import Holdings.Proofs.Contract.Placed
import Holdings.Proofs.Contract.Published
import Holdings.Proofs.Document.Files
import Holdings.Proofs.Document.Loading
import Holdings.Proofs.Entries
import Holdings.Proofs.Exact
import Holdings.Proofs.Ledger.Acts
import Holdings.Proofs.Ledger.Agreement
import Holdings.Proofs.Ledger.Arithmetic
import Holdings.Proofs.Ledger.Atomicity
import Holdings.Proofs.Ledger.Audit
import Holdings.Proofs.Ledger.Balance
import Holdings.Proofs.Ledger.Building
import Holdings.Proofs.Ledger.Calculation
import Holdings.Proofs.Ledger.Changing
import Holdings.Proofs.Ledger.Division
import Holdings.Proofs.Ledger.Frame
import Holdings.Proofs.Ledger.Gateways
import Holdings.Proofs.Ledger.Heap
import Holdings.Proofs.Ledger.InUse
import Holdings.Proofs.Ledger.Invariant
import Holdings.Proofs.Ledger.Lifting
import Holdings.Proofs.Ledger.LogCalls
import Holdings.Proofs.Ledger.Negation
import Holdings.Proofs.Ledger.Order
import Holdings.Proofs.Ledger.Reports
import Holdings.Proofs.Ledger.Running
import Holdings.Proofs.Ledger.Scaling
import Holdings.Proofs.Ledger.Sentinel
import Holdings.Proofs.Ledger.Separation
import Holdings.Proofs.Ledger.Setup
import Holdings.Proofs.Ledger.Surroundings
import Holdings.Proofs.Ledger.Texts
import Holdings.Proofs.Objects
import Holdings.Proofs.Outcome
import Holdings.Proofs.Precedence
import Holdings.Proofs.Record.Bijection
import Holdings.Proofs.Record.Data
import Holdings.Proofs.Record.Forms
import Holdings.Proofs.Record.Refusal
import Holdings.Proofs.Text.Amounts
import Holdings.Proofs.Text.Numerals
import Holdings.Proofs.Wire.Bijection
import Holdings.Proofs.Wire.Entities
import Holdings.Proofs.Wire.Formats
import Holdings.Proofs.Wire.Framing
import Holdings.Proofs.Wire.Numbers
import Holdings.Proofs.Wire.Padding
import Holdings.Proofs.Wire.Refusal
import Holdings.Proofs.Wire.Symbols
import Holdings.Proofs.Wire.Turns
import Holdings.Proofs.Wire.Words
import Holdings.Quantity
import Holdings.Quantity.Arithmetic
import Holdings.Quantity.Order
import Holdings.Settings
import Holdings.Settings.EnvFile
import Holdings.Settings.Options
import Holdings.Settings.Resolution
import Holdings.Symbol
import Holdings.Symbol.Word
import Holdings.Tagged
import Holdings.Text.Blank
import Holdings.Text.CharName
import Holdings.Text.CharName.Aliases
import Holdings.Text.CharName.From0000
import Holdings.Text.CharName.From1000
import Holdings.Text.CharName.From10000
import Holdings.Text.CharName.From12000
import Holdings.Text.CharName.From1D000
import Holdings.Text.CharName.From1F000
import Holdings.Text.CharName.From2000
import Holdings.Text.CharName.From2800
import Holdings.Text.CharName.FromA000
import Holdings.Text.CodePoint
import Holdings.Text.Digits
import Holdings.Text.Identifier
import Holdings.Text.Integer
import Holdings.Text.Printable
import Holdings.Text.Quoted
import Holdings.Text.Split
import Holdings.Value
import Holdings.Value.Arithmetic
import Holdings.Value.Comparison
import Holdings.Value.Text
import Holdings.Version
import Holdings.Wire.Bytes
import Holdings.Wire.Codec
import Holdings.Wire.Word
