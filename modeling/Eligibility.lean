import Eligibility.Authority.Answer
import Eligibility.Authority.Client
import Eligibility.Authority.Session
import Eligibility.Calendar.Date
import Eligibility.Calendar.Duration
import Eligibility.Calendar.Reader
import Eligibility.Calendar.Rfc3339
import Eligibility.Calendar.Stamp
import Eligibility.Cli.Command
import Eligibility.Cli.Parameter
import Eligibility.Cli.Report
import Eligibility.Cli.Run
import Eligibility.Cli.Usage
import Eligibility.Cli.Words
import Eligibility.Curve.Secp256k1
import Eligibility.Decimal.Binary64
import Eligibility.Decimal.Notation
import Eligibility.Decimal.Power
import Eligibility.Decimal.Rounding
import Eligibility.Decimal.Shortest
import Eligibility.Digest.Blocks
import Eligibility.Digest.Keccak
import Eligibility.Digest.Sha256
import Eligibility.Field
import Eligibility.Gate
import Eligibility.Http.Application
import Eligibility.Http.Cors
import Eligibility.Http.Host
import Eligibility.Http.Message
import Eligibility.Http.Payload
import Eligibility.Http.Target
import Eligibility.Json.Basic
import Eligibility.Json.Reader
import Eligibility.Json.Writer
import Eligibility.Main
import Eligibility.Mapping
import Eligibility.Proofs.Authority.Ownership
import Eligibility.Proofs.Calendar.Date
import Eligibility.Proofs.Calendar.Order
import Eligibility.Proofs.Calendar.Reader
import Eligibility.Proofs.Calendar.Rfc3339
import Eligibility.Proofs.Calendar.Stamp
import Eligibility.Proofs.Cli.Agreement
import Eligibility.Proofs.Cli.Line
import Eligibility.Proofs.Curve.Field
import Eligibility.Proofs.Curve.Group
import Eligibility.Proofs.Curve.Lift
import Eligibility.Proofs.Curve.Order
import Eligibility.Proofs.Curve.Prime
import Eligibility.Proofs.Decimal.Notation
import Eligibility.Proofs.Decimal.Order
import Eligibility.Proofs.Field
import Eligibility.Proofs.Gate.Attainable
import Eligibility.Proofs.Gate.Built
import Eligibility.Proofs.Gate.Decision
import Eligibility.Proofs.Gate.Forward
import Eligibility.Proofs.Gate.Refusal
import Eligibility.Proofs.Http.Route
import Eligibility.Proofs.Http.Statement
import Eligibility.Proofs.Http.Verify
import Eligibility.Proofs.Mapping
import Eligibility.Proofs.Outcome
import Eligibility.Proofs.Resource.Build
import Eligibility.Proofs.Resource.Findings
import Eligibility.Proofs.Resource.Identifier
import Eligibility.Proofs.Resource.Line
import Eligibility.Proofs.Resource.LineEnds
import Eligibility.Proofs.Resource.Reading
import Eligibility.Proofs.Resource.Recovery
import Eligibility.Proofs.Resource.Refusal
import Eligibility.Proofs.Resource.RoundTrip
import Eligibility.Proofs.Resource.Section
import Eligibility.Proofs.Resource.Strict
import Eligibility.Proofs.Resource.Survey
import Eligibility.Proofs.Settings.Usable
import Eligibility.Proofs.Signing.Belonging
import Eligibility.Proofs.Signing.Effects
import Eligibility.Proofs.Signing.History
import Eligibility.Proofs.Signing.Lifetime
import Eligibility.Proofs.Signing.Repeat
import Eligibility.Proofs.Statement.Build
import Eligibility.Proofs.Statement.Buildable
import Eligibility.Proofs.Statement.Grammar
import Eligibility.Proofs.Statement.Header
import Eligibility.Proofs.Statement.Layout
import Eligibility.Proofs.Statement.Message
import Eligibility.Proofs.Statement.Order
import Eligibility.Proofs.Statement.Parse
import Eligibility.Proofs.Statement.Reader
import Eligibility.Proofs.Statement.Time
import Eligibility.Proofs.Statement.Unambiguous
import Eligibility.Proofs.Statement.Window
import Eligibility.Proofs.Text.Breaks
import Eligibility.Proofs.Text.Case
import Eligibility.Proofs.Text.Cut
import Eligibility.Proofs.Text.Digit
import Eligibility.Proofs.Text.Items
import Eligibility.Proofs.Text.Lines
import Eligibility.Proofs.Trait.Faults
import Eligibility.Proofs.Trait.Implication
import Eligibility.Proofs.Trait.Preorder
import Eligibility.Proofs.Trait.Writable
import Eligibility.Proofs.Uri.Address
import Eligibility.Proofs.Uri.Derivation
import Eligibility.Proofs.Uri.Grammar
import Eligibility.Proofs.Uri.Parts
import Eligibility.Proofs.Uri.Rules
import Eligibility.Proofs.Uri.Web
import Eligibility.Proofs.Validation.RawForm
import Eligibility.Proofs.Validation.Unreadable
import Eligibility.Proofs.Wallet.Address
import Eligibility.Proofs.Wallet.Base64Url
import Eligibility.Proofs.Wallet.WebKey
import Eligibility.Resource.Build
import Eligibility.Resource.Line
import Eligibility.Resource.Scan
import Eligibility.Resource.Section
import Eligibility.Scenario
import Eligibility.Settings.Basic
import Eligibility.Settings.Environment
import Eligibility.Signing.Cache
import Eligibility.Signing.Generate
import Eligibility.Statement.Build
import Eligibility.Statement.Grammar
import Eligibility.Statement.Message
import Eligibility.Statement.Nonce
import Eligibility.Statement.Parse
import Eligibility.Terminal.Emoji
import Eligibility.Terminal.EmojiTable
import Eligibility.Terminal.Markup
import Eligibility.Terminal.Table
import Eligibility.Terminal.Wrap
import Eligibility.Text.Blank
import Eligibility.Text.Case
import Eligibility.Text.CaseTable
import Eligibility.Text.Digit
import Eligibility.Text.Hex
import Eligibility.Text.Lines
import Eligibility.Text.Mark
import Eligibility.Text.Printable
import Eligibility.Text.Quoted
import Eligibility.Text.Ranges
import Eligibility.Text.Similar
import Eligibility.Text.Split
import Eligibility.Text.Utf8
import Eligibility.Text.Width
import Eligibility.Trait.Basic
import Eligibility.Trait.Requirement
import Eligibility.Trait.Strictness
import Eligibility.Trait.Value
import Eligibility.Uri.Characters
import Eligibility.Uri.Grammar
import Eligibility.Uri.Host
import Eligibility.Uri.Ip
import Eligibility.Uri.Location
import Eligibility.Uri.Percent
import Eligibility.Uri.Web
import Eligibility.Validation.Basic
import Eligibility.Validation.Compare
import Eligibility.Version
import Eligibility.Wallet.Address
import Eligibility.Wallet.Base64Url
import Eligibility.Wallet.Key
import Eligibility.Wallet.Signature
import Eligibility.Proofs.Uri.Address
import Eligibility.Proofs.Uri.Derivation
import Eligibility.Proofs.Text.Hex
import Eligibility.Proofs.Wallet.Recovery
import Eligibility.Proofs.Wallet.Verify
import Eligibility.Proofs.Wallet.Sign
