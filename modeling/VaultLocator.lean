import VaultLocator.AuditTrail
import VaultLocator.Dict
import VaultLocator.Error
import VaultLocator.Extraction
import VaultLocator.Field.Layout
import VaultLocator.Field.Value
import VaultLocator.Gateway
import VaultLocator.Json.Double
import VaultLocator.Json.Printer
import VaultLocator.Json.Reader
import VaultLocator.Json.Shortest
import VaultLocator.Json.Token
import VaultLocator.Json.Value
import VaultLocator.Locator.Basic
import VaultLocator.Locator.Grammar
import VaultLocator.Record.Basic
import VaultLocator.Record.Codec
import VaultLocator.Record.Schema
import VaultLocator.Samples
import VaultLocator.Screening.Danger
import VaultLocator.Screening.Rejection
import VaultLocator.Screening.Rules
import VaultLocator.Secret
import VaultLocator.Settings
import VaultLocator.Shell
import VaultLocator.Text.Blank
import VaultLocator.Text.CaseTable
import VaultLocator.Text.CodeRange
import VaultLocator.Text.Fold
import VaultLocator.Text.Lowercase
import VaultLocator.Text.Numeral
import VaultLocator.Text.Percent
import VaultLocator.Text.Search
import VaultLocator.Text.WordChar
import VaultLocator.Vault.Basic
import VaultLocator.Vault.InMemory
import VaultLocator.Vault.Scripted
import VaultLocator.Proofs.First
import VaultLocator.Proofs.LastWrite
import VaultLocator.Proofs.Result
import VaultLocator.Proofs.Text.LetterCase
import VaultLocator.Proofs.Text.Segments
import VaultLocator.Proofs.Text.Decoding
import VaultLocator.Proofs.Text.Lowering
import VaultLocator.Proofs.Text.Spelling
import VaultLocator.Proofs.Secret.Mask
import VaultLocator.Proofs.Secret.MaskKernel
import VaultLocator.Proofs.Secret.Names
import VaultLocator.Proofs.Locator.BracketGroup
import VaultLocator.Proofs.Locator.Selector
import VaultLocator.Proofs.Locator.RoundTrip
import VaultLocator.Proofs.Locator.Verdict
import VaultLocator.Proofs.Field.Part
import VaultLocator.Proofs.Field.Decoding
import VaultLocator.Proofs.Field.Concealment
import VaultLocator.Proofs.Field.Disclosure
import VaultLocator.Proofs.Field.Lookalike
import VaultLocator.Proofs.Field.Rereading
import VaultLocator.Proofs.Field.Keys
import VaultLocator.Proofs.Record.Forms
import VaultLocator.Proofs.Record.Schema
import VaultLocator.Proofs.Extraction.Place
import VaultLocator.Proofs.Extraction.NativeLookup
import VaultLocator.Proofs.Extraction.Gathering
import VaultLocator.Proofs.Extraction.Unmasking
import VaultLocator.Proofs.Extraction.Lookalike
import VaultLocator.Proofs.Extraction.WholeRecord
import VaultLocator.Proofs.Extraction.Candidates
import VaultLocator.Proofs.Extraction.Agreement
import VaultLocator.Proofs.Extraction.SecretPart
import VaultLocator.Proofs.Extraction.MaskedPath
import VaultLocator.Proofs.Resolution.PathIndependence
import VaultLocator.Proofs.Resolution.VaultAccess
import VaultLocator.Proofs.Resolution.Course
import VaultLocator.Proofs.Resolution.Errors
import VaultLocator.Proofs.Resolution.Selection
import VaultLocator.Proofs.Resolution.Search
import VaultLocator.Proofs.Resolution.StrictIndex
import VaultLocator.Proofs.Trail.Account
import VaultLocator.Proofs.Trail.Confidentiality
import VaultLocator.Proofs.Trail.Failure
import VaultLocator.Proofs.Trail.Echo
import VaultLocator.Proofs.Screening.Commands
import VaultLocator.Proofs.Screening.Traversal
import VaultLocator.Proofs.Screening.Quotes
import VaultLocator.Proofs.Screening.Identifiers
import VaultLocator.Proofs.Shell.Quoting
import VaultLocator.Proofs.Json.RoundTrip
import VaultLocator.Proofs.Json.SingleLine
import VaultLocator.Proofs.Trail.Line
