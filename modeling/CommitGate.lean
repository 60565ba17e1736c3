import CommitGate.Allowlist.Basic
import CommitGate.Allowlist.Reader
import CommitGate.Authority.Authorization
import CommitGate.Authority.Client
import CommitGate.Authority.Config
import CommitGate.Awaited
import CommitGate.Bytes
import CommitGate.Calendar
import CommitGate.CommandLine.Basic
import CommitGate.CommandLine.Help
import CommitGate.CommandLine.Reader
import CommitGate.Commit.Basic
import CommitGate.Commit.Identity
import CommitGate.Commit.Object
import CommitGate.Crypto.Block
import CommitGate.Crypto.Dsa
import CommitGate.Crypto.Ecdsa
import CommitGate.Crypto.Ed25519
import CommitGate.Crypto.Modular
import CommitGate.Crypto.Rsa
import CommitGate.Crypto.Sha1
import CommitGate.Crypto.Sha2
import CommitGate.Email
import CommitGate.Envelope
import CommitGate.Export
import CommitGate.Fault
import CommitGate.Gate
import CommitGate.Http.Exchange
import CommitGate.Http.Redirection
import CommitGate.Json.Content
import CommitGate.Json.Cursor
import CommitGate.Json.Decode
import CommitGate.Json.Number
import CommitGate.Json.Pretty
import CommitGate.Json.Text
import CommitGate.Json.Value
import CommitGate.Keyring
import CommitGate.Log
import CommitGate.Main
import CommitGate.OpenPgp.Armor
import CommitGate.OpenPgp.Certificate
import CommitGate.OpenPgp.Detached
import CommitGate.OpenPgp.Field
import CommitGate.OpenPgp.Hash
import CommitGate.OpenPgp.Key
import CommitGate.OpenPgp.Packet
import CommitGate.OpenPgp.Policy
import CommitGate.OpenPgp.ReadFault
import CommitGate.OpenPgp.Signature
import CommitGate.OpenPgp.Statement
import CommitGate.OpenPgp.Subpacket
import CommitGate.OpenPgp.Validity
import CommitGate.Outcome.Basic
import CommitGate.Outcome.Reader
import CommitGate.Program
import CommitGate.Progress
import CommitGate.Proofs.Allowlist
import CommitGate.Proofs.Authority.Requests
import CommitGate.Proofs.Authority.Token
import CommitGate.Proofs.Awaited
import CommitGate.Proofs.Calendar
import CommitGate.Proofs.Commit.Acceptance
import CommitGate.Proofs.Commit.Identity
import CommitGate.Proofs.Commit.Layout
import CommitGate.Proofs.Commit.Moment
import CommitGate.Proofs.Commit.Payload
import CommitGate.Proofs.Commit.Published
import CommitGate.Proofs.Commit.RoundTrip
import CommitGate.Proofs.Except
import CommitGate.Proofs.Gate.Calls
import CommitGate.Proofs.Gate.Cancellation
import CommitGate.Proofs.Gate.Interference
import CommitGate.Proofs.Gate.ManagedKey
import CommitGate.Proofs.Gate.Order
import CommitGate.Proofs.Gate.Reach
import CommitGate.Proofs.Gate.Steps
import CommitGate.Proofs.Gate.Trace
import CommitGate.Proofs.Gate.Trust
import CommitGate.Proofs.Gate.Use
import CommitGate.Proofs.Http.Exchange
import CommitGate.Proofs.Http.Redirection
import CommitGate.Proofs.Json.Content
import CommitGate.Proofs.Json.Decoding
import CommitGate.Proofs.Json.Reading
import CommitGate.Proofs.Json.Spelling
import CommitGate.Proofs.Json.Text
import CommitGate.Proofs.OpenPgp.Detached
import CommitGate.Proofs.Outcome.Export
import CommitGate.Proofs.Outcome.Reading
import CommitGate.Proofs.Outcome.RoundTrip
import CommitGate.Proofs.Outcome.Written
import CommitGate.Proofs.Settings
import CommitGate.Proofs.Text.Decimal
import CommitGate.Proofs.Text.Lines
import CommitGate.Proofs.Text.Utf8
import CommitGate.Proofs.ThirdParty
import CommitGate.Proofs.Timestamp
import CommitGate.Proofs.Verification
import CommitGate.Repository.Clone
import CommitGate.Repository.Deflate
import CommitGate.Repository.Files
import CommitGate.Repository.Object
import CommitGate.Repository.Revision
import CommitGate.Repository.Search
import CommitGate.Settings
import CommitGate.Signer
import CommitGate.Text.Base64
import CommitGate.Text.Blank
import CommitGate.Text.CharRange
import CommitGate.Text.Composition
import CommitGate.Text.Decimal
import CommitGate.Text.Form
import CommitGate.Text.Hex
import CommitGate.Text.LetterCase
import CommitGate.Text.Lowercase
import CommitGate.Text.Pattern
import CommitGate.Text.Percent
import CommitGate.Text.Quoted
import CommitGate.Text.Rows
import CommitGate.Text.Shortest
import CommitGate.Text.Split
import CommitGate.Text.Terminal
import CommitGate.Text.Utf8
import CommitGate.Text.Visible
import CommitGate.Text.Whole
import CommitGate.ThirdParty
import CommitGate.Timestamp
import CommitGate.Url.Address
import CommitGate.Url.Basic
import CommitGate.Url.Domain
import CommitGate.Url.Domain.Direction
import CommitGate.Url.Domain.Folding
import CommitGate.Url.Domain.Joining
import CommitGate.Url.Fault
import CommitGate.Url.Punycode
import CommitGate.Url.Reader
import CommitGate.Verification
import CommitGate.Yaml.Cursor
import CommitGate.Yaml.Decode
import CommitGate.Yaml.Document
import CommitGate.Yaml.Event
import CommitGate.Yaml.Fault
import CommitGate.Yaml.Lexer
import CommitGate.Yaml.Resolve
import CommitGate.Yaml.Scalar
import CommitGate.Yaml.Tag
import CommitGate.Yaml.Token
import CommitGate.Proofs.Text.Pattern
import CommitGate.Proofs.Email
import CommitGate.Proofs.Allowlist.Sorting
import CommitGate.Proofs.Text.Form
import CommitGate.Proofs.Url.Tail
import CommitGate.Proofs.Authority.Question
import CommitGate.Proofs.Authority.Answers
import CommitGate.Proofs.Authority.Grants
import CommitGate.Proofs.Text.Lowercase
import CommitGate.Proofs.Allowlist.Bypass
import CommitGate.Proofs.Allowlist.Loading
import CommitGate.Proofs.Keyring.Encoding
import CommitGate.Proofs.Keyring.Signer
import CommitGate.Proofs.Envelope
import CommitGate.Proofs.Text.Base64
import CommitGate.Proofs.Text.Hex
