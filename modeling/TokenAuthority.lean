import TokenAuthority.Access.Decision
import TokenAuthority.Access.Target
import TokenAuthority.Audit.Event
import TokenAuthority.Audit.Sink
import TokenAuthority.Authority
import TokenAuthority.Bytes.Base64
import TokenAuthority.Bytes.BigEndian
import TokenAuthority.Bytes.Der
import TokenAuthority.Bytes.ObjectId
import TokenAuthority.Bytes.Pem
import TokenAuthority.Catalog.Assignment
import TokenAuthority.Catalog.Document
import TokenAuthority.Catalog.Error
import TokenAuthority.Catalog.Permission
import TokenAuthority.Catalog.Role
import TokenAuthority.Catalog.RuleTable
import TokenAuthority.Collections
import TokenAuthority.CommandLine.Invocation
import TokenAuthority.CommandLine.Options
import TokenAuthority.CommandLine.Outcome
import TokenAuthority.CommandLine.Reading
import TokenAuthority.CommandLine.Run
import TokenAuthority.Config.Environment
import TokenAuthority.Config.Error
import TokenAuthority.Config.Layer
import TokenAuthority.Config.Secret
import TokenAuthority.Config.Settings
import TokenAuthority.Config.Source
import TokenAuthority.Crypto.Aes
import TokenAuthority.Crypto.Hash
import TokenAuthority.Crypto.Modular
import TokenAuthority.Crypto.P256
import TokenAuthority.Crypto.Rsa
import TokenAuthority.Crypto.Scrypt
import TokenAuthority.Crypto.Sha2
import TokenAuthority.Files
import TokenAuthority.Json.Basic
import TokenAuthority.Json.Reader
import TokenAuthority.Json.Real
import TokenAuthority.Json.Record
import TokenAuthority.Json.Writer
import TokenAuthority.Keys.Encrypted
import TokenAuthority.Keys.Error
import TokenAuthority.Keys.Jwk
import TokenAuthority.Keys.KeyInfo
import TokenAuthority.Keys.KeyPair
import TokenAuthority.Keys.Keyring
import TokenAuthority.Keys.Store
import TokenAuthority.Main
import TokenAuthority.Text.Blank
import TokenAuthority.Text.Printable
import TokenAuthority.Text.Quoted
import TokenAuthority.Text.Split
import TokenAuthority.Time.Calendar
import TokenAuthority.Time.Instant
import TokenAuthority.Time.Rfc3339
import TokenAuthority.Token.Approvals
import TokenAuthority.Token.ClaimSet
import TokenAuthority.Token.Claims
import TokenAuthority.Token.Error
import TokenAuthority.Token.Grant
import TokenAuthority.Token.Header
import TokenAuthority.Token.Profile
import TokenAuthority.Token.Redacted
import TokenAuthority.Token.Signed
import TokenAuthority.Token.Verification
import TokenAuthority.Toml.Document
import TokenAuthority.Toml.Lexical
import TokenAuthority.Uuid
import TokenAuthority.Width
import TokenAuthority.Proofs.Json.Strings
import TokenAuthority.Proofs.Json.Numbers
import TokenAuthority.Proofs.Json.RoundTrip
import TokenAuthority.Proofs.Bytes.Base64
import TokenAuthority.Proofs.Json.Records
import TokenAuthority.Proofs.Text.Separators
import TokenAuthority.Proofs.Catalog.AssignmentOrder
import TokenAuthority.Proofs.Catalog.RoleClaims
import TokenAuthority.Proofs.Token.Construction
import TokenAuthority.Proofs.Bytes.BigEndian
import TokenAuthority.Proofs.Crypto.Modular
import TokenAuthority.Proofs.Crypto.Rsa
import TokenAuthority.Proofs.Token.ClaimSets
import TokenAuthority.Proofs.Token.Signatures
import TokenAuthority.Proofs.Crypto.ProthPrimes
import TokenAuthority.Proofs.Keys.Reliability
import TokenAuthority.Proofs.Token.Signing
import TokenAuthority.Proofs.Token.RoundTrip
import TokenAuthority.Proofs.Access.PersonalRoles
import TokenAuthority.Proofs.Token.Audience
import TokenAuthority.Proofs.Access.Referents
import TokenAuthority.Proofs.Token.Verdicts
import TokenAuthority.Proofs.Token.Grants
import TokenAuthority.Proofs.Authority.Runs
import TokenAuthority.Proofs.Authority.Rotation
import TokenAuthority.Proofs.Authority.Agreement
import TokenAuthority.Proofs.Authority.RefreshChains
import TokenAuthority.Proofs.Bytes.Der
import TokenAuthority.Proofs.Bytes.Pem
import TokenAuthority.Proofs.Keys.Encodings
import TokenAuthority.Proofs.Keys.Stores
import TokenAuthority.Proofs.Catalog.ScopeNames
import TokenAuthority.Proofs.Token.Scopes
import TokenAuthority.Proofs.Access.Narrowing
import TokenAuthority.Proofs.Text.Identifiers
import TokenAuthority.Proofs.Authority.Issuance
import TokenAuthority.Proofs.Authority.AuditTrail
import TokenAuthority.Proofs.Token.Approvals
import TokenAuthority.Proofs.Authority.Revocation
import TokenAuthority.Proofs.Access.Additions
import TokenAuthority.Proofs.Access.Conditions
import TokenAuthority.Proofs.Access.Containment
import TokenAuthority.Proofs.Access.Relevance
import TokenAuthority.Proofs.Catalog.Rules
import TokenAuthority.Proofs.Access.Grounds
import TokenAuthority.Proofs.Token.Headers
import TokenAuthority.Proofs.Token.VerifierOrder
import TokenAuthority.Proofs.Token.Indifference
import TokenAuthority.Proofs.Token.Kinds
import TokenAuthority.Proofs.Token.Expiry
import TokenAuthority.Proofs.Failure
import TokenAuthority.Proofs.Keys.Formation
import TokenAuthority.Proofs.Keys.Loading
import TokenAuthority.Proofs.Keys.Publication
import TokenAuthority.Proofs.Config.Validity
import TokenAuthority.Proofs.Config.Layering
import TokenAuthority.Proofs.Text.Blanks
import TokenAuthority.Proofs.Keys.Demotion
import TokenAuthority.Proofs.Token.Lateness
import TokenAuthority.Proofs.Token.Leeway
import TokenAuthority.Proofs.Keys.Selection
import TokenAuthority.Proofs.Token.Spellings
import TokenAuthority.Proofs.Catalog.RoleGrammar
import TokenAuthority.Proofs.Json.Layout
import TokenAuthority.Proofs.Authority.Decisions
import TokenAuthority.Proofs.CommandLine.Words
import TokenAuthority.Proofs.Collections
import TokenAuthority.Proofs.CommandLine.Minting
import TokenAuthority.Proofs.Config.EmptyVariables
import TokenAuthority.Proofs.Files.Paths
import TokenAuthority.Proofs.Keys.Listing
import TokenAuthority.Proofs.Text.ByteOrder
import TokenAuthority.Proofs.Keys.Opening
import TokenAuthority.Proofs.Keys.Acceptance
import TokenAuthority.Proofs.Time.Calendar
import TokenAuthority.Proofs.Time.Rfc3339
import TokenAuthority.Proofs.Audit.Lines
import TokenAuthority.Proofs.Token.Canonicity
import TokenAuthority.Proofs.Authority.Lifetimes
