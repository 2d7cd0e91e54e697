import RelayGate.Binary64
import RelayGate.Bytes
import RelayGate.Clock
import RelayGate.Crypto.Ed25519
import RelayGate.Crypto.Sha3
import RelayGate.Crypto.Sha512
import RelayGate.Duration
import RelayGate.Json.Record
import RelayGate.Json.Token
import RelayGate.Json.Value
import RelayGate.KeyMap
import RelayGate.Named
import RelayGate.Numeral
import RelayGate.Pack.Basic
import RelayGate.Pack.Catalog
import RelayGate.Pack.Issuer
import RelayGate.Pack.Key
import RelayGate.Pack.Signature
import RelayGate.Power
import RelayGate.Proofs.Binary64
import RelayGate.Proofs.Crypto.Ed25519
import RelayGate.Proofs.Json.Field
import RelayGate.Proofs.Json.Record
import RelayGate.Proofs.Json.Slot
import RelayGate.Proofs.Json.Token
import RelayGate.Proofs.Json.Value
import RelayGate.Proofs.Numeral
import RelayGate.Proofs.Pack.Canonical
import RelayGate.Proofs.Pack.Key
import RelayGate.Proofs.Pack.Pinning
import RelayGate.Proofs.Pack.Reflection
import RelayGate.Proofs.Pack.Resolution
import RelayGate.Proofs.Pack.Signature
import RelayGate.Proofs.Relay.Availability
import RelayGate.Proofs.Relay.Cascade
import RelayGate.Proofs.Relay.Directory
import RelayGate.Proofs.Relay.Listing
import RelayGate.Proofs.Relay.Ranking
import RelayGate.Proofs.Rollout.Bucket
import RelayGate.Proofs.Rollout.Override
import RelayGate.Proofs.Rollout.Staging
import RelayGate.Proofs.Rollout.Variables
import RelayGate.Proofs.Service.Announcement
import RelayGate.Proofs.Service.AuditTrail
import RelayGate.Proofs.Service.Concealment
import RelayGate.Proofs.Service.Core
import RelayGate.Proofs.Service.Disclosure
import RelayGate.Proofs.Service.Effects
import RelayGate.Proofs.Service.Evaluation
import RelayGate.Proofs.Service.Events
import RelayGate.Proofs.Service.Faults
import RelayGate.Proofs.Service.Independence
import RelayGate.Proofs.Service.Listing
import RelayGate.Proofs.Service.Production
import RelayGate.Proofs.Service.Records
import RelayGate.Proofs.Service.Trace
import RelayGate.Proofs.Service.Unwinding
import RelayGate.Proofs.Service.WellFormed
import RelayGate.Proofs.Service.Wording
import RelayGate.Proofs.Service.Writes
import RelayGate.Proofs.Settings
import RelayGate.Proofs.Settings.Acceptance
import RelayGate.Proofs.Settings.Blanks
import RelayGate.Proofs.Settings.Order
import RelayGate.Proofs.Settings.Switches
import RelayGate.Proofs.Text.Base64
import RelayGate.Proofs.Text.Blank
import RelayGate.Proofs.Text.Decimal
import RelayGate.Proofs.Text.Surrounded
import RelayGate.Proofs.Trust.Acceptance
import RelayGate.Proofs.Trust.Bypass
import RelayGate.Proofs.Trust.Connection
import RelayGate.Proofs.Trust.Envelope
import RelayGate.Proofs.Trust.Judgement
import RelayGate.Proofs.Trust.Opening
import RelayGate.Proofs.Trust.Timestamp
import RelayGate.Proofs.Trust.Wording
import RelayGate.Relay.Directory
import RelayGate.Relay.Endpoint
import RelayGate.Relay.Region
import RelayGate.Relay.Report
import RelayGate.Relay.Selection
import RelayGate.Rollout
import RelayGate.Service.Core
import RelayGate.Service.Error
import RelayGate.Service.Fleet
import RelayGate.Service.Operation
import RelayGate.Service.Request
import RelayGate.Service.Script
import RelayGate.Service.World
import RelayGate.Settings
import RelayGate.Text.Alphanumeric
import RelayGate.Text.Base64
import RelayGate.Text.Blank
import RelayGate.Text.Decimal
import RelayGate.Text.Hex
import RelayGate.Text.Quoted
import RelayGate.Text.Ranges
import RelayGate.Text.Uppercase
import RelayGate.Text.Visible
import RelayGate.Trust.AppAttest
import RelayGate.Trust.Attestation
import RelayGate.Trust.Audit
import RelayGate.Trust.Envelope
import RelayGate.Trust.Evaluator
import RelayGate.Trust.Payload
import RelayGate.Trust.Play
import RelayGate.Trust.Verdict
