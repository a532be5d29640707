import WorkGate.Library.Hex
import WorkGate.Library.Journal
import WorkGate.Library.Limbs
import WorkGate.Library.Lineage
import WorkGate.Library.Lines
import WorkGate.Library.Machine
import WorkGate.Library.Past
import WorkGate.Library.Results
import WorkGate.Library.Rows
import WorkGate.Library.SingleUse
import WorkGate.Work
import WorkGate.Lifecycle
import WorkGate.Progress.Event
import WorkGate.Progress.Projection
import WorkGate.Progress.Service
import WorkGate.Progress.Accounting
import WorkGate.Authority.Database
import WorkGate.Authority.Lifecycle
import WorkGate.Authority.Sessions
import WorkGate.Authority.Acceptance
import WorkGate.Authority.Issuance
import WorkGate.Authority.Transactions
import WorkGate.Authority.Accounting
import WorkGate.Authority.Fencing
import WorkGate.Authority.Credits
import WorkGate.Authority.Tables
import WorkGate.Authority.Selections
import WorkGate.Stratum.Json
import WorkGate.Stratum.Credentials
import WorkGate.Stratum.Target
import WorkGate.Stratum.Session
import WorkGate.Stratum.Effects
import WorkGate.Stratum.Transcript
import WorkGate.Stratum.Soundness
import WorkGate.Stratum.Identity
import WorkGate.Stratum.UpstreamIdentity
import WorkGate.Stratum.Persistence
import WorkGate.Stratum.Tokens
import WorkGate.Stratum.Transport
import WorkGate.Stratum.Registry
import WorkGate.Stratum.Registrations
import WorkGate.Outbox.Table
import WorkGate.Outbox.Safety
import WorkGate.Outbox.Delivery
import WorkGate.Outbox.ExactlyOnce
import WorkGate.Authority.TrustedConsent
import WorkGate.Authority.Ceremonies
import WorkGate.Authority.CeremonyMoves
import WorkGate.Authority.Consent
import WorkGate.Authority.ConsentRuns
import WorkGate.Authority.ConsentGuarantees
import WorkGate.Stratum.PoolSelections
import WorkGate.Authority.Frames
import WorkGate.Authority.PoolChoice
import WorkGate.Authority.PoolAgreement
import WorkGate.Authority.PoolGuarantees
import WorkGate.Authority.ClaimantProofs
import WorkGate.Library.Broadcast
import WorkGate.Authority.Streams
import WorkGate.Authority.StreamGuarantees
import WorkGate.Failover.Offers
import WorkGate.Failover.Store
import WorkGate.Failover.Nodes
import WorkGate.Failover.Replacing
import WorkGate.Failover.Effects
import WorkGate.Failover.Linearity
import WorkGate.Failover.Replays
import WorkGate.Failover.Coherence
import WorkGate.Failover.Adapter
import WorkGate.Failover.Terms
import WorkGate.Leases.Columns
import WorkGate.Leases.System
import WorkGate.Leases.Windows
import WorkGate.Leases.Invariant
import WorkGate.Leases.LateDelivery
import WorkGate.Relying.Store
import WorkGate.Relying.Effects
import WorkGate.Relying.Redemption
import WorkGate.Relying.Actions
import WorkGate.Relying.DpopProofs
import WorkGate.Library.CodeUnits
import WorkGate.Library.JsonText
import WorkGate.Library.Base64
import WorkGate.Library.SerdeJson
import WorkGate.Worker.Admission
import WorkGate.Worker.HighWater
import WorkGate.Headless.CanonicalJson
import WorkGate.Worker.CanonicalJson
import WorkGate.Library.Urls
import WorkGate.Worker.AuthoritySigner
import WorkGate.Worker.LeaseArtifacts
import WorkGate.Worker.LeaseGuarantees
import WorkGate.Worker.SignerAgreement
import WorkGate.Library.Attempts
import WorkGate.Serial.Credit
import WorkGate.Serial.Diagnostics
import WorkGate.Serial.Records
import WorkGate.Serial.RestartObserver
import WorkGate.Serial.RestartGuarantees
import WorkGate.Serial.Lexeme
import WorkGate.Serial.Envelope
import WorkGate.Serial.Framer
import WorkGate.Serial.FramerGuarantees
import WorkGate.Serial.Channel
import WorkGate.Serial.ChannelWriting
import WorkGate.Serial.ChannelGuarantees
import WorkGate.Serial.PortOwner
import WorkGate.Serial.PortOwnerGuarantees
import WorkGate.Worker.Possession
import WorkGate.Worker.PossessionGuarantees
import WorkGate.Headless.ClaimantKeys
import WorkGate.Headless.ClaimantKeyGuarantees
import WorkGate.Headless.ClaimantKeyVersions
import WorkGate.Library.Ascii
import WorkGate.Library.Decimal
import WorkGate.WorkDecimal
import WorkGate.Progress.Atomicity
import WorkGate.Progress.Ordering
import WorkGate.Library.Numeral
import WorkGate.Stratum.Difficulty
import WorkGate.Library.Bech32
import WorkGate.Stratum.SegwitAddresses
import WorkGate.Headless.PayoutAddresses
import WorkGate.Headless.AddressAgreement
import WorkGate.Headless.PoolOffers
import WorkGate.Authority.ConsentReceipts
import WorkGate.Headless.TrustedConsent
import WorkGate.Headless.ReceiptAgreement
import WorkGate.Library.Radix
import WorkGate.Stratum.Base58Addresses
import WorkGate.Library.JsValues
import WorkGate.Headless.CanonicalText
import WorkGate.Stratum.CredentialClocks
import WorkGate.Library.Sightings
import WorkGate.Serial.DeviceRecords
import WorkGate.Serial.DeviceChronology
import WorkGate.Worker.MigrationBackup
import WorkGate.Authority.WorkChallenges
import WorkGate.Authority.ChallengeReading
import WorkGate.Authority.ChallengeRoundTrip
import WorkGate.Worker.ControllerCapabilities
import WorkGate.Worker.FirmwarePackages
import WorkGate.Worker.CompactTokens
import WorkGate.Library.JsonSource
import WorkGate.Serial.LexemeAgreement
import WorkGate.Library.Base64Spelling
import WorkGate.Worker.Base64Segments
import WorkGate.Stratum.CompactTarget
import WorkGate.Library.EdwardsCurves
import WorkGate.Library.Primality
import WorkGate.Worker.Ed25519PublicKeys
import WorkGate.Governance.Policy
import WorkGate.Governance.Database
import WorkGate.Governance.Retention
import WorkGate.Library.Pruning
import WorkGate.Governance.Effects
import WorkGate.Governance.Service
import WorkGate.Governance.RetentionJobs
