import IicpDirectory.Foundations.Constrained
import IicpDirectory.Foundations.Delimited
import IicpDirectory.Foundations.Gates
import IicpDirectory.Foundations.Grouping
import IicpDirectory.Foundations.KeepNewest
import IicpDirectory.Foundations.Keyed
import IicpDirectory.Foundations.Run
import IicpDirectory.Foundations.Outbox
import IicpDirectory.Foundations.Occurrence
import IicpDirectory.Foundations.Table
import IicpDirectory.Foundations.Transaction
import IicpDirectory.Foundations.WindowedBudget
import IicpDirectory.Canonical
import IicpDirectory.Texts
import IicpDirectory.FederationHandlers
import IicpDirectory.Replica.Verify
import IicpDirectory.Replica.Transcript
import IicpDirectory.Replica.Snapshot
import IicpDirectory.Replica.Sync
import IicpDirectory.Replica.Convergence
import IicpDirectory.Replica.Custody
import IicpDirectory.Replica.Drain
import IicpDirectory.Replica.Replay
import IicpDirectory.Replica.Pair
import IicpDirectory.Foundations.HashChain
import IicpDirectory.Replica.Commitment
import IicpDirectory.Foundations.Replacement
import IicpDirectory.RuntimeHealth
import IicpDirectory.Supervision
import IicpDirectory.HealthFile
import IicpDirectory.Evidence
import IicpDirectory.Replica.Effects
import IicpDirectory.Registration
import IicpDirectory.Pricing
import IicpDirectory.Admission
import IicpDirectory.MySqlRepo
import IicpDirectory.MySqlStore
import IicpDirectory.Relations
import IicpDirectory.Seed.Log
import IicpDirectory.Seed.Transactions
import IicpDirectory.Seed.Handlers
import IicpDirectory.Seed.ReadBack
import IicpDirectory.Seed.Ledger
import IicpDirectory.Seed.Reputation
import IicpDirectory.Seed.Replicas
import IicpDirectory.Seed.ReplicaHandlers
import IicpDirectory.Seed.Credentials
import IicpDirectory.Foundations.LastKey
import IicpDirectory.Seed.Heartbeats
import IicpDirectory.Seed.FreeCredit
import IicpDirectory.Seed.Variants
import IicpDirectory.Seed.Velocity
import IicpDirectory.Seed.History
import IicpDirectory.Seed.LedgerPages
import IicpDirectory.Seed.Liveness
import IicpDirectory.Seed.Uptime
import IicpDirectory.Seed.Prices
import IicpDirectory.Seed.Ownership
import IicpDirectory.Seed.Receipts
import IicpDirectory.Seed.Relations
import IicpDirectory.Seed.Acceptance
import IicpDirectory.Signing.Documents
import IicpDirectory.Signing.Conformance
import IicpDirectory.Signing.Separation
import IicpDirectory.Foundations.Locks
import IicpDirectory.Seed.ReplicaLocks
import IicpDirectory.Foundations.Schema
import IicpDirectory.Baseline
import IicpDirectory.Seed.Acknowledged
import IicpDirectory.Seed.Solvency
import IicpDirectory.Seed.Discovery
import IicpDirectory.Seed.Routes
import IicpDirectory.Foundations.OneTime
import IicpDirectory.Seed.Challenges
import IicpDirectory.Seed.Standing
import IicpDirectory.Seed.Audits
import IicpDirectory.Seed.Awards
import IicpDirectory.Seed.Telemetry
import IicpDirectory.Quotes
import IicpDirectory.Seed.Spending
import IicpDirectory.Seed.IdleSweep
import IicpDirectory.OperatorMemory
import IicpDirectory.Seed.OperatorTables
import IicpDirectory.Seed.DisplayNames
import IicpDirectory.Seed.Identities
import IicpDirectory.Seed.Restriction
import IicpDirectory.Seed.SelfDealing
import IicpDirectory.RestrictedDomain
import IicpDirectory.MembershipLog
import IicpDirectory.Seed.Memberships
import IicpDirectory.Seed.FailedIssues
import IicpDirectory.Seed.Envelopes
import IicpDirectory.Seed.NodeAuth
import IicpDirectory.Seed.RestrictedGate
import IicpDirectory.Seed.ActingSubjects
import IicpDirectory.DiscoveryPolicy
import IicpDirectory.Seed.Eligibility
import IicpDirectory.Seed.NodeCredentials
import IicpDirectory.OperatorSignatures
import IicpDirectory.Seed.Renames
import IicpDirectory.Seed.SelfService
import IicpDirectory.Foundations.Ranking
import IicpDirectory.Seed.Leaderboard
import IicpDirectory.Seed.Rotations
import IicpDirectory.Outcomes
import IicpDirectory.Foundations.NearestRank
import IicpDirectory.MeshHealth
import IicpDirectory.SelectionOrder
import IicpDirectory.Seed.ListedRows
import IicpDirectory.Seed.Candidates
import IicpDirectory.Seed.Tickets
import IicpDirectory.Foundations.Addresses
import IicpDirectory.Foundations.Authority
import IicpDirectory.Endpoints
import IicpDirectory.ProbeGuards
import IicpDirectory.Seed.ProbeTargets
import IicpDirectory.Seed.DataSubjects
import IicpDirectory.Foundations.Brackets
import IicpDirectory.Recognition
import IicpDirectory.Foundations.Stages
import IicpDirectory.EffectiveCapability
import IicpDirectory.RegisterRate
import IicpDirectory.Foundations.Padded
import IicpDirectory.Versions
import IicpDirectory.JsonText
import IicpDirectory.Replica.Payloads
import IicpDirectory.PolicyManifest
import IicpDirectory.Signing.ConsumerTokens
import IicpDirectory.Seed.Redaction
import IicpDirectory.Foundations.Batches
import IicpDirectory.Maintenance
import IicpDirectory.Seed.PublicView
import IicpDirectory.Foundations.Base64
import IicpDirectory.Seed.JwtSecret
import IicpDirectory.Foundations.FixedWidth
import IicpDirectory.Foundations.Calendar
import IicpDirectory.EvidenceDates
import IicpDirectory.Foundations.Screening
import IicpDirectory.IntentPolicy
import IicpDirectory.Seed.MeshBoundary
import IicpDirectory.Foundations.Catalogue
import IicpDirectory.SchemaGate
import IicpDirectory.SchemaStartup
import IicpDirectory.Foundations.Routing
