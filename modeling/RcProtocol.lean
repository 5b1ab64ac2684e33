import RcProtocol.Library.Interleaving
import RcProtocol.Recovery
import RcProtocol.Commits
import RcProtocol.Ownership
import RcProtocol.BrandIsolation
import RcProtocol.Api.Verify
import RcProtocol.Api.VerifySpec
import RcProtocol.Api.Counter
import RcProtocol.Replay
import RcProtocol.Api.VerifyRun
import RcProtocol.Authenticity
import RcProtocol.Api.TransferRun
import RcProtocol.ChildTag
import RcProtocol.SingleUse
import RcProtocol.Idempotency
import RcProtocol.RequestHash
import RcProtocol.Core.Lifecycle
import RcProtocol.AuditTrail
import RcProtocol.Possession
import RcProtocol.FreezePriority
import RcProtocol.TransferRefinement
import RcProtocol.ConcurrentTransfers
import RcProtocol.Api.TransferActions
import RcProtocol.PendingTransfers
import RcProtocol.CardBinding
import RcProtocol.KeySeparation
import RcProtocol.Library.Autocommit
import RcProtocol.ActivationAtomicity
import RcProtocol.MotherCards
import RcProtocol.Api.Auth
import RcProtocol.Gateway.Auth
import RcProtocol.IdentityHeaders
import RcProtocol.Api.AssetDetail
import RcProtocol.CredentialDisclosure
import RcProtocol.Workorders.Handler
import RcProtocol.Workorders.Spec
import RcProtocol.WorkorderStatuses
import RcProtocol.WorkorderActions
import RcProtocol.Api.Envelope
import RcProtocol.Bff.Upstream
import RcProtocol.Envelopes
import RcProtocol.Library.JsonStrings
import RcProtocol.Library.Postgres
import RcProtocol.Webhooks.Queue
import RcProtocol.Webhooks.Trigger
import RcProtocol.Webhooks.Worker
import RcProtocol.Webhooks.Spec
import RcProtocol.WebhookDeliveries
import RcProtocol.WebhookEvents
import RcProtocol.Library.Beside
import RcProtocol.WebhookTriggers
import RcProtocol.ApiKeyRotation
import RcProtocol.CounterCache
import RcProtocol.CommitmentLookup
import RcProtocol.Api.Listings
import RcProtocol.TenantReads
import RcProtocol.Bff.Assets
import RcProtocol.OwnedAssets
import RcProtocol.Api.WalletSnapshot
import RcProtocol.Library.Rebuild
import RcProtocol.WalletConsistency
import RcProtocol.Iam.Repo
import RcProtocol.Iam.Handlers
import RcProtocol.IamTokens
import RcProtocol.CardCounters
import RcProtocol.MotherCardRegistration
import RcProtocol.TransferDecisions
import RcProtocol.BrandKeyCache
import RcProtocol.CommitmentIds
import RcProtocol.Library.Endings
import RcProtocol.LostScans
import RcProtocol.AttestationVerdicts
import RcProtocol.IssuedAttestations
import RcProtocol.Library.Observation
import RcProtocol.LetterCase
import RcProtocol.Api.CtrCalibrate
import RcProtocol.CtrCalibration
import RcProtocol.WalletCounts
import RcProtocol.Library.Ranks
import RcProtocol.WalletPages
import RcProtocol.Library.Select
import RcProtocol.Api.ListStatements
import RcProtocol.Workorders.Lists
import RcProtocol.ListPages
import RcProtocol.Crypto.RootKey
import RcProtocol.RootKeyLoading
import RcProtocol.Library.Numerals
import RcProtocol.Webhooks.Attempts
import RcProtocol.Webhooks.Config
import RcProtocol.WebhookRetries
import RcProtocol.Library.Batches
import RcProtocol.WebhookBatches
import RcProtocol.Iam.ApiKeys
import RcProtocol.IamApiKeys
import RcProtocol.Api.Pagination
import RcProtocol.Workorders.Pagination
import RcProtocol.PageOffsets
import RcProtocol.Bff.Claims
import RcProtocol.Gateway.Router
import RcProtocol.AccessModes
import RcProtocol.Gateway.RateLimit
import RcProtocol.RateLimits
import RcProtocol.Api.CtrCommands
import RcProtocol.CounterCommands
import RcProtocol.CounterReports
import RcProtocol.Iam.Guard
import RcProtocol.IamPrivileges
import RcProtocol.GatewayIdentity
import RcProtocol.Api.BatchRoutes
import RcProtocol.BatchLifecycle
import RcProtocol.Api.WalletCli
import RcProtocol.Library.ConcurrentRebuilds
import RcProtocol.WalletRebuilds
import RcProtocol.Brands.Registry
import RcProtocol.KeyLineage
import RcProtocol.Bff.BrandNames
import RcProtocol.BrandNames
