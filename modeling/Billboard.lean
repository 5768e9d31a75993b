import Billboard.Api.Bodies
import Billboard.Cache.Shared
import Billboard.Json.Shape
import Billboard.Main
import Billboard.Postgres.Script
import Billboard.Postgres.Store
import Billboard.Proofs.Banner.Keys
import Billboard.Proofs.Json.Strings
import Billboard.Proofs.Json.Numbers
import Billboard.Proofs.Json.RoundTrip
import Billboard.Proofs.Clock.Calendar
import Billboard.Proofs.Clock.Timestamp
import Billboard.Proofs.Json.Records
import Billboard.Proofs.Banner.RoundTrip
import Billboard.Proofs.Banner.Identity
import Billboard.Proofs.Cache.Local
import Billboard.Proofs.Cache.Memory
import Billboard.Proofs.Cache.Fairness
import Billboard.Proofs.Cache.Steps
import Billboard.Proofs.Cache.Concurrency
import Billboard.Proofs.Dialogue
import Billboard.Proofs.Store.Catalog
import Billboard.Proofs.Service.Reads
import Billboard.Proofs.Service.Operations
import Billboard.Proofs.Service.Interleaving
import Billboard.Proofs.Service.Invariants
import Billboard.Proofs.Service.Provenance
import Billboard.Proofs.Service.Deletion
import Billboard.Proofs.Service.Independence
import Billboard.Proofs.Cache.Refill
import Billboard.Proofs.Service.InMemory
import Billboard.Proofs.Service.Convergence
import Billboard.Proofs.Cache.Veil
import Billboard.Proofs.Service.Concealment
import Billboard.Proofs.Text.Base64
import Billboard.Proofs.Token.Issued
import Billboard.Proofs.Accounts.Interleaving
import Billboard.Proofs.Accounts.Privilege
import Billboard.Proofs.Postgres.Listing
import Billboard.Proofs.Postgres.Changes
import Billboard.Proofs.Postgres.Writes
import Billboard.Proofs.Postgres.Url
import Billboard.Proofs.Text.Numeral
import Billboard.Proofs.Redis.Server
import Billboard.Proofs.Cache.Shared
import Billboard.Proofs.Cache.Slots
import Billboard.Proofs.Password.HashString
import Billboard.Proofs.Password.Stored
import Billboard.Proofs.Accounts.Transcript
import Billboard.Proofs.Accounts.Creation
import Billboard.Proofs.Service.Faltering
import Billboard.Proofs.Service.Journal
import Billboard.Proofs.Http.Gate
import Billboard.Proofs.Http.Discretion
import Billboard.Proofs.Http.Effects
import Billboard.Proofs.Json.Skipping
import Billboard.Proofs.Token.Lifetime
import Billboard.Proofs.Token.Seal
import Billboard.Proofs.Refresh.Cancellation
import Billboard.Proofs.Lifecycle.Shutdown
import Billboard.Proofs.Settings.Environment
import Billboard.Proofs.Retry
import Billboard.Proofs.Store.Paging
import Billboard.Proofs.Banner.Payload
import Billboard.Proofs.Banner.NormalForm
import Billboard.Proofs.Service.PartialRefresh
import Billboard.Proofs.Service.Idempotence
import Billboard.Proofs.Accounts.StoredHashes
import Billboard.Cache.Local
