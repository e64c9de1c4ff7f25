import Gatehouse.Boot
import Gatehouse.Main
import Gatehouse.Rehearsal.Arrangement
import Gatehouse.Rehearsal.Kept
import Gatehouse.Rehearsal.Script
import Gatehouse.Surroundings.Memory
import Gatehouse.Surroundings.Pool
import Gatehouse.Surroundings.Servers
import Gatehouse.Surroundings.Shelf
import Gatehouse.Surroundings.Crowd
import Gatehouse.Surroundings.Counter
import Gatehouse.Surroundings.Commons
import Gatehouse.Proofs.Execution
import Gatehouse.Proofs.Isolation
import Gatehouse.Proofs.Admission
import Gatehouse.Proofs.Serving
import Gatehouse.Proofs.TenantBinding
import Gatehouse.Proofs.Finalization
import Gatehouse.Proofs.Cancellation
import Gatehouse.Proofs.Spelling
import Gatehouse.Proofs.Masking
import Gatehouse.Proofs.Sealing
import Gatehouse.Proofs.TagStrength
import Gatehouse.Proofs.Encoding
import Gatehouse.Proofs.Bearing
import Gatehouse.Proofs.Authorization
import Gatehouse.Proofs.Cookies
import Gatehouse.Proofs.Hosts
import Gatehouse.Proofs.Boundary
import Gatehouse.Proofs.MissingVector
import Gatehouse.Proofs.StageOrder
import Gatehouse.Proofs.Literals
import Gatehouse.Proofs.Grammar
import Gatehouse.Proofs.Numerals
import Gatehouse.Proofs.Characters
import Gatehouse.Proofs.Reading
import Gatehouse.Proofs.Parsing
import Gatehouse.Proofs.Rendering
import Gatehouse.Proofs.RoundTrip
import Gatehouse.Proofs.Payloads
import Gatehouse.Proofs.Authentication
import Gatehouse.Proofs.Durability
import Gatehouse.Proofs.Chaining
import Gatehouse.Proofs.EncryptionChoice
import Gatehouse.Proofs.ArrivalTimes
import Gatehouse.Proofs.AdmissionBound
import Gatehouse.Proofs.Connections
import Gatehouse.Proofs.Relaying
import Gatehouse.Proofs.SessionReuse
import Gatehouse.Proofs.Exclusion
import Gatehouse.Proofs.QuotaHeaders
import Gatehouse.Proofs.ResetTime
import Gatehouse.Proofs.Shelving
import Gatehouse.Proofs.Staleness
import Gatehouse.Proofs.Stragglers
import Gatehouse.Proofs.BlankTenant
import Gatehouse.Proofs.Punctuality
import Gatehouse.Proofs.Counting
import Gatehouse.Proofs.Outage
import Gatehouse.Proofs.Noninterference
import Gatehouse.Proofs.RetryAfter
import Gatehouse.Proofs.Mirroring
import Gatehouse.Proofs.Discretion
import Gatehouse.Proofs.PublicAccess
import Gatehouse.Proofs.RequestIds
import Gatehouse.Proofs.Unrouted
import Gatehouse.Proofs.Persistence
import Gatehouse.Proofs.Forecast
import Gatehouse.Proofs.Expiry
import Gatehouse.Proofs.ReplyBounds
import Gatehouse.Proofs.Clients
import Gatehouse.Proofs.CounterKeys
import Gatehouse.Proofs.Wording
import Gatehouse.Proofs.Startup
import Gatehouse.Proofs.Issuance
import Gatehouse.Proofs.LetterCase
import Gatehouse.Proofs.FirstValues
import Gatehouse.Proofs.Labels
import Gatehouse.Proofs.Hexadecimal
import Gatehouse.Proofs.Acceptance
import Gatehouse.Proofs.KeyTexts
import Gatehouse.Proofs.Addresses
import Gatehouse.Proofs.Identity
import Gatehouse.Proofs.Decompression
