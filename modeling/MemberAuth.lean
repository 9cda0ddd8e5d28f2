import MemberAuth.Auth.Scenario
import MemberAuth.Http.Routes
import MemberAuth.Settings.Load
import MemberAuth.Proofs.Auth.Interleaving
import MemberAuth.Proofs.Service.Calls
import MemberAuth.Proofs.Auth.Freshness
import MemberAuth.Proofs.Cache.WriteLog
import MemberAuth.Proofs.Cache.Ledger
import MemberAuth.Proofs.Http.Sequence
import MemberAuth.Proofs.Http.Transparency
import MemberAuth.Proofs.Calendar.Notation
import MemberAuth.Proofs.Json.Scalar
import MemberAuth.Proofs.Json.Record
import MemberAuth.Proofs.Member.Wire
import MemberAuth.Proofs.Store.Sites
import MemberAuth.Proofs.Store.Stakes
import MemberAuth.Proofs.Store.Conduct
import MemberAuth.Proofs.Store.Exclusion
import MemberAuth.Proofs.Member.Fields
import MemberAuth.Proofs.Store.Roster
import MemberAuth.Proofs.Store.Sequential
import MemberAuth.Proofs.Store.Persistence
import MemberAuth.Proofs.Hash.Phc
import MemberAuth.Proofs.Hash.Hasher
import MemberAuth.Proofs.Service.Checks
import MemberAuth.Proofs.Service.Stored
import MemberAuth.Proofs.Service.Registration
import MemberAuth.Proofs.Service.Acceptance
import MemberAuth.Proofs.Http.Login
import MemberAuth.Proofs.Service.Changes
import MemberAuth.Proofs.Hash.Evaluation
import MemberAuth.Proofs.Service.Overlap
import MemberAuth.Proofs.Service.Footprint
import MemberAuth.Proofs.Http.Ownership
import MemberAuth.Proofs.Auth.Upkeep
import MemberAuth.Proofs.Store.Mishaps
import MemberAuth.Proofs.Store.Resilience
import MemberAuth.Proofs.Auth.Abandonment
import MemberAuth.Proofs.Auth.Disconnection
import MemberAuth.Proofs.Auth.Acts
import MemberAuth.Proofs.Http.Rejection
import MemberAuth.Proofs.Auth.Decision
import MemberAuth.Proofs.Cache.Tenure
import MemberAuth.Proofs.Auth.FastPath
import MemberAuth.Proofs.Store.Weather
import MemberAuth.Proofs.Service.Exactness
import MemberAuth.Proofs.Password.Verdict
import MemberAuth.Proofs.Service.Admission
import MemberAuth.Proofs.Store.Interruption
import MemberAuth.Proofs.Auth.Accounting
import MemberAuth.Proofs.Auth.Purging
import MemberAuth.Proofs.Http.Masking
import MemberAuth.Proofs.Store.Readback
import MemberAuth.Proofs.Member.Grammar
import MemberAuth.Proofs.Store.Confinement
import MemberAuth.Proofs.Auth.Capacity
import MemberAuth.Proofs.Store.Resumption
