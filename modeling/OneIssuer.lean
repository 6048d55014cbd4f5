import OneIssuer.Relational.Program
import OneIssuer.Relational.Table
import OneIssuer.Relational.History
import OneIssuer.Relational.Keyset
import OneIssuer.Relational.Captured
import OneIssuer.Relational.Batches
import OneIssuer.Schema.Values
import OneIssuer.Scopes
import OneIssuer.Audit
import OneIssuer.Schema.Rows
import OneIssuer.Schema.Database
import OneIssuer.Schema.Changes
import OneIssuer.Statements
import OneIssuer.Evolution
import OneIssuer.Frames
import OneIssuer.Soundness
import OneIssuer.Store.Transaction
import OneIssuer.Store.Queries
import OneIssuer.Store.Support
import OneIssuer.Token.Profile
import OneIssuer.Token.Base64
import OneIssuer.Store.Tokens
import OneIssuer.Store.Sessions
import OneIssuer.Store.Authorization
import OneIssuer.Store.Administration
import OneIssuer.Store.Logout
import OneIssuer.System
import OneIssuer.Footprint
import OneIssuer.Runs
import OneIssuer.Store.Rules
import OneIssuer.Store.Steps
import OneIssuer.Store.TokenSteps
import OneIssuer.Store.RevocationSteps
import OneIssuer.Store.SessionSteps
import OneIssuer.Store.AuthoritySteps
import OneIssuer.Token.Service
import OneIssuer.Token.Mint
import OneIssuer.Token.Acceptance
import OneIssuer.Calls
import OneIssuer.Finality
import OneIssuer.Minting
import OneIssuer.SingleUse
import OneIssuer.Chain
import OneIssuer.Invariants
import OneIssuer.Provenance
import OneIssuer.Retention
import OneIssuer.Reuse
import OneIssuer.Zones
import OneIssuer.Agreement
import OneIssuer.Lifetime
import OneIssuer.Isolation
import OneIssuer.ScopeChain
import OneIssuer.Shelter
import OneIssuer.Cleanup
import OneIssuer.CleanupConstraints
import OneIssuer.Wire.Query
import OneIssuer.Wire.Text
import OneIssuer.Wire.Address
import OneIssuer.Wire.Url
import OneIssuer.Wire.Reprint
import OneIssuer.Clients
import OneIssuer.Oidc.Authorize
import OneIssuer.Oidc.Grammar
import OneIssuer.Browser.Authflow
import OneIssuer.Identity
import OneIssuer.Browser.Services
import OneIssuer.Browser.Environment
import OneIssuer.Browser.Activity
import OneIssuer.Pagination
import OneIssuer.Listing
import OneIssuer.Metering.Window
import OneIssuer.RateLimit
import OneIssuer.Store.Captured
import OneIssuer.Store.Callbacks
import OneIssuer.Store.Observed
import OneIssuer.ConsentPreview
import OneIssuer.RefreshEffects
import OneIssuer.Logout.Hint
import OneIssuer.Password
import OneIssuer.TrustedProxy
import OneIssuer.NetUrls
import OneIssuer.Logout.Redirect
import OneIssuer.Oidc.Redirect
import OneIssuer.Oidc.TokenRequest
import OneIssuer.UserSearch
import OneIssuer.Browser.FailedLogins
import OneIssuer.Token.Grammars
import OneIssuer.Token.Deadlines
