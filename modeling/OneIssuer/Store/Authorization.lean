import OneIssuer.Store.Sessions

/-!
# Authorization operations of the store

The browser transactions of the authorization endpoint, the issue of a code with the consent change
that belongs to it, the denial, and the revocation of a grant by its owner.

A transaction row is its own domain value here; `mapAuthTransaction` only replaces NULL texts by
empty ones, which `matchesExpected` does where it compares them.
-/

set_option autoImplicit false

namespace OneIssuer.Store

open Relational Queries
open OneIssuer.Consent

/-! ## Browser transactions -/

/-- `authflow.Transaction`, as the services hand it to the store. -/
structure Transaction where
  id : Uuid
  tokenHash : Bytes
  kind : TransactionKind
  clientID : Option Uuid
  redirectURI : String
  scopes : List String
  pkceChallenge : String
  pkceMethod : String
  state : String
  nonce : String
  promptCreate : Bool
  responseType : String
  responseMode : String
  prompts : List String
  maxAgeSeconds : Option Int
  createdAt : Time
  expiresAt : Time
  deriving DecidableEq, Repr

/-- `authTransactionParams`. -/
def Transaction.row (value : Transaction) : AuthTransaction :=
  { id := value.id, tokenHash := value.tokenHash, transactionKind := value.kind
    clientID := value.clientID, redirectURI := pointerString value.redirectURI
    scopes := value.scopes, pkceChallenge := pointerString value.pkceChallenge
    pkceMethod := pointerString value.pkceMethod, stateValue := pointerString value.state
    nonceValue := pointerString value.nonce, promptCreate := value.promptCreate
    responseType := pointerString value.responseType
    responseMode := pointerString value.responseMode, promptValues := value.prompts
    maxAgeSeconds := value.maxAgeSeconds, createdAt := timestamp value.createdAt
    expiresAt := timestamp value.expiresAt, consumedAt := none, failureReason := none }

/-- `CreateAuthTransaction`. -/
def createAuthTransaction (transaction : Transaction) (event : Audit.ServiceEvent) : Tx Unit := do
  Tx.query "create authorization transaction" (Queries.createAuthTransaction transaction.row)
  insertAudit event.event

/-- `ConsumeAuthTransaction`. -/
def consumeAuthTransaction (id : Uuid) (now : Time) (event : Audit.ServiceEvent) :
    Tx AuthTransaction := do
  let row ← Tx.queryRow "consume authorization transaction" .authflowConsumed
    (Queries.consumeAuthTransaction (timestamp now) id)
  insertAudit event.event
  return row

/-- `RejectAuthTransaction`. -/
def rejectAuthTransaction (id : Uuid) (reason : Option FailureReason) (now : Time)
    (event : Audit.ServiceEvent) : Tx AuthTransaction := do
  let row ← Tx.queryRow "reject authorization transaction" .authflowConsumed
    (Queries.rejectAuthTransaction (timestamp now) reason id)
  insertAudit event.event
  return row

/-- One batch of `ExpireAuthTransactions`; its events have no actor and no request. -/
def expireAuthTransactions (now : Time) (locked : Uuid → Bool) : Tx Nat := do
  let ids ← Tx.query "expire authorization transactions"
    (.expireAuthTransactions (timestamp now) cleanupBatchSize locked)
  Program.each
    (fun target => insertNewAudit fun id =>
      { id, type := .authorizationTransactionExpired, result := .success, actorUserID := none
        targetType := some .authTransaction, targetID := some target, requestID := ""
        changedFields := [], occurredAt := now })
    ids
  return ids.length

/-- One batch of `CleanupAuthTransactions`. -/
def cleanupAuthTransactions (cutoff : Time) (locked : Uuid → Bool) : Tx Nat :=
  Tx.query "clean authorization transactions"
    (.retireAuthTransactions (timestamp cutoff) cleanupBatchSize locked)

/-! ## Code issue -/

/-- `authorization.IssueCommit`. -/
structure IssueCommit where
  transaction : Transaction
  userID : Uuid
  sessionID : Uuid
  sessionBindingID : Uuid
  authenticatedAt : Time
  interactiveConsent : Bool
  codeID : Uuid
  codeHash : Bytes
  proposedGrantID : Uuid
  createdAt : Time
  expiresAt : Time
  requestID : Audit.RequestID

/-- `validateIssueCommit` returns no error. -/
def validateIssueCommit (commit : IssueCommit) : Bool :=
  commit.userID != Uuid.nil && commit.sessionID != Uuid.nil &&
    commit.sessionBindingID != Uuid.nil && commit.codeID != Uuid.nil &&
    commit.proposedGrantID != Uuid.nil && commit.codeHash.length == 32 &&
    !commit.createdAt.isZero && !commit.authenticatedAt.isZero &&
    commit.authenticatedAt ≤ commit.createdAt && commit.createdAt < commit.expiresAt &&
    commit.expiresAt ≤ commit.createdAt + minutes 5

/-- The context of a locked transaction is the one the browser flow started with. -/
def matchesExpected (row : AuthTransaction) (expected : Transaction) : Bool :=
  row.transactionKind == .kindAuthorization && row.clientID.isSome && expected.clientID.isSome &&
    row.id == expected.id && row.clientID == expected.clientID &&
    row.tokenHash == expected.tokenHash && valueString row.redirectURI == expected.redirectURI &&
    row.scopes == expected.scopes && valueString row.pkceChallenge == expected.pkceChallenge &&
    valueString row.pkceMethod == expected.pkceMethod &&
    valueString row.stateValue == expected.state && valueString row.nonceValue == expected.nonce &&
    valueString row.responseType == expected.responseType &&
    valueString row.responseMode == expected.responseMode &&
    row.promptValues == expected.prompts && row.maxAgeSeconds == expected.maxAgeSeconds

/-- `validateLockedAuthorizationTransaction`. -/
def validateLockedAuthorizationTransaction (row : AuthTransaction) (expected : Transaction)
    (now : Time) : Except StoreError Unit :=
  if row.consumedAt.isNone && row.expiresAt ≤ now then .error .authorizationExpired
  else if row.consumedAt.isSome then
    if row.failureReason == some .expired then .error .authorizationExpired
    else .error .authorizationConsumed
  else if matchesExpected row expected then .ok ()
  else .error .authorizationInvalid

/-- `lockAndValidateAuthorizationClient`. -/
def lockAndValidateAuthorizationClient (transaction : AuthTransaction) : Tx Client := do
  let id ← Program.need transaction.clientID .authorizationInvalid
  let client ← lockClient "lock authorization client" .authorizationInactive id
  Program.require
    (client.status == .active &&
      validAuthenticationProfile client.type client.tokenEndpointAuthMethod &&
      client.redirectURIs.contains (valueString transaction.redirectURI) &&
      scopeSubset transaction.scopes client.scopes) .authorizationInactive
  return client

/-- How `lockAndApplyConsent` changed the grant. -/
inductive GrantOutcome where
  | unchanged
  | created
  | expanded
  | reactivated
  deriving DecidableEq, Repr

/-- The grant a first interactive consent creates. -/
def proposedGrant (commit : IssueCommit) (clientID : Uuid) (requested : List String) :
    ConsentGrant :=
  { id := commit.proposedGrantID, userID := commit.userID, clientID, scopes := requested
    createdAt := timestamp commit.createdAt, updatedAt := timestamp commit.createdAt
    revokedAt := none, version := 1 }

/-- The consent of an existing, unrevoked grant: an interactive consent adds the requested scopes,
a silent one needs them all. -/
def applyActiveConsent (commit : IssueCommit) (client : Client) (requested stored : List String)
    (grant : ConsentGrant) : Tx (ConsentGrant × GrantOutcome) :=
  if !commit.interactiveConsent then do
    Program.require (difference requested (intersection stored client.scopes)).isEmpty
      .authorizationConsentRequired
    return ({ grant with scopes := stored }, .unchanged)
  else if union stored requested == stored then
    return ({ grant with scopes := stored }, .unchanged)
  else do
    let updated ← Tx.queryRow "expand consent grant" (.noRows "expand consent grant")
      (updateConsentGrantScopes (union stored requested) (timestamp commit.createdAt) grant.id)
    return (updated, .expanded)

/-- `lockAndApplyConsent`. -/
def lockAndApplyConsent (commit : IssueCommit) (client : Client) (requested : List String) :
    Tx (ConsentGrant × GrantOutcome) := do
  match ← Tx.queryOne "lock consent grant"
      (lockConsentGrantByUserClient commit.userID client.id) with
  | none => do
    Program.require commit.interactiveConsent .authorizationConsentRequired
    Tx.query "create consent grant" (createConsentGrant (proposedGrant commit client.id requested))
    return (proposedGrant commit client.id requested, .created)
  | some grant => do
    let stored ← Program.need (canonicalScopes grant.scopes) .authorizationInvalid
    Program.require
      (grant.id != Uuid.nil && grant.userID == commit.userID && grant.clientID == client.id &&
        1 ≤ grant.version) .authorizationInvalid
    if grant.revokedAt.isSome then do
      Program.require commit.interactiveConsent .authorizationConsentRequired
      let updated ← Tx.queryRow "reactivate consent grant" (.noRows "reactivate consent grant")
        (reactivateConsentGrant requested (timestamp commit.createdAt) grant.id)
      return (updated, .reactivated)
    else applyActiveConsent commit client requested stored grant

/-- The code `IssueAuthorizationCode` stores. -/
def issuedCode (commit : IssueCommit) (transaction : AuthTransaction) (clientID : Uuid)
    (grant : ConsentGrant) (requested : List String) : AuthorizationCode :=
  { id := commit.codeID, codeHash := commit.codeHash, authTransactionID := transaction.id
    consentGrantID := grant.id, userID := commit.userID, clientID
    redirectURI := valueString transaction.redirectURI, scopes := requested
    pkceChallenge := valueString transaction.pkceChallenge, pkceMethod := "S256"
    nonceValue := transaction.nonceValue, authTime := timestamp commit.authenticatedAt
    createdAt := timestamp commit.createdAt, expiresAt := timestamp commit.expiresAt
    consumedAt := none, consentGrantVersion := grant.version
    originSessionID := some commit.sessionID, sessionBindingID := some commit.sessionBindingID }

/-- The event about the grant, when there is one. -/
def auditConsent (commit : IssueCommit) (grantID : Uuid) (outcome : GrantOutcome) : Tx Unit :=
  let record := fun (type : Audit.EventType) (changed : List String) =>
    insertProtocolAudit type .success commit.userID .consentGrant grantID commit.requestID changed
      commit.createdAt
  match outcome with
  | .unchanged => return ()
  | .created => record .consentGrantCreated ["created"]
  | .expanded => record .consentGrantExpanded ["expanded"]
  | .reactivated => record .consentGrantReactivated ["reactivated"]

/-- The events of an issued code. -/
def auditIssue (commit : IssueCommit) (transactionID grantID : Uuid) (outcome : GrantOutcome) :
    Tx Unit := do
  auditConsent commit grantID outcome
  insertProtocolAudit .authorizationTransactionConsumed .success commit.userID .authTransaction
    transactionID commit.requestID [] commit.createdAt
  insertProtocolAudit .authorizationGranted .success commit.userID .authTransaction transactionID
    commit.requestID [] commit.createdAt
  insertProtocolAudit .authorizationCodeIssued .success commit.userID .authorizationCode
    commit.codeID commit.requestID ["issued"] commit.createdAt

/-- `IssueAuthorizationCode`. -/
def issueAuthorizationCode (commit : IssueCommit) : Tx ConsentGrant := do
  Program.require (validateIssueCommit commit) .authorizationInvalid
  let transaction ← Tx.queryRow "lock authorization transaction for code issue"
    .authorizationNotFound (lockAuthTransactionByID commit.transaction.id)
  Program.ofExcept
    (validateLockedAuthorizationTransaction transaction commit.transaction commit.createdAt)
  let user ← Tx.queryRow "lock authorization user" .authorizationInactive
    (lockUserByID commit.userID)
  Program.require (user.status == .active) .authorizationInactive
  let client ← lockAndValidateAuthorizationClient transaction
  let requested ← Program.need (canonicalScopes transaction.scopes) .authorizationInvalid
  let (grant, outcome) ← lockAndApplyConsent commit client requested
  Tx.query "create authorization code"
    (createAuthorizationCode (issuedCode commit transaction client.id grant requested))
  let _ ← Tx.queryRow "consume transaction while issuing authorization code" .authorizationConsumed
    (Queries.consumeAuthTransaction (timestamp commit.createdAt) transaction.id)
  auditIssue commit transaction.id grant.id outcome
  return grant

/-- `authorization.DenyCommit`. -/
structure DenyCommit where
  transaction : Transaction
  userID : Uuid
  deniedAt : Time
  requestID : Audit.RequestID

/-- `DenyAuthorization`. -/
def denyAuthorization (commit : DenyCommit) : Tx Unit := do
  Program.require
    (commit.userID != Uuid.nil && commit.transaction.id != Uuid.nil && !commit.deniedAt.isZero)
    .authorizationInvalid
  let transaction ← Tx.queryRow "lock authorization transaction for denial" .authorizationNotFound
    (lockAuthTransactionByID commit.transaction.id)
  Program.ofExcept
    (validateLockedAuthorizationTransaction transaction commit.transaction commit.deniedAt)
  let user ← Tx.queryRow "lock authorization user for denial" .authorizationInactive
    (lockUserByID commit.userID)
  Program.require (user.status == .active) .authorizationInactive
  let _ ← lockAndValidateAuthorizationClient transaction
  let _ ← Tx.queryRow "consume denied authorization transaction" .authorizationConsumed
    (Queries.rejectAuthTransaction (timestamp commit.deniedAt) (some .accessDenied) transaction.id)
  insertProtocolAudit .authorizationTransactionRejected .rejected commit.userID .authTransaction
    transaction.id commit.requestID [] commit.deniedAt
  insertProtocolAudit .authorizationDenied .rejected commit.userID .authTransaction transaction.id
    commit.requestID [] commit.deniedAt

/-! ## Grant revocation -/

/-- `consent.RevokeInput`. -/
structure RevokeInput where
  userID : Uuid
  publicClientID : String
  requestID : Audit.RequestID
  now : Time

/-- `consent.ManagedGrant`, as far as `RevokeCurrentUserGrant` fills it. -/
structure ManagedGrant where
  clientID : String
  clientName : String
  clientStatus : Status
  scopes : List String
  createdAt : Time
  updatedAt : Time
  revokedAt : Option Time
  deriving DecidableEq, Repr

/-- `managedGrantFromRows`. -/
def managedGrantFromRows (grant : ConsentGrant) (client : ClientRow) : ManagedGrant :=
  { clientID := client.clientID, clientName := client.name, clientStatus := client.status
    scopes := grant.scopes, createdAt := grant.createdAt, updatedAt := grant.updatedAt
    revokedAt := grant.revokedAt }

/-- Revokes a locked grant with everything that depends on it. -/
def revokeLockedGrant (input : RevokeInput) (grant : ConsentGrant) : Tx ConsentGrant := do
  let _ ← Tx.query "lock consent grant refresh families"
    (lockUnrevokedRefreshTokenFamilies (.grant grant.id))
  let _ ← Tx.query "lock consent grant access tokens"
    (lockLiveAccessTokens (.grant grant.id) (timestamp input.now))
  let revoked ← Tx.queryRow "revoke current user consent grant" .consentNotFound
    (revokeConsentGrant (timestamp input.now) grant.id)
  let _ ← Tx.query "revoke consent grant refresh families"
    (revokeRefreshTokenFamilies (.grant grant.id) (timestamp input.now) (some .grantRevoked))
  let _ ← Tx.query "revoke consent grant access tokens"
    (revokeLiveAccessTokens (.grant grant.id) (timestamp input.now) (some .grantRevoked))
  insertProtocolAudit .consentGrantRevoked .success input.userID .consentGrant grant.id
    input.requestID ["revoked"] input.now
  return revoked

/-- `RevokeCurrentUserGrant`: a grant that is already revoked is reported as it is. -/
def revokeCurrentUserGrant (input : RevokeInput) : Tx ManagedGrant := do
  let _ ← Tx.queryRow "lock consent grant owner" .consentNotFound (lockUserByID input.userID)
  let client ← Tx.queryRow "lock consent grant client" .consentNotFound
    (lockOIDCClientByClientID input.publicClientID)
  let grant ← Tx.queryRow "lock current user consent grant" .consentNotFound
    (lockConsentGrantByUserClient input.userID client.id)
  if grant.revokedAt.isSome then return managedGrantFromRows grant client
  else do
    let revoked ← revokeLockedGrant input grant
    return managedGrantFromRows revoked client

end OneIssuer.Store
