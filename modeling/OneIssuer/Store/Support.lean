import OneIssuer.Store.Queries

/-!
# Shared steps of the store

Sub-programs that several store operations run: the audit insert, the client with its children, the
session insert and the revocation cascade of session bindings.

A row the driver maps into a domain value keeps its fields, so the model uses the row itself. The
exception is `Client`, which joins a client row with its redirect URIs, logout URIs and scopes.
-/

set_option autoImplicit false

namespace OneIssuer

open Relational

/-- `client.Client`. -/
structure Client where
  id : Uuid
  clientID : String
  type : ClientType
  tokenEndpointAuthMethod : AuthMethod
  name : String
  description : String
  logoURI : String
  status : Status
  registrationEnabled : Bool
  redirectURIs : List String
  logoutURIs : List String
  scopes : List String
  createdAt : Time
  updatedAt : Time
  version : Int
  deriving DecidableEq, Repr

/-- `pointerString`. -/
def pointerString (value : String) : Option String := if value == "" then none else some value

/-- `valueString`. -/
def valueString (value : Option String) : String := value.getD ""

/-- `mapClient`, with the children `loadClientChildren` adds. -/
def mapClient (row : ClientRow) (redirectURIs logoutURIs scopes : List String) : Client :=
  { id := row.id, clientID := row.clientID, type := row.clientType
    tokenEndpointAuthMethod := row.tokenEndpointAuthMethod, name := row.name
    description := row.description, logoURI := valueString row.logoURI, status := row.status
    registrationEnabled := row.registrationEnabled, redirectURIs, logoutURIs, scopes
    createdAt := row.createdAt, updatedAt := row.updatedAt, version := row.version }

/-- The type of a client and its authentication method fit. -/
def validAuthenticationProfile (type : ClientType) (method : AuthMethod) : Bool :=
  (type == .typePublic && method == .none) ||
    (type == .typeConfidential && method == .clientSecretBasic)

/-- `sameAuthenticatedClient`. -/
def sameAuthenticatedClient (current authenticated : Client) : Bool :=
  current.id == authenticated.id && current.clientID == authenticated.clientID &&
    current.status == .active && current.type == authenticated.type &&
    current.tokenEndpointAuthMethod == authenticated.tokenEndpointAuthMethod &&
    validAuthenticationProfile current.type current.tokenEndpointAuthMethod

/-- The row `insertAudit` writes for an event. -/
def Audit.Event.row (event : Audit.Event) : AuditEvent :=
  { id := event.id, eventType := event.type, result := event.result
    actorUserID := event.actorUserID, targetType := event.targetType, targetID := event.targetID
    requestID := pointerString event.requestID, changedFields := event.changedFields
    occurredAt := timestamp event.occurredAt }

namespace Store

open Queries

/-! ## Errors of writes -/

/-- `mapIdentityWriteError`. -/
def mapIdentityWriteError (operation : String) (cause : PgError) : StoreError :=
  match cause.state with
  | .uniqueViolation => .identityDuplicate
  | .checkViolation => .identityInvalidInput
  | .foreignKeyViolation => .identityInvalidInput
  | _ => .query operation cause

/-- `mapClientWriteError`. -/
def mapClientWriteError (operation : String) (cause : PgError) : StoreError :=
  match cause.state with
  | .uniqueViolation => .clientConflict
  | .checkViolation => .clientInvalid
  | .foreignKeyViolation => .clientInvalid
  | _ => .query operation cause

/-- A statement whose failure is mapped by `wrap`. -/
def write {β : Type} (wrap : PgError → StoreError) (statement : Stmt β) : Tx β :=
  Program.call statement wrap

/-! ## Audit -/

/-- `insertAudit`. -/
def insertAudit (event : Audit.Event) : Tx Unit := do
  Program.require event.validate .auditInvalidEvent
  Tx.query "append audit event" (createAuditEvent event.row)

/-- `audit.New` inside a transaction, followed by `insertAudit`. -/
def insertNewAudit (build : Uuid → Audit.Event) : Tx Unit := do
  let id ← Tx.query "append audit event" .newEventID
  Program.require (build id).validate .auditInvalidEvent
  insertAudit (build id)

/-- `insertProtocolAudit`. -/
def insertProtocolAudit (type : Audit.EventType) (result : Audit.Result) (actor : Uuid)
    (targetType : Audit.TargetType) (target : Uuid) (requestID : Audit.RequestID)
    (changed : List String) (now : Time) : Tx Unit :=
  insertNewAudit fun id =>
    Audit.newEvent id type result actor targetType target requestID.text changed now

/-! ## Clients -/

/-- `loadClientChildren`. -/
def loadClientChildren (row : ClientRow) : Tx Client := do
  let redirects ← Tx.query "list client redirect URIs" (listOIDCClientRedirectURIs row.id)
  let logouts ← Tx.query "list client logout URIs" (listOIDCClientLogoutURIs row.id)
  let scopes ← Tx.query "list client scopes" (listOIDCClientScopes row.id)
  return mapClient row redirects logouts scopes

/-- `loadClient`; `absent` is what the caller turns `client.ErrNotFound` into. -/
def loadClient (id : Uuid) (absent : StoreError) : Tx Client := do
  let row ← Tx.queryRow "get client" absent (getOIDCClientByID id)
  loadClientChildren row

/-- `LockOIDCClientByID` with its children; `absent` is the answer to a missing row. -/
def lockClient (operation : String) (absent : StoreError) (id : Uuid) : Tx Client := do
  let row ← Tx.queryRow operation absent (lockOIDCClientByID id)
  loadClientChildren row

/-! ## Sessions -/

/-- `session.Record`. -/
structure SessionRecord where
  id : Uuid
  userID : Uuid
  sessionBindingID : Uuid
  tokenHash : Bytes
  csrfHash : Bytes
  csrfExpiresAt : Time
  createdAt : Time
  lastSeenAt : Time
  authenticatedAt : Time
  expiresAt : Time
  idleExpiresAt : Time
  userAgentHash : Option Bytes
  ipPrefix : String
  deriving DecidableEq, Repr

/-- The row `createLoginSession` inserts. -/
def SessionRecord.row (record : SessionRecord) : LoginSession :=
  { id := record.id, userID := record.userID, sessionBindingID := record.sessionBindingID
    tokenHash := record.tokenHash, csrfHash := record.csrfHash
    csrfExpiresAt := timestamp record.csrfExpiresAt, createdAt := timestamp record.createdAt
    lastSeenAt := timestamp record.lastSeenAt
    authenticatedAt := timestamp record.authenticatedAt, expiresAt := timestamp record.expiresAt
    idleExpiresAt := timestamp record.idleExpiresAt, revokedAt := none, revokeReason := none
    userAgentHash := record.userAgentHash, ipPrefix := pointerString record.ipPrefix }

/-- `createLoginSession`. -/
def createLoginSession (record : SessionRecord) : Tx Unit :=
  Tx.query "create login session" (Queries.createLoginSession record.row)

/-! ## Cascades -/

/-- Lock, then revoke, families and live access tokens. The families may be selected more widely
than the access tokens, so there are two selections; the texts are those of the four statements. -/
def cascade (families accesses : Selector) (now : Time) (familyReason : RevokeReason)
    (lockFamilies lockAccesses revokeFamilies revokeAccesses : String) : Tx Unit := do
  let _ ← Tx.query lockFamilies (lockUnrevokedRefreshTokenFamilies families)
  let _ ← Tx.query lockAccesses (lockLiveAccessTokens accesses (timestamp now))
  let _ ← Tx.query revokeFamilies
    (revokeRefreshTokenFamilies families (timestamp now) (some familyReason))
  let _ ← Tx.query revokeAccesses
    (revokeLiveAccessTokens accesses (timestamp now) (some familyReason))

/-- The bindings `revokeSessionBindingsCascade` works on: without nil, each once. -/
def uniqueBindings (bindingIDs : List Uuid) : List Uuid :=
  (bindingIDs.filter (· != Uuid.nil)).eraseDups

/-- `revokeSessionBindingsCascade`. -/
def revokeSessionBindingsCascade (bindingIDs : List Uuid) (now : Time)
    (familyReason : RevokeReason) : Tx Unit :=
  if (uniqueBindings bindingIDs).isEmpty then return ()
  else do
    Program.require (!now.isZero) .sessionNotFound
    cascade (.bindings (uniqueBindings bindingIDs)) (.bindings (uniqueBindings bindingIDs)) now
      familyReason "lock session refresh families" "lock session access metadata"
      "revoke session refresh families" "revoke session access metadata"

/-- `revokeSessionBindingCascade`. -/
def revokeSessionBindingCascade (bindingID : Uuid) (now : Time) (familyReason : RevokeReason) :
    Tx Unit := do
  Program.require (bindingID != Uuid.nil && !now.isZero) .sessionNotFound
  revokeSessionBindingsCascade [bindingID] now familyReason

end Store

end OneIssuer
