import OneIssuer.Store.Transaction

/-!
# Queries

The named queries of the store, each a statement of `Stmt`. A `:one` query answers a list here and
its caller takes the head (`Tx.queryOne`, `Tx.queryRow`); an insert answers nothing, because its
caller knows the row. The part of a WHERE clause that belongs to the SET clause stands in
`Schema.Changes` and is not repeated. Instants come in as stored values: callers apply `timestamp`.
-/

set_option autoImplicit false

namespace OneIssuer.Queries

open Relational
open OneIssuer.Consent (sortStrings)

/-! ## Users and credentials -/

def lockLoginIdentifier (identifier : String) : Stmt Unit :=
  .advisoryLock (.loginIdentifier identifier)

def lockAdminSet : Stmt Unit := .advisoryLock .adminSet

def loginIdentifierExists (identifier : String) : Stmt Bool :=
  .read fun db => db.users.any fun r =>
    r.usernameNormalized == identifier || r.emailNormalized == identifier

def loginIdentifierOwnedByOther (id : Uuid) (identifier : String) : Stmt Bool :=
  .read fun db => db.users.any fun r =>
    r.id != id && (r.usernameNormalized == identifier || r.emailNormalized == identifier)

def createUser (row : User) : Stmt Unit := .users (.insert row)

def createCredential (row : Credential) : Stmt Unit := .credentials (.insert row)

def hasAdmin : Stmt Bool := .read fun db => db.users.any (·.role == .admin)

def countActiveAdmins : Stmt Nat :=
  .read fun db => db.users.countP fun r => r.role == .admin && r.status == .active

def getUserByID (id : Uuid) : Stmt (List User) := .read fun db => db.users.filter (·.id == id)

def lockUserByID (id : Uuid) : Stmt (List User) := .users (.lock (·.id == id))

def updateUser (change : UserChange) (id : Uuid) (expectedVersion : Int) : Stmt (List User) :=
  .users (.update (fun r => r.id == id && r.version == expectedVersion) change)

def updateCredentialHash (passwordHash : String) (updatedAt : Time) (userID : Uuid) :
    Stmt (List Credential) :=
  .credentials (.update (·.userID == userID) (.rehash passwordHash updatedAt))

def updateLastLogin (lastLoginAt : Time) (id : Uuid) : Stmt (List User) :=
  .users (.update (·.id == id) (.lastLogin lastLoginAt))

/-! ## Clients -/

def createOIDCClient (row : ClientRow) : Stmt Unit := .clients (.insert row)

def getOIDCClientByID (id : Uuid) : Stmt (List ClientRow) :=
  .read fun db => db.clients.filter (·.id == id)

def lockOIDCClientByID (id : Uuid) : Stmt (List ClientRow) := .clients (.lock (·.id == id))

def lockOIDCClientByClientID (clientID : String) : Stmt (List ClientRow) :=
  .clients (.lock (·.clientID == clientID))

def listOIDCClientRedirectURIs (clientID : Uuid) : Stmt (List String) :=
  .read fun db => sortStrings ((db.clientRedirectURIs.filter (·.clientID == clientID)).map (·.uri))

def listOIDCClientLogoutURIs (clientID : Uuid) : Stmt (List String) :=
  .read fun db => sortStrings ((db.clientLogoutURIs.filter (·.clientID == clientID)).map (·.uri))

def listOIDCClientScopes (clientID : Uuid) : Stmt (List String) :=
  .read fun db => sortStrings ((db.clientScopes.filter (·.clientID == clientID)).map (·.scope))

def updateOIDCClient (change : ClientChange) (id : Uuid) (expectedVersion : Int) :
    Stmt (List ClientRow) :=
  .clients (.update (fun r => r.id == id && r.version == expectedVersion) change)

def createOIDCClientSecret (row : ClientSecret) : Stmt Unit := .clientSecrets (.insert row)

def revokeActiveOIDCClientSecrets (revokedAt : Time) (clientID : Uuid) : Stmt (List ClientSecret) :=
  .clientSecrets (.update (·.clientID == clientID) (.revoke revokedAt))

/-! ## Sessions -/

def createLoginSession (row : LoginSession) : Stmt Unit := .loginSessions (.insert row)

def createPreAuthSession (row : PreAuthSession) : Stmt Unit := .preAuthSessions (.insert row)

def reservePreAuthAttempt (id : Uuid) (now : Time) (maxAttempts : Int) :
    Stmt (List PreAuthSession) :=
  .preAuthSessions (.update (·.id == id) (.reserve now maxAttempts))

def consumePreAuthSession (consumedAt : Time) (id : Uuid) : Stmt (List PreAuthSession) :=
  .preAuthSessions (.update (·.id == id) (.consume consumedAt))

def lockLoginSessionByTokenHash (tokenHash : Bytes) : Stmt (List LoginSession) :=
  .loginSessions (.lock (·.tokenHash == tokenHash))

def lockLoginSessionByID (id : Uuid) : Stmt (List LoginSession) :=
  .loginSessions (.lock (·.id == id))

def lockActiveLoginSessionsByUser (userID : Uuid) : Stmt (List LoginSession) :=
  .loginSessions (.lock fun r => r.userID == userID && r.revokedAt.isNone)

def touchLoginSession (lastSeenAt idleExpiresAt : Time) (id : Uuid) : Stmt (List LoginSession) :=
  .loginSessions (.update (·.id == id) (.touch lastSeenAt idleExpiresAt))

def rotateLoginSessionCSRF (csrfHash : Bytes) (csrfExpiresAt : Time) (id : Uuid) :
    Stmt (List LoginSession) :=
  .loginSessions (.update (·.id == id) (.rotateCSRF csrfHash csrfExpiresAt))

def revokeLoginSessionByID (revokedAt : Time) (reason : Option RevokeReason) (id : Uuid) :
    Stmt (List LoginSession) :=
  .loginSessions (.update (·.id == id) (.revoke revokedAt reason))

/-- The same statement as `revokeLoginSessionByID`, under the name the cascades use. -/
def revokeLoginSessionBindingByID (revokedAt : Time) (reason : Option RevokeReason) (id : Uuid) :
    Stmt (List LoginSession) :=
  .loginSessions (.update (·.id == id) (.revoke revokedAt reason))

/-! ## Authorization transactions -/

def createAuthTransaction (row : AuthTransaction) : Stmt Unit := .authTransactions (.insert row)

def lockAuthTransactionByID (id : Uuid) : Stmt (List AuthTransaction) :=
  .authTransactions (.lock (·.id == id))

def consumeAuthTransaction (consumedAt : Time) (id : Uuid) : Stmt (List AuthTransaction) :=
  .authTransactions (.update (·.id == id) (.consume consumedAt))

def rejectAuthTransaction (consumedAt : Time) (reason : Option FailureReason) (id : Uuid) :
    Stmt (List AuthTransaction) :=
  .authTransactions (.update (·.id == id) (.reject consumedAt reason))

/-! ## Consent -/

def getConsentGrantByUserClient (userID clientID : Uuid) : Stmt (List ConsentGrant) :=
  .read fun db => db.consentGrants.filter fun r => r.userID == userID && r.clientID == clientID

def lockConsentGrantByUserClient (userID clientID : Uuid) : Stmt (List ConsentGrant) :=
  .consentGrants (.lock fun r => r.userID == userID && r.clientID == clientID)

def createConsentGrant (row : ConsentGrant) : Stmt Unit := .consentGrants (.insert row)

def updateConsentGrantScopes (scopes : List String) (updatedAt : Time) (id : Uuid) :
    Stmt (List ConsentGrant) :=
  .consentGrants (.update (·.id == id) (.expand scopes updatedAt))

def reactivateConsentGrant (scopes : List String) (updatedAt : Time) (id : Uuid) :
    Stmt (List ConsentGrant) :=
  .consentGrants (.update (·.id == id) (.reactivate scopes updatedAt))

def revokeConsentGrant (revokedAt : Time) (id : Uuid) : Stmt (List ConsentGrant) :=
  .consentGrants (.update (·.id == id) (.revoke revokedAt))

/-! ## Authorization codes -/

def createAuthorizationCode (row : AuthorizationCode) : Stmt Unit :=
  .authorizationCodes (.insert row)

def lockAuthorizationCodeByHash (codeHash : Bytes) : Stmt (List AuthorizationCode) :=
  .authorizationCodes (.lock (·.codeHash == codeHash))

def consumeAuthorizationCode (consumedAt : Time) (id : Uuid) : Stmt (List AuthorizationCode) :=
  .authorizationCodes (.update (·.id == id) (.consume consumedAt))

def hasAuthorizationCodeExchangeRejection (codeID : Uuid) : Stmt Bool :=
  .read fun db => db.auditEvents.any fun r =>
    r.eventType == .authorizationCodeExchangeRejected &&
      r.targetType == some .authorizationCode && r.targetID == some codeID

/-! ## Refresh families and generations -/

def createRefreshTokenFamily (row : RefreshTokenFamily) : Stmt Unit :=
  .refreshTokenFamilies (.insert row)

def createRefreshToken (row : RefreshToken) : Stmt Unit := .refreshTokens (.insert row)

def getRefreshTokenByHash (tokenHash : Bytes) : Stmt (List RefreshToken) :=
  .read fun db => db.refreshTokens.filter (·.tokenHash == tokenHash)

def lockRefreshTokenByID (id : Uuid) : Stmt (List RefreshToken) :=
  .refreshTokens (.lock (·.id == id))

def getRefreshTokenFamilyByID (id : Uuid) : Stmt (List RefreshTokenFamily) :=
  .read fun db => db.refreshTokenFamilies.filter (·.id == id)

def lockRefreshTokenFamilyByID (id : Uuid) : Stmt (List RefreshTokenFamily) :=
  .refreshTokenFamilies (.lock (·.id == id))

def consumeRefreshToken (consumedAt : Time) (id : Uuid) : Stmt (List RefreshToken) :=
  .refreshTokens (.update (·.id == id) (.consume consumedAt))

def revokeRefreshTokenFamily (revokedAt : Time) (reason : Option RevokeReason) (id : Uuid) :
    Stmt (List RefreshTokenFamily) :=
  .refreshTokenFamilies (.update (·.id == id) (.revoke revokedAt reason))

/-! ## Access tokens -/

def createAccessToken (row : AccessToken) : Stmt Unit := .accessTokens (.insert row)

def getAccessTokenByJTIHash (jtiHash : Bytes) : Stmt (List AccessToken) :=
  .read fun db => db.accessTokens.filter (·.jtiHash == jtiHash)

def lockAccessTokenByID (id : Uuid) : Stmt (List AccessToken) := .accessTokens (.lock (·.id == id))

def revokeAccessToken (revokedAt : Time) (reason : Option RevokeReason) (id : Uuid) :
    Stmt (List AccessToken) :=
  .accessTokens (.update (·.id == id) (.revoke revokedAt reason))

/-! ## Cascades

Each cascade selects families and access tokens by one column. The queries of a family of cascades
differ in that column only, so the column is an argument. -/

/-- What a cascade selects by. -/
inductive Selector where
  | family (id : Uuid)
  | grant (id : Uuid)
  | user (id : Uuid)
  | client (id : Uuid)
  /-- The families of a client, and those of its access tokens that name a family. -/
  | clientOffline (id : Uuid)
  | bindings (ids : List Uuid)
  deriving DecidableEq, Repr

/-- The families a cascade selects. -/
def Selector.ofFamily : Selector → RefreshTokenFamily → Bool
  | .family id, r => r.id == id
  | .grant id, r => r.consentGrantID == id
  | .user id, r => r.userID == id
  | .client id, r => r.clientID == id
  | .clientOffline id, r => r.clientID == id
  | .bindings ids, r => ids.contains r.sessionBindingID

/-- The access tokens a cascade selects. -/
def Selector.ofAccess : Selector → AccessToken → Bool
  | .family id, r => r.refreshFamilyID == some id
  | .grant id, r => r.consentGrantID == id
  | .user id, r => r.userID == id
  | .client id, r => r.clientID == id
  | .clientOffline id, r => r.clientID == id && r.refreshFamilyID.isSome
  | .bindings ids, r => r.sessionBindingID.any fun id => ids.contains id

/-- `LockUnrevokedRefreshTokenFamiliesBy…`. -/
def lockUnrevokedRefreshTokenFamilies (selector : Selector) : Stmt (List RefreshTokenFamily) :=
  .refreshTokenFamilies (.lock fun r => selector.ofFamily r && r.revokedAt.isNone)

/-- `LockLive…AccessTokensBy…`. -/
def lockLiveAccessTokens (selector : Selector) (now : Time) : Stmt (List AccessToken) :=
  .accessTokens (.lock fun r => selector.ofAccess r && r.revokedAt.isNone && now < r.expiresAt)

/-- `RevokeRefreshTokenFamiliesBy…`. -/
def revokeRefreshTokenFamilies (selector : Selector) (revokedAt : Time)
    (reason : Option RevokeReason) : Stmt (List RefreshTokenFamily) :=
  .refreshTokenFamilies (.update selector.ofFamily (.revoke revokedAt reason))

/-- `RevokeLive…AccessTokensBy…`. -/
def revokeLiveAccessTokens (selector : Selector) (revokedAt : Time)
    (reason : Option RevokeReason) : Stmt (List AccessToken) :=
  .accessTokens
    (.update (fun r => selector.ofAccess r && revokedAt < r.expiresAt) (.revoke revokedAt reason))

/-! ## Logout transactions -/

def createLogoutTransaction (row : LogoutTransaction) : Stmt Unit :=
  .logoutTransactions (.insert row)

def lockLogoutTransactionByLookupHash (lookupHash : Bytes) : Stmt (List LogoutTransaction) :=
  .logoutTransactions (.lock (·.lookupHash == lookupHash))

def countLiveBoundLogoutTransactionsBySession (sessionID : Uuid) (now : Time) : Stmt Nat :=
  .read fun db => db.logoutTransactions.countP fun r =>
    r.sessionID == some sessionID && r.stage == .boundConfirmable && r.consumedAt.isNone &&
      now < r.expiresAt

def bindPreConfirmLogoutTransaction (csrfHash : Bytes) (userID sessionID sessionBindingID : Uuid)
    (boundAt : Time) (subject : Option String) (id : Uuid) : Stmt (List LogoutTransaction) :=
  .logoutTransactions
    (.update (·.id == id) (.bind csrfHash userID sessionID sessionBindingID boundAt subject))

def rotateBoundLogoutTransactionCSRF (csrfHash : Bytes) (id : Uuid) (now : Time)
    (userID sessionID sessionBindingID : Uuid) : Stmt (List LogoutTransaction) :=
  .logoutTransactions
    (.update (·.id == id) (.rotateCSRF csrfHash now userID sessionID sessionBindingID))

def incrementLogoutTransactionAttempt (id : Uuid) (maxAttempts : Int) :
    Stmt (List LogoutTransaction) :=
  .logoutTransactions (.update (·.id == id) (.attempt maxAttempts))

def confirmLogoutTransaction (consumedAt : Time) (id : Uuid) : Stmt (List LogoutTransaction) :=
  .logoutTransactions (.update (·.id == id) (.finish .confirmed consumedAt))

def cancelLogoutTransaction (consumedAt : Time) (id : Uuid) : Stmt (List LogoutTransaction) :=
  .logoutTransactions (.update (·.id == id) (.finish .canceled consumedAt))

/-! ## Audit -/

def createAuditEvent (row : AuditEvent) : Stmt Unit := .auditEvents (.insert row)

end OneIssuer.Queries
