import OneIssuer.Store.Tokens

/-!
# Session operations of the store

Pre-authentication, registration, login, and the explicit revocations of sessions. A login that
presents an active session of the same user rotates it: the old row is revoked, the new row carries
the old binding. A session of another user is switched away from, which is an explicit revocation
with its cascade.
-/

set_option autoImplicit false

namespace OneIssuer.Store

open Relational Queries
open OneIssuer.Consent (sortStrings)

/-! ## Pre-authentication -/

/-- `session.PreAuthRecord`, as far as an insert reads it. -/
structure PreAuthRecord where
  id : Uuid
  tokenHash : Bytes
  csrfHash : Bytes
  authTransactionID : Uuid
  createdAt : Time
  expiresAt : Time

/-- `CreatePreAuth`. -/
def createPreAuth (record : PreAuthRecord) : Tx Unit :=
  Tx.query "create pre-auth session" (createPreAuthSession
    { id := record.id, tokenHash := record.tokenHash, csrfHash := record.csrfHash
      authTransactionID := record.authTransactionID, createdAt := timestamp record.createdAt
      expiresAt := timestamp record.expiresAt, consumedAt := none, attemptCount := 0 })

/-- `ReservePreAuthAttempt`. -/
def reservePreAuthAttempt (id : Uuid) (now : Time) (maximum : Int) : Tx Unit := do
  let _ ← Tx.queryRow "reserve pre-authentication attempt" .sessionConsumed
    (Queries.reservePreAuthAttempt id (timestamp now) maximum)

/-- `AppendAudit`. -/
def appendAudit (event : Audit.ServiceEvent) : Tx Unit := insertAudit event.event

/-! ## Identifiers -/

/-- `identity.PreparedUser`. -/
structure PreparedUser where
  user : User
  passwordHash : String

/-- The row `createUserParams` stands for: a new user has no login yet and version 1. -/
def PreparedUser.row (prepared : PreparedUser) : User :=
  { prepared.user with
    createdAt := timestamp prepared.user.createdAt, updatedAt := timestamp prepared.user.updatedAt
    lastLoginAt := none, version := 1 }

/-- The credential row of a new user. -/
def PreparedUser.credential (prepared : PreparedUser) : Credential :=
  { userID := prepared.user.id, passwordHash := prepared.passwordHash
    createdAt := timestamp prepared.user.createdAt
    updatedAt := timestamp prepared.user.updatedAt }

/-- The identifiers of a user in the order in which they are locked. -/
def loginIdentifiers (user : User) : List String :=
  sortStrings [user.usernameNormalized, user.emailNormalized]

/-- `lockAndCheckIdentifiers`; `excludeID` is nil for a new user. -/
def lockAndCheckIdentifiers (user : User) (excludeID : Uuid) : Tx Unit := do
  Program.each (fun identifier => Tx.query "lock login identifier" (lockLoginIdentifier identifier))
    (loginIdentifiers user)
  Program.each
    (fun identifier => do
      let taken ← Tx.query "check login identifier ownership"
        (if excludeID == Uuid.nil then loginIdentifierExists identifier
          else loginIdentifierOwnedByOther excludeID identifier)
      Program.require (!taken) .identityDuplicate)
    (loginIdentifiers user)

/-- The same two loops inside `CommitRegistration`, with its operation text. -/
def lockAndCheckRegistration (user : User) : Tx Unit := do
  Program.each (fun identifier => Tx.query "lock login identifier" (lockLoginIdentifier identifier))
    (loginIdentifiers user)
  Program.each
    (fun identifier => do
      let taken ← Tx.query "check login identifier" (loginIdentifierExists identifier)
      Program.require (!taken) .identityDuplicate)
    (loginIdentifiers user)

/-! ## Registration and login -/

/-- `active` in `CommitRegistration` and `CommitLogin`. -/
def sessionActive (existing : LoginSession) (now : Time) : Bool :=
  existing.revokedAt.isNone && now < existing.expiresAt && now < existing.idleExpiresAt

/-- `authn.RegisterCommit`. -/
structure RegisterCommit where
  user : PreparedUser
  session : SessionRecord
  preAuthID : Uuid
  transactionID : Uuid
  consumeTransaction : Bool
  existingSessionHash : Bytes
  requestID : Audit.RequestID
  events : List Audit.ServiceEvent

/-- Revokes an active session on behalf of a login and records it. -/
def revokeExistingSession (operation : String) (existing : LoginSession) (now : Time)
    (reason : RevokeReason) (actor : Uuid) (requestID : Audit.RequestID) : Tx Unit := do
  let revoked ← Tx.queryRow operation (.noRows operation)
    (revokeLoginSessionByID (timestamp now) (some reason) existing.id)
  insertNewAudit fun id =>
    Audit.newEvent id .sessionRevoked .success actor .session revoked.id requestID.text
      ["revoked"] now

/-- A registration switches away from an active session of another user. -/
def switchRegistration (commit : RegisterCommit) : Tx Unit :=
  if commit.existingSessionHash.isEmpty then return ()
  else
    Tx.whenRow "lock existing registration session"
      (lockLoginSessionByTokenHash commit.existingSessionHash) fun existing =>
    Tx.onlyIf
      (sessionActive existing commit.session.createdAt &&
        existing.userID != commit.user.user.id) do
      revokeSessionBindingCascade existing.sessionBindingID commit.session.createdAt .accountSwitch
      revokeExistingSession "revoke existing registration session" existing
        commit.session.createdAt .accountSwitch existing.userID commit.requestID

/-- Consumes the browser transaction of a flow when the flow ends with it. -/
def consumeFlowTransaction (operation : String) (consume : Bool) (now : Time) (id : Uuid) :
    Tx Unit :=
  if consume then do
    let _ ← Tx.queryRow operation .authflowConsumed (consumeAuthTransaction (timestamp now) id)
  else return ()

/-- `CommitRegistration`. -/
def commitRegistration (commit : RegisterCommit) : Tx Unit := do
  Program.require
    (commit.session.id != Uuid.nil && commit.session.userID == commit.user.user.id &&
      commit.session.sessionBindingID == commit.session.id) .authnInvalidFlow
  lockAndCheckRegistration commit.user.user
  write (mapIdentityWriteError "create registered user") (createUser commit.user.row)
  write (mapIdentityWriteError "create registered credential")
    (createCredential commit.user.credential)
  switchRegistration commit
  createLoginSession commit.session
  let _ ← Tx.queryRow "consume registration pre-auth" .sessionConsumed
    (consumePreAuthSession (timestamp commit.session.createdAt) commit.preAuthID)
  consumeFlowTransaction "consume registration transaction" commit.consumeTransaction
    commit.session.createdAt commit.transactionID
  Program.each (fun event => insertAudit event.event) commit.events

/-- `authn.LoginCommit`. -/
structure LoginCommit where
  userID : Uuid
  session : SessionRecord
  preAuthID : Uuid
  transactionID : Uuid
  consumeTransaction : Bool
  existingSessionHash : Bytes
  replacementHash : String
  now : Time
  requestID : Audit.RequestID
  events : List Audit.ServiceEvent

/-- Replaces an active session: a session of the same user hands its binding on, a session of
another user is revoked with its cascade. -/
def replaceActiveSession (commit : LoginCommit) (existing : LoginSession) : Tx Uuid :=
  if existing.userID == commit.userID then do
    revokeExistingSession "rotate existing login session" existing commit.now .rotation
      commit.userID commit.requestID
    return existing.sessionBindingID
  else do
    revokeSessionBindingCascade existing.sessionBindingID commit.now .accountSwitch
    revokeExistingSession "rotate existing login session" existing commit.now .accountSwitch
      existing.userID commit.requestID
    return commit.session.sessionBindingID

/-- The binding of the new session, after the presented session was dealt with. -/
def replaceSession (commit : LoginCommit) : Tx Uuid :=
  if commit.existingSessionHash.isEmpty then return commit.session.sessionBindingID
  else do
    match ← Tx.queryOne "lock existing login session"
        (lockLoginSessionByTokenHash commit.existingSessionHash) with
    | none => return commit.session.sessionBindingID
    | some existing =>
      if sessionActive existing commit.now then replaceActiveSession commit existing
      else return commit.session.sessionBindingID

/-- Stores the hash a login computed with newer parameters. -/
def rehashCredential (commit : LoginCommit) : Tx Unit :=
  if commit.replacementHash == "" then return ()
  else do
    let _ ← Tx.query "rehash login credential"
      (updateCredentialHash commit.replacementHash (timestamp commit.now) commit.userID)

/-- `CommitLogin`: the answer is the binding of the new session. -/
def commitLogin (commit : LoginCommit) : Tx Uuid := do
  Program.require
    (commit.session.id != Uuid.nil && commit.session.userID == commit.userID &&
      commit.session.sessionBindingID == commit.session.id && !commit.now.isZero)
    .authnInvalidFlow
  let user ← Tx.queryRow "lock login user" .identityInvalidCredentials (lockUserByID commit.userID)
  Program.require (user.status == .active) .identityInvalidCredentials
  let _ ← Tx.queryRow "consume login pre-auth" .sessionConsumed
    (consumePreAuthSession (timestamp commit.now) commit.preAuthID)
  consumeFlowTransaction "consume login transaction" commit.consumeTransaction commit.now
    commit.transactionID
  let bindingID ← replaceSession commit
  rehashCredential commit
  let _ ← Tx.query "update last login" (updateLastLogin (timestamp commit.now) commit.userID)
  createLoginSession { commit.session with sessionBindingID := bindingID }
  Program.each (fun event => insertAudit event.event) commit.events
  return bindingID

/-! ## Activity -/

/-- `TouchLoginSession`. -/
def touchLoginSession (id : Uuid) (lastSeen idleExpires : Time) : Tx Unit := do
  let _ ← Tx.query "touch login session"
    (Queries.touchLoginSession (timestamp lastSeen) (timestamp idleExpires) id)

/-- `RotateSessionCSRF`. -/
def rotateSessionCSRF (id : Uuid) (hash : Bytes) (expires : Time) : Tx Unit := do
  let _ ← Tx.query "rotate session CSRF" (rotateLoginSessionCSRF hash (timestamp expires) id)

/-! ## Explicit revocation -/

/-- Revokes one session row after its cascade. `absent` is the answer when the row was revoked in
between. -/
def revokeSessionRow (operation : String) (absent : StoreError) (now : Time)
    (reason : Option RevokeReason) (id : Uuid) : Tx Unit := do
  let _ ← Tx.queryRow operation absent (revokeLoginSessionBindingByID (timestamp now) reason id)

/-- `RevokeUserSession`. -/
def revokeUserSession (userID target : Uuid) (now : Time) (event : Audit.ServiceEvent) :
    Tx Unit := do
  let session ← Tx.queryRow "lock user session for revocation" .sessionNotFound
    (lockLoginSessionByID target)
  Program.require (session.userID == userID && session.revokedAt.isNone) .sessionNotFound
  revokeSessionBindingCascade session.sessionBindingID now .sessionRevoked
  revokeSessionRow "revoke user session" .sessionNotFound now (some .user) target
  insertAudit event.event

/-- `RevokeManagedSession`. -/
def revokeManagedSession (id : Uuid) (now : Time) (event : Audit.ServiceEvent) : Tx Unit := do
  let session ← Tx.queryRow "lock managed session" .sessionNotFound (lockLoginSessionByID id)
  Program.require session.revokedAt.isNone .sessionNotFound
  revokeSessionBindingCascade session.sessionBindingID now .sessionRevoked
  revokeSessionRow "revoke managed session" (.noRows "revoke managed session") now (some .admin) id
  insertAudit event.event

/-- `RevokeSessionByHash`; its only caller passes the reason `logout`. -/
def revokeSessionByHash (hash : Bytes) (now : Time) (reason : Option RevokeReason)
    (event : Audit.ServiceEvent) : Tx Unit := do
  let session ← Tx.queryRow "lock login session" .sessionNotFound (lockLoginSessionByTokenHash hash)
  Program.require session.revokedAt.isNone .sessionNotFound
  revokeSessionBindingCascade session.sessionBindingID now .sessionRevoked
  revokeSessionRow "revoke login session" .sessionNotFound now reason session.id
  insertAudit event.event

/-- Revokes the bindings of the locked sessions, then the sessions; the answer is their number. -/
def revokeSessions (operation : String) (sessions : List LoginSession) (now : Time)
    (familyReason reason : RevokeReason) : Tx Nat := do
  revokeSessionBindingsCascade (sessions.map (·.sessionBindingID)) now familyReason
  Program.each (fun session => revokeSessionRow operation (.noRows operation) now (some reason)
    session.id) sessions
  return sessions.length

/-- `RevokeOtherUserSessions`. -/
def revokeOtherUserSessions (userID currentSession : Uuid) (now : Time)
    (event : Audit.ServiceEvent) : Tx Nat := do
  let sessions ← Tx.query "lock other user sessions" (lockActiveLoginSessionsByUser userID)
  let count ← revokeSessions "revoke other user session"
    (sessions.filter (·.id != currentSession)) now .sessionRevoked .others
  insertAudit event.event
  return count

/-- `RevokeAllManagedUserSessions`. -/
def revokeAllManagedUserSessions (userID : Uuid) (now : Time) (event : Audit.ServiceEvent) :
    Tx Nat := do
  let _ ← Tx.queryRow "find user for session revocation" .identityNotFound (getUserByID userID)
  let sessions ← Tx.query "lock all managed user sessions" (lockActiveLoginSessionsByUser userID)
  let count ← revokeSessions "revoke managed user session" sessions now .sessionRevoked .admin
  insertAudit event.event
  return count

/-! ## Cleanup -/

/-- One batch of `CleanupSessions`. -/
def cleanupSessions (preAuthCutoff retiredCutoff : Time) (locked : Uuid → Bool) :
    Tx (Nat × Nat) := do
  let preauth ← Tx.query "clean pre-auth sessions"
    (.retirePreAuthSessions (timestamp preAuthCutoff) cleanupBatchSize locked)
  let login ← Tx.query "clean login sessions"
    (.retireLoginSessions (timestamp retiredCutoff) cleanupBatchSize locked)
  return (preauth, login)

end OneIssuer.Store
