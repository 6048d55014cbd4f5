import OneIssuer.Store.Authorization

/-!
# Administrative operations of the store

Users, clients and client secrets. Disabling a user or a client, and taking `offline_access` from a
client, revokes the authority that depends on it in the same transaction.
-/

set_option autoImplicit false

namespace OneIssuer.Store

open Relational Queries

/-! ## Users -/

/-- Creates a user and a credential; the texts are those of the two inserts. -/
def createIdentity (createUserText createCredentialText : String) (prepared : PreparedUser) :
    Tx Unit := do
  write (mapIdentityWriteError createUserText) (createUser prepared.row)
  write (mapIdentityWriteError createCredentialText) (createCredential prepared.credential)

/-- `BootstrapAdmin`. -/
def bootstrapAdmin (prepared : PreparedUser) (event : Audit.ServiceEvent) : Tx Unit := do
  Tx.query "lock administrator bootstrap" lockAdminSet
  let adminExists ← Tx.query "recheck administrator existence" hasAdmin
  Program.require (!adminExists) .identityBootstrapExists
  lockAndCheckIdentifiers prepared.user Uuid.nil
  createIdentity "create bootstrap administrator" "create bootstrap credential" prepared
  insertAudit event.event

/-- `CreateManagedUser`. -/
def createManagedUser (prepared : PreparedUser) (event : Audit.ServiceEvent) : Tx Unit := do
  lockAndCheckIdentifiers prepared.user Uuid.nil
  createIdentity "create managed user" "create managed credential" prepared
  insertAudit event.event

/-- `admin.UpdateUserCommit`, as far as the store reads it. -/
structure UpdateUserCommit where
  updated : User
  revokeSessions : Bool
  event : Audit.ServiceEvent
  sessionEvent : Option Audit.ServiceEvent

/-- The SET clause of `UpdateUser` for an updated user. -/
def profileChange (updated : User) : UserChange :=
  .profile updated.username updated.usernameNormalized updated.displayName updated.email
    updated.emailNormalized updated.status updated.role (timestamp updated.updatedAt)

/-- An active administrator may only be demoted or disabled while another one is active. -/
def protectLastAdmin (current updated : User) : Tx Unit :=
  if current.role == .admin && current.status == .active &&
      (updated.role != .admin || updated.status != .active) then do
    let count ← Tx.query "count active administrators" countActiveAdmins
    Program.require (1 < count) .identityLastAdmin
  else return ()

/-- The sessions a user change revokes, locked. -/
def lockUserSessions (commit : UpdateUserCommit) : Tx (List LoginSession) :=
  if commit.revokeSessions then
    Tx.query "lock sessions after user change" (lockActiveLoginSessionsByUser commit.updated.id)
  else return []

/-- The cascade of a disabled user. -/
def disableUserAuthority (updated : User) : Tx Unit :=
  if updated.status == .disabled then
    cascade (.user updated.id) (.user updated.id) updated.updatedAt .userDisabled
      "lock disabled user refresh families" "lock disabled user access metadata"
      "revoke disabled user refresh families" "revoke disabled user access metadata"
  else return ()

/-- The session reason and the family reason of a user change. -/
def userChangeReasons (status : Status) : RevokeReason × RevokeReason :=
  match status with
  | .disabled => (.userDisabled, .userDisabled)
  | .active => (.roleChanged, .sessionRevoked)

/-- Revokes the locked sessions of a changed user. -/
def revokeChangedUserSessions (commit : UpdateUserCommit) (sessions : List LoginSession) :
    Tx Unit :=
  if commit.revokeSessions then do
    let _ ← revokeSessions "revoke session after user change" sessions commit.updated.updatedAt
      (userChangeReasons commit.updated.status).2 (userChangeReasons commit.updated.status).1
    match commit.sessionEvent with
    | none => return ()
    | some event => insertAudit event.event
  else return ()

/-- `UpdateManagedUser`. -/
def updateManagedUser (commit : UpdateUserCommit) : Tx User := do
  Tx.query "lock administrator set" lockAdminSet
  let current ← Tx.queryRow "lock managed user" .identityNotFound (lockUserByID commit.updated.id)
  protectLastAdmin current commit.updated
  lockAndCheckIdentifiers commit.updated commit.updated.id
  let rows ← write (mapIdentityWriteError "update managed user")
    (updateUser (profileChange commit.updated) commit.updated.id commit.updated.version)
  let row ← Program.need rows.head? .identityConflict
  let sessions ← lockUserSessions commit
  disableUserAuthority commit.updated
  revokeChangedUserSessions commit sessions
  insertAudit commit.event.event
  return row

/-! ## Clients -/

/-- `client.SecretRecord`. -/
structure SecretRecord where
  id : Uuid
  clientID : Uuid
  secretHash : Bytes
  createdAt : Time

/-- The row of a secret, for the client it is stored under. -/
def SecretRecord.row (secret : SecretRecord) (clientID : Uuid) : ClientSecret :=
  { id := secret.id, clientID, secretHash := secret.secretHash
    createdAt := timestamp secret.createdAt, revokedAt := none }

/-- `createClientParams`: a new client has version 1. -/
def createClientParams (value : Client) : ClientRow :=
  { id := value.id, clientID := value.clientID, clientType := value.type
    tokenEndpointAuthMethod := value.tokenEndpointAuthMethod, name := value.name
    description := value.description, logoURI := pointerString value.logoURI
    status := value.status, registrationEnabled := value.registrationEnabled
    createdAt := timestamp value.createdAt, updatedAt := timestamp value.updatedAt, version := 1 }

/-- The inserts of `replaceClientChildren`. -/
def insertClientChildren (value : Client) : Tx Unit := do
  Program.each (fun uri => write (mapClientWriteError "create client redirect URI")
    (.insertClientRedirectURI
      { clientID := value.id, uri, createdAt := timestamp value.updatedAt })) value.redirectURIs
  Program.each (fun uri => write (mapClientWriteError "create client logout URI")
    (.insertClientLogoutURI
      { clientID := value.id, uri, createdAt := timestamp value.updatedAt })) value.logoutURIs
  Program.each (fun scope => write (mapClientWriteError "create client scope")
    (.insertClientScope
      { clientID := value.id, scope, createdAt := timestamp value.updatedAt })) value.scopes

/-- `replaceClientChildren`. -/
def replaceClientChildren (value : Client) (replace : Bool) : Tx Unit :=
  if replace then do
    Tx.query "replace client redirect URIs" (.deleteClientRedirectURIs value.id)
    Tx.query "replace client logout URIs" (.deleteClientLogoutURIs value.id)
    Tx.query "replace client scopes" (.deleteClientScopes value.id)
    insertClientChildren value
  else insertClientChildren value

/-- `CreateClient`. -/
def createClient (value : Client) (secret : Option SecretRecord) (event : Audit.ServiceEvent) :
    Tx Unit := do
  write (mapClientWriteError "create client") (createOIDCClient (createClientParams value))
  replaceClientChildren value false
  match secret with
  | none => insertAudit event.event
  | some record => do
    write (mapClientWriteError "create client secret")
      (createOIDCClientSecret (record.row record.clientID))
    insertAudit event.event

/-- The SET clause of `UpdateOIDCClient`. -/
def clientChange (value : Client) : ClientChange :=
  .profile value.name value.description (pointerString value.logoURI) value.status
    value.registrationEnabled (timestamp value.updatedAt)

/-- The cascade of a client change: a disabled client loses everything, a client that loses
`offline_access` loses its families and the access tokens linked to them. -/
def revokeClientAuthority (value : Client) (currentScopes : List String) : Tx Unit :=
  if value.status == .disabled then
    cascade (.client value.id) (.client value.id) value.updatedAt .clientDisabled
      "lock client refresh families" "lock client access metadata"
      "revoke client refresh families" "revoke client access metadata"
  else if currentScopes.contains "offline_access" && !value.scopes.contains "offline_access" then
    cascade (.client value.id) (.clientOffline value.id) value.updatedAt .offlineScopeRemoved
      "lock client refresh families" "lock client refresh-bound access metadata"
      "revoke client refresh families" "revoke client refresh-bound access metadata"
  else return ()

/-- `UpdateClient`. -/
def updateClient (value : Client) (event : Audit.ServiceEvent) : Tx Unit := do
  let _ ← Tx.queryRow "lock client" .clientNotFound (lockOIDCClientByID value.id)
  let currentScopes ← Tx.query "read client scopes before update" (listOIDCClientScopes value.id)
  let rows ← write (mapClientWriteError "update client")
    (updateOIDCClient (clientChange value) value.id value.version)
  let _ ← Program.need rows.head? .clientConflict
  replaceClientChildren value true
  revokeClientAuthority value currentScopes
  insertAudit event.event

/-- `RotateClientSecret`. -/
def rotateClientSecret (id : Uuid) (secret : SecretRecord) (now : Time)
    (event : Audit.ServiceEvent) : Tx Unit := do
  let row ← Tx.queryRow "lock client for secret rotation" .clientNotFound (lockOIDCClientByID id)
  Program.require (row.clientType == .typeConfidential) .clientPublicSecret
  let _ ← Tx.query "revoke old client secrets" (revokeActiveOIDCClientSecrets (timestamp now) id)
  write (mapClientWriteError "create rotated client secret")
    (createOIDCClientSecret (secret.row id))
  insertAudit event.event

end OneIssuer.Store
