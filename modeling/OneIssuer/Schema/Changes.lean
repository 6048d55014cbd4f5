import OneIssuer.Relational.Table
import OneIssuer.Schema.Database

/-!
# SET clauses

The UPDATE statements of the store, as one SET clause per kind and table. The `guard` of a table is
the part of the WHERE clause that every statement with that SET clause has (`revoked_at IS NULL` for
a revocation, `consumed_at IS NULL` for a consumption); the rest of the WHERE clause comes with the
query. `…Table` collects what the database says about a table: when a row may be inserted, when a
changed row may be left behind, and the order of locking reads.
-/

set_option autoImplicit false

namespace OneIssuer

open Relational

/-! ## Users, credentials, clients -/

/-- SET clauses of `users`. -/
inductive UserChange where
  /-- `UpdateUser`. -/
  | profile (username usernameNormalized displayName email emailNormalized : String)
      (status : Status) (role : Role) (updatedAt : Time)
  /-- `UpdateLastLogin`. -/
  | lastLogin (lastLoginAt : Time)

def UserChange.apply : UserChange → User → User
  | .profile username usernameNormalized displayName email emailNormalized status role updatedAt, r =>
    { r with
      username, usernameNormalized, displayName, email, emailNormalized, status, role, updatedAt
      version := r.version + 1 }
  | .lastLogin lastLoginAt, r =>
    { r with lastLoginAt := some lastLoginAt, updatedAt := max r.updatedAt lastLoginAt }

/-- A changed profile keeps its identifiers free of every other user. -/
def User.updateViolation (db : Db) : UserChange → User → Option PgError
  | .profile .., r =>
    firstViolation
      [checkViolation r.checks,
        uniqueViolation "users_username_normalized_key"
          (db.users.any fun old => old.id != r.id && old.usernameNormalized == r.usernameNormalized),
        uniqueViolation "users_email_normalized_key"
          (db.users.any fun old => old.id != r.id && old.emailNormalized == r.emailNormalized)]
  | .lastLogin _, r => checkViolation r.checks

def usersTable : TableSpec Db User UserChange PgError where
  insertViolation := User.insertViolation
  updateViolation := User.updateViolation
  guard _ _ := true
  apply := UserChange.apply
  order a b := a.id ≤ b.id

/-- SET clauses of `credentials`. -/
inductive CredentialChange where
  /-- `UpdateCredentialHash`. -/
  | rehash (passwordHash : String) (updatedAt : Time)

def CredentialChange.apply : CredentialChange → Credential → Credential
  | .rehash passwordHash updatedAt, r => { r with passwordHash, updatedAt }

def credentialsTable : TableSpec Db Credential CredentialChange PgError where
  insertViolation := Credential.insertViolation
  updateViolation _ _ r := checkViolation r.checks
  guard _ _ := true
  apply := CredentialChange.apply
  order a b := a.userID ≤ b.userID

/-- SET clauses of `oidc_clients`. -/
inductive ClientChange where
  /-- `UpdateOIDCClient`. -/
  | profile (name description : String) (logoURI : Option String) (status : Status)
      (registrationEnabled : Bool) (updatedAt : Time)

def ClientChange.apply : ClientChange → ClientRow → ClientRow
  | .profile name description logoURI status registrationEnabled updatedAt, r =>
    { r with
      name, description, logoURI, status, registrationEnabled, updatedAt
      version := r.version + 1 }

def clientsTable : TableSpec Db ClientRow ClientChange PgError where
  insertViolation := ClientRow.insertViolation
  updateViolation _ _ r := checkViolation r.checks
  guard _ _ := true
  apply := ClientChange.apply
  order a b := a.id ≤ b.id

/-- SET clauses of `oidc_client_secrets`. -/
inductive SecretChange where
  /-- `RevokeActiveOIDCClientSecrets`. -/
  | revoke (revokedAt : Time)

def SecretChange.guard : SecretChange → ClientSecret → Bool
  | .revoke _, r => r.revokedAt.isNone

def SecretChange.apply : SecretChange → ClientSecret → ClientSecret
  | .revoke revokedAt, r => { r with revokedAt := some revokedAt }

def clientSecretsTable : TableSpec Db ClientSecret SecretChange PgError where
  insertViolation := ClientSecret.insertViolation
  updateViolation _ _ r := checkViolation r.checks
  guard := SecretChange.guard
  apply := SecretChange.apply
  order a b := a.id ≤ b.id

/-! ## Sessions and browser transactions -/

/-- SET clauses of `login_sessions`. -/
inductive SessionChange where
  /-- `TouchLoginSession`. -/
  | touch (lastSeenAt idleExpiresAt : Time)
  /-- `RotateLoginSessionCSRF`. -/
  | rotateCSRF (csrfHash : Bytes) (csrfExpiresAt : Time)
  /-- The `RevokeLoginSession…` statements. -/
  | revoke (revokedAt : Time) (revokeReason : Option RevokeReason)

def SessionChange.guard : SessionChange → LoginSession → Bool
  | .touch lastSeenAt _, r =>
    r.revokedAt.isNone && lastSeenAt < r.expiresAt && lastSeenAt < r.idleExpiresAt
  | .rotateCSRF _ _, r => r.revokedAt.isNone
  | .revoke _ _, r => r.revokedAt.isNone

def SessionChange.apply : SessionChange → LoginSession → LoginSession
  | .touch lastSeenAt idleExpiresAt, r =>
    { r with lastSeenAt, idleExpiresAt := min r.expiresAt idleExpiresAt }
  | .rotateCSRF csrfHash csrfExpiresAt, r => { r with csrfHash, csrfExpiresAt }
  | .revoke revokedAt revokeReason, r => { r with revokedAt := some revokedAt, revokeReason }

def loginSessionsTable : TableSpec Db LoginSession SessionChange PgError where
  insertViolation := LoginSession.insertViolation
  updateViolation _ _ r := checkViolation r.checks
  guard := SessionChange.guard
  apply := SessionChange.apply
  order a b := a.id ≤ b.id

/-- SET clauses of `preauth_sessions`. -/
inductive PreAuthChange where
  /-- `ReservePreAuthAttempt`. -/
  | reserve (now : Time) (maxAttempts : Int)
  /-- `ConsumePreAuthSession`. -/
  | consume (consumedAt : Time)

def PreAuthChange.guard : PreAuthChange → PreAuthSession → Bool
  | .reserve now maxAttempts, r =>
    r.consumedAt.isNone && now < r.expiresAt && r.attemptCount < maxAttempts
  | .consume consumedAt, r => r.consumedAt.isNone && consumedAt < r.expiresAt

def PreAuthChange.apply : PreAuthChange → PreAuthSession → PreAuthSession
  | .reserve _ _, r => { r with attemptCount := r.attemptCount + 1 }
  | .consume consumedAt, r => { r with consumedAt := some consumedAt }

def preAuthSessionsTable : TableSpec Db PreAuthSession PreAuthChange PgError where
  insertViolation := PreAuthSession.insertViolation
  updateViolation _ _ r := checkViolation r.checks
  guard := PreAuthChange.guard
  apply := PreAuthChange.apply
  order a b := a.id ≤ b.id

/-- SET clauses of `auth_transactions`. -/
inductive AuthTransactionChange where
  /-- `ConsumeAuthTransaction`. -/
  | consume (consumedAt : Time)
  /-- `RejectAuthTransaction`. -/
  | reject (consumedAt : Time) (failureReason : Option FailureReason)
  /-- `ExpireAuthTransactions`. -/
  | expire (now : Time)

def AuthTransactionChange.guard : AuthTransactionChange → AuthTransaction → Bool
  | .consume consumedAt, r => r.consumedAt.isNone && consumedAt < r.expiresAt
  | .reject consumedAt _, r => r.consumedAt.isNone && consumedAt < r.expiresAt
  | .expire now, r => r.consumedAt.isNone && r.expiresAt ≤ now

def AuthTransactionChange.apply : AuthTransactionChange → AuthTransaction → AuthTransaction
  | .consume consumedAt, r => { r with consumedAt := some consumedAt }
  | .reject consumedAt failureReason, r => { r with consumedAt := some consumedAt, failureReason }
  | .expire now, r => { r with consumedAt := some now, failureReason := some .expired }

def authTransactionsTable : TableSpec Db AuthTransaction AuthTransactionChange PgError where
  insertViolation := AuthTransaction.insertViolation
  updateViolation _ _ r := checkViolation r.checks
  guard := AuthTransactionChange.guard
  apply := AuthTransactionChange.apply
  order a b := a.id ≤ b.id

/-! ## Consent and protocol artifacts -/

/-- SET clauses of `consent_grants`; every one of them advances the version. -/
inductive GrantChange where
  /-- `UpdateConsentGrantScopes`. -/
  | expand (scopes : List String) (updatedAt : Time)
  /-- `ReactivateConsentGrant`. -/
  | reactivate (scopes : List String) (updatedAt : Time)
  /-- `RevokeConsentGrant`. -/
  | revoke (revokedAt : Time)

def GrantChange.guard : GrantChange → ConsentGrant → Bool
  | .expand _ _, r => r.revokedAt.isNone
  | .reactivate _ _, r => r.revokedAt.isSome
  | .revoke _, r => r.revokedAt.isNone

def GrantChange.apply : GrantChange → ConsentGrant → ConsentGrant
  | .expand scopes updatedAt, r => { r with scopes, updatedAt, version := r.version + 1 }
  | .reactivate scopes updatedAt, r =>
    { r with scopes, revokedAt := none, updatedAt, version := r.version + 1 }
  | .revoke revokedAt, r =>
    { r with revokedAt := some revokedAt, updatedAt := revokedAt, version := r.version + 1 }

def consentGrantsTable : TableSpec Db ConsentGrant GrantChange PgError where
  insertViolation := ConsentGrant.insertViolation
  updateViolation _ _ r := checkViolation r.checks
  guard := GrantChange.guard
  apply := GrantChange.apply
  order a b := a.id ≤ b.id

/-- SET clauses of `authorization_codes`. -/
inductive CodeChange where
  /-- `ConsumeAuthorizationCode`. -/
  | consume (consumedAt : Time)

def CodeChange.guard : CodeChange → AuthorizationCode → Bool
  | .consume consumedAt, r => r.consumedAt.isNone && consumedAt < r.expiresAt

def CodeChange.apply : CodeChange → AuthorizationCode → AuthorizationCode
  | .consume consumedAt, r => { r with consumedAt := some consumedAt }

def authorizationCodesTable : TableSpec Db AuthorizationCode CodeChange PgError where
  insertViolation := AuthorizationCode.insertViolation
  updateViolation _ _ r := checkViolation r.checks
  guard := CodeChange.guard
  apply := CodeChange.apply
  order a b := a.id ≤ b.id

/-- SET clauses of `refresh_token_families`. -/
inductive FamilyChange where
  /-- The `RevokeRefreshTokenFamil…` statements. -/
  | revoke (revokedAt : Time) (revokeReason : Option RevokeReason)

def FamilyChange.guard : FamilyChange → RefreshTokenFamily → Bool
  | .revoke _ _, r => r.revokedAt.isNone

def FamilyChange.apply : FamilyChange → RefreshTokenFamily → RefreshTokenFamily
  | .revoke revokedAt revokeReason, r => { r with revokedAt := some revokedAt, revokeReason }

def refreshTokenFamiliesTable : TableSpec Db RefreshTokenFamily FamilyChange PgError where
  insertViolation := RefreshTokenFamily.insertViolation
  updateViolation db _ r := checkViolation (r.checks db.zone)
  guard := FamilyChange.guard
  apply := FamilyChange.apply
  order a b := a.id ≤ b.id

/-- SET clauses of `refresh_tokens`. -/
inductive GenerationChange where
  /-- `ConsumeRefreshToken`. -/
  | consume (consumedAt : Time)

def GenerationChange.guard : GenerationChange → RefreshToken → Bool
  | .consume _, r => r.consumedAt.isNone

def GenerationChange.apply : GenerationChange → RefreshToken → RefreshToken
  | .consume consumedAt, r => { r with consumedAt := some consumedAt }

def refreshTokensTable : TableSpec Db RefreshToken GenerationChange PgError where
  insertViolation := RefreshToken.insertViolation
  updateViolation db _ r := checkViolation (r.checks db.zone)
  guard := GenerationChange.guard
  apply := GenerationChange.apply
  order a b := a.id ≤ b.id

/-- SET clauses of `access_tokens`. The triggers of the table look at the columns a revocation
leaves alone, so a revocation is checked by the CHECK constraints only. -/
inductive AccessChange where
  /-- The `Revoke…AccessToken…` statements. -/
  | revoke (revokedAt : Time) (revokeReason : Option RevokeReason)

def AccessChange.guard : AccessChange → AccessToken → Bool
  | .revoke _ _, r => r.revokedAt.isNone

def AccessChange.apply : AccessChange → AccessToken → AccessToken
  | .revoke revokedAt revokeReason, r => { r with revokedAt := some revokedAt, revokeReason }

def accessTokensTable : TableSpec Db AccessToken AccessChange PgError where
  insertViolation := AccessToken.insertViolation
  updateViolation _ _ r := checkViolation r.checks
  guard := AccessChange.guard
  apply := AccessChange.apply
  order a b := a.id ≤ b.id

/-! ## Logout and audit -/

/-- SET clauses of `logout_transactions`. -/
inductive LogoutChange where
  /-- `BindPreConfirmLogoutTransaction`; `subject` decides whether the redirect survives. -/
  | bind (csrfHash : Bytes) (userID sessionID sessionBindingID : Uuid) (boundAt : Time)
      (subject : Option String)
  /-- `RotateBoundLogoutTransactionCSRF`. -/
  | rotateCSRF (csrfHash : Bytes) (now : Time) (userID sessionID sessionBindingID : Uuid)
  /-- `IncrementLogoutTransactionAttempt`. -/
  | attempt (maxAttempts : Int)
  /-- `ConfirmLogoutTransaction` and `CancelLogoutTransaction`. -/
  | finish (stage : LogoutStage) (consumedAt : Time)

def LogoutChange.guard : LogoutChange → LogoutTransaction → Bool
  | .bind _ _ _ _ boundAt _, r =>
    r.stage == .preConfirm && r.consumedAt.isNone && boundAt < r.expiresAt
  | .rotateCSRF _ now userID sessionID sessionBindingID, r =>
    r.stage == .boundConfirmable && r.consumedAt.isNone && now < r.expiresAt &&
      r.userID == some userID && r.sessionID == some sessionID &&
      r.sessionBindingID == some sessionBindingID
  | .attempt maxAttempts, r => r.consumedAt.isNone && r.attemptCount < maxAttempts
  | .finish _ _, r => r.stage == .boundConfirmable && r.consumedAt.isNone

def LogoutChange.apply : LogoutChange → LogoutTransaction → LogoutTransaction
  | .bind csrfHash userID sessionID sessionBindingID boundAt subject, r =>
    let keeps := r.hintSubject.isNone || (subject.isSome && r.hintSubject == subject)
    { r with
      stage := .boundConfirmable, csrfHash := some csrfHash, userID := some userID
      sessionID := some sessionID, sessionBindingID := some sessionBindingID
      boundAt := some boundAt
      postLogoutRedirectURI := if keeps then r.postLogoutRedirectURI else none
      stateValue := if keeps then r.stateValue else none }
  | .rotateCSRF csrfHash _ _ _ _, r => { r with csrfHash := some csrfHash }
  | .attempt _, r => { r with attemptCount := r.attemptCount + 1 }
  | .finish stage consumedAt, r => { r with stage, csrfHash := none, consumedAt := some consumedAt }

/-- Binding sets the references to the user and the session; the other clauses keep them. -/
def LogoutTransaction.updateViolation (db : Db) : LogoutChange → LogoutTransaction → Option PgError
  | .bind .., r =>
    firstViolation
      [checkViolation r.checks,
        foreignKeyViolation "logout_transactions_user_id_fkey" (Db.resolves db.user? r.userID),
        foreignKeyViolation "logout_transactions_session_id_fkey"
          (Db.resolves db.session? r.sessionID)]
  | _, r => checkViolation r.checks

def logoutTransactionsTable : TableSpec Db LogoutTransaction LogoutChange PgError where
  insertViolation := LogoutTransaction.insertViolation
  updateViolation := LogoutTransaction.updateViolation
  guard := LogoutChange.guard
  apply := LogoutChange.apply
  order a b := a.id ≤ b.id

/-- `audit_events` has no SET clause: `oneissuer_prevent_audit_mutation` rejects every UPDATE. -/
def auditEventsTable : TableSpec Db AuditEvent Empty PgError where
  insertViolation := AuditEvent.insertViolation
  updateViolation _ _ _ := some ⟨.objectNotInPrerequisiteState, "audit events are append-only"⟩
  guard change _ := change.elim
  apply change := change.elim
  order a b := a.id ≤ b.id

end OneIssuer
