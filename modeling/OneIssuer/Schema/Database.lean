import OneIssuer.Schema.Rows

/-!
# The database

`Db` holds the tables as lists of rows, and the time zone its sessions run in. For each table an
insert can violate the row's own CHECK constraints (`Schema.Rows`), a unique key, a foreign key or
a trigger; the functions here name the violation, or answer `none` when the row may be inserted.
Triggers of a row run before its CHECK constraints, unique keys after them, foreign keys last.

**What it does not establish.** The schema is the one after all migrations. Privileges, indexes and the
migrations one by one are outside.
-/

set_option autoImplicit false

namespace OneIssuer

/-- The SQLSTATE classes the store or the schema distinguishes. -/
inductive SqlState where
  | uniqueViolation
  | checkViolation
  | foreignKeyViolation
  | objectNotInPrerequisiteState
  | serializationFailure
  | deadlockDetected
  | other (code : String)
  deriving DecidableEq, Repr

/-- A failed statement: its SQLSTATE and the constraint, or the text a trigger raised. -/
structure PgError where
  state : SqlState
  constraint : String
  deriving DecidableEq, Repr

/-- The database. -/
structure Db where
  users : List User
  credentials : List Credential
  clients : List ClientRow
  clientRedirectURIs : List ClientURI
  clientLogoutURIs : List ClientURI
  clientScopes : List ClientScope
  clientSecrets : List ClientSecret
  loginSessions : List LoginSession
  preAuthSessions : List PreAuthSession
  authTransactions : List AuthTransaction
  consentGrants : List ConsentGrant
  authorizationCodes : List AuthorizationCode
  refreshTokenFamilies : List RefreshTokenFamily
  refreshTokens : List RefreshToken
  accessTokens : List AccessToken
  logoutTransactions : List LogoutTransaction
  auditEvents : List AuditEvent
  zone : Zone

/-- The database after the migrations, before the first request. -/
def Db.empty (zone : Zone) : Db :=
  { users := [], credentials := [], clients := [], clientRedirectURIs := [], clientLogoutURIs := [],
    clientScopes := [], clientSecrets := [], loginSessions := [], preAuthSessions := [],
    authTransactions := [], consentGrants := [], authorizationCodes := [],
    refreshTokenFamilies := [], refreshTokens := [], accessTokens := [], logoutTransactions := [],
    auditEvents := [], zone }

/-! ## Violations -/

/-- The violation of a CHECK constraint. -/
def checkViolation (checks : List (String × Bool)) : Option PgError :=
  (firstViolated checks).map fun name => ⟨.checkViolation, name⟩

/-- The violation of a unique key. -/
def uniqueViolation (name : String) (taken : Bool) : Option PgError :=
  if taken then some ⟨.uniqueViolation, name⟩ else none

/-- The violation of a foreign key. -/
def foreignKeyViolation (name : String) (resolved : Bool) : Option PgError :=
  if resolved then none else some ⟨.foreignKeyViolation, name⟩

/-- An exception a trigger raises. -/
def raised (state : SqlState) (text : String) (failed : Bool) : Option PgError :=
  if failed then some ⟨state, text⟩ else none

/-- The first violation, in the order the server looks for them. -/
def firstViolation (violations : List (Option PgError)) : Option PgError :=
  violations.findSome? id

theorem firstViolation_eq_none {violations : List (Option PgError)} :
    firstViolation violations = none ↔ ∀ violation ∈ violations, violation = none := by
  simp [firstViolation]

@[simp] theorem checkViolation_eq_none {checks : List (String × Bool)} :
    checkViolation checks = none ↔ ∀ check ∈ checks, check.2 = true := by
  simp [checkViolation, firstViolated_eq_none]

@[simp] theorem uniqueViolation_eq_none {name : String} {taken : Bool} :
    uniqueViolation name taken = none ↔ taken = false := by
  cases taken <;> simp [uniqueViolation]

@[simp] theorem foreignKeyViolation_eq_none {name : String} {resolved : Bool} :
    foreignKeyViolation name resolved = none ↔ resolved = true := by
  cases resolved <;> simp [foreignKeyViolation]

@[simp] theorem raised_eq_none {state : SqlState} {text : String} {failed : Bool} :
    raised state text failed = none ↔ failed = false := by
  cases failed <;> simp [raised]

namespace Db

/-! ## Referenced rows -/

/-- `SELECT … FROM users WHERE id = …`. -/
def user? (db : Db) (id : Uuid) : Option User := db.users.find? (·.id == id)

/-- `SELECT … FROM oidc_clients WHERE id = …`. -/
def client? (db : Db) (id : Uuid) : Option ClientRow := db.clients.find? (·.id == id)

/-- `SELECT … FROM login_sessions WHERE id = …`. -/
def session? (db : Db) (id : Uuid) : Option LoginSession := db.loginSessions.find? (·.id == id)

/-- `SELECT … FROM auth_transactions WHERE id = …`. -/
def authTransaction? (db : Db) (id : Uuid) : Option AuthTransaction :=
  db.authTransactions.find? (·.id == id)

/-- `SELECT … FROM consent_grants WHERE id = …`. -/
def grant? (db : Db) (id : Uuid) : Option ConsentGrant := db.consentGrants.find? (·.id == id)

/-- `SELECT … FROM authorization_codes WHERE id = …`. -/
def code? (db : Db) (id : Uuid) : Option AuthorizationCode :=
  db.authorizationCodes.find? (·.id == id)

/-- `SELECT … FROM refresh_token_families WHERE id = …`. -/
def family? (db : Db) (id : Uuid) : Option RefreshTokenFamily :=
  db.refreshTokenFamilies.find? (·.id == id)

/-- `SELECT … FROM refresh_tokens WHERE id = …`. -/
def generation? (db : Db) (id : Uuid) : Option RefreshToken := db.refreshTokens.find? (·.id == id)

/-- A nullable reference resolves when it is NULL or names a row. -/
def resolves {α : Type} (find : Uuid → Option α) (reference : Option Uuid) : Bool :=
  reference.all fun id => (find id).isSome

end Db

/-! ## Inserts -/

section Inserts

variable (db : Db)

def User.insertViolation (r : User) : Option PgError :=
  firstViolation
    [checkViolation r.checks,
      uniqueViolation "users_pkey" (db.users.any (·.id == r.id)),
      uniqueViolation "users_subject_key" (db.users.any (·.subject == r.subject)),
      uniqueViolation "users_username_normalized_key"
        (db.users.any (·.usernameNormalized == r.usernameNormalized)),
      uniqueViolation "users_email_normalized_key"
        (db.users.any (·.emailNormalized == r.emailNormalized))]

def Credential.insertViolation (r : Credential) : Option PgError :=
  firstViolation
    [checkViolation r.checks,
      uniqueViolation "credentials_pkey" (db.credentials.any (·.userID == r.userID)),
      foreignKeyViolation "credentials_user_id_fkey" (db.user? r.userID).isSome]

def ClientRow.insertViolation (r : ClientRow) : Option PgError :=
  firstViolation
    [checkViolation r.checks,
      uniqueViolation "oidc_clients_pkey" (db.clients.any (·.id == r.id)),
      uniqueViolation "oidc_clients_client_id_key" (db.clients.any (·.clientID == r.clientID))]

/-- Both URI tables have the same shape; `table` is the one the row goes to. -/
def ClientURI.insertViolation (constraint : String) (key : String) (reference : String)
    (table : List ClientURI) (r : ClientURI) : Option PgError :=
  firstViolation
    [checkViolation (r.checks constraint),
      uniqueViolation key (table.any fun old => old.clientID == r.clientID && old.uri == r.uri),
      foreignKeyViolation reference (db.client? r.clientID).isSome]

def ClientScope.insertViolation (r : ClientScope) : Option PgError :=
  firstViolation
    [checkViolation r.checks,
      uniqueViolation "oidc_client_scopes_pkey"
        (db.clientScopes.any fun old => old.clientID == r.clientID && old.scope == r.scope),
      foreignKeyViolation "oidc_client_scopes_client_id_fkey" (db.client? r.clientID).isSome]

/-- `oneissuer_enforce_confidential_secret` runs first. -/
def ClientSecret.insertViolation (r : ClientSecret) : Option PgError :=
  firstViolation
    [raised .checkViolation "client secrets require a confidential client"
        !(db.clients.any fun client =>
          client.id == r.clientID && client.clientType == .typeConfidential &&
            client.tokenEndpointAuthMethod == .clientSecretBasic),
      checkViolation r.checks,
      uniqueViolation "oidc_client_secrets_pkey" (db.clientSecrets.any (·.id == r.id)),
      uniqueViolation "oidc_client_secrets_secret_hash_key"
        (db.clientSecrets.any (·.secretHash == r.secretHash)),
      foreignKeyViolation "oidc_client_secrets_client_id_fkey" (db.client? r.clientID).isSome]

def LoginSession.insertViolation (r : LoginSession) : Option PgError :=
  firstViolation
    [checkViolation r.checks,
      uniqueViolation "login_sessions_pkey" (db.loginSessions.any (·.id == r.id)),
      uniqueViolation "login_sessions_token_hash_key"
        (db.loginSessions.any (·.tokenHash == r.tokenHash)),
      foreignKeyViolation "login_sessions_user_id_fkey" (db.user? r.userID).isSome]

def PreAuthSession.insertViolation (r : PreAuthSession) : Option PgError :=
  firstViolation
    [checkViolation r.checks,
      uniqueViolation "preauth_sessions_pkey" (db.preAuthSessions.any (·.id == r.id)),
      uniqueViolation "preauth_sessions_token_hash_key"
        (db.preAuthSessions.any (·.tokenHash == r.tokenHash)),
      foreignKeyViolation "preauth_sessions_auth_transaction_fk"
        (db.authTransaction? r.authTransactionID).isSome]

def AuthTransaction.insertViolation (r : AuthTransaction) : Option PgError :=
  firstViolation
    [checkViolation r.checks,
      uniqueViolation "auth_transactions_pkey" (db.authTransactions.any (·.id == r.id)),
      uniqueViolation "auth_transactions_token_hash_key"
        (db.authTransactions.any (·.tokenHash == r.tokenHash)),
      foreignKeyViolation "auth_transactions_client_id_fkey" (Db.resolves db.client? r.clientID)]

def ConsentGrant.insertViolation (r : ConsentGrant) : Option PgError :=
  firstViolation
    [checkViolation r.checks,
      uniqueViolation "consent_grants_pkey" (db.consentGrants.any (·.id == r.id)),
      uniqueViolation "consent_grants_user_client_unique"
        (db.consentGrants.any fun old => old.userID == r.userID && old.clientID == r.clientID),
      foreignKeyViolation "consent_grants_user_id_fkey" (db.user? r.userID).isSome,
      foreignKeyViolation "consent_grants_client_id_fkey" (db.client? r.clientID).isSome]

def AuthorizationCode.insertViolation (r : AuthorizationCode) : Option PgError :=
  firstViolation
    [checkViolation r.checks,
      uniqueViolation "authorization_codes_pkey" (db.authorizationCodes.any (·.id == r.id)),
      uniqueViolation "authorization_codes_code_hash_key"
        (db.authorizationCodes.any (·.codeHash == r.codeHash)),
      uniqueViolation "authorization_codes_auth_transaction_id_key"
        (db.authorizationCodes.any (·.authTransactionID == r.authTransactionID)),
      foreignKeyViolation "authorization_codes_auth_transaction_id_fkey"
        (db.authTransaction? r.authTransactionID).isSome,
      foreignKeyViolation "authorization_codes_consent_grant_id_fkey"
        (db.grant? r.consentGrantID).isSome,
      foreignKeyViolation "authorization_codes_user_id_fkey" (db.user? r.userID).isSome,
      foreignKeyViolation "authorization_codes_client_id_fkey" (db.client? r.clientID).isSome,
      foreignKeyViolation "authorization_codes_origin_session_id_fkey"
        (Db.resolves db.session? r.originSessionID)]

/-- `oneissuer_validate_refresh_family_origin`: a named code must carry the family's authority. -/
def RefreshTokenFamily.originConsistent (r : RefreshTokenFamily) : Bool :=
  match r.originAuthorizationCodeID with
  | none => true
  | some codeID =>
    match db.code? codeID with
    | none => false
    | some origin =>
      origin.userID == r.userID && origin.clientID == r.clientID &&
        origin.consentGrantID == r.consentGrantID && origin.scopes.contains "offline_access" &&
        origin.sessionBindingID == some r.sessionBindingID

def RefreshTokenFamily.insertViolation (r : RefreshTokenFamily) : Option PgError :=
  firstViolation
    [raised .checkViolation "refresh family origin is inconsistent" !r.originConsistent db,
      checkViolation (r.checks db.zone),
      uniqueViolation "refresh_token_families_pkey" (db.refreshTokenFamilies.any (·.id == r.id)),
      uniqueViolation "refresh_token_families_origin_code_idx"
        (r.originAuthorizationCodeID.isSome && db.refreshTokenFamilies.any fun old =>
          old.originAuthorizationCodeID == r.originAuthorizationCodeID),
      foreignKeyViolation "refresh_token_families_origin_authorization_code_id_fkey"
        (Db.resolves db.code? r.originAuthorizationCodeID),
      foreignKeyViolation "refresh_token_families_consent_grant_id_fkey"
        (db.grant? r.consentGrantID).isSome,
      foreignKeyViolation "refresh_token_families_user_id_fkey" (db.user? r.userID).isSome,
      foreignKeyViolation "refresh_token_families_client_id_fkey" (db.client? r.clientID).isSome,
      foreignKeyViolation "refresh_token_families_origin_session_id_fkey"
        (Db.resolves db.session? r.originSessionID)]

/-- `oneissuer_validate_refresh_token_lifetime`: a generation stays inside its family. -/
def RefreshToken.insideFamily (r : RefreshToken) : Bool :=
  match db.family? r.familyID with
  | none => false
  | some family => family.createdAt ≤ r.issuedAt && r.expiresAt ≤ family.absoluteExpiresAt

def RefreshToken.insertViolation (r : RefreshToken) : Option PgError :=
  firstViolation
    [raised .checkViolation "refresh token lifetime exceeds family authority" !r.insideFamily db,
      checkViolation (r.checks db.zone),
      uniqueViolation "refresh_tokens_pkey" (db.refreshTokens.any (·.id == r.id)),
      uniqueViolation "refresh_tokens_token_hash_key"
        (db.refreshTokens.any (·.tokenHash == r.tokenHash)),
      uniqueViolation "refresh_tokens_family_generation_unique"
        (db.refreshTokens.any fun old =>
          old.familyID == r.familyID && old.generation == r.generation),
      foreignKeyViolation "refresh_tokens_family_id_fkey" (db.family? r.familyID).isSome]

/-- The code an access token of a code exchange names carries exactly its authority. -/
def AccessToken.codeConsistent (r : AccessToken) (codeID : Uuid) : Bool :=
  match db.code? codeID with
  | none => false
  | some code =>
    code.consentGrantID == r.consentGrantID && code.userID == r.userID &&
      code.clientID == r.clientID && code.scopes == r.scopes &&
      code.originSessionID == r.originSessionID && code.sessionBindingID == r.sessionBindingID &&
      r.sourceRefreshTokenID.isNone

/-- The family an access token of a code exchange names carries exactly its authority. The scopes
of the token are those of its code, so the family's scopes are compared with them. -/
def AccessToken.codeFamilyConsistent (r : AccessToken) : Bool :=
  match r.refreshFamilyID with
  | none => true
  | some familyID =>
    match db.family? familyID with
    | none => false
    | some family =>
      family.originAuthorizationCodeID == r.authorizationCodeID &&
        family.consentGrantID == r.consentGrantID && family.userID == r.userID &&
        family.clientID == r.clientID && family.originSessionID == r.originSessionID &&
        some family.sessionBindingID == r.sessionBindingID && family.scopes == r.scopes &&
        r.scopes.contains "offline_access"

/-- The generation and the family an access token of a refresh names carry its authority. -/
def AccessToken.refreshConsistent (r : AccessToken) : Bool :=
  match r.sourceRefreshTokenID.bind db.generation?, r.refreshFamilyID.bind db.family? with
  | some generation, some family =>
    some generation.familyID == r.refreshFamilyID && family.consentGrantID == r.consentGrantID &&
      family.userID == r.userID && family.clientID == r.clientID &&
      family.originSessionID == r.originSessionID &&
      some family.sessionBindingID == r.sessionBindingID &&
      (r.scopes.all fun scope => family.scopes.contains scope) && r.authorizationCodeID.isNone
  | _, _ => false

/-- The only way to a code-sourced row without a code: the code it named is gone and nothing else
of its authority changes. -/
def AccessToken.detachedFrom (old : AccessToken) (r : AccessToken) : Bool :=
  old.issuanceSource == .authorizationCode &&
    (old.authorizationCodeID.any fun codeID => (db.code? codeID).isNone) &&
    r.sourceRefreshTokenID == old.sourceRefreshTokenID &&
    r.refreshFamilyID == old.refreshFamilyID && r.originSessionID == old.originSessionID &&
    r.sessionBindingID == old.sessionBindingID && r.consentGrantID == old.consentGrantID &&
    r.userID == old.userID && r.clientID == old.clientID && r.scopes == old.scopes

/-- `oneissuer_validate_access_token_authority`; `old` is the row before an update. -/
def AccessToken.authorityViolation (old : Option AccessToken) (r : AccessToken) : Option PgError :=
  match r.issuanceSource with
  | .refreshToken =>
    raised .checkViolation "refresh-sourced Access authority is inconsistent"
      !r.refreshConsistent db
  | .authorizationCode =>
    match r.authorizationCodeID with
    | none =>
      raised .checkViolation "authorization-code Access authority is inconsistent"
        !(old.any fun before => AccessToken.detachedFrom db before r)
    | some codeID =>
      firstViolation
        [raised .checkViolation "authorization-code Access authority is inconsistent"
            !r.codeConsistent db codeID,
          raised .checkViolation "authorization-code Refresh family authority is inconsistent"
            !r.codeFamilyConsistent db]

def AccessToken.insertViolation (r : AccessToken) : Option PgError :=
  firstViolation
    [AccessToken.authorityViolation db none r,
      checkViolation r.checks,
      uniqueViolation "access_tokens_pkey" (db.accessTokens.any (·.id == r.id)),
      uniqueViolation "access_tokens_jti_hash_key" (db.accessTokens.any (·.jtiHash == r.jtiHash)),
      uniqueViolation "access_tokens_source_refresh_token_id_key"
        (r.sourceRefreshTokenID.isSome && db.accessTokens.any fun old =>
          old.sourceRefreshTokenID == r.sourceRefreshTokenID),
      uniqueViolation "access_tokens_authorization_code_source_idx"
        (r.authorizationCodeID.isSome && db.accessTokens.any fun old =>
          old.authorizationCodeID == r.authorizationCodeID),
      foreignKeyViolation "access_tokens_consent_grant_id_fkey" (db.grant? r.consentGrantID).isSome,
      foreignKeyViolation "access_tokens_user_id_fkey" (db.user? r.userID).isSome,
      foreignKeyViolation "access_tokens_client_id_fkey" (db.client? r.clientID).isSome,
      foreignKeyViolation "access_tokens_authorization_code_id_fkey"
        (Db.resolves db.code? r.authorizationCodeID),
      foreignKeyViolation "access_tokens_source_refresh_token_id_fkey"
        (Db.resolves db.generation? r.sourceRefreshTokenID),
      foreignKeyViolation "access_tokens_refresh_family_id_fkey"
        (Db.resolves db.family? r.refreshFamilyID),
      foreignKeyViolation "access_tokens_origin_session_id_fkey"
        (Db.resolves db.session? r.originSessionID)]

def LogoutTransaction.insertViolation (r : LogoutTransaction) : Option PgError :=
  firstViolation
    [checkViolation r.checks,
      uniqueViolation "logout_transactions_pkey" (db.logoutTransactions.any (·.id == r.id)),
      uniqueViolation "logout_transactions_lookup_hash_key"
        (db.logoutTransactions.any (·.lookupHash == r.lookupHash)),
      foreignKeyViolation "logout_transactions_verified_client_id_fkey"
        (Db.resolves db.client? r.verifiedClientID)]

/-- An event type that at most one event may have about the same target. -/
def AuditEvent.oncePerTarget (r : AuditEvent) : Option (String × Uuid) :=
  match r.eventType, r.targetType, r.targetID with
  | .authorizationCodeExchangeRejected, some .authorizationCode, some target =>
    some ("audit_events_code_exchange_rejection_target_idx", target)
  | .refreshTokenExchangeRejected, some .refreshToken, some target =>
    some ("audit_events_refresh_exchange_rejection_target_idx", target)
  | .refreshTokenReuseDetected, some .refreshToken, some target =>
    some ("audit_events_refresh_reuse_target_idx", target)
  | _, _, _ => none

/-- An event of an ordinary type may be repeated about its target. -/
theorem AuditEvent.oncePerTarget_eq_none {row : AuditEvent}
    (ordinary : row.eventType ∉ [.authorizationCodeExchangeRejected, .refreshTokenExchangeRejected,
      .refreshTokenReuseDetected]) : row.oncePerTarget = none := by
  simp only [List.mem_cons, List.not_mem_nil, or_false, not_or] at ordinary
  simp only [AuditEvent.oncePerTarget]
  split
  · exact absurd ‹_› ordinary.1
  · exact absurd ‹_› ordinary.2.1
  · exact absurd ‹_› ordinary.2.2
  · rfl

def AuditEvent.insertViolation (r : AuditEvent) : Option PgError :=
  firstViolation
    [checkViolation r.checks,
      uniqueViolation "audit_events_pkey" (db.auditEvents.any (·.id == r.id)),
      (r.oncePerTarget.bind fun key =>
        uniqueViolation key.1 (db.auditEvents.any fun old => old.oncePerTarget == some key)),
      foreignKeyViolation "audit_events_actor_user_id_fkey" (Db.resolves db.user? r.actorUserID)]

end Inserts

end OneIssuer
