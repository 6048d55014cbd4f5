import OneIssuer.Audit

/-!
# Rows and their CHECK constraints

One structure per table and, beside it, the CHECK constraints of the current schema (all fifteen
migrations applied) as a list of names and truth values, in the order of their names. A CHECK fails
only on FALSE: a comparison with NULL is unknown and passes, which is `Option.all` here.

Unique keys, foreign keys and triggers look at other rows and stand in `Schema.Database`.
-/

set_option autoImplicit false

namespace OneIssuer

open OneIssuer.Consent (sortedSet)

/-! ## SQL predicates -/

/-- The name of the first constraint that does not hold. -/
def firstViolated (checks : List (String × Bool)) : Option String :=
  (checks.find? fun check => !check.2).map (·.1)

theorem firstViolated_eq_none {checks : List (String × Bool)} :
    firstViolated checks = none ↔ ∀ check ∈ checks, check.2 = true := by
  simp [firstViolated]

/-- `length(value) BETWEEN least AND most`. -/
def lengthBetween (value : String) (least most : Nat) : Bool :=
  least ≤ value.length && value.length ≤ most

/-- `octet_length(value) BETWEEN least AND most` of a text. -/
def octetsBetween (value : String) (least most : Nat) : Bool :=
  least ≤ value.utf8ByteSize && value.utf8ByteSize ≤ most

/-- `octet_length(value) = 32` of a `bytea`. -/
def isDigest (value : Bytes) : Bool := value.length == sha256Size

/-- Some suffix satisfies `p`. -/
def anySuffix (p : List Char → Bool) : List Char → Bool
  | [] => p []
  | c :: rest => p (c :: rest) || anySuffix p rest

/-- `text LIKE pattern`: `%` is any text, `_` any character, a backslash quotes the next one. -/
def like : List Char → List Char → Bool
  | [], text => text.isEmpty
  | '%' :: pattern, text => anySuffix (like pattern) text
  | '_' :: pattern, _ :: text => like pattern text
  | '\\' :: c :: pattern, d :: text => c == d && like pattern text
  | c :: pattern, d :: text => c == d && like pattern text
  | _ :: _, [] => false

/-- `oneissuer_text_array_is_sorted_unique`. -/
def sortedUnique (values : List String) : Bool := sortedSet values == values

/-- The scope CHECK that four tables share; only the least cardinality differs. -/
def scopesValid (least : Nat) (scopes : List String) : Bool :=
  least ≤ scopes.length && scopes.length ≤ 4 &&
    (scopes.all fun scope => ["email", "offline_access", "openid", "profile"].contains scope) &&
    scopes.contains "openid" && sortedUnique scopes

/-- A character of `[A-Za-z0-9_-]`. -/
def isChallengeChar (c : Char) : Bool := c.isAlphanum || c == '_' || c == '-'

/-- `value ~ '^[A-Za-z0-9_-]{43}$'`. -/
def isChallenge (value : String) : Bool :=
  value.length == 43 && value.toList.all isChallengeChar

/-- The reason column of a revocable row: absent before, one of `reasons` after. -/
def revokeReasonValid (reasons : List RevokeReason) (revokedAt : Option Time)
    (revokeReason : Option RevokeReason) : Bool :=
  match revokedAt with
  | none => revokeReason.isNone
  | some _ => revokeReason.all fun reason => reasons.contains reason

/-! ## Users and credentials -/

/-- A row of `users`. -/
structure User where
  id : Uuid
  subject : String
  username : String
  usernameNormalized : String
  displayName : String
  email : String
  emailNormalized : String
  emailVerified : Bool
  status : Status
  role : Role
  createdAt : Time
  updatedAt : Time
  lastLoginAt : Option Time
  version : Int
  deriving DecidableEq, Repr

def User.checks (r : User) : List (String × Bool) :=
  [("users_display_name_bounds", lengthBetween r.displayName 1 256),
    ("users_email_bounds", lengthBetween r.email 3 320 && lengthBetween r.emailNormalized 3 320),
    ("users_subject_not_blank",
      lengthBetween r.subject 20 255 &&
        r.subject.toList.head? != some ' ' && r.subject.toList.getLast? != some ' '),
    ("users_timestamps_valid",
      r.createdAt ≤ r.updatedAt && r.lastLoginAt.all fun t => r.createdAt ≤ t),
    ("users_username_bounds",
      lengthBetween r.username 1 128 && lengthBetween r.usernameNormalized 1 256),
    ("users_version_valid", 0 < r.version)]

/-- A row of `credentials`. The `credential_type` column has the single value `password`. -/
structure Credential where
  userID : Uuid
  passwordHash : String
  createdAt : Time
  updatedAt : Time
  deriving DecidableEq, Repr

def Credential.checks (r : Credential) : List (String × Bool) :=
  [("credentials_argon2id_phc",
      like "$argon2id$v=%$m=%,t=%,p=%$%$%".toList r.passwordHash.toList &&
        lengthBetween r.passwordHash 80 512),
    ("credentials_timestamps_valid", r.createdAt ≤ r.updatedAt)]

/-! ## Clients -/

/-- A row of `oidc_clients`. -/
structure ClientRow where
  id : Uuid
  clientID : String
  clientType : ClientType
  tokenEndpointAuthMethod : AuthMethod
  name : String
  description : String
  logoURI : Option String
  status : Status
  registrationEnabled : Bool
  createdAt : Time
  updatedAt : Time
  version : Int
  deriving DecidableEq, Repr

def ClientRow.checks (r : ClientRow) : List (String × Bool) :=
  [("oidc_clients_auth_method_valid",
      (r.clientType == .typePublic && r.tokenEndpointAuthMethod == .none) ||
        (r.clientType == .typeConfidential && r.tokenEndpointAuthMethod == .clientSecretBasic)),
    ("oidc_clients_description_bounds", lengthBetween r.description 0 2048),
    ("oidc_clients_id_format",
      like "ois_cli_%".toList r.clientID.toList && lengthBetween r.clientID 40 128),
    ("oidc_clients_logo_uri_bounds", r.logoURI.all fun uri => lengthBetween uri 0 2048),
    ("oidc_clients_name_bounds", lengthBetween r.name 1 256),
    ("oidc_clients_timestamps_valid", r.createdAt ≤ r.updatedAt),
    ("oidc_clients_version_valid", 0 < r.version)]

/-- A row of `oidc_client_redirect_uris` or of `oidc_client_logout_uris`. -/
structure ClientURI where
  clientID : Uuid
  uri : String
  createdAt : Time
  deriving DecidableEq, Repr

def ClientURI.checks (constraint : String) (r : ClientURI) : List (String × Bool) :=
  [(constraint, lengthBetween r.uri 8 2048)]

/-- A row of `oidc_client_scopes`. -/
structure ClientScope where
  clientID : Uuid
  scope : String
  createdAt : Time
  deriving DecidableEq, Repr

/-- `scope ~ '^[a-z][a-z0-9:_-]{0,63}$'`. -/
def isScopeName (scope : String) : Bool :=
  match scope.toList with
  | [] => false
  | first :: rest =>
    first.isLower && rest.length ≤ 63 &&
      rest.all fun c => c.isLower || c.isDigit || c == ':' || c == '_' || c == '-'

def ClientScope.checks (r : ClientScope) : List (String × Bool) :=
  [("oidc_client_scope_format", isScopeName r.scope)]

/-- A row of `oidc_client_secrets`; its `version` column is always 1. -/
structure ClientSecret where
  id : Uuid
  clientID : Uuid
  secretHash : Bytes
  createdAt : Time
  revokedAt : Option Time
  deriving DecidableEq, Repr

def ClientSecret.checks (r : ClientSecret) : List (String × Bool) :=
  [("oidc_client_secret_hash_length", isDigest r.secretHash),
    ("oidc_client_secret_timestamps_valid", r.revokedAt.all fun t => r.createdAt ≤ t)]

/-! ## Sessions -/

/-- A row of `login_sessions`. -/
structure LoginSession where
  id : Uuid
  userID : Uuid
  sessionBindingID : Uuid
  tokenHash : Bytes
  csrfHash : Bytes
  csrfExpiresAt : Time
  createdAt : Time
  lastSeenAt : Time
  authenticatedAt : Time
  expiresAt : Time
  idleExpiresAt : Time
  revokedAt : Option Time
  revokeReason : Option RevokeReason
  userAgentHash : Option Bytes
  ipPrefix : Option String
  deriving DecidableEq, Repr

/-- The reasons `login_sessions` admits. -/
def sessionReasons : List RevokeReason :=
  [.logout, .user, .others, .admin, .userDisabled, .roleChanged, .rotation, .expired,
    .accountSwitch]

def LoginSession.checks (r : LoginSession) : List (String × Bool) :=
  [("login_sessions_csrf_hash_length", isDigest r.csrfHash),
    ("login_sessions_expiry_valid",
      r.createdAt ≤ r.lastSeenAt && r.createdAt ≤ r.authenticatedAt && r.createdAt < r.expiresAt &&
        r.createdAt < r.idleExpiresAt && r.idleExpiresAt ≤ r.expiresAt &&
        r.createdAt < r.csrfExpiresAt && r.revokedAt.all fun t => r.createdAt ≤ t),
    ("login_sessions_ip_prefix_bounds", r.ipPrefix.all fun text => lengthBetween text 3 64),
    ("login_sessions_revoke_reason_valid",
      revokeReasonValid sessionReasons r.revokedAt r.revokeReason),
    ("login_sessions_token_hash_length", isDigest r.tokenHash),
    ("login_sessions_user_agent_hash_length", r.userAgentHash.all isDigest)]

/-- A row of `preauth_sessions`. -/
structure PreAuthSession where
  id : Uuid
  tokenHash : Bytes
  csrfHash : Bytes
  authTransactionID : Uuid
  createdAt : Time
  expiresAt : Time
  consumedAt : Option Time
  attemptCount : Int
  deriving DecidableEq, Repr

def PreAuthSession.checks (r : PreAuthSession) : List (String × Bool) :=
  [("preauth_sessions_attempt_count_valid", 0 ≤ r.attemptCount && r.attemptCount ≤ 10),
    ("preauth_sessions_csrf_hash_length", isDigest r.csrfHash),
    ("preauth_sessions_expiry_valid",
      r.createdAt < r.expiresAt && r.consumedAt.all fun t => r.createdAt ≤ t),
    ("preauth_sessions_token_hash_length", isDigest r.tokenHash)]

/-- A row of `auth_transactions`. -/
structure AuthTransaction where
  id : Uuid
  tokenHash : Bytes
  transactionKind : TransactionKind
  clientID : Option Uuid
  redirectURI : Option String
  scopes : List String
  pkceChallenge : Option String
  pkceMethod : Option String
  stateValue : Option String
  nonceValue : Option String
  promptCreate : Bool
  responseType : Option String
  responseMode : Option String
  promptValues : List String
  maxAgeSeconds : Option Int
  createdAt : Time
  expiresAt : Time
  consumedAt : Option Time
  failureReason : Option FailureReason
  deriving DecidableEq, Repr

def AuthTransaction.checks (r : AuthTransaction) : List (String × Bool) :=
  [("auth_transactions_authorization_context",
      r.transactionKind != .kindAuthorization ||
        (r.clientID.isSome && r.redirectURI.isSome && r.responseType.all (· == "code") &&
          r.responseMode.all (· == "query") && r.pkceChallenge.all isChallenge &&
          r.pkceMethod.all (· == "S256") && scopesValid 1 r.scopes)),
    ("auth_transactions_context_bounds",
      (r.redirectURI.all fun text => octetsBetween text 1 2048) &&
        (r.pkceChallenge.all fun text => octetsBetween text 43 43) &&
        (r.stateValue.all fun text => octetsBetween text 1 1024) &&
        (r.nonceValue.all fun text => octetsBetween text 1 1024) &&
        decide (r.promptValues.length ≤ 4) &&
        r.maxAgeSeconds.all fun age => 0 ≤ age && age ≤ 2592000),
    ("auth_transactions_expiry_valid",
      r.createdAt < r.expiresAt && r.consumedAt.all fun t => r.createdAt ≤ t),
    ("auth_transactions_local_context",
      r.transactionKind != .kindLocal ||
        (r.clientID.isNone && r.redirectURI.isNone && r.scopes.isEmpty && r.pkceChallenge.isNone &&
          r.pkceMethod.isNone && r.stateValue.isNone && r.nonceValue.isNone && !r.promptCreate &&
          r.responseType.isNone && r.responseMode.isNone && r.promptValues.isEmpty &&
          r.maxAgeSeconds.isNone)),
    ("auth_transactions_pkce_valid",
      (r.pkceChallenge.isNone && r.pkceMethod.isNone) ||
        (r.pkceChallenge.all isChallenge && r.pkceMethod.all (· == "S256"))),
    ("auth_transactions_prompt_valid",
      sortedUnique r.promptValues &&
        (r.promptValues.all fun value => ["consent", "create", "login", "none"].contains value) &&
        (!r.promptValues.contains "none" || r.promptValues.length == 1) &&
        !(r.promptValues.contains "create" && r.promptValues.contains "login") &&
        r.promptCreate == r.promptValues.contains "create"),
    ("auth_transactions_scope_bounds", r.scopes.length ≤ 32),
    ("auth_transactions_token_hash_length", isDigest r.tokenHash)]

/-! ## Consent and protocol artifacts -/

/-- A row of `consent_grants`. -/
structure ConsentGrant where
  id : Uuid
  userID : Uuid
  clientID : Uuid
  scopes : List String
  createdAt : Time
  updatedAt : Time
  revokedAt : Option Time
  version : Int
  deriving DecidableEq, Repr

def ConsentGrant.checks (r : ConsentGrant) : List (String × Bool) :=
  [("consent_grants_scopes_valid", scopesValid 1 r.scopes),
    ("consent_grants_timestamps_valid",
      r.createdAt ≤ r.updatedAt && r.revokedAt.all fun t => r.createdAt ≤ t),
    ("consent_grants_version_valid", 0 < r.version)]

/-- A row of `authorization_codes`. -/
structure AuthorizationCode where
  id : Uuid
  codeHash : Bytes
  authTransactionID : Uuid
  consentGrantID : Uuid
  userID : Uuid
  clientID : Uuid
  redirectURI : String
  scopes : List String
  pkceChallenge : String
  pkceMethod : String
  nonceValue : Option String
  authTime : Time
  createdAt : Time
  expiresAt : Time
  consumedAt : Option Time
  consentGrantVersion : Int
  originSessionID : Option Uuid
  sessionBindingID : Option Uuid
  deriving DecidableEq, Repr

def AuthorizationCode.checks (r : AuthorizationCode) : List (String × Bool) :=
  [("authorization_codes_consent_grant_version_valid", 0 < r.consentGrantVersion),
    ("authorization_codes_hash_length", isDigest r.codeHash),
    ("authorization_codes_lifetime_valid",
      r.authTime ≤ r.createdAt && r.createdAt < r.expiresAt &&
        r.expiresAt ≤ r.createdAt + minutes 5 && r.consumedAt.all fun t => r.createdAt ≤ t),
    ("authorization_codes_nonce_bounds", r.nonceValue.all fun text => octetsBetween text 1 1024),
    ("authorization_codes_offline_binding_valid",
      !r.scopes.contains "offline_access" || r.sessionBindingID.isSome),
    ("authorization_codes_pkce_valid", isChallenge r.pkceChallenge && r.pkceMethod == "S256"),
    ("authorization_codes_redirect_bounds", octetsBetween r.redirectURI 1 2048),
    ("authorization_codes_scopes_valid", scopesValid 1 r.scopes)]

/-- A row of `refresh_token_families`. -/
structure RefreshTokenFamily where
  id : Uuid
  originAuthorizationCodeID : Option Uuid
  consentGrantID : Uuid
  userID : Uuid
  clientID : Uuid
  originSessionID : Option Uuid
  sessionBindingID : Uuid
  scopes : List String
  createdAt : Time
  absoluteExpiresAt : Time
  revokedAt : Option Time
  revokeReason : Option RevokeReason
  deriving DecidableEq, Repr

/-- The reasons `refresh_token_families` admits. -/
def familyReasons : List RevokeReason :=
  [.reuse, .clientRevocation, .grantRevoked, .sessionRevoked, .userDisabled, .clientDisabled,
    .offlineScopeRemoved, .accountSwitch]

def RefreshTokenFamily.checks (zone : Zone) (r : RefreshTokenFamily) : List (String × Bool) :=
  [("refresh_token_families_lifetime_valid",
      r.createdAt < r.absoluteExpiresAt && r.absoluteExpiresAt ≤ zone.plusDays r.createdAt 365 &&
        r.revokedAt.all fun t => r.createdAt ≤ t),
    ("refresh_token_families_revoke_reason_valid",
      revokeReasonValid familyReasons r.revokedAt r.revokeReason),
    ("refresh_token_families_scopes_valid",
      scopesValid 2 r.scopes && r.scopes.contains "offline_access")]

/-- A row of `refresh_tokens`. -/
structure RefreshToken where
  id : Uuid
  familyID : Uuid
  tokenHash : Bytes
  generation : Int
  issuedAt : Time
  expiresAt : Time
  consumedAt : Option Time
  deriving DecidableEq, Repr

def RefreshToken.checks (zone : Zone) (r : RefreshToken) : List (String × Bool) :=
  [("refresh_tokens_generation_valid", 0 ≤ r.generation),
    ("refresh_tokens_hash_length", isDigest r.tokenHash),
    ("refresh_tokens_lifetime_valid",
      r.issuedAt < r.expiresAt && r.expiresAt ≤ zone.plusDays r.issuedAt 30 &&
        r.consumedAt.all fun t => r.issuedAt ≤ t)]

/-- A row of `access_tokens`. -/
structure AccessToken where
  id : Uuid
  jtiHash : Bytes
  authorizationCodeID : Option Uuid
  consentGrantID : Uuid
  userID : Uuid
  clientID : Uuid
  scopes : List String
  issuedAt : Time
  expiresAt : Time
  issuanceSource : IssuanceSource
  sourceRefreshTokenID : Option Uuid
  refreshFamilyID : Option Uuid
  originSessionID : Option Uuid
  sessionBindingID : Option Uuid
  revokedAt : Option Time
  revokeReason : Option RevokeReason
  deriving DecidableEq, Repr

/-- The reasons `access_tokens` admits. -/
def accessReasons : List RevokeReason :=
  [.clientRevocation, .familyRevoked, .grantRevoked, .sessionRevoked, .userDisabled,
    .clientDisabled, .offlineScopeRemoved, .accountSwitch]

def AccessToken.checks (r : AccessToken) : List (String × Bool) :=
  [("access_tokens_jti_hash_length", isDigest r.jtiHash),
    ("access_tokens_lifetime_valid",
      r.issuedAt < r.expiresAt && r.expiresAt ≤ r.issuedAt + minutes 30 &&
        r.revokedAt.all fun t => r.issuedAt ≤ t),
    ("access_tokens_offline_source_valid",
      !r.scopes.contains "offline_access" ||
        (r.refreshFamilyID.isSome && r.sessionBindingID.isSome)),
    ("access_tokens_revoke_reason_valid",
      revokeReasonValid accessReasons r.revokedAt r.revokeReason),
    ("access_tokens_scopes_valid", scopesValid 1 r.scopes),
    ("access_tokens_source_valid",
      (r.issuanceSource == .authorizationCode && r.sourceRefreshTokenID.isNone) ||
        (r.issuanceSource == .refreshToken && r.authorizationCodeID.isNone &&
          r.sourceRefreshTokenID.isSome && r.refreshFamilyID.isSome && r.sessionBindingID.isSome))]

/-! ## Logout and audit -/

/-- A row of `logout_transactions`. -/
structure LogoutTransaction where
  id : Uuid
  lookupHash : Bytes
  stage : LogoutStage
  csrfHash : Option Bytes
  verifiedClientID : Option Uuid
  postLogoutRedirectURI : Option String
  stateValue : Option String
  hintSubject : Option String
  userID : Option Uuid
  sessionID : Option Uuid
  sessionBindingID : Option Uuid
  createdAt : Time
  expiresAt : Time
  boundAt : Option Time
  consumedAt : Option Time
  attemptCount : Int
  deriving DecidableEq, Repr

/-- The columns a stage requires to be set or to be absent. -/
def LogoutTransaction.authorityStageValid (r : LogoutTransaction) : Bool :=
  let bound := r.userID.isSome && r.sessionID.isSome && r.sessionBindingID.isSome && r.boundAt.isSome
  match r.stage with
  | .preConfirm =>
    r.csrfHash.isNone && r.userID.isNone && r.sessionID.isNone && r.sessionBindingID.isNone &&
      r.boundAt.isNone && r.consumedAt.isNone
  | .boundConfirmable => r.csrfHash.isSome && bound && r.consumedAt.isNone
  | .confirmed => r.csrfHash.isNone && bound && r.consumedAt.isSome
  | .canceled => r.csrfHash.isNone && bound && r.consumedAt.isSome

def LogoutTransaction.checks (r : LogoutTransaction) : List (String × Bool) :=
  [("logout_transactions_attempt_count_valid", 0 ≤ r.attemptCount && r.attemptCount ≤ 10),
    ("logout_transactions_authority_stage_valid", r.authorityStageValid),
    ("logout_transactions_csrf_hash_length", r.csrfHash.all isDigest),
    ("logout_transactions_lookup_hash_length", isDigest r.lookupHash),
    ("logout_transactions_time_valid",
      r.createdAt < r.expiresAt && r.expiresAt ≤ r.createdAt + minutes 15 &&
        (r.boundAt.all fun t => r.createdAt ≤ t) &&
        r.consumedAt.all fun t => r.boundAt.getD r.createdAt ≤ t),
    ("logout_transactions_verified_redirect_valid",
      (r.postLogoutRedirectURI.all fun uri =>
          r.verifiedClientID.isSome && octetsBetween uri 8 2048) &&
        (r.stateValue.all fun text =>
          r.postLogoutRedirectURI.isSome && octetsBetween text 1 1024) &&
        r.hintSubject.all fun text => octetsBetween text 1 255)]

/-- A row of `audit_events`. Its type, result and target kind are enumerations; the request ID is
NULL where the event has none. -/
structure AuditEvent where
  id : Uuid
  eventType : Audit.EventType
  result : Audit.Result
  actorUserID : Option Uuid
  targetType : Option Audit.TargetType
  targetID : Option Uuid
  requestID : Option String
  changedFields : List String
  occurredAt : Time
  deriving DecidableEq, Repr

def AuditEvent.checks (r : AuditEvent) : List (String × Bool) :=
  [("audit_events_changed_fields_whitelist",
      r.changedFields.all fun field => Audit.validChangedFields.contains field),
    ("audit_events_request_id_safe", r.requestID.all fun text => text != "" && Audit.validRequestID text),
    ("audit_events_target_valid", r.targetType.isSome == r.targetID.isSome)]

end OneIssuer
