import OneIssuer.Store.Tokens

/-!
# Token service

How the token service decides about a presented token: the verification of an access token, UserInfo,
introspection, and the digests a revocation looks for. UserInfo and introspection read one snapshot
of the database and change nothing, so they are functions of a state.

JOSE and JSON are outside the repository. `Jose` holds the three functions the service calls: parsing
a compact JWS, verifying it with a key, and decoding its payload. They are fixed functions, and
nothing is assumed about them.

**What it does not establish.** So no result says that an accepted signature was made by this server.
-/

set_option autoImplicit false

namespace OneIssuer.Token

open OneIssuer.Consent

/-! ## Texts -/

/-- `unicode.IsSpace`. -/
def isSpace (c : Char) : Bool :=
  c == ' ' || ('\t' ≤ c && c ≤ '\r') || c == '\u0085' || c == '\u00a0' || c == '\u1680' ||
    ('\u2000' ≤ c && c ≤ '\u200a') || c == '\u2028' || c == '\u2029' || c == '\u202f' ||
    c == '\u205f' || c == '\u3000'

/-- `strings.TrimSpace(value) == value`. -/
def isTrimmed (value : String) : Bool :=
  !value.toList.head?.any isSpace && !value.toList.getLast?.any isSpace

/-- `strings.Split(text, " ")`. -/
def splitSpaces : List Char → List (List Char)
  | [] => [[]]
  | ' ' :: rest => [] :: splitSpaces rest
  | c :: rest =>
    match splitSpaces rest with
    | [] => [[c]]
    | part :: parts => (c :: part) :: parts

/-- `parseScopeClaim`. -/
def parseScopeClaim (raw : String) : Option (List String) :=
  if raw == "" || !isTrimmed raw || raw.toList.any fun c => c == '\t' || c == '\r' || c == '\n' then
    none
  else
    (canonicalScopes ((splitSpaces raw.toList).map String.ofList)).filter fun canonical =>
      " ".intercalate canonical == raw

/-- The scope claim of a sorted set reads back as the set. -/
theorem parseScopeClaim_listed : ∀ scopes ∈ supportedScopes.sublists, "openid" ∈ scopes →
    parseScopeClaim (" ".intercalate scopes) = some scopes := by
  decide

/-! ## Signed tokens -/

/-- `AccessTokenClaims`. -/
structure AccessTokenClaims where
  issuer : String
  subject : String
  audience : String
  clientID : String
  scope : String
  issuedAt : Int64
  expiresAt : Int64
  jwtID : String
  deriving DecidableEq, Repr

/-- A value of an extra header: a text or something else. -/
inductive HeaderValue where
  | text (value : String)
  | other
  deriving DecidableEq, Repr

/-- `jose.Header`, as far as the service looks at it. -/
structure JoseHeader where
  algorithm : String
  keyID : String
  hasJSONWebKey : Bool
  nonceValue : String
  extraHeaders : List (String × HeaderValue)

/-- `jose.JSONWebKey`; `rsaBits` is the size of the modulus of an RSA public key. -/
structure JSONWebKey where
  keyID : String
  algorithm : String
  use : String
  isPublic : Bool
  rsaBits : Option Nat

/-- The functions of the JOSE and JSON libraries. -/
structure Jose where
  /-- The headers of the signatures `jose.ParseSignedCompact` found, with RS256 as the only
  algorithm. -/
  parseSignedCompact : String → Option (List JoseHeader)
  /-- The payload `object.Verify` returns. -/
  verify : String → JSONWebKey → Option String
  /-- The strict decoder: no unknown field, nothing after the value. -/
  decodeClaims : String → Option AccessTokenClaims

/-- The configuration of the token service that verification reads. -/
structure Service where
  jose : Jose
  publicKeys : List JSONWebKey
  issuer : String
  userinfoAudience : String
  clockSkew : Int

/-- `maxCompactTokenBytes` and `maxPresentedLifecycleTokenBytes`. -/
def maxCompactTokenBytes : Nat := 16384

/-- The header is the one of an access token. -/
def JoseHeader.isAccessToken (header : JoseHeader) : Bool :=
  header.algorithm == "RS256" && header.keyID != "" && !header.hasJSONWebKey &&
    header.nonceValue == "" && header.extraHeaders.lookup "typ" == some (.text "at+jwt") &&
    header.extraHeaders.length == 1

/-- The key can verify a signature with this key ID. -/
def JSONWebKey.verifies (key : JSONWebKey) (keyID : String) : Bool :=
  key.keyID == keyID && key.algorithm == "RS256" && key.use == "sig" && key.isPublic &&
    key.rsaBits.any fun bits => 2048 ≤ bits

/-- `time.Unix(value, 0)`: the sum that makes its internal seconds is an `int64`. -/
def timeUnix (value : Int64) : Time := seconds (value + 62135596800).toInt

variable (sha : Sha256) (service : Service)

/-- The claims of a compact token whose signature verifies, before they are checked. -/
def Service.signedClaims (compact : String) : Option AccessTokenClaims :=
  if compact == "" || maxCompactTokenBytes < compact.utf8ByteSize || !isTrimmed compact ||
      compact.toList.count '.' != 2 then none
  else
    match service.jose.parseSignedCompact compact with
    | some [header] =>
      if !header.isAccessToken then none
      else
        match service.publicKeys.filter (·.verifies header.keyID) with
        | [key] => (service.jose.verify compact key).bind service.jose.decodeClaims
        | _ => none
    | _ => none

/-- The claims a valid access token may have at `now`. -/
def Service.claimsValid (claims : AccessTokenClaims) (now : Time) : Bool :=
  claims.issuer == service.issuer && claims.audience == service.userinfoAudience &&
    claims.subject != "" && claims.clientID != "" && 0 < claims.issuedAt &&
    claims.issuedAt < claims.expiresAt && now - service.clockSkew ≤ timeUnix claims.expiresAt &&
    timeUnix claims.issuedAt ≤ now + service.clockSkew &&
    (claims.expiresAt - claims.issuedAt) * 1000000000 ≤ 1800000000000 && validJTI claims.jwtID &&
    (parseScopeClaim claims.scope).any fun scopes => scopes.contains "openid"

/-- `verifyAccessToken`. -/
def Service.verifyAccessToken (compact : String) (now : Time) : Option AccessTokenClaims :=
  (service.signedClaims compact).filter fun claims => service.claimsValid claims now

/-- The digest an access token is stored under. -/
def Service.accessDigest (compact : String) : Option Bytes :=
  (service.signedClaims compact).map (hashJTI sha ·.jwtID)

/-! ## Authority -/

/-- `activeClient`. -/
def activeClient (value : Client) : Bool :=
  value.id != Uuid.nil && value.clientID != "" && value.status == .active &&
    validAuthenticationProfile value.type value.tokenEndpointAuthMethod

/-- The first block of `accessAuthorityMatches`: metadata, user, client and grant belong together and
are active. -/
def authorityActive (authority : AccessAuthority) (now : Time) : Bool :=
  let metadata := authority.metadata
  metadata.id != Uuid.nil && metadata.consentGrantID != Uuid.nil && metadata.revokedAt.isNone &&
    metadata.userID != Uuid.nil && metadata.clientID != Uuid.nil &&
    metadata.jtiHash.length == sha256Size && now < metadata.expiresAt &&
    !metadata.issuedAt.isZero && metadata.issuedAt < metadata.expiresAt &&
    authority.user.id == metadata.userID && authority.user.status == .active &&
    authority.client.id == metadata.clientID && activeClient authority.client &&
    authority.grant.id == metadata.consentGrantID && authority.grant.userID == metadata.userID &&
    authority.grant.clientID == metadata.clientID && 1 ≤ authority.grant.version &&
    authority.grant.revokedAt.isNone

/-- The columns that name the source of an access token fit the source. -/
def sourceMatches (metadata : AccessToken) : Bool :=
  match metadata.issuanceSource with
  | .authorizationCode => metadata.sourceRefreshTokenID.isNone
  | .refreshToken =>
    metadata.authorizationCodeID.isNone && metadata.sourceRefreshTokenID.isSome &&
      metadata.refreshFamilyID.isSome && metadata.sessionBindingID.isSome

/-- The family an access token names carries its authority. -/
def familyMatches (authority : AccessAuthority) (scopes : List String) (now : Time) : Bool :=
  let metadata := authority.metadata
  match metadata.refreshFamilyID, authority.family with
  | none, family => family.isNone
  | some _, none => false
  | some familyID, some family =>
    family.id == familyID && family.revokedAt.isNone && now < family.absoluteExpiresAt &&
      family.userID == metadata.userID && family.clientID == metadata.clientID &&
      family.consentGrantID == metadata.consentGrantID &&
      metadata.sessionBindingID == some family.sessionBindingID &&
      (canonicalRefreshScopes family.scopes).any fun familyScopes =>
        scopeSubset scopes familyScopes

/-- The claims of the token are those of its metadata. -/
def Service.claimsMatch (authority : AccessAuthority) (claims : AccessTokenClaims) : Bool :=
  claims.issuer == service.issuer && claims.audience == service.userinfoAudience &&
    claims.subject == authority.user.subject && claims.clientID == authority.client.clientID &&
    claims.issuedAt.toInt == authority.metadata.issuedAt.unix &&
    claims.expiresAt.toInt == authority.metadata.expiresAt.unix &&
    hashJTI sha claims.jwtID == authority.metadata.jtiHash

/-- `accessAuthorityMatches`. -/
def Service.accessAuthorityMatches (authority : AccessAuthority) (claims : AccessTokenClaims)
    (now : Time) : Bool :=
  match canonicalScopes authority.metadata.scopes with
  | none => false
  | some scopes =>
    authorityActive authority now && sourceMatches authority.metadata &&
      familyMatches authority scopes now && parseScopeClaim claims.scope == some scopes &&
      scopeSubset scopes authority.client.scopes &&
      (difference scopes (intersection authority.grant.scopes authority.client.scopes)).isEmpty &&
      service.claimsMatch sha authority claims

/-! ## UserInfo -/

/-- `token.UserInfo`. -/
structure UserInfo where
  subject : String
  name : Option String
  preferredUsername : Option String
  email : Option String
  emailVerified : Option Bool
  deriving DecidableEq, Repr

/-- `applyUserInfoClaims`. -/
def applyUserInfoClaims (scopes : List String) (user : User) : UserInfo :=
  let profile := scopes.contains "profile"
  let email := scopes.contains "email"
  { subject := user.subject
    name := if profile then some user.displayName else none
    preferredUsername := if profile then some user.username else none
    email := if email then some user.email else none
    emailVerified := if email then some user.emailVerified else none }

/-- `GetAccessTokenAuthority` on the snapshot `db`. -/
def accessAuthority (db : Db) (jtiHash : Bytes) (now : Time) : Except StoreError AccessAuthority :=
  ((Store.getAccessTokenAuthority jtiHash now).run exec db).map (·.1)

/-- `UserInfoForAccessToken`. -/
def Service.userInfoForAccessToken (db : Db) (compact : String) (now : Time) :
    Except StoreError UserInfo :=
  match service.verifyAccessToken compact now with
  | none => .error .tokenInvalidToken
  | some claims => do
    let authority ← accessAuthority db (hashJTI sha claims.jwtID) now
    if service.accessAuthorityMatches sha authority claims now then
      .ok (applyUserInfoClaims authority.metadata.scopes authority.user)
    else .error .tokenInvalidToken

/-! ## Introspection -/

/-- `token.IntrospectionInput`. -/
structure IntrospectionInput where
  client : Client
  token : String
  hint : String
  now : Time

/-- `token.IntrospectionResponse`; an omitted text is empty, an omitted number 0. -/
structure IntrospectionResponse where
  active : Bool
  tokenType : String
  clientID : String
  scope : String
  subject : String
  issuer : String
  audience : String
  issuedAt : Int
  expiresAt : Int
  deriving DecidableEq, Repr

/-- `IntrospectionResponse{Active: false}`. -/
def inactive : IntrospectionResponse := ⟨false, "", "", "", "", "", "", 0, 0⟩

/-- The scopes introspection reports for an access token. -/
def effectiveScopes (authority : AccessAuthority) : List String :=
  let granted := intersection authority.metadata.scopes
    (intersection authority.grant.scopes authority.client.scopes)
  match authority.family with
  | none => granted
  | some family => intersection granted family.scopes

/-- The answer of `introspectAccess` about a token it found. -/
def Service.accessResponse (authority : AccessAuthority) : IntrospectionResponse :=
  { active := true, tokenType := "Bearer", clientID := authority.client.clientID
    scope := " ".intercalate (effectiveScopes authority), subject := authority.user.subject
    issuer := service.issuer, audience := service.userinfoAudience
    issuedAt := authority.metadata.issuedAt.unix, expiresAt := authority.metadata.expiresAt.unix }

/-- `introspectAccess`; nothing when the token is not an access token. -/
def Service.introspectAccess (db : Db) (input : IntrospectionInput) :
    Option (Except StoreError IntrospectionResponse) :=
  (service.verifyAccessToken input.token input.now).map fun claims =>
    match accessAuthority db (hashJTI sha claims.jwtID) input.now with
    | .error .tokenInvalidToken => .ok inactive
    | .error error => .error error
    | .ok authority =>
      if authority.client.id != input.client.id ||
          authority.client.clientID != input.client.clientID ||
          !service.accessAuthorityMatches sha authority claims input.now then .ok inactive
      else if (effectiveScopes authority).isEmpty ||
          !(effectiveScopes authority).contains "openid" then .ok inactive
      else .ok (service.accessResponse authority)

/-- What `introspectRefresh` requires of the snapshot. -/
def refreshAuthorityMatches (authority : RefreshTokenAuthority) (client : Client) (digest : Bytes)
    (now : Time) : Bool :=
  let generation := authority.generation
  let family := authority.family
  authority.client.id == client.id && authority.client.clientID == client.clientID &&
    generation.id != Uuid.nil && generation.familyID == family.id &&
    generation.tokenHash == digest && generation.consumedAt.isNone && now < generation.expiresAt &&
    family.revokedAt.isNone && now < family.absoluteExpiresAt &&
    authority.user.id == family.userID && authority.user.status == .active &&
    authority.client.id == family.clientID && activeClient authority.client &&
    authority.grant.id == family.consentGrantID && authority.grant.userID == family.userID &&
    authority.grant.clientID == family.clientID && authority.grant.revokedAt.isNone &&
    1 ≤ authority.grant.version

/-- The answer of `introspectRefresh` about a token it found. -/
def Service.refreshResponse (authority : RefreshTokenAuthority) (scopes : List String) :
    IntrospectionResponse :=
  { active := true, tokenType := "", clientID := authority.client.clientID
    scope := " ".intercalate scopes, subject := authority.user.subject, issuer := service.issuer
    audience := "", issuedAt := authority.generation.issuedAt.unix
    expiresAt := authority.generation.expiresAt.unix }

/-- `GetRefreshTokenAuthority` on the snapshot `db`. -/
def refreshAuthority (db : Db) (hash : Bytes) : Except StoreError RefreshTokenAuthority :=
  ((Store.getRefreshTokenAuthority hash).run exec db).map (·.1)

/-- `introspectRefresh`; nothing when the token is not a refresh token. -/
def Service.introspectRefresh (db : Db) (input : IntrospectionInput) :
    Option (Except StoreError IntrospectionResponse) :=
  (digestPresentedRefreshToken sha input.token).map fun digest =>
    match refreshAuthority db digest with
    | .error .tokenInvalidGrant => .ok inactive
    | .error error => .error error
    | .ok authority =>
      if !refreshAuthorityMatches authority input.client digest input.now then .ok inactive
      else
        match selectRefreshAccessScopes none authority.family.scopes authority.grant.scopes
            authority.client.scopes with
        | .error _ => .ok inactive
        | .ok scopes => .ok (service.refreshResponse authority scopes)

/-- A text that a lifecycle endpoint looks at. -/
def presentable (value : String) : Bool :=
  value != "" && value.utf8ByteSize ≤ maxCompactTokenBytes && isTrimmed value

/-- `Introspect`. -/
def Service.introspect (db : Db) (input : IntrospectionInput) :
    Except StoreError IntrospectionResponse :=
  if input.client.type != .typeConfidential ||
      input.client.tokenEndpointAuthMethod != .clientSecretBasic || !activeClient input.client ||
      input.now.isZero || !presentable input.token then .ok inactive
  else
    let access := service.introspectAccess sha db input
    let refresh := service.introspectRefresh sha db input
    ((if input.hint == "refresh_token" then refresh <|> access else access <|> refresh)).getD
      (.ok inactive)

/-! ## Revocation -/

/-- `token.RevocationInput`; the hint is not looked at. -/
structure RevocationInput where
  client : Client
  token : String
  requestID : Audit.RequestID
  now : Time

/-- What `Revoke` asks the store for; nothing when it succeeds without asking. -/
def Service.revocationLookup (input : RevocationInput) : Option RevocationLookup :=
  if !activeClient input.client || input.now.isZero || !presentable input.token then none
  else
    let lookup : RevocationLookup :=
      { client := input.client
        accessJTIHash :=
          (service.verifyAccessToken input.token input.now).map (hashJTI sha ·.jwtID)
        refreshTokenHash := digestPresentedRefreshToken sha input.token
        requestID := input.requestID, now := input.now }
    if lookup.accessJTIHash.isNone && lookup.refreshTokenHash.isNone then none else some lookup

end OneIssuer.Token
