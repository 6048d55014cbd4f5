import OneIssuer.Token.Profile

/-!
# Token operations of the store

Code exchange, refresh, revocation, the two authority snapshots and the cleanup of protocol
artifacts. An operation first locks and checks the authority it acts on, then writes; the first half
of each exchange is a definition of its own.

An exchange that detects a replay commits what it recorded and then reports an error, so its body
ends with an `Except` value. The rows `ExchangeRefreshToken` and `RevokeToken` look up before their
transaction starts are arguments of the body: the transaction locks and compares them again.
-/

set_option autoImplicit false

namespace OneIssuer.Store

open Relational Queries
open OneIssuer.Consent
open OneIssuer.Token

variable (sha : Sha256)

/-! ## Authorization code exchange -/

/-- The authority an exchange has locked, and what was minted for it. -/
structure LockedExchange where
  grant : ConsentGrant
  scopes : List String
  minted : Minted

/-- The checks `ExchangeAuthorizationCode` makes before its transaction. -/
def validExchangeInput (input : ExchangeInput) : Bool :=
  input.codeHash.length == sha256Size && input.client.id != Uuid.nil && input.redirectURI != "" &&
    input.codeVerifier != "" && !input.now.isZero

/-- The replay of a consumed code is recorded once. -/
def recordReplay (input : ExchangeInput) (code : AuthorizationCode) : Tx Unit := do
  let alreadyRecorded ← Tx.query "check authorization code replay audit"
    (hasAuthorizationCodeExchangeRejection code.id)
  if alreadyRecorded then return ()
  else
    insertProtocolAudit .authorizationCodeExchangeRejected .rejected code.userID .authorizationCode
      code.id input.requestID [] input.now

/-- Locks and checks the authority of an unconsumed code and mints for it. -/
def lockExchangeAuthority (input : ExchangeInput) (mint : MintFunc) (code : AuthorizationCode) :
    Tx LockedExchange := do
  Program.require (input.now < code.expiresAt) .tokenInvalidGrant
  Program.require
    (code.clientID == input.client.id && code.redirectURI == input.redirectURI &&
      code.pkceMethod == "S256" && verifyS256 sha input.codeVerifier code.pkceChallenge)
    .tokenInvalidGrant
  let user ← Tx.queryRow "lock code exchange user" .tokenInvalidGrant (lockUserByID code.userID)
  Program.require (user.status == .active) .tokenInvalidGrant
  let client ← lockClient "lock code exchange client" .tokenInvalidGrant code.clientID
  Program.require
    (sameAuthenticatedClient client input.client && client.redirectURIs.contains code.redirectURI)
    .tokenInvalidGrant
  let scopes ← Program.need (canonicalScopes code.scopes) .tokenInvalidGrant
  Program.require (scopeSubset scopes client.scopes) .tokenInvalidGrant
  let grant ← Tx.queryRow "lock code exchange consent grant" .tokenInvalidGrant
    (lockConsentGrantByUserClient code.userID code.clientID)
  Program.require
    (grant.id == code.consentGrantID && grant.version == code.consentGrantVersion &&
      grant.revokedAt.isNone &&
      (difference scopes (intersection grant.scopes client.scopes)).isEmpty)
    .tokenInvalidGrant
  let minted ← Program.ofExcept (mint
    { codeID := code.id, grantID := grant.id, originSessionID := code.originSessionID
      sessionBindingID := code.sessionBindingID, user, client, scopes
      nonce := valueString code.nonceValue, authenticatedAt := code.authTime
      issuedAt := input.now })
  Program.require (validMintedTokens sha minted input.now (scopes.contains "offline_access"))
    .tokenInvalid
  return { grant, scopes, minted }

/-- The family an offline exchange creates. -/
def initialFamily (code : AuthorizationCode) (locked : LockedExchange) (binding : Uuid)
    (initial : InitialRefresh) : RefreshTokenFamily :=
  { id := initial.familyID, originAuthorizationCodeID := some code.id
    consentGrantID := locked.grant.id, userID := code.userID, clientID := code.clientID
    originSessionID := code.originSessionID, sessionBindingID := binding, scopes := locked.scopes
    createdAt := timestamp locked.minted.issuedAt
    absoluteExpiresAt := timestamp initial.absoluteExpiresAt, revokedAt := none
    revokeReason := none }

/-- Generation 0 of that family. -/
def initialGeneration (locked : LockedExchange) (initial : InitialRefresh) : RefreshToken :=
  { id := initial.tokenID, familyID := initial.familyID, tokenHash := initial.tokenHash
    generation := 0, issuedAt := timestamp locked.minted.issuedAt
    expiresAt := timestamp initial.expiresAt, consumedAt := none }

/-- The access token of an exchange. -/
def exchangedAccess (code : AuthorizationCode) (locked : LockedExchange) : AccessToken :=
  { id := locked.minted.accessTokenID, jtiHash := locked.minted.jtiHash
    authorizationCodeID := some code.id, consentGrantID := locked.grant.id, userID := code.userID
    clientID := code.clientID, scopes := locked.scopes
    issuedAt := timestamp locked.minted.issuedAt
    expiresAt := timestamp locked.minted.accessExpiresAt, issuanceSource := .authorizationCode
    sourceRefreshTokenID := none
    refreshFamilyID := locked.minted.initialRefresh.map (·.familyID)
    originSessionID := code.originSessionID, sessionBindingID := code.sessionBindingID
    revokedAt := none, revokeReason := none }

/-- Creates the family and its generation 0, when the exchange is offline. -/
def createInitialRefresh (code : AuthorizationCode) (locked : LockedExchange) : Tx Unit :=
  match locked.minted.initialRefresh with
  | none => return ()
  | some initial => do
    let binding ← Program.need (code.originSessionID.bind fun _ => code.sessionBindingID)
      .tokenInvalidGrant
    Tx.query "create refresh token family"
      (createRefreshTokenFamily (initialFamily code locked binding initial))
    Tx.query "create initial refresh token" (createRefreshToken (initialGeneration locked initial))

/-- The audit events of a successful exchange. -/
def auditExchange (input : ExchangeInput) (code : AuthorizationCode) (locked : LockedExchange) :
    Tx Unit := do
  insertProtocolAudit .authorizationCodeExchangeSucceeded .success code.userID .authorizationCode
    code.id input.requestID ["consumed"] input.now
  insertProtocolAudit .accessTokenIssued .success code.userID .accessToken
    locked.minted.accessTokenID input.requestID ["issued"] input.now
  match locked.minted.initialRefresh with
  | none => return ()
  | some initial =>
    insertProtocolAudit .refreshTokenIssued .success code.userID .refreshToken initial.tokenID
      input.requestID ["issued"] input.now

/-- The response of a successful exchange. -/
def exchangeResponse (locked : LockedExchange) : Response :=
  { accessToken := locked.minted.accessToken, tokenType := "Bearer"
    expiresIn := (locked.minted.accessExpiresAt - locked.minted.issuedAt) / seconds 1
    idToken := locked.minted.idToken
    refreshToken := (locked.minted.initialRefresh.map (·.clearToken)).getD ""
    scope := " ".intercalate locked.scopes }

/-- `ExchangeAuthorizationCode`. -/
def exchangeAuthorizationCode (input : ExchangeInput) (mint : MintFunc) :
    Tx (Except StoreError Response) := do
  Program.require (validExchangeInput input) .tokenInvalidGrant
  let code ← Tx.queryRow "lock authorization code for exchange" .tokenInvalidGrant
    (lockAuthorizationCodeByHash input.codeHash)
  if code.consumedAt.isSome then do
    recordReplay input code
    return .error .tokenInvalidGrant
  else do
    let locked ← lockExchangeAuthority sha input mint code
    createInitialRefresh code locked
    Tx.query "create access token metadata" (createAccessToken (exchangedAccess code locked))
    let _ ← Tx.queryRow "consume authorization code" .tokenInvalidGrant
      (consumeAuthorizationCode (timestamp input.now) code.id)
    auditExchange input code locked
    return .ok (exchangeResponse locked)

/-! ## Refresh -/

/-- The authority a refresh has locked. -/
structure LockedRefresh where
  user : User
  client : Client
  grant : ConsentGrant
  family : RefreshTokenFamily
  presented : RefreshToken

/-- The checks `ExchangeRefreshToken` makes before it reads anything. -/
def validRefreshInput (input : RefreshInput) : Bool :=
  input.tokenHash.length == sha256Size && input.client.id != Uuid.nil && !input.now.isZero

/-- Locks user, client, grant, family and generation, in this order, and checks them. -/
def lockRefreshAuthority (input : RefreshInput) (candidate : RefreshToken)
    (candidateFamily : RefreshTokenFamily) : Tx LockedRefresh := do
  let user ← Tx.queryRow "lock refresh user" .tokenInvalidGrant (lockUserByID candidateFamily.userID)
  Program.require (user.status == .active) .tokenInvalidGrant
  let client ← lockClient "lock refresh client" .tokenInvalidGrant candidateFamily.clientID
  Program.require (sameAuthenticatedClient client input.client) .tokenInvalidGrant
  let grant ← Tx.queryRow "lock refresh consent grant" .tokenInvalidGrant
    (lockConsentGrantByUserClient candidateFamily.userID candidateFamily.clientID)
  Program.require
    (grant.id == candidateFamily.consentGrantID && grant.revokedAt.isNone && 1 ≤ grant.version)
    .tokenInvalidGrant
  let family ← Tx.queryRow "lock refresh token family" .tokenInvalidGrant
    (lockRefreshTokenFamilyByID candidate.familyID)
  Program.require
    (family.id == candidateFamily.id && family.userID == user.id && family.clientID == client.id &&
      family.consentGrantID == grant.id && family.revokedAt.isNone &&
      input.now < family.absoluteExpiresAt)
    .tokenInvalidGrant
  let presented ← Tx.queryRow "lock refresh token generation" .tokenInvalidGrant
    (lockRefreshTokenByID candidate.id)
  Program.require (presented.familyID == family.id && presented.tokenHash == input.tokenHash)
    .tokenInvalidGrant
  return { user, client, grant, family, presented }

/-- A consumed generation was presented: the family and its live access tokens are revoked. -/
def revokeReusedFamily (input : RefreshInput) (locked : LockedRefresh) : Tx Unit := do
  let _ ← Tx.queryRow "revoke reused refresh token family"
    (.noRows "revoke reused refresh token family")
    (revokeRefreshTokenFamily (timestamp input.now) (some .reuse) locked.family.id)
  let _ ← Tx.query "revoke access tokens after refresh reuse"
    (revokeLiveAccessTokens (.family locked.family.id) (timestamp input.now) (some .familyRevoked))
  insertProtocolAudit .refreshTokenReuseDetected .rejected locked.family.userID .refreshToken
    locked.presented.id input.requestID ["reused"] input.now
  insertProtocolAudit .refreshTokenFamilyRevoked .success locked.family.userID .refreshFamily
    locked.family.id input.requestID ["revoked"] input.now

/-- The replacement generation of a rotation. -/
def replacementGeneration (locked : LockedRefresh) (minted : RefreshMinted) : RefreshToken :=
  { id := minted.replacementTokenID, familyID := locked.family.id
    tokenHash := minted.replacementTokenHash, generation := locked.presented.generation + 1
    issuedAt := timestamp minted.issuedAt, expiresAt := timestamp minted.replacementExpiresAt
    consumedAt := none }

/-- The access token of a rotation. -/
def refreshedAccess (locked : LockedRefresh) (scopes : List String) (minted : RefreshMinted) :
    AccessToken :=
  { id := minted.accessTokenID, jtiHash := minted.jtiHash, authorizationCodeID := none
    consentGrantID := locked.grant.id, userID := locked.family.userID
    clientID := locked.family.clientID, scopes, issuedAt := timestamp minted.issuedAt
    expiresAt := timestamp minted.accessExpiresAt, issuanceSource := .refreshToken
    sourceRefreshTokenID := some locked.presented.id, refreshFamilyID := some locked.family.id
    originSessionID := locked.family.originSessionID
    sessionBindingID := some locked.family.sessionBindingID, revokedAt := none
    revokeReason := none }

/-- The response of a rotation. -/
def refreshResponse (scopes : List String) (minted : RefreshMinted) : Response :=
  { accessToken := minted.accessToken, tokenType := "Bearer"
    expiresIn := (minted.accessExpiresAt - minted.issuedAt) / seconds 1, idToken := ""
    refreshToken := minted.replacementClearToken, scope := " ".intercalate scopes }

/-- Consumes the presented generation and creates its successor and an access token. -/
def rotateGeneration (input : RefreshInput) (mint : RefreshMintFunc) (locked : LockedRefresh) :
    Tx Response := do
  Program.require (input.now < locked.presented.expiresAt) .tokenInvalidGrant
  let scopes ← Program.ofExcept (selectRefreshAccessScopes input.requestedScopes
    locked.family.scopes locked.grant.scopes locked.client.scopes)
  let minted ← Program.ofExcept (mint
    { presented := locked.presented, family := locked.family, grant := locked.grant
      user := locked.user, client := locked.client, accessScopes := scopes
      issuedAt := input.now })
  Program.require (validRefreshMinted sha minted locked.presented locked.family input.now)
    .tokenInvalid
  let _ ← Tx.queryRow "consume refresh token generation" .tokenInvalidGrant
    (consumeRefreshToken (timestamp input.now) locked.presented.id)
  Tx.query "create replacement refresh token"
    (createRefreshToken (replacementGeneration locked minted))
  Tx.query "create refresh-sourced access token"
    (createAccessToken (refreshedAccess locked scopes minted))
  insertProtocolAudit .refreshTokenRotated .success locked.family.userID .refreshToken
    locked.presented.id input.requestID ["consumed", "rotated"] input.now
  insertProtocolAudit .accessTokenIssued .success locked.family.userID .accessToken
    minted.accessTokenID input.requestID ["issued"] input.now
  return refreshResponse scopes minted

/-- `ExchangeRefreshToken`, from the start of its transaction. -/
def exchangeRefreshToken (input : RefreshInput) (mint : RefreshMintFunc) (candidate : RefreshToken)
    (candidateFamily : RefreshTokenFamily) : Tx (Except StoreError Response) := do
  Program.require (validRefreshInput input) .tokenInvalidGrant
  let locked ← lockRefreshAuthority input candidate candidateFamily
  if locked.presented.consumedAt.isSome then do
    revokeReusedFamily input locked
    return .error .tokenInvalidGrant
  else do
    let response ← rotateGeneration sha input mint locked
    return .ok response

/-! ## Revocation -/

/-- `cleanupBatchSize`. -/
def cleanupBatchSize : Nat := 250

/-- The family an access token names still carries the token's authority. -/
def familyBacks (lookup : RevocationLookup) (candidate : AccessToken) (family : RefreshTokenFamily) :
    Bool :=
  family.revokedAt.isNone && lookup.now < family.absoluteExpiresAt &&
    family.userID == candidate.userID && family.clientID == candidate.clientID &&
    family.consentGrantID == candidate.consentGrantID &&
    (difference candidate.scopes family.scopes).isEmpty

/-- The last part of `revokeAccessCandidate`: lock the token itself and revoke it. -/
def revokeLockedAccess (lookup : RevocationLookup) (candidate : AccessToken) : Tx Unit :=
  Tx.whenRow "lock access revocation token" (lockAccessTokenByID candidate.id) fun metadata =>
  Tx.onlyIf
    (metadata.clientID == lookup.client.id && metadata.revokedAt.isNone &&
      lookup.now < metadata.expiresAt && some metadata.jtiHash == lookup.accessJTIHash) do
    let _ ← Tx.queryRow "revoke access token" (.noRows "revoke access token")
      (revokeAccessToken (timestamp lookup.now) (some .clientRevocation) metadata.id)
    insertProtocolAudit .accessTokenRevoked .success metadata.userID .accessToken metadata.id
      lookup.requestID ["revoked"] lookup.now

/-- `revokeAccessCandidate`: every authority that does not match ends it without a change. -/
def revokeAccessCandidate (lookup : RevocationLookup) (candidate : AccessToken) : Tx Unit :=
  Tx.whenRow "lock access revocation user" (lockUserByID candidate.userID) fun user =>
  Tx.onlyIf (user.status == .active) <|
  Tx.whenRow "lock access revocation client" (lockOIDCClientByID candidate.clientID) fun row => do
    let client ← loadClientChildren row
    Tx.onlyIf (sameAuthenticatedClient client lookup.client) <|
      Tx.whenRow "lock access revocation grant"
        (lockConsentGrantByUserClient candidate.userID candidate.clientID) fun grant =>
      Tx.onlyIf
        (grant.id == candidate.consentGrantID && grant.revokedAt.isNone &&
          (difference candidate.scopes (intersection grant.scopes client.scopes)).isEmpty) <|
      match candidate.refreshFamilyID with
      | none => revokeLockedAccess lookup candidate
      | some familyID =>
        Tx.whenRow "lock access revocation family" (lockRefreshTokenFamilyByID familyID)
          fun family =>
        Tx.onlyIf (familyBacks lookup candidate family) (revokeLockedAccess lookup candidate)

/-- The last part of `revokeRefreshCandidate`: revoke the family and its live access tokens. -/
def revokeLockedFamily (lookup : RevocationLookup) (family : RefreshTokenFamily) : Tx Unit := do
  let _ ← Tx.queryRow "revoke refresh token family by client"
    (.noRows "revoke refresh token family by client")
    (revokeRefreshTokenFamily (timestamp lookup.now) (some .clientRevocation) family.id)
  let _ ← Tx.query "revoke family access tokens by client"
    (revokeLiveAccessTokens (.family family.id) (timestamp lookup.now) (some .familyRevoked))
  insertProtocolAudit .refreshTokenFamilyRevoked .success family.userID .refreshFamily family.id
    lookup.requestID ["revoked"] lookup.now

/-- `revokeRefreshCandidate`. -/
def revokeRefreshCandidate (lookup : RevocationLookup) (candidate : RefreshToken)
    (candidateFamily : RefreshTokenFamily) : Tx Unit :=
  Tx.whenRow "lock refresh revocation user" (lockUserByID candidateFamily.userID) fun user =>
  Tx.onlyIf (user.status == .active) <|
  Tx.whenRow "lock refresh revocation client" (lockOIDCClientByID candidateFamily.clientID)
    fun row => do
    let client ← loadClientChildren row
    Tx.onlyIf (sameAuthenticatedClient client lookup.client) <|
      Tx.whenRow "lock refresh revocation grant"
        (lockConsentGrantByUserClient candidateFamily.userID candidateFamily.clientID) fun grant =>
      Tx.onlyIf (grant.id == candidateFamily.consentGrantID && grant.revokedAt.isNone) <|
      Tx.whenRow "lock refresh revocation family" (lockRefreshTokenFamilyByID candidate.familyID)
        fun family =>
      Tx.onlyIf
        (family.revokedAt.isNone && lookup.now < family.absoluteExpiresAt &&
          family.userID == user.id && family.clientID == client.id &&
          family.consentGrantID == grant.id) <|
      Tx.whenRow "lock refresh revocation generation" (lockRefreshTokenByID candidate.id)
        fun presented =>
      Tx.onlyIf
        (presented.familyID == family.id && some presented.tokenHash == lookup.refreshTokenHash)
        (revokeLockedFamily lookup family)

/-! ## Authority snapshots -/

/-- `GetAccessTokenAuthority`. -/
def getAccessTokenAuthority (jtiHash : Bytes) (now : Time) : Tx AccessAuthority := do
  Program.require (jtiHash.length == sha256Size && !now.isZero) .tokenInvalidToken
  let metadata ← Tx.queryRow "get access token metadata" .tokenInvalidToken
    (getAccessTokenByJTIHash jtiHash)
  Program.require (now < metadata.expiresAt && metadata.jtiHash == jtiHash) .tokenInvalidToken
  let user ← Tx.queryRow "get access token user" .tokenInvalidToken (getUserByID metadata.userID)
  Program.require (user.status == .active) .tokenInvalidToken
  let client ← loadClient metadata.clientID .tokenInvalidToken
  Program.require (client.status == .active) .tokenInvalidToken
  let grant ← Tx.queryRow "get access token consent grant" .tokenInvalidToken
    (getConsentGrantByUserClient metadata.userID metadata.clientID)
  Program.require (grant.id == metadata.consentGrantID) .tokenInvalidToken
  match metadata.refreshFamilyID with
  | none => return { metadata, grant, user, client, family := none }
  | some familyID => do
    let family ← Tx.queryRow "get access token refresh family" .tokenInvalidToken
      (getRefreshTokenFamilyByID familyID)
    return { metadata, grant, user, client, family := some family }

/-- `GetRefreshTokenAuthority`. -/
def getRefreshTokenAuthority (hash : Bytes) : Tx RefreshTokenAuthority := do
  Program.require (hash.length == sha256Size) .tokenInvalidGrant
  let generation ← Tx.queryRow "get refresh token for introspection" .tokenInvalidGrant
    (getRefreshTokenByHash hash)
  let family ← Tx.queryRow "get refresh family for introspection" .tokenInvalidGrant
    (getRefreshTokenFamilyByID generation.familyID)
  let user ← Tx.queryRow "get refresh user for introspection" .tokenInvalidGrant
    (getUserByID family.userID)
  let client ← loadClient family.clientID .tokenInvalidGrant
  let grant ← Tx.queryRow "get refresh grant for introspection" .tokenInvalidGrant
    (getConsentGrantByUserClient family.userID family.clientID)
  Program.require (grant.id == family.consentGrantID) .tokenInvalidGrant
  return { generation, family, grant, user, client }

/-! ## Cleanup

Each cleanup repeats one batch, in a transaction of its own, until a batch is not full. The batches
are the steps of the system; `locked` names the rows other transactions hold at that moment. -/

/-- One batch of `CleanupProtocolArtifacts`: the numbers of deleted codes and access tokens. -/
def cleanupProtocolArtifacts (cutoff : Time) (locked : Uuid → Bool) : Tx (Nat × Nat) := do
  let codes ← Tx.query "clean authorization code metadata"
    (.retireAuthorizationCodes (timestamp cutoff) cleanupBatchSize locked)
  let access ← Tx.query "clean access token metadata"
    (.retireAccessTokens (timestamp cutoff) cleanupBatchSize locked)
  return (codes, access)

/-- One batch of `CleanupRefreshArtifacts`: the numbers of deleted generations and families. -/
def cleanupRefreshArtifacts (cutoff : Time) (locked : Uuid → Bool) : Tx (Nat × Nat) := do
  let generations ← Tx.query "clean refresh token generations"
    (.retireRefreshTokens (timestamp cutoff) cleanupBatchSize locked)
  let families ← Tx.query "clean refresh token families"
    (.retireRefreshTokenFamilies (timestamp cutoff) cleanupBatchSize locked)
  return (generations, families)

end OneIssuer.Store
