import OneIssuer.Token.Base64
import OneIssuer.Token.Service

/-!
# Minting

What the token service puts into new tokens: the configuration that `NewService` accepts, the claims,
the deadlines of refresh tokens, and the two callbacks that run inside the transactions of the store.
A value of `MintingService` is an accepted configuration; its bounds are fields.

Random bytes and signatures come from outside. The random source answers with the number of bytes it
is asked for, and a random identifier is not nil; a signature may be refused.

**What it does not establish.** That a signature is one: the signer may answer with any text.
-/

set_option autoImplicit false

namespace OneIssuer.Token

open OneIssuer.Consent

/-! ## The environment -/

/-- Bytes of the random source. -/
abbrev RandomBytes (count : Nat) := { bytes : Bytes // bytes.length = count }

/-- `uuid.NewRandomFromReader`: the version bits of the identifier are set. -/
abbrev RandomUuid := { id : Uuid // id ≠ Uuid.nil }

/-- `IDTokenClaims`; an omitted member is empty or `none`. -/
structure IDTokenClaims where
  issuer : String
  subject : String
  audience : String
  authorizedParty : String
  expiresAt : Int64
  issuedAt : Int64
  authTime : Int64
  nonce : String
  name : Option String
  preferredUsername : Option String
  email : Option String
  emailVerified : Option Bool
  deriving DecidableEq, Repr

/-- JSON and `keys.Sign`, with the header type of each kind of token. -/
structure Signer where
  signID : IDTokenClaims → Option String
  signAccess : AccessTokenClaims → Option String

/-- The random values of a code exchange. -/
structure ExchangeEntropy where
  jti : RandomBytes 16
  accessTokenID : RandomUuid
  refreshToken : RandomBytes 32
  familyID : RandomUuid
  refreshID : RandomUuid

/-- The random values of a refresh. -/
structure RefreshEntropy where
  refreshToken : RandomBytes 32
  replacementID : RandomUuid
  jti : RandomBytes 16
  accessTokenID : RandomUuid

variable (sha : Sha256)

/-- `newJTI`. -/
def newJTI (random : RandomBytes 16) : String := "jti_" ++ String.ofList (encodeRawURL random.1)

/-- The clear text of `GenerateRefreshToken`. -/
def generateRefreshToken (random : RandomBytes 32) : String :=
  "r1_" ++ String.ofList (encodeRawURL random.1)

/-- A new identifier is one the verification accepts. -/
theorem validJTI_newJTI (random : RandomBytes 16) : validJTI (newJTI random) := by
  have text : (newJTI random).toList = 'j' :: 't' :: 'i' :: '_' :: encodeRawURL random.1 := by
    simp [newJTI]
  simp [validJTI, text, random.2]

/-- A new refresh token is one the lifecycle endpoints look up. -/
theorem digest_generateRefreshToken (random : RandomBytes 32) :
    digestPresentedRefreshToken sha (generateRefreshToken random) =
      some (hashRefreshToken sha (generateRefreshToken random)) := by
  have text : (generateRefreshToken random).toList = 'r' :: '1' :: '_' :: encodeRawURL random.1 := by
    simp [generateRefreshToken]
  have size : (generateRefreshToken random).utf8ByteSize = 46 := by
    rw [generateRefreshToken, String.utf8ByteSize_append,
      utf8ByteSize_of_ascii (encodeRawURL_ascii random.1), length_encodeRawURL, random.2]
    rfl
  simp [digestPresentedRefreshToken, size, text, random.2]

theorem generateRefreshToken_ne_empty (random : RandomBytes 32) :
    generateRefreshToken random ≠ "" := by
  intro isEmpty
  have text : (generateRefreshToken random).toList = 'r' :: '1' :: '_' :: encodeRawURL random.1 := by
    simp [generateRefreshToken]
  rw [isEmpty] at text
  cases text

/-! ## Deadlines -/

/-- The lifetimes `RefreshDeadlines` accepts. -/
def refreshLifetimesValid (rollingTTL absoluteTTL : Int) : Prop :=
  hours 1 ≤ rollingTTL ∧ rollingTTL ≤ hours (30 * 24) ∧ hours 24 ≤ absoluteTTL ∧
    absoluteTTL ≤ hours (365 * 24) ∧ rollingTTL ≤ absoluteTTL

instance (rollingTTL absoluteTTL : Int) : Decidable (refreshLifetimesValid rollingTTL absoluteTTL) :=
  inferInstanceAs (Decidable (_ ∧ _))

/-- `RefreshDeadlines`: the rolling deadline of generation 0 and the deadline of its family. -/
def refreshDeadlines (issuedAt : Time) (rollingTTL absoluteTTL : Int) :
    Except StoreError (Time × Time) :=
  if issuedAt.isZero || !decide (refreshLifetimesValid rollingTTL absoluteTTL) then
    .error .tokenInvalid
  else
    let absolute := issuedAt + absoluteTTL
    let rolling := issuedAt + rollingTTL
    .ok (if absolute < rolling then absolute else rolling, absolute)

/-- `ReplacementRefreshExpiry`. -/
def replacementRefreshExpiry (issuedAt : Time) (rollingTTL : Int) (absolute : Time) :
    Except StoreError Time :=
  if issuedAt.isZero || absolute.isZero || absolute ≤ issuedAt || rollingTTL < hours 1 ||
      hours (30 * 24) < rollingTTL then .error .tokenInvalidGrant
  else
    let expires := issuedAt + rollingTTL
    .ok (if absolute < expires then absolute else expires)

theorem refreshDeadlines_ok {issuedAt : Time} {rollingTTL absoluteTTL : Int}
    (valid : refreshLifetimesValid rollingTTL absoluteTTL) (notZero : issuedAt ≠ 0) :
    refreshDeadlines issuedAt rollingTTL absoluteTTL =
      .ok (issuedAt + rollingTTL, issuedAt + absoluteTTL) := by
  have inside : ¬ issuedAt + absoluteTTL < issuedAt + rollingTTL := by
    obtain ⟨-, -, -, -, ordered⟩ := valid
    lia
  rw [refreshDeadlines, if_neg (by simp [valid, Time.isZero, notZero])]
  simp only [inside, if_false]

theorem replacementRefreshExpiry_ok {issuedAt absolute : Time} {rollingTTL absoluteTTL : Int}
    (valid : refreshLifetimesValid rollingTTL absoluteTTL) (notZero : issuedAt ≠ 0)
    (absoluteNotZero : absolute ≠ 0) (before : issuedAt < absolute) :
    replacementRefreshExpiry issuedAt rollingTTL absolute =
      .ok (min (issuedAt + rollingTTL) absolute) := by
  obtain ⟨least, most, -⟩ := valid
  have bounded : ¬ (issuedAt.isZero || absolute.isZero || absolute ≤ issuedAt ||
      rollingTTL < hours 1 || hours (30 * 24) < rollingTTL) := by
    simp only [Time.isZero, Bool.or_eq_true, beq_iff_eq, decide_eq_true_eq, not_or, not_le, not_lt]
    exact ⟨⟨⟨⟨notZero, absoluteNotZero⟩, before⟩, least⟩, most⟩
  rw [replacementRefreshExpiry, if_neg bounded]
  by_cases early : absolute < issuedAt + rollingTTL
  · simp only [early, if_true, min_eq_right early.le]
  · simp only [early, if_false, min_eq_left (not_lt.mp early)]

/-! ## The service -/

/-- A token service that `NewService` returned. -/
structure MintingService extends Service where
  signer : Signer
  idTokenTTL : Int
  accessTokenTTL : Int
  refreshTokenTTL : Int
  refreshAbsoluteTTL : Int
  audience : userinfoAudience = issuer ++ "/oauth2/userinfo"
  idTokenTTL_valid : minutes 1 ≤ idTokenTTL ∧ idTokenTTL ≤ minutes 15
  accessTokenTTL_valid : minutes 1 ≤ accessTokenTTL ∧ accessTokenTTL ≤ minutes 30
  clockSkew_valid : 0 ≤ clockSkew ∧ clockSkew ≤ minutes 2
  refreshTTL_valid : refreshLifetimesValid refreshTokenTTL refreshAbsoluteTTL

/-- `defaultRefreshTTL`. -/
def defaultRefreshTTL : Int := hours (30 * 24)

/-- `defaultAbsoluteTTL`. -/
def defaultAbsoluteTTL : Int := hours (90 * 24)

theorem defaultLifetimes_valid : refreshLifetimesValid defaultRefreshTTL defaultAbsoluteTTL := by decide

/-- `WithRefreshLifetimes`. -/
def withRefreshLifetimes (rollingTTL absoluteTTL : Int) (service : MintingService) :
    Option MintingService :=
  if valid : refreshLifetimesValid rollingTTL absoluteTTL then
    some { service with
      refreshTokenTTL := rollingTTL, refreshAbsoluteTTL := absoluteTTL, refreshTTL_valid := valid }
  else none

/-- `NewService`; `originValid` is what `url.Parse` says about the issuer, and the options are pairs
of refresh lifetimes. -/
def newService (jose : Jose) (publicKeys : List JSONWebKey) (signer : Signer)
    (originValid : String → Bool) (issuer : String) (idTokenTTL accessTokenTTL clockSkew : Int)
    (options : List (Int × Int)) : Option MintingService :=
  if valid : originValid issuer ∧ (minutes 1 ≤ idTokenTTL ∧ idTokenTTL ≤ minutes 15) ∧
      (minutes 1 ≤ accessTokenTTL ∧ accessTokenTTL ≤ minutes 30) ∧
      (0 ≤ clockSkew ∧ clockSkew ≤ minutes 2) then
    options.foldlM (fun service option => withRefreshLifetimes option.1 option.2 service)
      { jose, publicKeys, signer, issuer, userinfoAudience := issuer ++ "/oauth2/userinfo"
        idTokenTTL, accessTokenTTL, clockSkew, refreshTokenTTL := defaultRefreshTTL
        refreshAbsoluteTTL := defaultAbsoluteTTL, audience := rfl, idTokenTTL_valid := valid.2.1
        accessTokenTTL_valid := valid.2.2.1, clockSkew_valid := valid.2.2.2
        refreshTTL_valid := defaultLifetimes_valid }
  else none

/-! ## Claims -/

/-- `time.Time.Unix` as the `int64` of a claim. -/
def claimTime (t : Time) : Int64 := Int64.ofInt t.unix

/-- The claims of an access token. -/
def MintingService.accessClaims (service : MintingService) (user : User) (client : Client)
    (scopes : List String) (issuedAt : Time) (jti : String) : AccessTokenClaims :=
  { issuer := service.issuer, subject := user.subject, audience := service.userinfoAudience
    clientID := client.clientID, scope := " ".intercalate scopes, issuedAt := claimTime issuedAt
    expiresAt := claimTime (issuedAt + service.accessTokenTTL), jwtID := jti }

/-- The claims of an ID token, with `applyProfileClaims`. -/
def MintingService.idClaims (service : MintingService) (authority : Authority)
    (scopes : List String) : IDTokenClaims :=
  let profile := scopes.contains "profile"
  let email := scopes.contains "email"
  { issuer := service.issuer, subject := authority.user.subject
    audience := authority.client.clientID, authorizedParty := authority.client.clientID
    expiresAt := claimTime (authority.issuedAt + service.idTokenTTL)
    issuedAt := claimTime authority.issuedAt, authTime := claimTime authority.authenticatedAt
    nonce := authority.nonce
    name := if profile then some authority.user.displayName else none
    preferredUsername := if profile then some authority.user.username else none
    email := if email then some authority.user.email else none
    emailVerified := if email then some authority.user.emailVerified else none }

/-! ## The callbacks -/

/-- What `mint` requires of the locked authority. -/
def mintable (authority : Authority) (scopes : List String) : Bool :=
  authority.codeID != Uuid.nil && authority.grantID != Uuid.nil &&
    authority.user.id != Uuid.nil && authority.user.status == .active &&
    activeClient authority.client && !authority.authenticatedAt.isZero &&
    authority.authenticatedAt ≤ authority.issuedAt && scopeSubset scopes authority.client.scopes

/-- The session of an offline authorization is known. -/
def offlineBound (authority : Authority) : Bool :=
  authority.originSessionID.any (· != Uuid.nil) && authority.sessionBindingID.any (· != Uuid.nil)

/-- The first refresh token of an offline exchange. -/
def MintingService.mintInitial (service : MintingService) (entropy : ExchangeEntropy)
    (authority : Authority) : Except StoreError InitialRefresh :=
  if !offlineBound authority then .error .tokenInvalidGrant
  else do
    let (rolling, absolute) ←
      refreshDeadlines authority.issuedAt service.refreshTokenTTL service.refreshAbsoluteTTL
    .ok
      { familyID := entropy.familyID, tokenID := entropy.refreshID
        tokenHash := hashRefreshToken sha (generateRefreshToken entropy.refreshToken)
        clearToken := generateRefreshToken entropy.refreshToken, expiresAt := rolling
        absoluteExpiresAt := absolute }

/-- `mint`. -/
def MintingService.mint (service : MintingService) (entropy : ExchangeEntropy) : MintFunc :=
  fun authority =>
    match canonicalScopes authority.scopes with
    | none => .error .tokenInvalidGrant
    | some scopes =>
      if !mintable authority scopes then .error .tokenInvalidGrant
      else
        match service.signer.signID (service.idClaims authority scopes) with
        | none => .error (.mint "ID token signing failed")
        | some idToken =>
          match service.signer.signAccess (service.accessClaims authority.user authority.client
              scopes authority.issuedAt (newJTI entropy.jti)) with
          | none => .error (.mint "access token signing failed")
          | some accessToken =>
            let minted : Minted :=
              { accessTokenID := entropy.accessTokenID, jtiHash := hashJTI sha (newJTI entropy.jti)
                accessToken, idToken, issuedAt := authority.issuedAt
                accessExpiresAt := authority.issuedAt + service.accessTokenTTL
                idExpiresAt := authority.issuedAt + service.idTokenTTL, initialRefresh := none }
            if scopes.contains "offline_access" then
              (service.mintInitial sha entropy authority).map fun initial =>
                { minted with initialRefresh := some initial }
            else .ok minted

/-- What `mintRefresh` requires of the locked authority. -/
def refreshMintable (authority : RefreshAuthority) (scopes : List String) : Bool :=
  authority.presented.id != Uuid.nil && authority.family.id != Uuid.nil &&
    authority.presented.familyID == authority.family.id &&
    authority.user.id == authority.family.userID &&
    authority.client.id == authority.family.clientID &&
    authority.grant.id == authority.family.consentGrantID && authority.user.status == .active &&
    activeClient authority.client && !authority.issuedAt.isZero &&
    authority.family.revokedAt.isNone && authority.issuedAt < authority.family.absoluteExpiresAt &&
    scopeSubset scopes authority.family.scopes && scopeSubset scopes authority.client.scopes

/-- `mintRefresh`. -/
def MintingService.mintRefresh (service : MintingService) (entropy : RefreshEntropy) :
    RefreshMintFunc :=
  fun authority =>
    match canonicalScopes authority.accessScopes with
    | none => .error .tokenInvalidGrant
    | some scopes =>
      if !refreshMintable authority scopes then .error .tokenInvalidGrant
      else do
        let replacementExpires ← replacementRefreshExpiry authority.issuedAt
          service.refreshTokenTTL authority.family.absoluteExpiresAt
        match service.signer.signAccess (service.accessClaims authority.user authority.client scopes
            authority.issuedAt (newJTI entropy.jti)) with
        | none => .error (.mint "access token signing failed")
        | some accessToken =>
          .ok
            { accessTokenID := entropy.accessTokenID, jtiHash := hashJTI sha (newJTI entropy.jti)
              accessToken, issuedAt := authority.issuedAt
              accessExpiresAt := authority.issuedAt + service.accessTokenTTL
              replacementTokenID := entropy.replacementID
              replacementTokenHash :=
                hashRefreshToken sha (generateRefreshToken entropy.refreshToken)
              replacementClearToken := generateRefreshToken entropy.refreshToken
              replacementExpiresAt := replacementExpires }

/-! ## What the callbacks answer -/

/-- An access token that the service signed: its text, its digest and its end. -/
structure MintingService.Signed (service : MintingService) (sha : Sha256) (jti : RandomBytes 16)
    (user : User) (client : Client) (scopes : List String) (issuedAt : Time)
    (accessToken : String) (jtiHash : Bytes) (expiresAt : Time) : Prop where
  signed : service.signer.signAccess
    (service.accessClaims user client scopes issuedAt (newJTI jti)) = some accessToken
  jtiHash : jtiHash = hashJTI sha (newJTI jti)
  expiresAt : expiresAt = issuedAt + service.accessTokenTTL
  registered : ∀ scope ∈ scopes, scope ∈ client.scopes

section Answers

variable {sha : Sha256} {service : MintingService}

theorem mintInitial_ok {entropy : ExchangeEntropy} {authority : Authority} {initial : InitialRefresh}
    (isInitial : service.mintInitial sha entropy authority = .ok initial) :
    offlineBound authority ∧ authority.issuedAt ≠ 0 ∧
      initial.expiresAt = authority.issuedAt + service.refreshTokenTTL ∧
      initial.absoluteExpiresAt = authority.issuedAt + service.refreshAbsoluteTTL := by
  unfold MintingService.mintInitial at isInitial
  split at isInitial
  · cases isInitial
  · rename_i bound
    by_cases isZero : authority.issuedAt = 0
    · simp only [refreshDeadlines, isZero, Time.isZero, beq_self_eq_true, Bool.true_or, if_true]
        at isInitial
      cases isInitial
    · rw [refreshDeadlines_ok service.refreshTTL_valid isZero] at isInitial
      cases isInitial
      exact ⟨by simpa using bound, isZero, rfl, rfl⟩

/-- A successful `mint`. -/
theorem mint_ok {entropy : ExchangeEntropy} {authority : Authority} {minted : Minted}
    (isMinted : service.mint sha entropy authority = .ok minted) :
    ∃ scopes, canonicalScopes authority.scopes = some scopes ∧ mintable authority scopes ∧
      minted.accessTokenID = entropy.accessTokenID ∧ minted.issuedAt = authority.issuedAt ∧
      service.Signed sha entropy.jti authority.user authority.client scopes authority.issuedAt
        minted.accessToken minted.jtiHash minted.accessExpiresAt ∧
      ∀ initial, minted.initialRefresh = some initial →
        initial.expiresAt = authority.issuedAt + service.refreshTokenTTL ∧
          initial.absoluteExpiresAt = authority.issuedAt + service.refreshAbsoluteTTL := by
  unfold MintingService.mint at isMinted
  cases canonical : canonicalScopes authority.scopes with
  | none =>
    rw [canonical] at isMinted
    cases isMinted
  | some scopes =>
    simp only [canonical] at isMinted
    split at isMinted
    · cases isMinted
    · rename_i refused
      have allowed : mintable authority scopes := by simpa using refused
      split at isMinted
      · cases isMinted
      · split at isMinted
        · cases isMinted
        · rename_i accessToken signed
          have registered : ∀ scope ∈ scopes, scope ∈ authority.client.scopes :=
            scopeSubset_iff.mp (Bool.and_eq_true_iff.mp allowed).2
          refine ⟨scopes, rfl, allowed, ?_⟩
          split at isMinted
          · cases offline : service.mintInitial sha entropy authority with
            | error failure =>
              rw [offline] at isMinted
              cases isMinted
            | ok initial =>
              rw [offline] at isMinted
              cases isMinted
              obtain ⟨-, -, rolling, absolute⟩ := mintInitial_ok offline
              refine ⟨rfl, rfl, ⟨signed, rfl, rfl, registered⟩, ?_⟩
              rintro _ ⟨⟩
              exact ⟨rolling, absolute⟩
          · cases isMinted
            exact ⟨rfl, rfl, ⟨signed, rfl, rfl, registered⟩, nofun⟩

/-- When `mintRefresh` succeeds, and with what. -/
theorem mintRefresh_ok {entropy : RefreshEntropy} {authority : RefreshAuthority}
    {minted : RefreshMinted} :
    service.mintRefresh sha entropy authority = .ok minted ↔
      ∃ scopes accessToken, canonicalScopes authority.accessScopes = some scopes ∧
        refreshMintable authority scopes ∧ authority.family.absoluteExpiresAt ≠ 0 ∧
        service.signer.signAccess (service.accessClaims authority.user authority.client scopes
          authority.issuedAt (newJTI entropy.jti)) = some accessToken ∧
        minted =
          { accessTokenID := entropy.accessTokenID, jtiHash := hashJTI sha (newJTI entropy.jti)
            accessToken, issuedAt := authority.issuedAt
            accessExpiresAt := authority.issuedAt + service.accessTokenTTL
            replacementTokenID := entropy.replacementID
            replacementTokenHash := hashRefreshToken sha (generateRefreshToken entropy.refreshToken)
            replacementClearToken := generateRefreshToken entropy.refreshToken
            replacementExpiresAt := min (authority.issuedAt + service.refreshTokenTTL)
              authority.family.absoluteExpiresAt } := by
  unfold MintingService.mintRefresh
  cases canonical : canonicalScopes authority.accessScopes with
  | none => simp
  | some scopes =>
    by_cases allowed : refreshMintable authority scopes
    · have timed := allowed
      simp only [refreshMintable, Bool.and_eq_true, decide_eq_true_eq, Bool.not_eq_true', Time.isZero,
        beq_eq_false_iff_ne] at timed
      obtain ⟨⟨⟨⟨⟨-, notZero⟩, -⟩, before⟩, -⟩, -⟩ := timed
      by_cases isZero : authority.family.absoluteExpiresAt = 0
      · have failed : replacementRefreshExpiry authority.issuedAt service.refreshTokenTTL
            authority.family.absoluteExpiresAt = .error .tokenInvalidGrant := by
          simp [replacementRefreshExpiry, isZero, Time.isZero]
        simp only [allowed, Bool.not_true, Bool.false_eq_true, if_false, failed]
        simp [bind, Except.bind, isZero]
      · have expiry := replacementRefreshExpiry_ok service.refreshTTL_valid notZero isZero before
        simp only [allowed, Bool.not_true, Bool.false_eq_true, if_false, expiry, Option.some.injEq]
        cases signed : service.signer.signAccess (service.accessClaims authority.user
            authority.client scopes authority.issuedAt (newJTI entropy.jti)) with
        | none =>
          simp only [bind, Except.bind, reduceCtorEq, false_iff, not_exists, not_and]
          rintro _ accessToken rfl _ _ isSigned
          rw [signed] at isSigned
          cases isSigned
        | some accessToken =>
          simp only [bind, Except.bind, Except.ok.injEq]
          constructor
          · rintro rfl
            exact ⟨scopes, accessToken, rfl, allowed, isZero, signed, rfl⟩
          · rintro ⟨_, other, rfl, -, -, isSigned, rfl⟩
            rw [signed] at isSigned
            cases isSigned
            rfl
    · simp only [allowed]
      simp only [Bool.not_false, if_true, reduceCtorEq, Option.some.injEq, false_iff, not_exists,
        not_and]
      rintro _ accessToken rfl isAllowed
      exact absurd isAllowed allowed

end Answers

end OneIssuer.Token
