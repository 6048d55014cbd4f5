import Mathlib.Algebra.Group.Int.Defs
import OneIssuer.Store.Support

/-!
# Token profile

The values that cross the boundary between the token service and the store, the grammar of presented
tokens and the digests the store looks tokens up by.

SHA-256 is outside the repository. `Sha256` is the function with the one law the code relies on, the
length of a digest; nothing here assumes that it has no collisions.
-/

set_option autoImplicit false

namespace OneIssuer.Token

open OneIssuer.Consent

/-! ## Digests and encodings -/

/-- `sha256.Sum256` of the bytes of a text. -/
structure Sha256 where
  sum : String → Bytes
  length_sum : ∀ text, (sum text).length = sha256Size

/-- The URL-safe base64 alphabet. -/
def base64Alphabet : List Char :=
  "ABCDEFGHIJKLMNOPQRSTUVWXYZabcdefghijklmnopqrstuvwxyz0123456789-_".toList

/-- The character of a six-bit value. -/
def base64Char (value : Nat) : Char := base64Alphabet.getD value 'A'

/-- `base64.RawURLEncoding.EncodeToString`. -/
def encodeRawURL : Bytes → List Char
  | a :: b :: c :: rest =>
    base64Char (a.toNat / 4) :: base64Char (a.toNat % 4 * 16 + b.toNat / 16) ::
      base64Char (b.toNat % 16 * 4 + c.toNat / 64) :: base64Char (c.toNat % 64) :: encodeRawURL rest
  | [a, b] =>
    [base64Char (a.toNat / 4), base64Char (a.toNat % 4 * 16 + b.toNat / 16),
      base64Char (b.toNat % 16 * 4)]
  | [a] => [base64Char (a.toNat / 4), base64Char (a.toNat % 4 * 16)]
  | [] => []

/-- The six-bit values of a text; nothing when a character is outside the alphabet. -/
def base64Values (text : List Char) : Option (List Nat) :=
  text.mapM fun c => base64Alphabet.findIdx? (· == c)

/-- The number of bytes the values decode to, when the bits left over are zero. -/
def strictLength : List Nat → Option Nat
  | _ :: _ :: _ :: _ :: rest => (strictLength rest).map (· + 3)
  | [_, _, c] => if c % 4 == 0 then some 2 else none
  | [_, b] => if b % 16 == 0 then some 1 else none
  | [_] => none
  | [] => some 0

/-- The length of `base64.RawURLEncoding.Strict().DecodeString`: the decoder skips line ends. -/
def decodedLength (text : List Char) : Option Nat :=
  (base64Values (text.filter fun c => c != '\r' && c != '\n')).bind strictLength

variable (sha : Sha256)

/-- `HashJTI`. -/
def hashJTI (jti : String) : Bytes := sha.sum ("oneissuer:access-token-jti:v1:" ++ jti)

/-- `HashRefreshToken`. -/
def hashRefreshToken (tokenValue : String) : Bytes :=
  sha.sum ("oneissuer:refresh-token:v1:" ++ tokenValue)

/-- `DigestPresentedRefreshToken`: the type, version and entropy grammar of a refresh token. -/
def digestPresentedRefreshToken (tokenValue : String) : Option Bytes :=
  if tokenValue.utf8ByteSize != 46 || !"r1_".toList.isPrefixOf tokenValue.toList then none
  else if decodedLength (tokenValue.toList.drop 3) != some 32 then none
  else some (hashRefreshToken sha tokenValue)

/-- `validJTI`. -/
def validJTI (value : String) : Bool :=
  "jti_".toList.isPrefixOf value.toList && decodedLength (value.toList.drop 4) == some 16

/-- `isVerifierCharacter`. -/
def isVerifierCharacter (c : Char) : Bool :=
  c.isAlphanum || c == '-' || c == '.' || c == '_' || c == '~'

/-- `ValidateVerifier` returns no error. -/
def validateVerifier (verifier : String) : Bool :=
  43 ≤ verifier.utf8ByteSize && verifier.utf8ByteSize ≤ 128 &&
    verifier.toList.all isVerifierCharacter

/-- `VerifyS256` returns no error. -/
def verifyS256 (verifier expectedChallenge : String) : Bool :=
  validateVerifier verifier && expectedChallenge.utf8ByteSize == 43 &&
    String.ofList (encodeRawURL (sha.sum verifier)) == expectedChallenge

/-! ## Code exchange -/

/-- `token.ExchangeInput`. -/
structure ExchangeInput where
  codeHash : Bytes
  client : Client
  redirectURI : String
  codeVerifier : String
  requestID : Audit.RequestID
  now : Time

/-- `token.Authority`. -/
structure Authority where
  codeID : Uuid
  grantID : Uuid
  originSessionID : Option Uuid
  sessionBindingID : Option Uuid
  user : User
  client : Client
  scopes : List String
  nonce : String
  authenticatedAt : Time
  issuedAt : Time

/-- `token.InitialRefresh`. -/
structure InitialRefresh where
  familyID : Uuid
  tokenID : Uuid
  tokenHash : Bytes
  clearToken : String
  expiresAt : Time
  absoluteExpiresAt : Time

/-- `token.Minted`. -/
structure Minted where
  accessTokenID : Uuid
  jtiHash : Bytes
  accessToken : String
  idToken : String
  issuedAt : Time
  accessExpiresAt : Time
  idExpiresAt : Time
  initialRefresh : Option InitialRefresh

/-- `token.Response`. -/
structure Response where
  accessToken : String
  tokenType : String
  expiresIn : Int
  idToken : String
  refreshToken : String
  scope : String
  deriving DecidableEq, Repr

/-- `token.MintFunc`: it may fail, and each call of the store gets its own. -/
abbrev MintFunc := Authority → Except StoreError Minted

/-- What `validMintedTokens` requires of the refresh token of an offline exchange. -/
def validInitialRefresh (initial : InitialRefresh) (issuedAt : Time) : Bool :=
  initial.familyID != Uuid.nil && initial.tokenID != Uuid.nil &&
    initial.tokenHash.length == sha256Size && initial.clearToken != "" &&
    issuedAt < initial.expiresAt && initial.expiresAt ≤ initial.absoluteExpiresAt &&
    issuedAt < initial.absoluteExpiresAt && initial.expiresAt ≤ issuedAt + hours (30 * 24) &&
    initial.absoluteExpiresAt ≤ issuedAt + hours (365 * 24) &&
    digestPresentedRefreshToken sha initial.clearToken == some initial.tokenHash

/-- `validMintedTokens`. -/
def validMintedTokens (value : Minted) (now : Time) (offline : Bool) : Bool :=
  value.accessTokenID != Uuid.nil && value.jtiHash.length == sha256Size &&
    value.accessToken != "" && value.idToken != "" && value.issuedAt == now &&
    value.issuedAt < value.accessExpiresAt && value.issuedAt < value.idExpiresAt &&
    value.accessExpiresAt ≤ value.issuedAt + minutes 30 &&
    value.idExpiresAt ≤ value.issuedAt + minutes 15 &&
    match offline, value.initialRefresh with
    | false, initial => initial.isNone
    | true, none => false
    | true, some initial => validInitialRefresh sha initial value.issuedAt

/-! ## Refresh -/

/-- `token.RefreshInput`; a missing scope parameter is `none`. -/
structure RefreshInput where
  tokenHash : Bytes
  client : Client
  requestedScopes : Option (List String)
  requestID : Audit.RequestID
  now : Time

/-- `token.RefreshAuthority`. -/
structure RefreshAuthority where
  presented : RefreshToken
  family : RefreshTokenFamily
  grant : ConsentGrant
  user : User
  client : Client
  accessScopes : List String
  issuedAt : Time

/-- `token.RefreshMinted`. -/
structure RefreshMinted where
  accessTokenID : Uuid
  jtiHash : Bytes
  accessToken : String
  issuedAt : Time
  accessExpiresAt : Time
  replacementTokenID : Uuid
  replacementTokenHash : Bytes
  replacementClearToken : String
  replacementExpiresAt : Time

/-- `token.RefreshMintFunc`. -/
abbrev RefreshMintFunc := RefreshAuthority → Except StoreError RefreshMinted

/-- `math.MaxInt64`, where `validRefreshMinted` stops a chain. -/
def maxGeneration : Int := 2 ^ 63 - 1

/-- `validRefreshMinted`. -/
def validRefreshMinted (value : RefreshMinted) (presented : RefreshToken)
    (family : RefreshTokenFamily) (now : Time) : Bool :=
  value.accessTokenID != Uuid.nil && value.replacementTokenID != Uuid.nil &&
    value.replacementTokenID != presented.id && value.jtiHash.length == sha256Size &&
    value.replacementTokenHash.length == sha256Size && value.accessToken != "" &&
    value.replacementClearToken != "" && value.issuedAt == now &&
    value.issuedAt < value.accessExpiresAt && value.accessExpiresAt ≤ value.issuedAt + minutes 30 &&
    value.issuedAt < value.replacementExpiresAt &&
    value.replacementExpiresAt ≤ value.issuedAt + hours (30 * 24) &&
    value.replacementExpiresAt ≤ family.absoluteExpiresAt && presented.generation != maxGeneration &&
    digestPresentedRefreshToken sha value.replacementClearToken == some value.replacementTokenHash

/-- `CanonicalRefreshScopes`. -/
def canonicalRefreshScopes (scopes : List String) : Option (List String) :=
  (canonicalScopes scopes).filter fun canonical =>
    canonical.contains "openid" && canonical.contains "offline_access"

/-- `SelectRefreshAccessScopes`. -/
def selectRefreshAccessScopes (requested : Option (List String))
    (familyScopes grantScopes clientScopes : List String) : Except StoreError (List String) :=
  match canonicalRefreshScopes familyScopes with
  | none => .error .tokenInvalidGrant
  | some family =>
    let effective := intersection (intersection family grantScopes) clientScopes
    if !effective.contains "openid" || !effective.contains "offline_access" then
      .error .tokenInvalidGrant
    else
      match requested with
      | none => .ok effective
      | some scopes =>
        match canonicalScopes scopes with
        | none => .error .tokenInvalidScope
        | some canonical =>
          if canonical == scopes && scopeSubset canonical effective then .ok canonical
          else .error .tokenInvalidScope

/-! ## Revocation and authority snapshots -/

/-- `token.RevocationLookup`; an absent digest is `none`. -/
structure RevocationLookup where
  client : Client
  accessJTIHash : Option Bytes
  refreshTokenHash : Option Bytes
  requestID : Audit.RequestID
  now : Time

/-- `token.AccessAuthority`. -/
structure AccessAuthority where
  metadata : AccessToken
  grant : ConsentGrant
  user : User
  client : Client
  family : Option RefreshTokenFamily

/-- `token.RefreshTokenAuthority`. -/
structure RefreshTokenAuthority where
  generation : RefreshToken
  family : RefreshTokenFamily
  grant : ConsentGrant
  user : User
  client : Client

end OneIssuer.Token
