import OneIssuer.Clients
import OneIssuer.Token.Base64
import OneIssuer.Wire.Query

/-!
# Authorization request

`ParseAuthorizationRequest`: the redirect trust state machine in its fixed order (syntax, unique client,
active client, exact redirect URI, then all other parameters) and the parsers of the parameters. The
query is any octets; after the check for UTF-8 its keys and values are texts.
-/

set_option autoImplicit false

namespace OneIssuer.Oidc

open Wire Token
open OneIssuer.Consent (sortStrings)

/-! ## Errors and results -/

/-- The OAuth and OIDC error identifiers. -/
inductive ErrorCode where
  | invalidRequest
  | unauthorizedClient
  | unsupportedResponseType
  | invalidScope
  | serverError
  | temporarilyUnavailable
  | unsupportedResponseMode
  | loginRequired
  | consentRequired
  | interactionRequired
  | accessDenied
  | requestNotSupported
  | requestURINotSupported
  deriving DecidableEq, Repr

/-- The wire form of an error identifier. -/
def ErrorCode.text : ErrorCode → String
  | .invalidRequest => "invalid_request"
  | .unauthorizedClient => "unauthorized_client"
  | .unsupportedResponseType => "unsupported_response_type"
  | .invalidScope => "invalid_scope"
  | .serverError => "server_error"
  | .temporarilyUnavailable => "temporarily_unavailable"
  | .unsupportedResponseMode => "unsupported_response_mode"
  | .loginRequired => "login_required"
  | .consentRequired => "consent_required"
  | .interactionRequired => "interaction_required"
  | .accessDenied => "access_denied"
  | .requestNotSupported => "request_not_supported"
  | .requestURINotSupported => "request_uri_not_supported"

/-- `AuthorizationError`. -/
structure AuthorizationError where
  code : ErrorCode
  httpStatus : Nat
  safeToRedirect : Bool
  redirectURI : String
  state : String
  deriving DecidableEq, Repr

/-- `VerifiedAuthorizationRequest`; the prompts are the sorted values of its `PromptSet`. -/
structure VerifiedAuthorizationRequest where
  client : Client
  redirectURI : String
  responseType : String
  responseMode : String
  scopes : List String
  pkceChallenge : String
  state : String
  nonce : String
  prompts : List String
  maxAge : Option Nat
  deriving DecidableEq, Repr

/-- Why a resolver has no client. -/
inductive ResolveError where
  | notFound
  | failed
  deriving DecidableEq, Repr

/-- `AuthorizationClientResolver`. -/
structure AuthorizationClientResolver where
  resolveActive : String → Except ResolveError Client
  redirectURIMatches : Client → String → Bool

/-- The client service as a resolver. -/
def registry (urls : URLParser) (allowLoopback : Bool) (db : Db) : AuthorizationClientResolver where
  resolveActive publicID :=
    match db.resolveActive publicID with
    | some client => .ok client
    | none => .error .notFound
  redirectURIMatches := redirectURIMatches urls allowLoopback

/-! ## Parameters -/

def maxAuthorizeQueryBytes : Nat := 8192
def maxOpaqueParameterBytes : Nat := 1024
def maxAgeSeconds : Nat := 30 * 24 * 60 * 60

/-- One key or value is UTF-8 without NUL. -/
def validText (octets : Octets) : Option String :=
  (text? octets).filter fun text => !text.toList.contains '\x00'

/-- `validQueryUTF8`, with the texts it validated. -/
def validQueryUTF8 (pairs : List (Octets × Octets)) : Option Values :=
  pairs.mapM fun pair =>
    match validText pair.1, validText pair.2 with
    | some key, some value => some (key, value)
    | _, _ => none

/-- `validOpaqueParameter` of a text. -/
def validOpaqueParameter (value : String) : Bool :=
  1 ≤ value.utf8ByteSize && value.utf8ByteSize ≤ maxOpaqueParameterBytes &&
    !value.toList.contains '\x00'

/-- `splitStrictSpaceList`. -/
def splitStrictSpaceList (raw : String) : Option (List String) :=
  if raw == "" || !isTrimmed raw || raw.toList.any fun c => c == '\t' || c == '\r' || c == '\n' then
    none
  else
    let parts := (splitSpaces raw.toList).map String.ofList
    if parts.contains "" then none else some parts

/-- `parseScope`. -/
def parseScope (raw : String) (allowed : List String) : Option (List String) := do
  let parts ← splitStrictSpaceList raw
  if parts.any fun scope => !Consent.supported scope || !allowed.contains scope then none
  else if !parts.contains "openid" then none
  else some (Consent.sortedSet parts)

/-- `validS256Challenge`. -/
def validS256Challenge (value : String) : Bool :=
  value.utf8ByteSize == 43 && decodedLength value.toList == some 32

/-- The prompt values of the protocol. -/
def supportedPrompts : List String := ["none", "login", "consent", "create"]

/-- `parsePrompt`. -/
def parsePrompt : List String → Option (List String)
  | [] => some []
  | [raw] => do
    let parts ← splitStrictSpaceList raw
    if parts.any (fun value => !supportedPrompts.contains value) || !parts.Nodup then none
    else if (parts.contains "none" && parts.length != 1) ||
        (parts.contains "create" && parts.contains "login") then none
    else some (sortStrings parts)
  | _ => none

/-- `parseMaxAge`; `ParseUint` fails above 32 bits. -/
def parseMaxAge : List String → Option (Option Nat)
  | [] => some none
  | [raw] =>
    if !isCanonicalDecimal raw.toList then none
    else if decimal raw.toList ≥ 2 ^ 32 || decimal raw.toList > maxAgeSeconds then none
    else some (some (decimal raw.toList))
  | _ => none

/-! ## The request -/

/-- The parameters that may occur once. -/
def securityParameters : List String :=
  ["client_id", "redirect_uri", "response_type", "response_mode", "scope", "code_challenge",
    "code_challenge_method", "state", "nonce", "prompt", "max_age"]

/-- `localAuthorizationError`. -/
def localAuthorizationError (code : ErrorCode) (status : Nat) : AuthorizationError :=
  { code, httpStatus := status, safeToRedirect := false, redirectURI := "", state := "" }

/-- The error of a request whose client is not resolved. -/
def ResolveError.authorization : ResolveError → AuthorizationError
  | .notFound => localAuthorizationError .invalidRequest 400
  | .failed => localAuthorizationError .serverError 500

/-- The state that is returned to the client. -/
def requestState (values : Values) : String :=
  if (values.all "state").length == 1 && validOpaqueParameter (values.get "state") then
    values.get "state"
  else ""

/-- `trustedError`. -/
def trustedError (values : Values) (code : ErrorCode) : AuthorizationError :=
  { code, httpStatus := 302, safeToRedirect := true, redirectURI := values.get "redirect_uri"
    state := requestState values }

/-- The check goes on when the condition holds. -/
def ensure {ε : Type} (condition : Bool) (error : ε) : Except ε Unit :=
  if condition then .ok () else .error error

/-- A parser's result, or the error. -/
def orError {ε α : Type} (result : Option α) (error : ε) : Except ε α :=
  match result with
  | some value => .ok value
  | none => .error error

/-- The checks after the redirect URI is trusted. -/
def parseTrusted (client : Client) (values : Values) :
    Except AuthorizationError VerifiedAuthorizationRequest := do
  let fail := trustedError values
  ensure (securityParameters.all fun name => (values.all name).length ≤ 1) (fail .invalidRequest)
  ensure (values.all "request").isEmpty (fail .requestNotSupported)
  ensure (values.all "request_uri").isEmpty (fail .requestURINotSupported)
  ensure
    (["response_type", "scope", "code_challenge", "code_challenge_method"].all fun name =>
      (values.all name).length == 1 && values.get name != "")
    (fail .invalidRequest)
  ensure ((values.all "state").length != 1 || validOpaqueParameter (values.get "state"))
    (fail .invalidRequest)
  ensure ((values.all "nonce").length != 1 || validOpaqueParameter (values.get "nonce"))
    (fail .invalidRequest)
  ensure (values.get "response_type" == "code") (fail .unsupportedResponseType)
  ensure ((values.all "response_mode").length != 1 || values.get "response_mode" == "query")
    (fail .unsupportedResponseMode)
  let scopes ← orError (parseScope (values.get "scope") client.scopes) (fail .invalidScope)
  ensure
    (validS256Challenge (values.get "code_challenge") &&
      values.get "code_challenge_method" == "S256")
    (fail .invalidRequest)
  let prompts ← orError (parsePrompt (values.all "prompt")) (fail .invalidRequest)
  let maxAge ← orError (parseMaxAge (values.all "max_age")) (fail .invalidRequest)
  return {
    client, redirectURI := values.get "redirect_uri", responseType := "code"
    responseMode := "query", scopes, pkceChallenge := values.get "code_challenge"
    state := requestState values, nonce := values.get "nonce", prompts, maxAge }

/-- The checks up to the redirect URI: the parameters, and the client they name. -/
def trustRedirect (clients : AuthorizationClientResolver) (rawQuery : Octets) :
    Except AuthorizationError (Values × Client) := do
  ensure (rawQuery.length ≤ maxAuthorizeQueryBytes && (text? rawQuery).isSome)
    (localAuthorizationError .invalidRequest 400)
  let values ← orError ((parseQuery rawQuery).bind validQueryUTF8)
    (localAuthorizationError .invalidRequest 400)
  ensure
    ((values.all "client_id").length == 1 && values.get "client_id" != "" &&
      (values.all "redirect_uri").length == 1 && values.get "redirect_uri" != "")
    (localAuthorizationError .invalidRequest 400)
  let client ← (clients.resolveActive (values.get "client_id")).mapError ResolveError.authorization
  ensure (clients.redirectURIMatches client (values.get "redirect_uri"))
    (localAuthorizationError .invalidRequest 400)
  return (values, client)

/-- `ParseAuthorizationRequest`. -/
def parseAuthorizationRequest (clients : AuthorizationClientResolver) (rawQuery : Octets) :
    Except AuthorizationError VerifiedAuthorizationRequest := do
  let (values, client) ← trustRedirect clients rawQuery
  parseTrusted client values

end OneIssuer.Oidc
