import OneIssuer.Schema.Values
import OneIssuer.Scopes

/-!
# Audit events

The append-only event model of the audit package. An event names who acted, on what, and which
schema fields changed; `Event.validate` is the only gate before an insert, and `newEvent` builds an
event for a protocol change made inside a transaction.

`uuid.New` is not modelled here: the identifier of a new event is an argument.
-/

set_option autoImplicit false

namespace OneIssuer.Audit

open OneIssuer.Consent (sortStrings)

/-- The fixed event types. -/
inductive EventType where
  | adminBootstrapSucceeded
  | adminBootstrapRejected
  | userRegistered
  | userRegistrationRejected
  | userCreated
  | userUpdated
  | userStatusChanged
  | userRoleChanged
  | loginSucceeded
  | loginFailed
  | loginDisabledUser
  | sessionCreated
  | sessionRevoked
  | sessionsRevokedAll
  | clientCreated
  | clientUpdated
  | clientDisabled
  | clientSecretRotated
  | authorizationTransactionCreated
  | authorizationTransactionConsumed
  | authorizationTransactionExpired
  | authorizationTransactionRejected
  | authorizationGranted
  | authorizationDenied
  | authorizationCodeIssued
  | authorizationCodeExchangeSucceeded
  | authorizationCodeExchangeRejected
  | consentGrantCreated
  | consentGrantExpanded
  | accessTokenIssued
  | signingKeyLoaded
  | refreshTokenIssued
  | refreshTokenRotated
  | refreshTokenExchangeRejected
  | refreshTokenReuseDetected
  | refreshTokenFamilyRevoked
  | accessTokenRevoked
  | consentGrantRevoked
  | consentGrantReactivated
  | rpLogoutCompleted
  | logoutTransactionRejected
  deriving DecidableEq, Repr

/-- The outcome classes. -/
inductive Result where
  | success
  | rejected
  | failure
  deriving DecidableEq, Repr

/-- The kinds of resource an event can be about. -/
inductive TargetType where
  | user
  | client
  | session
  | authTransaction
  | consentGrant
  | authorizationCode
  | accessToken
  | refreshToken
  | refreshFamily
  | logoutTransaction
  deriving DecidableEq, Repr

/-- `audit.Event`. The target kind and the target identifier are two columns, as in the source. -/
structure Event where
  id : Uuid
  type : EventType
  result : Result
  actorUserID : Option Uuid
  targetType : Option TargetType
  targetID : Option Uuid
  requestID : String
  changedFields : List String
  occurredAt : Time
  deriving DecidableEq, Repr

/-- The schema keys an event may list. -/
def validChangedFields : List String :=
  ["status", "role", "username", "display_name", "email", "name", "description", "logo_uri",
    "registration_enabled", "redirect_uris", "logout_uris", "scopes", "secret", "revoked",
    "created", "expanded", "issued", "consumed", "rotated", "reused", "reactivated"]

/-- A character of `[A-Za-z0-9._:-]`. -/
def isRequestIDChar (c : Char) : Bool :=
  c.isAlphanum || c == '.' || c == '_' || c == ':' || c == '-'

/-- `requestIDPattern`, or the empty string, which stands for a missing request ID. -/
def validRequestID (value : String) : Bool :=
  value == "" || (value.length ≤ 128 && value.toList.all isRequestIDChar)

/-- A request ID as the request-ID middleware hands it on: it always satisfies the pattern. -/
structure RequestID where
  text : String
  valid : validRequestID text = true
  deriving DecidableEq, Repr

/-- `Event.Validate`. Event types, results and target kinds are enumerations here, so their set
membership holds by construction. -/
def Event.validate (e : Event) : Bool :=
  e.id != Uuid.nil && !e.occurredAt.isZero && validRequestID e.requestID &&
    e.targetType.isSome == e.targetID.isSome && e.targetID != some Uuid.nil &&
    e.changedFields.all fun field => validChangedFields.contains field

/-- An event a service builds with `audit.New` before it calls the store: it is valid, and it has
none of the three types that only the store writes, at most once for each target. -/
structure ServiceEvent where
  event : Event
  valid : event.validate = true
  ordinary : event.type ∉ [.authorizationCodeExchangeRejected, .refreshTokenExchangeRejected,
    .refreshTokenReuseDetected]

/-- `compact`: drops repeated neighbours. -/
def compact : List String → List String
  | first :: second :: rest =>
    if first == second then compact (second :: rest) else first :: compact (second :: rest)
  | values => values

/-- `audit.New` for an actor and a target, up to validation. -/
def newEvent (id : Uuid) (type : EventType) (result : Result) (actor : Uuid)
    (targetType : TargetType) (target : Uuid) (requestID : String) (changed : List String)
    (at' : Time) : Event :=
  { id, type, result, actorUserID := some actor, targetType := some targetType,
    targetID := some target, requestID, changedFields := compact (sortStrings changed),
    occurredAt := at' }

end OneIssuer.Audit
