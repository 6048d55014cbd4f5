import OneIssuer.Browser.Authflow
import OneIssuer.Identity
import OneIssuer.System

/-!
# Services behind the browser handlers

The parts of the session, authflow, authn and consent services that authenticate a request, log a user in
and preview a consent, as bodies over effects: the random source, queries on the pool, transactions of the
store, and Argon2. Request times are arguments. Between two effects of a request anything else may run,
so a service knows only what its own effects answered.

A failed query or a failed transaction is an answer like any other.

**What it does not establish.** Failures of the random source, cookies and pages are left out, and so are
the services that start a flow or register a user; their store calls are in `System`.
-/

set_option autoImplicit false

namespace OneIssuer.Browser

open Relational Store Token Identity

/-! ## Effects -/

/-- Why Argon2 has no hash. -/
inductive HashFailure where
  | busy
  | failed
  deriving DecidableEq, Repr

/-- What a handler asks of its environment. -/
inductive Effect : Type → Type 1 where
  /-- Bytes of a new token. -/
  | randomBytes : Effect (RandomBytes 32)
  /-- A new identifier. -/
  | randomUuid : Effect RandomUuid
  /-- A query on the pool; no answer when it fails. -/
  | query {α : Type} (read : Db → α) : Effect (Option α)
  /-- A transaction of the store. -/
  | call (call : Call) : Effect (Except StoreError Answer)
  /-- Argon2 on a password and the stored hash; without one, the dummy hash. -/
  | checkPassword (password : String) (stored : Option String) : Effect PasswordCheck
  /-- A new Argon2 hash. -/
  | hashPassword (password : String) : Effect (Except HashFailure String)

/-- A body over effects. -/
abbrev Handler (α : Type) := Program Effect Empty Empty α

/-- One effect. -/
def perform {α : Type} (effect : Effect α) : Handler α := Program.call effect nofun

/-- The digest, the Unicode tables and the configuration that the services read. -/
structure Application where
  sha : Sha256
  unicode : Unicode
  sessionTTL : Int
  idleTimeout : Int
  csrfTTL : Int
  sessionBounds : 0 < idleTimeout ∧ idleTimeout ≤ sessionTTL ∧ 0 < csrfTTL

variable (app : Application)

/-- `audit.New` of an event: nothing when it is invalid. -/
def newServiceEvent (event : Audit.Event)
    (ordinary : event.type ∉ [.authorizationCodeExchangeRejected, .refreshTokenExchangeRejected,
      .refreshTokenReuseDetected]) : Option Audit.ServiceEvent :=
  if valid : event.validate = true then some ⟨event, valid, ordinary⟩ else none

/-! ## Sessions -/

/-- `validToken` of the session and authflow packages. -/
def validToken (value mark : String) : Bool :=
  mark.toList.isPrefixOf value.toList && decodedLength (value.toList.drop mark.length) == some 32

/-- `newToken` of the token manager. -/
def newSessionToken (mark : String) (random : RandomBytes 32) : String :=
  mark ++ String.ofList (encodeRawURL random.1)

/-- `session.HashToken`. -/
def hashSessionToken (token : String) : Bytes := app.sha.sum ("oneissuer:browser-token:v1:" ++ token)

/-- `HashCSRF`. -/
def hashCSRF (token : String) : Bytes := app.sha.sum ("oneissuer:csrf:v1:" ++ token)

/-- `csrfMatches`. -/
def csrfMatches (token : String) (expected : Bytes) : Bool :=
  validToken token "c1_" && expected.length == sha256Size && hashCSRF app token == expected

/-- `session.Principal`. -/
structure Principal where
  sessionID : Uuid
  sessionBindingID : Uuid
  user : User
  csrfHash : Bytes
  csrfExpiresAt : Time
  createdAt : Time
  lastSeenAt : Time
  authenticatedAt : Time
  expiresAt : Time
  idleExpiresAt : Time
  revokedAt : Option Time
  deriving DecidableEq, Repr

/-- `mapPrincipal`; the normal forms of the user are not selected. -/
def mapPrincipal (session : LoginSession) (user : User) : Principal :=
  { sessionID := session.id, sessionBindingID := session.sessionBindingID
    user := { user with
      id := session.userID
      usernameNormalized := ""
      emailNormalized := "" }
    csrfHash := session.csrfHash, csrfExpiresAt := session.csrfExpiresAt
    createdAt := session.createdAt, lastSeenAt := session.lastSeenAt
    authenticatedAt := session.authenticatedAt, expiresAt := session.expiresAt
    idleExpiresAt := session.idleExpiresAt, revokedAt := session.revokedAt }

/-- `FindLoginSession`. -/
def findLoginSession (db : Db) (tokenHash : Bytes) : Option Principal :=
  (db.loginSessions.find? (·.tokenHash == tokenHash)).bind fun session =>
    (db.user? session.userID).map (mapPrincipal session)

/-- Why there is no principal. -/
inductive SessionError where
  | unauthenticated
  | failed
  deriving DecidableEq, Repr

/-- The session is usable at `now`. -/
def Principal.usable (principal : Principal) (now : Time) : Bool :=
  principal.revokedAt.isNone && now < principal.expiresAt && now < principal.idleExpiresAt &&
    principal.user.status == .active

/-- `NextIdleExpiry`. -/
def nextIdleExpiry (now absolute : Time) : Time :=
  if now + app.idleTimeout > absolute then absolute else now + app.idleTimeout

/-- The activity of a session is recorded every five minutes. -/
def touch (principal : Principal) (now : Time) : Handler (Except SessionError Principal) :=
  if now - principal.lastSeenAt ≥ minutes 5 then do
    let idle := nextIdleExpiry app now principal.expiresAt
    match ← perform (.call (.touchLoginSession principal.sessionID now idle)) with
    | .error _ => return .error .failed
    | .ok _ => return .ok { principal with lastSeenAt := now, idleExpiresAt := idle }
  else return .ok principal

/-- `Authenticate`. -/
def authenticate (token : String) (now : Time) : Handler (Except SessionError Principal) :=
  if !validToken token "s1_" then return .error .unauthenticated
  else do
    match ← perform (.query fun db => findLoginSession db (hashSessionToken app token)) with
    | none => return .error .failed
    | some none => return .error .unauthenticated
    | some (some principal) =>
      if principal.usable now then touch app principal now else return .error .unauthenticated

/-- `session.Issued`. -/
structure IssuedSession where
  token : String
  csrfToken : String
  record : SessionRecord

/-- `NewAuthenticated`; `userAgent` and `ipPrefix` are what the request says about the browser. -/
def newAuthenticated (userID : Uuid) (now : Time) (userAgent ipPrefix : String) :
    Handler IssuedSession := do
  let token := newSessionToken "s1_" (← perform .randomBytes)
  let csrf := newSessionToken "c1_" (← perform .randomBytes)
  let id ← perform .randomUuid
  return {
    token, csrfToken := csrf
    record :=
      { id := id.1, userID, sessionBindingID := id.1, tokenHash := hashSessionToken app token
        csrfHash := hashCSRF app csrf, csrfExpiresAt := now + app.csrfTTL, createdAt := now
        lastSeenAt := now, authenticatedAt := now, expiresAt := now + app.sessionTTL
        idleExpiresAt := nextIdleExpiry app now (now + app.sessionTTL)
        userAgentHash :=
          if userAgent == "" then none else some (app.sha.sum ("oneissuer:user-agent:v1:" ++ userAgent))
        ipPrefix } }

/-! ## Browser transactions -/

/-- `Resolve`; no caller tells its errors apart. -/
def resolve (token : String) (now : Time) : Handler (Option Transaction) :=
  if !validToken token "t1_" then return none
  else do
    match ← perform (.query fun db =>
        db.authTransactions.find? (·.tokenHash == Authflow.hashToken app.sha token)) with
    | some (some row) =>
      if row.consumedAt.isSome || row.expiresAt ≤ now then return none
      else return some (Authflow.mapAuthTransaction row)
    | _ => return none

/-! ## Consent -/

/-- `consent.Evaluation`. -/
structure Evaluation where
  grant : Option ConsentGrant
  effective : List String
  alreadyGranted : List String
  newScopes : List String
  covers : Bool
  deriving DecidableEq, Repr

/-- The evaluation of a request against the grant of its user. -/
def evaluation (requested : List String) (client : Client) (userID : Uuid) :
    Option ConsentGrant → Option Evaluation
  | none => some ⟨none, [], [], requested, false⟩
  | some grant => do
    if grant.id == Uuid.nil || grant.userID != userID || grant.clientID != client.id ||
        grant.version < 1 || grant.createdAt.isZero || grant.updatedAt < grant.createdAt ||
        grant.revokedAt.any (· < grant.createdAt) then none
    let stored ← Consent.canonicalScopes grant.scopes
    let effective :=
      if grant.revokedAt.isSome then [] else Consent.intersection stored client.scopes
    let newScopes := Consent.difference requested effective
    return { grant := some { grant with scopes := stored }, effective
             alreadyGranted := Consent.intersection requested effective, newScopes
             covers := newScopes.isEmpty }

/-- `Evaluate`; no caller tells its errors apart. -/
def evaluate (userID : Uuid) (client : Client) (scopes : List String) :
    Handler (Option Evaluation) :=
  match Consent.canonicalScopes scopes with
  | none => return none
  | some requested =>
    if userID == Uuid.nil || !activeClientRecord client ||
        !Consent.scopeSubset requested client.scopes then return none
    else do
      match ← perform (.query fun db =>
          db.consentGrants.find? fun row => row.userID == userID && row.clientID == client.id) with
      | none => return none
      | some grant => return evaluation requested client userID grant

/-! ## Codes -/

/-- `newCode`. -/
def newCode (random : RandomBytes 32) : String := "c1_" ++ String.ofList (encodeRawURL random.1)

/-! ## Login -/

/-- The errors of the authn service, as far as the handlers tell them apart. -/
inductive AuthnError where
  | invalidCredentials
  | duplicate
  | invalidInput
  | invalidCSRF
  | invalidFlow
  | hashBusy
  | failed
  deriving DecidableEq, Repr

/-- An error of the store, as `errors.Is` sees it. -/
def AuthnError.ofStore : StoreError → AuthnError
  | .identityInvalidCredentials => .invalidCredentials
  | .identityDuplicate => .duplicate
  | .identityInvalidInput => .invalidInput
  | .authnInvalidFlow => .invalidFlow
  | _ => .failed

/-- `maxAuthenticationAttempts`. -/
def maxAuthenticationAttempts : Int := 5

/-- `ValidatePreAuth`. -/
def validatePreAuth (record : PreAuthSession) (cookie csrf : String) (now : Time) :
    Except AuthnError Unit :=
  if !validToken cookie "p1_" || record.consumedAt.isSome || record.expiresAt ≤ now then
    .error .invalidFlow
  else if hashSessionToken app cookie != record.tokenHash ||
      !csrfMatches app csrf record.csrfHash then .error .invalidCSRF
  else .ok ()

/-- `validateFlow`. -/
def validateFlow (preauthToken csrfToken transactionToken : String) (now : Time) :
    Handler (Except AuthnError (PreAuthSession × Transaction)) :=
  if preauthToken == "" || transactionToken == "" then return .error .invalidFlow
  else do
    match ← perform (.query fun db =>
        db.preAuthSessions.find? (·.tokenHash == hashSessionToken app preauthToken)) with
    | some (some preauth) =>
      match validatePreAuth app preauth preauthToken csrfToken now with
      | .error error => return .error error
      | .ok () =>
        match ← resolve app transactionToken now with
        | none => return .error .invalidFlow
        | some transaction =>
          if transaction.id == preauth.authTransactionID then return .ok (preauth, transaction)
          else return .error .invalidFlow
    | _ => return .error .invalidFlow

/-- The event about a refused form is appended on its own, and its failure is ignored. -/
def recordEvent (type : Audit.EventType)
    (ordinary : type ∉ [.authorizationCodeExchangeRejected, .refreshTokenExchangeRejected,
      .refreshTokenReuseDetected])
    (target : Option Uuid) (requestID : Audit.RequestID) (now : Time) : Handler Unit := do
  let id ← perform .randomUuid
  match newServiceEvent
      { id := id.1, type, result := .rejected, actorUserID := none
        targetType := target.map fun _ => .user, targetID := target, requestID := requestID.text
        changedFields := [], occurredAt := now } ordinary with
  | none => return ()
  | some event => do
    let _ ← perform (.call (.appendAudit event))

/-- `successEvents`. -/
def successEvents (userID sessionID transactionID : Uuid) (requestID : Audit.RequestID) (now : Time)
    (registration consumeTransaction : Bool) : Handler (Option (List Audit.ServiceEvent)) := do
  let first ← perform .randomUuid
  let second ← perform .randomUuid
  let third ← perform .randomUuid
  let registered :=
    newServiceEvent (Audit.newEvent first.1 .userRegistered .success userID .user userID
      requestID.text ["created"] now) (by simp [Audit.newEvent])
  let loggedIn :=
    newServiceEvent (Audit.newEvent first.1 .loginSucceeded .success userID .user userID
      requestID.text [] now) (by simp [Audit.newEvent])
  let created :=
    newServiceEvent (Audit.newEvent second.1 .sessionCreated .success userID .session sessionID
      requestID.text ["created"] now) (by simp [Audit.newEvent])
  let consumed :=
    newServiceEvent (Audit.newEvent third.1 .authorizationTransactionConsumed .success userID
      .authTransaction transactionID requestID.text [] now) (by simp [Audit.newEvent])
  return do
    let entered ← if registration then registered else loggedIn
    let created ← created
    if consumeTransaction then return [entered, created, ← consumed] else return [entered, created]

/-- The login form without its credentials, and what its request says about the browser. -/
structure FormInput where
  preAuthToken : String
  csrfToken : String
  transactionToken : String
  existingSessionToken : String
  userAgent : String
  ipPrefix : String
  requestID : Audit.RequestID

/-- The digest of a presented session. -/
def existingHash (token : String) : Bytes := if token == "" then [] else hashSessionToken app token

/-- `validateFlow` and the reservation of an attempt. -/
def enterFlow (input : FormInput) (now : Time) :
    Handler (Except AuthnError (PreAuthSession × Transaction)) := do
  match ← validateFlow app input.preAuthToken input.csrfToken input.transactionToken now with
  | .error error => return .error error
  | .ok (preauth, transaction) =>
    match ← perform (.call (.reservePreAuthAttempt preauth.id now maxAuthenticationAttempts)) with
    | .error _ => return .error .invalidFlow
    | .ok _ => return .ok (preauth, transaction)

/-- `VerifyLogin`: the replacement hash, empty when none is needed. -/
def verify (password : String) (record : Option LoginRecord) :
    Handler (Except LoginRefusal String) := do
  let check ← perform (.checkPassword password (record.map (·.passwordHash)))
  match verifyLogin check record with
  | .error refusal => return .error refusal
  | .ok false => return .ok ""
  | .ok true =>
    match ← perform (.hashPassword password) with
    | .error .busy => return .error .busy
    | .error .failed => return .error .failed
    | .ok hash => return .ok hash

/-- The record of a login identifier; no answer when the query fails. -/
def loginRecord (identifier : String) : Handler (Option (Option LoginRecord)) :=
  match normalizeLoginIdentifier app.unicode identifier with
  | .error _ => return some none
  | .ok normalized => perform (.query fun db => findCredentialForLogin db normalized)

/-- What a refused login answers: only a shortage or a fault of Argon2 shows through. -/
def LoginRefusal.error (identifier : String) : LoginRefusal → AuthnError
  | .disabled | .invalidCredentials => .invalidCredentials
  | .busy =>
    match normalizeLoginIdentifier app.unicode identifier with
    | .error _ => .invalidCredentials
    | .ok _ => .hashBusy
  | .failed =>
    match normalizeLoginIdentifier app.unicode identifier with
    | .error _ => .invalidCredentials
    | .ok _ => .failed

/-- `recordLoginFailure`. -/
def recordLoginFailure (record : Option LoginRecord) (refusal : LoginRefusal)
    (requestID : Audit.RequestID) (now : Time) : Handler Unit :=
  if record.isSome && refusal == .disabled then
    recordEvent .loginDisabledUser (by simp) (record.map (·.user.id)) requestID now
  else recordEvent .loginFailed (by simp) (record.map (·.user.id)) requestID now

/-- The commit of a verified login. The session keeps the binding of the one it replaces, so the record is
given the binding that was committed; Go's zero identifier stands for none. -/
def commitLogin (input : FormInput) (preauth : PreAuthSession) (transaction : Transaction)
    (userID : Uuid) (replacement : String) (now : Time) :
    Handler (Except AuthnError IssuedSession) := do
  let issued ← newAuthenticated app userID now input.userAgent input.ipPrefix
  match ← successEvents userID issued.record.id transaction.id input.requestID now false
      (transaction.kind == .kindLocal) with
  | none => return .error .failed
  | some events =>
    match ← perform (.call (.commitLogin
        { userID, session := issued.record, preAuthID := preauth.id, transactionID := transaction.id
          consumeTransaction := transaction.kind == .kindLocal
          existingSessionHash := existingHash app input.existingSessionToken
          replacementHash := replacement, now, requestID := input.requestID, events })) with
    | .error error => return .error (.ofStore error)
    | .ok answer =>
      if answer.bindingID == Uuid.nil then return .error .invalidFlow
      else
        return .ok
          { issued with record := { issued.record with sessionBindingID := answer.bindingID } }

/-- `Login`. -/
def login (input : FormInput) (identifier password : String) (now : Time) :
    Handler (Except AuthnError IssuedSession) := do
  match ← enterFlow app input now with
  | .error error => return .error error
  | .ok (preauth, transaction) =>
    match ← loginRecord app identifier with
    | none => return .error .failed
    | some record =>
      match ← verify password record with
      | .error refusal => do
        recordLoginFailure record refusal input.requestID now
        return .error (LoginRefusal.error app identifier refusal)
      | .ok replacement =>
        match record with
        | none => return .error .invalidCredentials
        | some found => commitLogin app input preauth transaction found.user.id replacement now

end OneIssuer.Browser
