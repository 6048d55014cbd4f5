import OneIssuer.Store.Captured

/-!
# Callbacks of the store

Five operations of the store collect the audit events they insert in a list of their own. Their callbacks
are written out here with the variables they assign and with the reset that `inTx` calls. With the
variables forgotten each one is the body in `Store.Sessions`, `Store.Logout` or `Store.Tokens`
(`AuditedCall.body_eq`).

`CompleteLogoutTransaction` builds both of its events before it inserts the first. Building reads nothing,
so the two are built where they are inserted.
-/

set_option autoImplicit false

namespace OneIssuer.Store

open Relational Queries Token

/-- A callback of `inTx` over the variables `σ`. -/
abbrev Callback (σ α : Type) := Captured Stmt PgError StoreError σ α

/-! ## Events -/

/-- `audit.New` and `insertAudit`; the event is for the caller's list. -/
def appendNewAudit (build : Uuid → Audit.Event) : Tx Audit.Event := do
  let id ← Tx.query "append audit event" .newEventID
  Program.require (build id).validate .auditInvalidEvent
  insertAudit (build id)
  return build id

/-- `insertProtocolAudit`; the event is for the caller's list. -/
def appendProtocolAudit (type : Audit.EventType) (result : Audit.Result) (actor : Uuid)
    (targetType : Audit.TargetType) (target : Uuid) (requestID : Audit.RequestID)
    (changed : List String) (now : Time) : Tx Audit.Event :=
  appendNewAudit fun id =>
    Audit.newEvent id type result actor targetType target requestID.text changed now

/-- Revokes an active session on behalf of a login; the event is for the caller's list. -/
def appendRevokedSession (operation : String) (existing : LoginSession) (now : Time)
    (reason : RevokeReason) (actor : Uuid) (requestID : Audit.RequestID) : Tx Audit.Event := do
  let revoked ← Tx.queryRow operation (.noRows operation)
    (revokeLoginSessionByID (timestamp now) (some reason) existing.id)
  appendNewAudit fun id =>
    Audit.newEvent id .sessionRevoked .success actor .session revoked.id requestID.text
      ["revoked"] now

/-! ## The callbacks -/

/-- The switch of `CommitRegistration`; its variable is `events`. -/
def switchRegistrationCallback (commit : RegisterCommit) : Callback (List Audit.Event) Unit :=
  if commit.existingSessionHash.isEmpty then pure ()
  else do
    match ← Captured.lift (Tx.queryOne "lock existing registration session"
        (lockLoginSessionByTokenHash commit.existingSessionHash)) with
    | none => pure ()
    | some existing =>
      if sessionActive existing commit.session.createdAt &&
          existing.userID != commit.user.user.id then do
        Captured.lift (revokeSessionBindingCascade existing.sessionBindingID commit.session.createdAt
          .accountSwitch)
        let event ← Captured.lift (appendRevokedSession "revoke existing registration session" existing
          commit.session.createdAt .accountSwitch existing.userID commit.requestID)
        Captured.assign (· ++ [event])
      else pure ()

/-- The callback of `CommitRegistration`, up to the events of its caller. -/
def registrationCallback (commit : RegisterCommit) : Callback (List Audit.Event) Unit := do
  Captured.lift do
    lockAndCheckRegistration commit.user.user
    write (mapIdentityWriteError "create registered user") (createUser commit.user.row)
    write (mapIdentityWriteError "create registered credential")
      (createCredential commit.user.credential)
  switchRegistrationCallback commit
  Captured.lift do
    createLoginSession commit.session
    let _ ← Tx.queryRow "consume registration pre-auth" .sessionConsumed
      (consumePreAuthSession (timestamp commit.session.createdAt) commit.preAuthID)
    consumeFlowTransaction "consume registration transaction" commit.consumeTransaction
      commit.session.createdAt commit.transactionID

/-- The variables of `CommitLogin`; the last one is `commit.Session.SessionBindingID`. -/
structure LoginVariables where
  events : List Audit.Event
  bindingID : Uuid
  sessionBindingID : Uuid

/-- The new session takes over the binding of the same user, or the other user's is revoked. -/
def rebindSessionCallback (commit : LoginCommit) (existing : LoginSession) :
    Callback LoginVariables Unit :=
  if existing.userID == commit.userID then
    Captured.assign fun s => { s with bindingID := existing.sessionBindingID }
  else
    Captured.lift (revokeSessionBindingCascade existing.sessionBindingID commit.now .accountSwitch)

/-- An active session is rotated, or switched away from. -/
def rotateSessionCallback (commit : LoginCommit) (existing : LoginSession) :
    Callback LoginVariables Unit := do
  rebindSessionCallback commit existing
  let event ← Captured.lift (appendRevokedSession "rotate existing login session" existing commit.now
    (if existing.userID == commit.userID then .rotation else .accountSwitch)
    (if existing.userID == commit.userID then commit.userID else existing.userID) commit.requestID)
  Captured.assign fun s => { s with events := s.events ++ [event] }

/-- The session a login presents. -/
def replaceSessionCallback (commit : LoginCommit) : Callback LoginVariables Unit :=
  if commit.existingSessionHash.isEmpty then pure ()
  else do
    match ← Captured.lift (Tx.queryOne "lock existing login session"
        (lockLoginSessionByTokenHash commit.existingSessionHash)) with
    | none => pure ()
    | some existing =>
      if sessionActive existing commit.now then rotateSessionCallback commit existing else pure ()

/-- The callback of `CommitLogin`, up to the events of its caller. -/
def loginCallback (commit : LoginCommit) : Callback LoginVariables Unit := do
  Captured.lift do
    let user ← Tx.queryRow "lock login user" .identityInvalidCredentials (lockUserByID commit.userID)
    Program.require (user.status == .active) .identityInvalidCredentials
    let _ ← Tx.queryRow "consume login pre-auth" .sessionConsumed
      (consumePreAuthSession (timestamp commit.now) commit.preAuthID)
    consumeFlowTransaction "consume login transaction" commit.consumeTransaction commit.now
      commit.transactionID
  replaceSessionCallback commit
  Captured.lift do
    rehashCredential commit
    let _ ← Tx.query "update last login" (updateLastLogin (timestamp commit.now) commit.userID)
  Captured.assign fun s => { s with sessionBindingID := s.bindingID }
  let s ← Captured.current
  Captured.lift (createLoginSession { commit.session with sessionBindingID := s.sessionBindingID })

/-- The variables of `CompleteLogoutTransaction`. -/
structure LogoutVariables where
  candidate : CompletionCandidate
  events : List Audit.Event
  committedOutcome : Option StoreError

/-- `logout.CompletionCandidate{}`. -/
def emptyCandidate : CompletionCandidate := ⟨false, none, "", ""⟩

/-- The confirmed branch. -/
def confirmLogoutCallback (input : CompleteInput) (transaction : LogoutTransaction) :
    Callback LogoutVariables Unit := do
  Captured.lift do
    cascade (.bindings [input.sessionBindingID]) (.bindings [input.sessionBindingID]) input.now
      .sessionRevoked "lock logout refresh families" "lock logout access metadata"
      "revoke logout refresh families" "revoke logout access metadata"
    let _ ← Tx.queryRow "revoke logout browser session" .logoutNotFound
      (revokeLoginSessionBindingByID (timestamp input.now) (some .logout) input.sessionID)
    let _ ← Tx.queryRow "confirm logout transaction" .logoutNotFound
      (confirmLogoutTransaction (timestamp input.now) transaction.id)
  let sessionEvent ← Captured.lift (appendProtocolAudit .sessionRevoked .success input.userID .session
    input.sessionID input.requestID ["revoked"] input.now)
  let logoutEvent ← Captured.lift (appendProtocolAudit .rpLogoutCompleted .success input.userID
    .logoutTransaction transaction.id input.requestID ["revoked"] input.now)
  Captured.assign fun s => { s with events := s.events ++ [sessionEvent, logoutEvent] }

/-- The callback of `CompleteLogoutTransaction`. -/
def logoutCallback (input : CompleteInput) : Callback LogoutVariables Unit := do
  let transaction ← Captured.lift do
    let transaction ← Tx.queryRow "lock logout transaction for completion" .logoutNotFound
      (lockLogoutTransactionByLookupHash input.lookupHash)
    Program.require (completable input transaction) .logoutNotFound
    let session ← Tx.queryRow "lock browser session for logout completion" .logoutNotFound
      (lockLoginSessionByID input.sessionID)
    Program.require (browserSessionMatches session input.userID input.sessionBindingID input.now)
      .logoutNotFound
    return transaction
  if !proofMatches input transaction then do
    Captured.lift (countFailedProof input transaction)
    Captured.assign fun s => { s with committedOutcome := some .logoutCSRF }
  else do
    Captured.assign fun s =>
      { s with
        candidate :=
          { confirmed := input.decision == .confirm, verifiedClientID := transaction.verifiedClientID
            postLogoutRedirectURI := valueString transaction.postLogoutRedirectURI
            state := valueString transaction.stateValue } }
    match input.decision with
    | .cancel =>
      Captured.lift do
        let _ ← Tx.queryRow "cancel logout transaction" .logoutNotFound
          (cancelLogoutTransaction (timestamp input.now) transaction.id)
    | .confirm => confirmLogoutCallback input transaction

/-- The variables of the two exchanges; `rejected` is `replayRejected` or `reuseDetected`. -/
structure ExchangeVariables where
  response : Response
  events : List Audit.Event
  rejected : Bool

/-- `token.Response{}`. -/
def emptyResponse : Response := ⟨"", "", 0, "", "", ""⟩

/-- `insertProtocolAudit` with the address of `events`. -/
def noteProtocolAudit (type : Audit.EventType) (result : Audit.Result) (actor : Uuid)
    (targetType : Audit.TargetType) (target : Uuid) (requestID : Audit.RequestID)
    (changed : List String) (now : Time) : Callback ExchangeVariables Unit := do
  let event ← Captured.lift
    (appendProtocolAudit type result actor targetType target requestID changed now)
  Captured.assign fun s => { s with events := s.events ++ [event] }

/-- The replay of a consumed code. -/
def recordReplayCallback (input : ExchangeInput) (code : AuthorizationCode) :
    Callback ExchangeVariables Unit := do
  let alreadyRecorded ← Captured.lift (Tx.query "check authorization code replay audit"
    (hasAuthorizationCodeExchangeRejection code.id))
  if alreadyRecorded then pure ()
  else
    noteProtocolAudit .authorizationCodeExchangeRejected .rejected code.userID .authorizationCode
      code.id input.requestID [] input.now

/-- The events of a successful exchange. -/
def auditExchangeCallback (input : ExchangeInput) (code : AuthorizationCode) (locked : LockedExchange) :
    Callback ExchangeVariables Unit := do
  noteProtocolAudit .authorizationCodeExchangeSucceeded .success code.userID .authorizationCode
    code.id input.requestID ["consumed"] input.now
  noteProtocolAudit .accessTokenIssued .success code.userID .accessToken
    locked.minted.accessTokenID input.requestID ["issued"] input.now
  match locked.minted.initialRefresh with
  | none => pure ()
  | some initial =>
    noteProtocolAudit .refreshTokenIssued .success code.userID .refreshToken initial.tokenID
      input.requestID ["issued"] input.now

/-- The callback of `ExchangeAuthorizationCode`. -/
def exchangeCodeCallback (sha : Sha256) (input : ExchangeInput) (mint : MintFunc) :
    Callback ExchangeVariables Unit := do
  let code ← Captured.lift (Tx.queryRow "lock authorization code for exchange" .tokenInvalidGrant
    (lockAuthorizationCodeByHash input.codeHash))
  if code.consumedAt.isSome then do
    recordReplayCallback input code
    Captured.assign fun s => { s with rejected := true }
  else do
    let locked ← Captured.lift do
      let locked ← lockExchangeAuthority sha input mint code
      createInitialRefresh code locked
      Tx.query "create access token metadata" (createAccessToken (exchangedAccess code locked))
      let _ ← Tx.queryRow "consume authorization code" .tokenInvalidGrant
        (consumeAuthorizationCode (timestamp input.now) code.id)
      return locked
    auditExchangeCallback input code locked
    Captured.assign fun s => { s with response := exchangeResponse locked }

/-- The reuse of a consumed generation. -/
def revokeReusedCallback (input : RefreshInput) (locked : LockedRefresh) :
    Callback ExchangeVariables Unit := do
  Captured.lift do
    let _ ← Tx.queryRow "revoke reused refresh token family"
      (.noRows "revoke reused refresh token family")
      (revokeRefreshTokenFamily (timestamp input.now) (some .reuse) locked.family.id)
    let _ ← Tx.query "revoke access tokens after refresh reuse"
      (revokeLiveAccessTokens (.family locked.family.id) (timestamp input.now) (some .familyRevoked))
  noteProtocolAudit .refreshTokenReuseDetected .rejected locked.family.userID .refreshToken
    locked.presented.id input.requestID ["reused"] input.now
  noteProtocolAudit .refreshTokenFamilyRevoked .success locked.family.userID .refreshFamily
    locked.family.id input.requestID ["revoked"] input.now
  Captured.assign fun s => { s with rejected := true }

/-- The rotation of the presented generation. -/
def rotateGenerationCallback (sha : Sha256) (input : RefreshInput) (mint : RefreshMintFunc)
    (locked : LockedRefresh) : Callback ExchangeVariables Unit := do
  let (scopes, minted) ← Captured.lift do
    Program.require (input.now < locked.presented.expiresAt) .tokenInvalidGrant
    let scopes ← Program.ofExcept (selectRefreshAccessScopes input.requestedScopes
      locked.family.scopes locked.grant.scopes locked.client.scopes)
    let minted ← Program.ofExcept (mint
      { presented := locked.presented, family := locked.family, grant := locked.grant
        user := locked.user, client := locked.client, accessScopes := scopes
        issuedAt := input.now })
    Program.require (validRefreshMinted sha minted locked.presented locked.family input.now)
      .tokenInvalid
    let _ ← Tx.queryRow "consume refresh token generation" .tokenInvalidGrant
      (consumeRefreshToken (timestamp input.now) locked.presented.id)
    Tx.query "create replacement refresh token"
      (createRefreshToken (replacementGeneration locked minted))
    Tx.query "create refresh-sourced access token"
      (createAccessToken (refreshedAccess locked scopes minted))
    return (scopes, minted)
  noteProtocolAudit .refreshTokenRotated .success locked.family.userID .refreshToken
    locked.presented.id input.requestID ["consumed", "rotated"] input.now
  noteProtocolAudit .accessTokenIssued .success locked.family.userID .accessToken
    minted.accessTokenID input.requestID ["issued"] input.now
  Captured.assign fun s => { s with response := refreshResponse scopes minted }

/-- The callback of `ExchangeRefreshToken`. -/
def exchangeRefreshCallback (sha : Sha256) (input : RefreshInput) (mint : RefreshMintFunc)
    (candidate : RefreshToken) (candidateFamily : RefreshTokenFamily) :
    Callback ExchangeVariables Unit := do
  let locked ← Captured.lift (lockRefreshAuthority input candidate candidateFamily)
  if locked.presented.consumedAt.isSome then revokeReusedCallback input locked
  else rotateGenerationCallback sha input mint locked

/-! ## The operations -/

/-- The operations that collect the events they insert. The two rows that `ExchangeRefreshToken` looks
up before its transaction are arguments. -/
inductive AuditedCall where
  | commitRegistration (commit : RegisterCommit)
  | commitLogin (commit : LoginCommit)
  | completeLogoutTransaction (input : CompleteInput)
  | exchangeAuthorizationCode (input : ExchangeInput) (mint : MintFunc)
  | exchangeRefreshToken (input : RefreshInput) (mint : RefreshMintFunc) (candidate : RefreshToken)
      (candidateFamily : RefreshTokenFamily)

namespace AuditedCall

variable (sha : Sha256)

/-- The variables the callback assigns. -/
abbrev Variables : AuditedCall → Type
  | .commitRegistration _ => List Audit.Event
  | .commitLogin _ => LoginVariables
  | .completeLogoutTransaction _ => LogoutVariables
  | .exchangeAuthorizationCode _ _ => ExchangeVariables
  | .exchangeRefreshToken _ _ _ _ => ExchangeVariables

/-- The checks before the transaction. -/
def checked : AuditedCall → Bool
  | .commitRegistration commit =>
    commit.session.id != Uuid.nil && commit.session.userID == commit.user.user.id &&
      commit.session.sessionBindingID == commit.session.id
  | .commitLogin commit =>
    commit.session.id != Uuid.nil && commit.session.userID == commit.userID &&
      commit.session.sessionBindingID == commit.session.id && !commit.now.isZero
  | .completeLogoutTransaction input => validCompleteInput input
  | .exchangeAuthorizationCode input _ => validExchangeInput input
  | .exchangeRefreshToken input _ _ _ => validRefreshInput input

/-- The variables when the transaction starts. -/
def initial : (call : AuditedCall) → call.Variables
  | .commitRegistration commit => commit.events.map (·.event)
  | .commitLogin commit =>
    ⟨commit.events.map (·.event), commit.session.sessionBindingID, commit.session.sessionBindingID⟩
  | .completeLogoutTransaction _ => ⟨emptyCandidate, [], none⟩
  | .exchangeAuthorizationCode _ _ => ⟨emptyResponse, [], false⟩
  | .exchangeRefreshToken _ _ _ _ => ⟨emptyResponse, [], false⟩

/-- The callback and its reset. A list is reset by slicing it to length 0 and appending. -/
def operation : (call : AuditedCall) → Operation call.Variables
  | .commitRegistration commit =>
    { reset := fun events => events.take 0 ++ commit.events.map (·.event)
      body := do
        registrationCallback commit
        Captured.lift (Program.each (fun event => insertAudit event.event) commit.events)
      forgets := fun _ _ => rfl }
  | .commitLogin commit =>
    { reset := fun s =>
        ⟨s.events.take 0 ++ commit.events.map (·.event), commit.session.sessionBindingID,
          commit.session.sessionBindingID⟩
      body := do
        loginCallback commit
        Captured.lift (Program.each (fun event => insertAudit event.event) commit.events)
      forgets := fun _ _ => rfl }
  | .completeLogoutTransaction input =>
    { reset := fun _ => ⟨emptyCandidate, [], none⟩, body := logoutCallback input
      forgets := fun _ _ => rfl }
  | .exchangeAuthorizationCode input mint =>
    { reset := fun _ => ⟨emptyResponse, [], false⟩, body := exchangeCodeCallback sha input mint
      forgets := fun _ _ => rfl }
  | .exchangeRefreshToken input mint candidate candidateFamily =>
    { reset := fun _ => ⟨emptyResponse, [], false⟩
      body := exchangeRefreshCallback sha input mint candidate candidateFamily
      forgets := fun _ _ => rfl }

/-- The list of events among the variables. -/
def events : (call : AuditedCall) → call.Variables → List Audit.Event
  | .commitRegistration _, s => s
  | .commitLogin _, s => s.events
  | .completeLogoutTransaction _, s => s.events
  | .exchangeAuthorizationCode _ _, s => s.events
  | .exchangeRefreshToken _ _ _ _, s => s.events

/-! ### Answers -/

/-- What the operation answers. -/
abbrev Answer : AuditedCall → Type
  | .commitRegistration _ => Unit
  | .commitLogin _ => Uuid
  | .completeLogoutTransaction _ => Except StoreError CompletionCandidate
  | .exchangeAuthorizationCode _ _ => Except StoreError Response
  | .exchangeRefreshToken _ _ _ _ => Except StoreError Response

/-- The answer after a commit, from the variables. -/
def answer : (call : AuditedCall) → call.Variables → call.Answer
  | .commitRegistration _, _ => ()
  | .commitLogin _, s => s.bindingID
  | .completeLogoutTransaction _, s =>
    match s.committedOutcome with
    | some outcome => .error outcome
    | none => .ok s.candidate
  | .exchangeAuthorizationCode _ _, s =>
    if s.rejected then .error .tokenInvalidGrant else .ok s.response
  | .exchangeRefreshToken _ _ _ _, s =>
    if s.rejected then .error .tokenInvalidGrant else .ok s.response

/-- The error of the checks before the transaction. -/
def rejection : AuditedCall → StoreError
  | .commitRegistration _ => .authnInvalidFlow
  | .commitLogin _ => .authnInvalidFlow
  | .completeLogoutTransaction _ => .logoutNotFound
  | .exchangeAuthorizationCode _ _ => .tokenInvalidGrant
  | .exchangeRefreshToken _ _ _ _ => .tokenInvalidGrant

/-- The body of the operation in the store. -/
def body : (call : AuditedCall) → Tx call.Answer
  | .commitRegistration commit => Store.commitRegistration commit
  | .commitLogin commit => Store.commitLogin commit
  | .completeLogoutTransaction input => Store.completeLogoutTransaction input
  | .exchangeAuthorizationCode input mint => Store.exchangeAuthorizationCode sha input mint
  | .exchangeRefreshToken input mint candidate candidateFamily =>
    Store.exchangeRefreshToken sha input mint candidate candidateFamily

end AuditedCall

/-! ## Without the variables -/

theorem bind_ite {α β : Type} {condition : Prop} [Decidable condition] (yes no : Tx α)
    (rest : α → Tx β) :
    (if condition then yes else no).bind rest =
      if condition then yes.bind rest else no.bind rest := by
  split <;> rfl

theorem insertNewAudit_eq (build : Uuid → Audit.Event) :
    insertNewAudit build = (appendNewAudit build).bind fun _ => .done () := by
  simp only [insertNewAudit, appendNewAudit, Program.bind_def, Program.bind_assoc, Program.pure_def,
    Program.bind]
  congr 1
  funext id
  congr 1
  funext _
  exact (Program.bind_done _).symm

theorem insertProtocolAudit_eq (type : Audit.EventType) (result : Audit.Result) (actor : Uuid)
    (targetType : Audit.TargetType) (target : Uuid) (requestID : Audit.RequestID)
    (changed : List String) (now : Time) :
    insertProtocolAudit type result actor targetType target requestID changed now =
      (appendProtocolAudit type result actor targetType target requestID changed now).bind
        fun _ => .done () := insertNewAudit_eq _

theorem erase_noteProtocolAudit {type : Audit.EventType} {result : Audit.Result} {actor : Uuid}
    {targetType : Audit.TargetType} {target : Uuid} {requestID : Audit.RequestID}
    {changed : List String} {now : Time} (s : ExchangeVariables) :
    (noteProtocolAudit type result actor targetType target requestID changed now).erase s =
      (appendProtocolAudit type result actor targetType target requestID changed now).bind
        fun event => .done ((), { s with events := s.events ++ [event] }) := by
  simp only [noteProtocolAudit, Captured.erase_bind, Captured.erase_lift, Program.bind_assoc,
    Program.bind, Captured.erase_assign]

/-- `ExchangeRefreshToken` without its variables. -/
theorem exchangeRefreshToken_eq (sha : Sha256) (input : RefreshInput) (mint : RefreshMintFunc)
    (candidate : RefreshToken) (candidateFamily : RefreshTokenFamily) :
    exchangeRefreshToken sha input mint candidate candidateFamily =
      (Program.require (validRefreshInput input) .tokenInvalidGrant).bind fun _ =>
      ((exchangeRefreshCallback sha input mint candidate candidateFamily).erase
        ⟨emptyResponse, [], false⟩).bind fun ended =>
        .done (if ended.2.rejected then .error .tokenInvalidGrant else .ok ended.2.response) := by
  simp only [exchangeRefreshToken, exchangeRefreshCallback, Program.bind_def, Captured.erase_bind,
    Captured.erase_lift, Program.bind_assoc, Program.bind, Captured.erase_ite, bind_ite]
  congr 1
  funext _
  congr 1
  funext locked
  split
  · simp only [revokeReusedFamily, revokeReusedCallback, insertProtocolAudit_eq,
      erase_noteProtocolAudit, Captured.erase_bind, Captured.erase_lift, Captured.erase_assign,
      Program.bind_def, Program.bind_assoc, Program.bind, Program.pure_def]
    rfl
  · simp only [rotateGeneration, rotateGenerationCallback, insertProtocolAudit_eq,
      erase_noteProtocolAudit, Captured.erase_bind, Captured.erase_lift, Captured.erase_assign,
      Program.bind_def, Program.bind_assoc, Program.bind, Program.pure_def]
    rfl

/-- `ExchangeAuthorizationCode` without its variables. -/
theorem exchangeAuthorizationCode_eq (sha : Sha256) (input : ExchangeInput) (mint : MintFunc) :
    exchangeAuthorizationCode sha input mint =
      (Program.require (validExchangeInput input) .tokenInvalidGrant).bind fun _ =>
      ((exchangeCodeCallback sha input mint).erase ⟨emptyResponse, [], false⟩).bind fun ended =>
        .done (if ended.2.rejected then .error .tokenInvalidGrant else .ok ended.2.response) := by
  simp only [exchangeAuthorizationCode, exchangeCodeCallback, Program.bind_def, Captured.erase_bind,
    Captured.erase_lift, Program.bind_assoc, Program.bind, Captured.erase_ite, bind_ite]
  congr 1
  funext _
  congr 1
  funext code
  split
  · simp only [recordReplay, recordReplayCallback, insertProtocolAudit_eq,
      erase_noteProtocolAudit, Captured.erase_bind, Captured.erase_lift, Captured.erase_assign,
      Program.bind_def, Program.bind_assoc, Program.bind, Program.pure_def, Captured.erase_ite, bind_ite]
    rfl
  · simp only [auditExchange, auditExchangeCallback, insertProtocolAudit_eq,
      erase_noteProtocolAudit, Captured.erase_bind, Captured.erase_assign,
      Program.bind_def, Program.bind_assoc, Program.bind, Program.pure_def]
    congr 1
    funext locked
    -- Only the last event depends on what was minted.
    cases locked.minted.initialRefresh with
    | none => rfl
    | some initial =>
      simp only [erase_noteProtocolAudit, Program.bind_assoc, Program.bind]
      rfl

/-- `CompleteLogoutTransaction` without its variables. -/
theorem completeLogoutTransaction_eq (input : CompleteInput) :
    completeLogoutTransaction input =
      (Program.require (validCompleteInput input) .logoutNotFound).bind fun _ =>
      ((logoutCallback input).erase ⟨emptyCandidate, [], none⟩).bind fun ended =>
        .done (match ended.2.committedOutcome with
          | some outcome => .error outcome
          | none => .ok ended.2.candidate) := by
  simp only [completeLogoutTransaction, logoutCallback, Program.bind_def, Captured.erase_bind,
    Captured.erase_lift, Program.bind_assoc, Program.bind, Program.pure_def, Captured.erase_ite,
    bind_ite]
  congr 1
  funext _
  congr 1
  funext transaction
  congr 1
  funext _
  congr 1
  funext session
  congr 1
  funext _
  split
  · simp only [Captured.erase_assign, Program.bind]
  · simp only [Captured.erase_assign, Program.bind]
    cases input.decision with
    | cancel =>
      simp only [Captured.erase_lift, Program.bind_assoc, Program.bind]
    | confirm =>
      simp only [confirmLogout, confirmLogoutCallback, insertProtocolAudit_eq, Captured.erase_bind,
        Captured.erase_lift, Captured.erase_assign, Program.bind_def, Program.bind_assoc, Program.bind,
        Program.pure_def]

theorem revokeExistingSession_eq (operation : String) (existing : LoginSession) (now : Time)
    (reason : RevokeReason) (actor : Uuid) (requestID : Audit.RequestID) :
    revokeExistingSession operation existing now reason actor requestID =
      (appendRevokedSession operation existing now reason actor requestID).bind fun _ => .done () := by
  simp only [revokeExistingSession, appendRevokedSession, insertNewAudit_eq, Program.bind_def,
    Program.bind_assoc]

theorem switchRegistration_eq {β : Type} (commit : RegisterCommit) (s : List Audit.Event)
    (rest : Tx β) :
    ((switchRegistrationCallback commit).erase s).bind (fun _ => rest) =
      (switchRegistration commit).bind fun _ => rest := by
  simp only [switchRegistration, switchRegistrationCallback, Captured.erase_ite, bind_ite]
  split
  · rfl
  · simp only [Tx.whenRow, Tx.onlyIf, Captured.erase_bind, Captured.erase_lift, Program.bind_def,
      Program.bind_assoc, Program.bind]
    congr 1
    funext found
    cases found with
    | none => rfl
    | some existing =>
      simp only [Captured.erase_ite, bind_ite]
      split
      · simp only [revokeExistingSession_eq, Captured.erase_bind, Captured.erase_lift,
          Captured.erase_assign, Program.bind_assoc, Program.bind]
      · rfl

/-- `CommitRegistration` without its variables. -/
theorem commitRegistration_eq (commit : RegisterCommit) (events : List Audit.Event) :
    commitRegistration commit =
      (Program.require
        (commit.session.id != Uuid.nil && commit.session.userID == commit.user.user.id &&
          commit.session.sessionBindingID == commit.session.id) .authnInvalidFlow).bind fun _ =>
      ((do
        registrationCallback commit
        Captured.lift (Program.each (fun event => insertAudit event.event) commit.events) :
          Callback (List Audit.Event) Unit).erase events).bind fun _ => .done () := by
  have last : (Program.each (fun event => insertAudit event.event) commit.events).bind
      (fun _ => Program.done ()) = Program.each (fun event => insertAudit event.event) commit.events :=
    Program.bind_done _
  simp only [commitRegistration, registrationCallback, Captured.erase_bind, Captured.erase_lift,
    Program.bind_def, Program.bind_assoc, Program.bind, switchRegistration_eq, last]

theorem replaceSession_eq {β : Type} (commit : LoginCommit) (s : LoginVariables)
    (starts : s.bindingID = commit.session.sessionBindingID) (rest : Uuid → Tx β) :
    ((replaceSessionCallback commit).erase s).bind (fun ended => rest ended.2.bindingID) =
      (replaceSession commit).bind rest := by
  simp only [replaceSession, replaceSessionCallback, Captured.erase_ite, bind_ite]
  split
  · rw [Captured.erase_pure, Program.bind, starts]
    rfl
  · simp only [Captured.erase_bind, Captured.erase_lift, Program.bind_def, Program.bind_assoc,
      Program.bind]
    congr 1
    funext found
    cases found with
    | none =>
      rw [Captured.erase_pure, Program.bind, starts]
      rfl
    | some existing =>
      simp only [Captured.erase_ite, bind_ite]
      split
      · simp only [rotateSessionCallback, rebindSessionCallback, replaceActiveSession,
          Captured.erase_bind, Captured.erase_ite, bind_ite]
        split
        · simp only [revokeExistingSession_eq, Captured.erase_lift, Captured.erase_assign,
            Program.bind_def, Program.bind_assoc, Program.bind, Program.pure_def]
        · simp only [revokeExistingSession_eq, Captured.erase_lift, Captured.erase_assign,
            Program.bind_def, Program.bind_assoc, Program.bind, Program.pure_def, starts]
      · rw [Captured.erase_pure, Program.bind, starts]
        rfl

/-- `CommitLogin` without its variables. -/
theorem commitLogin_eq (commit : LoginCommit) (s : LoginVariables)
    (starts : s.bindingID = commit.session.sessionBindingID) :
    commitLogin commit =
      (Program.require
        (commit.session.id != Uuid.nil && commit.session.userID == commit.userID &&
          commit.session.sessionBindingID == commit.session.id && !commit.now.isZero)
        .authnInvalidFlow).bind fun _ =>
      ((do
        loginCallback commit
        Captured.lift (Program.each (fun event => insertAudit event.event) commit.events) :
          Callback LoginVariables Unit).erase s).bind fun ended => .done ended.2.bindingID := by
  simp only [commitLogin, loginCallback, Captured.erase_bind, Captured.erase_lift, Captured.erase_assign,
    Captured.erase_current, Program.bind_def, Program.bind_assoc, Program.bind, Program.pure_def]
  congr 1
  funext _
  congr 1
  funext user
  congr 1
  funext _
  congr 1
  funext _
  congr 1
  funext _
  exact (replaceSession_eq commit s starts _).symm

/-- With its variables forgotten, the callback is the body of the store. -/
theorem AuditedCall.body_eq (sha : Sha256) (call : AuditedCall) :
    call.body sha = (Program.require call.checked call.rejection).bind fun _ =>
      ((call.operation sha).body.erase ((call.operation sha).reset call.initial)).bind fun ended =>
        .done (call.answer ended.2) := by
  cases call with
  | commitRegistration commit => exact commitRegistration_eq commit _
  | commitLogin commit => exact commitLogin_eq commit _ rfl
  | completeLogoutTransaction input => exact completeLogoutTransaction_eq input
  | exchangeAuthorizationCode input mint => exact exchangeAuthorizationCode_eq sha input mint
  | exchangeRefreshToken input mint candidate candidateFamily =>
    exact exchangeRefreshToken_eq sha input mint candidate candidateFamily

/-! ## The helper refines the transaction -/

/-- A function applied to the result changes no fault and no effect. -/
theorem runUnder_map {α β : Type} (f : α → β) (body : Tx α) (faults : List (Option PgError)) (db : Db) :
    (body.bind fun value => .done (f value)).runUnder exec faults db =
      (body.runUnder exec faults db).map fun ended => (f ended.1, ended.2) := by
  induction body generalizing faults db with
  | done value => rfl
  | fail error => rfl
  | ask statement wrap next ih =>
    rw [Program.bind, Program.runUnder, Program.runUnder]
    cases faults.headD none with
    | some failure => rfl
    | none =>
      cases exec statement db with
      | error failure => rfl
      | ok answered => exact ih answered.1 faults.tail answered.2

/-- An attempt ends the same way, with the function applied to what it committed. -/
theorem attemptTx_map {α β : Type} (f : α → β) (body : Tx α) (attempt : Attempt) (db : Db) :
    (∃ value after, attemptTx body attempt db = .committed value after ∧
      attemptTx (body.bind fun value => .done (f value)) attempt db = .committed (f value) after) ∨
    (∃ error, attemptTx body attempt db = .boundaryFailed error ∧
      attemptTx (body.bind fun value => .done (f value)) attempt db = .boundaryFailed error) ∨
    ∃ error, attemptTx body attempt db = .operationFailed error ∧
      attemptTx (body.bind fun value => .done (f value)) attempt db = .operationFailed error := by
  rw [attemptTx, attemptTx, runUnder_map]
  cases attempt.beginFault with
  | some cause => exact Or.inr (Or.inl ⟨_, rfl, rfl⟩)
  | none =>
    cases body.runUnder exec attempt.faults db with
    | error error => exact Or.inr (Or.inr ⟨error, rfl, rfl⟩)
    | ok ended =>
      cases attempt.commitFault with
      | some cause => exact Or.inr (Or.inl ⟨_, rfl, rfl⟩)
      | none => exact Or.inl ⟨ended.1, ended.2, rfl, rfl⟩

theorem inTx_map {α β : Type} (f : α → β) (body : Tx α) (first second : Attempt) (db : Db) :
    inTx (body.bind fun value => .done (f value)) first second db =
      ((inTx body first second db).1.map f, (inTx body first second db).2) := by
  rcases attemptTx_map f body first db with ⟨_, _, plain, mapped⟩ | ⟨_, plain, mapped⟩ |
    ⟨error, plain, mapped⟩
  · simp only [inTx, plain, mapped, Except.map]
  · simp only [inTx, plain, mapped, Except.map]
  · by_cases again : error.isRetryable
    · rcases attemptTx_map f body second db with ⟨_, _, last, lastMapped⟩ | ⟨_, last, lastMapped⟩ |
        ⟨_, last, lastMapped⟩ <;>
        simp only [inTx, plain, mapped, again, if_true, last, lastMapped, Except.map]
    · simp only [inTx, plain, mapped, again, Bool.false_eq_true, if_false, Except.map]

/-- An operation run by the helper with its variables answers what the transaction of the store
answers, under all faults of the two attempts: after a commit the answer is read from the variables,
otherwise the error is the same and nothing was stored. One that fails its checks stores nothing. -/
theorem callback_refines_body (sha : Sha256) (call : AuditedCall) (first second : Attempt) (db : Db) :
    let ended := inTxCaptured (call.operation sha) (roundsOn db first second) call.initial
    (call.checked = false ∧ ∃ error, inTx (call.body sha) first second db = (.error error, db)) ∨
    call.checked = true ∧
      ((∃ after, ended.failure = none ∧ .committed after ∈ ended.trace ∧
        inTx (call.body sha) first second db = (.ok (call.answer ended.captured), after)) ∨
      ∃ failure error, ended.failure = some failure ∧ failure.error? = some error ∧
        inTx (call.body sha) first second db = (.error error, db)) := by
  intro ended
  cases checked : call.checked with
  | false =>
    refine Or.inl ⟨rfl, ?_⟩
    rcases inTx_cases (call.body sha) first second db with ⟨value, after, -, ran⟩ | failed
    · rw [call.body_eq sha, checked] at ran
      cases ran
    · exact failed
  | true =>
    have answers := inTxCaptured_answers (call.operation sha) db first second call.initial
    have isBody : call.body sha =
        ((call.operation sha).body.erase ((call.operation sha).reset call.initial)).bind fun ended =>
          .done (call.answer ended.2) := by
      rw [call.body_eq sha, checked]
      rfl
    refine Or.inr ⟨rfl, ?_⟩
    rw [isBody, inTx_map]
    generalize inTx _ first second db = result at answers ⊢
    cases answers with
    | success isNone inTrace => exact Or.inl ⟨_, isNone, inTrace, rfl⟩
    | failure isSome isError => exact Or.inr ⟨_, _, isSome, isError, rfl⟩

end OneIssuer.Store
