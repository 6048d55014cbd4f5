import OneIssuer.Store.Administration

/-!
# Logout operations of the store

A logout transaction starts without authority, is bound to a browser session by the hosted page and
is then confirmed or cancelled once. Only a confirmation changes a session.
-/

set_option autoImplicit false

namespace OneIssuer.Store

open Relational Queries

/-- `logout.Transaction`, as `CreateLogoutTransaction` reads it. -/
structure NewLogout where
  id : Uuid
  lookupHash : Bytes
  stage : LogoutStage
  verifiedClientID : Option Uuid
  postLogoutRedirectURI : String
  state : String
  hintSubject : String
  createdAt : Time
  expiresAt : Time

/-- `CreateLogoutTransaction`. -/
def createLogoutTransaction (value : NewLogout) : Tx Unit := do
  Program.require
    (value.id != Uuid.nil && value.lookupHash.length == 32 && value.stage == .preConfirm &&
      !value.createdAt.isZero && value.createdAt < value.expiresAt) .logoutInvalid
  Tx.query "create logout transaction" (Queries.createLogoutTransaction
    { id := value.id, lookupHash := value.lookupHash, stage := .preConfirm, csrfHash := none
      verifiedClientID := value.verifiedClientID
      postLogoutRedirectURI := pointerString value.postLogoutRedirectURI
      stateValue := pointerString value.state, hintSubject := pointerString value.hintSubject
      userID := none, sessionID := none, sessionBindingID := none
      createdAt := timestamp value.createdAt, expiresAt := timestamp value.expiresAt
      boundAt := none, consumedAt := none, attemptCount := 0 })

/-- `sameDigest`. -/
def sameDigest (left right : Bytes) : Bool := left.length == 32 && left == right

/-- The browser session of a logout request is still the one the request names. -/
def browserSessionMatches (session : LoginSession) (userID sessionBindingID : Uuid) (now : Time) :
    Bool :=
  session.userID == userID && session.sessionBindingID == sessionBindingID &&
    session.revokedAt.isNone && now < session.expiresAt && now < session.idleExpiresAt

/-- `logout.BindInput`. -/
structure BindInput where
  lookupHash : Bytes
  csrfHash : Bytes
  userID : Uuid
  sessionID : Uuid
  sessionBindingID : Uuid
  subject : String
  now : Time
  maxActive : Int
  maxAttempts : Int

/-- The checks `BindLogoutTransaction` makes before its transaction. -/
def validBindInput (input : BindInput) : Bool :=
  input.lookupHash.length == 32 && input.csrfHash.length == 32 && input.userID != Uuid.nil &&
    input.sessionID != Uuid.nil && input.sessionBindingID != Uuid.nil && !input.now.isZero &&
    1 ≤ input.maxActive && input.maxActive ≤ 5 && 1 ≤ input.maxAttempts && input.maxAttempts ≤ 10

/-- The transition of `BindLogoutTransaction`, by the stage of the locked transaction. -/
def bindLockedLogout (input : BindInput) (transaction : LogoutTransaction) :
    Tx LogoutTransaction :=
  match transaction.stage with
  | .preConfirm => do
    let count ← Tx.query "count live logout transactions"
      (countLiveBoundLogoutTransactionsBySession input.sessionID (timestamp input.now))
    Program.require ((count : Int) < input.maxActive) .logoutCapacity
    Tx.queryRow "bind logout transaction" .logoutNotFound
      (bindPreConfirmLogoutTransaction input.csrfHash input.userID input.sessionID
        input.sessionBindingID (timestamp input.now) (pointerString input.subject) transaction.id)
  | .boundConfirmable => do
    Program.require
      (transaction.userID == some input.userID && transaction.sessionID == some input.sessionID &&
        transaction.sessionBindingID == some input.sessionBindingID) .logoutNotFound
    Tx.queryRow "rotate logout confirmation proof" .logoutNotFound
      (rotateBoundLogoutTransactionCSRF input.csrfHash transaction.id (timestamp input.now)
        input.userID input.sessionID input.sessionBindingID)
  | .confirmed => Program.fail .logoutNotFound
  | .canceled => Program.fail .logoutNotFound

/-- `BindLogoutTransaction`. -/
def bindLogoutTransaction (input : BindInput) : Tx LogoutTransaction := do
  Program.require (validBindInput input) .logoutNotFound
  let transaction ← Tx.queryRow "lock logout transaction for bind" .logoutNotFound
    (lockLogoutTransactionByLookupHash input.lookupHash)
  Program.require
    (sameDigest transaction.lookupHash input.lookupHash && transaction.consumedAt.isNone &&
      input.now < transaction.expiresAt && transaction.attemptCount < input.maxAttempts)
    .logoutNotFound
  let session ← Tx.queryRow "lock browser session for logout bind" .logoutNotFound
    (lockLoginSessionByID input.sessionID)
  Program.require (browserSessionMatches session input.userID input.sessionBindingID input.now)
    .logoutNotFound
  bindLockedLogout input transaction

/-- `logout.Decision`. -/
inductive Decision where
  | confirm
  | cancel
  deriving DecidableEq, Repr

/-- `logout.CompleteInput`. -/
structure CompleteInput where
  lookupHash : Bytes
  csrfHash : Bytes
  decision : Decision
  userID : Uuid
  sessionID : Uuid
  sessionBindingID : Uuid
  now : Time
  requestID : Audit.RequestID
  maxAttempts : Int

/-- `logout.CompletionCandidate`. -/
structure CompletionCandidate where
  confirmed : Bool
  verifiedClientID : Option Uuid
  postLogoutRedirectURI : String
  state : String
  deriving DecidableEq, Repr

/-- The checks `CompleteLogoutTransaction` makes before its transaction. -/
def validCompleteInput (input : CompleteInput) : Bool :=
  input.lookupHash.length == 32 && input.csrfHash.length == 32 && input.userID != Uuid.nil &&
    input.sessionID != Uuid.nil && input.sessionBindingID != Uuid.nil && !input.now.isZero &&
    1 ≤ input.maxAttempts && input.maxAttempts ≤ 10

/-- The locked transaction is bound to the requesting session and can still be completed. -/
def completable (input : CompleteInput) (transaction : LogoutTransaction) : Bool :=
  sameDigest transaction.lookupHash input.lookupHash && transaction.stage == .boundConfirmable &&
    transaction.consumedAt.isNone && input.now < transaction.expiresAt &&
    transaction.attemptCount < input.maxAttempts && transaction.userID == some input.userID &&
    transaction.sessionID == some input.sessionID &&
    transaction.sessionBindingID == some input.sessionBindingID

/-- The proof of a completion is the one of the transaction. -/
def proofMatches (input : CompleteInput) (transaction : LogoutTransaction) : Bool :=
  transaction.csrfHash.any fun proof => sameDigest proof input.csrfHash

/-- A wrong proof is counted. -/
def countFailedProof (input : CompleteInput) (transaction : LogoutTransaction) : Tx Unit :=
  if transaction.attemptCount < input.maxAttempts then do
    let _ ← Tx.query "record logout proof failure"
      (incrementLogoutTransactionAttempt transaction.id input.maxAttempts)
  else return ()

/-- The confirmed branch: the cascade of the binding, the session, the transaction, the events. -/
def confirmLogout (input : CompleteInput) (transaction : LogoutTransaction) : Tx Unit := do
  cascade (.bindings [input.sessionBindingID]) (.bindings [input.sessionBindingID]) input.now
    .sessionRevoked "lock logout refresh families" "lock logout access metadata"
    "revoke logout refresh families" "revoke logout access metadata"
  let _ ← Tx.queryRow "revoke logout browser session" .logoutNotFound
    (revokeLoginSessionBindingByID (timestamp input.now) (some .logout) input.sessionID)
  let _ ← Tx.queryRow "confirm logout transaction" .logoutNotFound
    (confirmLogoutTransaction (timestamp input.now) transaction.id)
  insertProtocolAudit .sessionRevoked .success input.userID .session input.sessionID
    input.requestID ["revoked"] input.now
  insertProtocolAudit .rpLogoutCompleted .success input.userID .logoutTransaction transaction.id
    input.requestID ["revoked"] input.now

/-- `CompleteLogoutTransaction`: a wrong proof commits its count and is reported as an error. -/
def completeLogoutTransaction (input : CompleteInput) :
    Tx (Except StoreError CompletionCandidate) := do
  Program.require (validCompleteInput input) .logoutNotFound
  let transaction ← Tx.queryRow "lock logout transaction for completion" .logoutNotFound
    (lockLogoutTransactionByLookupHash input.lookupHash)
  Program.require (completable input transaction) .logoutNotFound
  let session ← Tx.queryRow "lock browser session for logout completion" .logoutNotFound
    (lockLoginSessionByID input.sessionID)
  Program.require (browserSessionMatches session input.userID input.sessionBindingID input.now)
    .logoutNotFound
  if !proofMatches input transaction then do
    countFailedProof input transaction
    return .error .logoutCSRF
  else
    let candidate : CompletionCandidate :=
      { confirmed := input.decision == .confirm, verifiedClientID := transaction.verifiedClientID
        postLogoutRedirectURI := valueString transaction.postLogoutRedirectURI
        state := valueString transaction.stateValue }
    match input.decision with
    | .cancel => do
      let _ ← Tx.queryRow "cancel logout transaction" .logoutNotFound
        (cancelLogoutTransaction (timestamp input.now) transaction.id)
      return .ok candidate
    | .confirm => do
      confirmLogout input transaction
      return .ok candidate

/-- One batch of `CleanupLogoutTransactions`. -/
def cleanupLogoutTransactions (now terminalCutoff : Time) (locked : Uuid → Bool) : Tx Nat :=
  Tx.query "clean logout transactions"
    (.retireLogoutTransactions (timestamp now) (timestamp terminalCutoff) cleanupBatchSize locked)

end OneIssuer.Store
