import OneIssuer.Statements

/-!
# Store transactions

The errors of the store, the shape of its transaction bodies and the transaction helper. A body is
a `Relational.Program` over `Stmt`; every statement carries the operation text that `wrapError` puts
into its error.

`inTx` runs a body at most twice. The environment decides where an attempt breaks: at the start of
the transaction, at a statement, or at the commit. PostgreSQL answers a failed `COMMIT` with a
rollback, so an attempt that reports an error leaves the database as it was. A connection that is
lost between the server's commit and its answer is outside this model.
-/

set_option autoImplicit false

namespace OneIssuer

open Relational

/-! ## Errors -/

/-- The errors a store operation returns. Sentinels carry the name of their package. -/
inductive StoreError where
  | tokenInvalid
  | tokenInvalidGrant
  | tokenInvalidToken
  | tokenInvalidScope
  | identityNotFound
  | identityDuplicate
  | identityInvalidInput
  | identityConflict
  | identityLastAdmin
  | identityBootstrapExists
  | identityInvalidCredentials
  | sessionNotFound
  | sessionConsumed
  | authnInvalidFlow
  | authflowConsumed
  | authorizationInvalid
  | authorizationNotFound
  | authorizationInactive
  | authorizationExpired
  | authorizationConsumed
  | authorizationConsentRequired
  | consentNotFound
  | clientNotFound
  | clientConflict
  | clientInvalid
  | clientPublicSecret
  | logoutInvalid
  | logoutNotFound
  | logoutCapacity
  | logoutCSRF
  | auditInvalidEvent
  /-- An error of the signing callback, by its text. -/
  | mint (text : String)
  /-- `wrapError` around a driver error. -/
  | query (operation : String) (cause : PgError)
  /-- `wrapError` around `pgx.ErrNoRows`. -/
  | noRows (operation : String)
  deriving DecidableEq, Repr

/-- `isRetryableTransactionError`. -/
def StoreError.isRetryable : StoreError → Bool
  | .query _ cause => cause.state == .serializationFailure || cause.state == .deadlockDetected
  | _ => false

/-! ## Transaction bodies -/

/-- A transaction body of the store. -/
abbrev Tx (α : Type) := Program Stmt PgError StoreError α

namespace Tx

/-- One statement; a failure is wrapped with the operation's text. -/
def query {β : Type} (operation : String) (statement : Stmt β) : Tx β :=
  Program.call statement (StoreError.query operation)

/-- A `:one` query whose caller handles a missing row. -/
def queryOne {ρ : Type} (operation : String) (statement : Stmt (List ρ)) : Tx (Option ρ) := do
  let rows ← query operation statement
  return rows.head?

/-- A `:one` query; `absent` is what the caller returns on `pgx.ErrNoRows`. -/
def queryRow {ρ : Type} (operation : String) (absent : StoreError) (statement : Stmt (List ρ)) :
    Tx ρ := do
  let row ← queryOne operation statement
  Program.need row absent

/-- Goes on with the row of a `:one` query; without a row the operation ends and commits. -/
def whenRow {ρ : Type} (operation : String) (statement : Stmt (List ρ)) (rest : ρ → Tx Unit) :
    Tx Unit := do
  match ← queryOne operation statement with
  | none => return ()
  | some row => rest row

/-- Goes on when `condition` holds; otherwise the operation ends and commits. -/
def onlyIf (condition : Bool) (rest : Tx Unit) : Tx Unit := if condition then rest else return ()

end Tx

/-! ## The transaction helper -/

/-- What the environment does to one attempt. -/
structure Attempt where
  /-- The error of `BeginTx`. -/
  beginFault : Option PgError
  /-- The statements that fail, by position. -/
  faults : List (Option PgError)
  /-- The error of `Commit`. -/
  commitFault : Option PgError

/-- An attempt nothing disturbs. -/
def Attempt.calm : Attempt := ⟨none, [], none⟩

/-- How one attempt ends. -/
inductive AttemptOutcome (α : Type) where
  | committed (value : α) (after : Db)
  /-- The operation failed and was rolled back; only this outcome may be tried again. -/
  | operationFailed (error : StoreError)
  /-- `BeginTx` or `Commit` failed. -/
  | boundaryFailed (error : StoreError)

/-- Begin, run the operation, commit. -/
def attemptTx {α : Type} (body : Tx α) (attempt : Attempt) (db : Db) : AttemptOutcome α :=
  match attempt.beginFault with
  | some cause => .boundaryFailed (.query "begin transaction" cause)
  | none =>
    match body.runUnder exec attempt.faults db with
    | .error error => .operationFailed error
    | .ok (value, after) =>
      match attempt.commitFault with
      | some cause => .boundaryFailed (.query "commit transaction" cause)
      | none => .committed value after

/-- `inTx`: one retry, and only after the operation met a serialization failure or a deadlock. -/
def inTx {α : Type} (body : Tx α) (first second : Attempt) (db : Db) : Except StoreError α × Db :=
  match attemptTx body first db with
  | .committed value after => (.ok value, after)
  | .boundaryFailed error => (.error error, db)
  | .operationFailed error =>
    if error.isRetryable then
      match attemptTx body second db with
      | .committed value after => (.ok value, after)
      | .boundaryFailed error => (.error error, db)
      | .operationFailed error => (.error error, db)
    else (.error error, db)

theorem attemptTx_committed {α : Type} {body : Tx α} {attempt : Attempt} {db after : Db} {value : α}
    (ended : attemptTx body attempt db = .committed value after) :
    body.run exec db = .ok (value, after) := by
  simp only [attemptTx] at ended
  cases begun : attempt.beginFault with
  | some cause =>
    rw [begun] at ended
    cases ended
  | none =>
    rw [begun] at ended
    cases ran : body.runUnder exec attempt.faults db with
    | error error =>
      rw [ran] at ended
      cases ended
    | ok finished =>
      rw [ran] at ended
      have ranCalm := Program.run_of_runUnder exec ran
      cases committed : attempt.commitFault with
      | some cause =>
        rw [committed] at ended
        cases ended
      | none =>
        rw [committed] at ended
        cases ended
        exact ranCalm

/-- Undisturbed, `inTx` runs its body once; a second attempt would fail like the first. -/
theorem inTx_calm {α : Type} (body : Tx α) (db : Db) :
    inTx body .calm .calm db = body.commit exec db := by
  have attempted : attemptTx body .calm db = match body.run exec db with
      | .error error => .operationFailed error
      | .ok (value, after) => .committed value after := by
    simp only [attemptTx, Attempt.calm, Program.runUnder_nil]
  rw [inTx, attempted, Program.commit]
  cases body.run exec db with
  | ok ended => rfl
  | error error => simp

/-- Undisturbed, `inTx` commits what its body does. -/
theorem inTx_calm_ok {α : Type} {body : Tx α} {db after : Db} {value : α} :
    inTx body .calm .calm db = (.ok value, after) ↔ body.run exec db = .ok (value, after) := by
  rw [inTx_calm, Program.commit]
  cases body.run exec db with
  | ok ended => simp [Prod.ext_iff]
  | error error => simp

/-- What `inTx` can do: commit exactly one undisturbed run of the body, or change nothing. -/
theorem inTx_cases {α : Type} (body : Tx α) (first second : Attempt) (db : Db) :
    (∃ value after, inTx body first second db = (.ok value, after) ∧
        body.run exec db = .ok (value, after)) ∨
      ∃ error, inTx body first second db = (.error error, db) := by
  simp only [inTx]
  cases firstEnded : attemptTx body first db with
  | committed value after => exact Or.inl ⟨value, after, rfl, attemptTx_committed firstEnded⟩
  | boundaryFailed error => exact Or.inr ⟨error, rfl⟩
  | operationFailed error =>
    by_cases again : error.isRetryable
    · simp only [again, if_true]
      cases secondEnded : attemptTx body second db with
      | committed value after => exact Or.inl ⟨value, after, rfl, attemptTx_committed secondEnded⟩
      | boundaryFailed error => exact Or.inr ⟨error, rfl⟩
      | operationFailed error => exact Or.inr ⟨error, rfl⟩
    · simp only [again]
      exact Or.inr ⟨error, rfl⟩

end OneIssuer
