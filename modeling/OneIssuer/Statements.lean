import OneIssuer.Relational.Program
import OneIssuer.Schema.Changes

/-!
# Statements

`Stmt` is the type of the SQL statements the store runs and `exec` their effect on the database when
nothing else runs at the same time. Most statements work on one table (`Relational.TableStmt`); the
rest are plain reads, advisory locks, the children of a client, and the bounded batches that retire
rows. A retiring statement skips the rows other transactions hold; `locked` names them.

A delete runs its foreign-key actions in the order in which the constraints were created. RESTRICT
fails the statement, SET NULL updates the referencing rows and fires their triggers. The CHECK
constraints of a row do not depend on the columns that SET NULL clears, so they are not looked at
again.

**What it does not establish.** `exec` is what a statement does when its rows hold still: the
interleaving of two statements on one row, plans and the text of the SQL are outside.
-/

set_option autoImplicit false

namespace OneIssuer

open Relational

/-- The keys of `pg_advisory_xact_lock`. -/
inductive AdvisoryKey where
  | adminSet
  | loginIdentifier (identifier : String)
  deriving DecidableEq, Repr

/-- The statements of the store. -/
inductive Stmt : Type → Type 1 where
  /-- A read that takes no lock. -/
  | read {β : Type} (select : Db → β) : Stmt β
  | advisoryLock (key : AdvisoryKey) : Stmt Unit
  /-- `uuid.New` for an audit event: the random source never answers nil or a stored value. -/
  | newEventID : Stmt Uuid
  | users {β : Type} (statement : TableStmt User UserChange β) : Stmt β
  | credentials {β : Type} (statement : TableStmt Credential CredentialChange β) : Stmt β
  | clients {β : Type} (statement : TableStmt ClientRow ClientChange β) : Stmt β
  | insertClientRedirectURI (row : ClientURI) : Stmt Unit
  | insertClientLogoutURI (row : ClientURI) : Stmt Unit
  | insertClientScope (row : ClientScope) : Stmt Unit
  | deleteClientRedirectURIs (clientID : Uuid) : Stmt Unit
  | deleteClientLogoutURIs (clientID : Uuid) : Stmt Unit
  | deleteClientScopes (clientID : Uuid) : Stmt Unit
  | clientSecrets {β : Type} (statement : TableStmt ClientSecret SecretChange β) : Stmt β
  | loginSessions {β : Type} (statement : TableStmt LoginSession SessionChange β) : Stmt β
  | preAuthSessions {β : Type} (statement : TableStmt PreAuthSession PreAuthChange β) : Stmt β
  | authTransactions {β : Type} (statement : TableStmt AuthTransaction AuthTransactionChange β) :
      Stmt β
  | consentGrants {β : Type} (statement : TableStmt ConsentGrant GrantChange β) : Stmt β
  | authorizationCodes {β : Type} (statement : TableStmt AuthorizationCode CodeChange β) : Stmt β
  | refreshTokenFamilies {β : Type} (statement : TableStmt RefreshTokenFamily FamilyChange β) :
      Stmt β
  | refreshTokens {β : Type} (statement : TableStmt RefreshToken GenerationChange β) : Stmt β
  | accessTokens {β : Type} (statement : TableStmt AccessToken AccessChange β) : Stmt β
  | logoutTransactions {β : Type} (statement : TableStmt LogoutTransaction LogoutChange β) : Stmt β
  | auditEvents {β : Type} (statement : TableStmt AuditEvent Empty β) : Stmt β
  /-- `ExpireAuthTransactions`. -/
  | expireAuthTransactions (now : Time) (limit : Nat) (locked : Uuid → Bool) : Stmt (List Uuid)
  /-- `DeleteExpiredPreAuthSessions`. -/
  | retirePreAuthSessions (cutoff : Time) (limit : Nat) (locked : Uuid → Bool) : Stmt Nat
  /-- `DeleteRetiredLoginSessions`. -/
  | retireLoginSessions (cutoff : Time) (limit : Nat) (locked : Uuid → Bool) : Stmt Nat
  /-- `DeleteRetiredAuthTransactions`. -/
  | retireAuthTransactions (cutoff : Time) (limit : Nat) (locked : Uuid → Bool) : Stmt Nat
  /-- `DeleteRetiredAuthorizationCodes`. -/
  | retireAuthorizationCodes (cutoff : Time) (limit : Nat) (locked : Uuid → Bool) : Stmt Nat
  /-- `DeleteRetiredAccessTokens`. -/
  | retireAccessTokens (cutoff : Time) (limit : Nat) (locked : Uuid → Bool) : Stmt Nat
  /-- `DeleteRetiredRefreshTokens`. -/
  | retireRefreshTokens (cutoff : Time) (limit : Nat) (locked : Uuid → Bool) : Stmt Nat
  /-- `DeleteRetiredRefreshTokenFamilies`. -/
  | retireRefreshTokenFamilies (cutoff : Time) (limit : Nat) (locked : Uuid → Bool) : Stmt Nat
  /-- `DeleteRetiredLogoutTransactions`. -/
  | retireLogoutTransactions (now cutoff : Time) (limit : Nat) (locked : Uuid → Bool) : Stmt Nat

/-- Puts the rows a statement leaves behind back into the database. -/
def store {β ρ : Type} (put : List ρ → Db) (outcome : Except PgError (β × List ρ)) :
    Except PgError (β × Db) :=
  outcome.map fun answered => (answered.1, put answered.2)

theorem store_ok {β ρ : Type} {put : List ρ → Db} {outcome : Except PgError (β × List ρ)}
    {answer : β} {after : Db} :
    store put outcome = .ok (answer, after) ↔
      ∃ rows, outcome = .ok (answer, rows) ∧ after = put rows := by
  simp only [store, map_ok, Prod.mk.injEq]
  constructor
  · rintro ⟨⟨_, rows⟩, isOk, rfl, rfl⟩
    exact ⟨rows, isOk, rfl⟩
  · rintro ⟨rows, isOk, rfl⟩
    exact ⟨(answer, rows), isOk, rfl, rfl⟩

/-! ## Batches -/

/-- `ORDER BY instant, id`. -/
def byInstant {ρ : Type} (instant : ρ → Time) (id : ρ → Uuid) (a b : ρ) : Bool :=
  instant a < instant b || (instant a == instant b && id a ≤ id b)

section Batches

variable (db : Db) (cutoff : Time) (limit : Nat) (locked : Uuid → Bool)

/-- The transactions one run of `ExpireAuthTransactions` ends. -/
def expiredAuthTransactions (now : Time) : List AuthTransaction :=
  batch (fun r => r.consumedAt.isNone && r.expiresAt ≤ now) (locked ·.id)
    (byInstant (·.expiresAt) (·.id)) limit db.authTransactions

/-- The rows one run of `DeleteExpiredPreAuthSessions` deletes. -/
def retiredPreAuthSessions : List PreAuthSession :=
  batch (fun r => r.expiresAt ≤ cutoff || r.consumedAt.any (· ≤ cutoff)) (locked ·.id)
    (byInstant (fun r => min r.expiresAt (r.consumedAt.getD r.expiresAt)) (·.id)) limit
    db.preAuthSessions

/-- The rows one run of `DeleteRetiredLoginSessions` deletes. -/
def retiredLoginSessions : List LoginSession :=
  batch
    (fun r => r.revokedAt.any (· ≤ cutoff) || r.expiresAt ≤ cutoff || r.idleExpiresAt ≤ cutoff)
    (locked ·.id)
    (byInstant
      (fun r => min (min r.expiresAt r.idleExpiresAt) (r.revokedAt.getD r.expiresAt)) (·.id))
    limit db.loginSessions

/-- The rows one run of `DeleteRetiredAuthTransactions` deletes. -/
def retiredAuthTransactions : List AuthTransaction :=
  batch
    (fun r => r.consumedAt.any (· ≤ cutoff) &&
      !(db.preAuthSessions.any (·.authTransactionID == r.id)) &&
      !(db.authorizationCodes.any (·.authTransactionID == r.id)))
    (locked ·.id) (byInstant (fun r => r.consumedAt.getD 0) (·.id)) limit db.authTransactions

/-- The rows one run of `DeleteRetiredAuthorizationCodes` deletes. -/
def retiredAuthorizationCodes : List AuthorizationCode :=
  batch (fun r => r.expiresAt ≤ cutoff) (locked ·.id) (byInstant (·.expiresAt) (·.id)) limit
    db.authorizationCodes

/-- The rows one run of `DeleteRetiredAccessTokens` deletes. -/
def retiredAccessTokens : List AccessToken :=
  batch (fun r => r.expiresAt ≤ cutoff) (locked ·.id) (byInstant (·.expiresAt) (·.id)) limit
    db.accessTokens

/-- `GREATEST(absolute_expires_at, COALESCE(revoked_at, absolute_expires_at))`. -/
def RefreshTokenFamily.retiresAt (family : RefreshTokenFamily) : Time :=
  max family.absoluteExpiresAt (family.revokedAt.getD family.absoluteExpiresAt)

/-- The rows one run of `DeleteRetiredRefreshTokens` deletes: generations of a retired family that
no access token names as its source. -/
def retiredRefreshTokens : List RefreshToken :=
  batch
    (fun r => ((db.family? r.familyID).any fun family => family.retiresAt ≤ cutoff) &&
      !(db.accessTokens.any (·.sourceRefreshTokenID == some r.id)))
    (locked ·.id)
    (byInstant (fun r => ((db.family? r.familyID).map (·.retiresAt)).getD 0) (·.id)) limit
    db.refreshTokens

/-- The rows one run of `DeleteRetiredRefreshTokenFamilies` deletes: retired families without
generations and without access tokens. -/
def retiredRefreshTokenFamilies : List RefreshTokenFamily :=
  batch
    (fun r => r.retiresAt ≤ cutoff && !(db.refreshTokens.any (·.familyID == r.id)) &&
      !(db.accessTokens.any (·.refreshFamilyID == some r.id)))
    (locked ·.id) (byInstant (·.retiresAt) (·.id)) limit db.refreshTokenFamilies

/-- The rows one run of `DeleteRetiredLogoutTransactions` deletes. -/
def retiredLogoutTransactions (now : Time) : List LogoutTransaction :=
  batch
    (fun r => (r.consumedAt.isNone && r.expiresAt ≤ now) || r.consumedAt.any (· ≤ cutoff))
    (locked ·.id) (byInstant (fun r => r.consumedAt.getD r.expiresAt) (·.id)) limit
    db.logoutTransactions

end Batches

/-! ## Deletes -/

/-- The rows that are not doomed. -/
def survivors {ρ : Type} (id : ρ → Uuid) (doomed : List ρ) (rows : List ρ) : List ρ :=
  rows.filter fun r => !(doomed.any (id · == id r))

/-- A nullable reference to a doomed row. -/
def refersTo {ρ : Type} (id : ρ → Uuid) (doomed : List ρ) (reference : Option Uuid) : Bool :=
  reference.any fun target => doomed.any (id · == target)

/-- `oneissuer_prevent_access_source_mutation`: only a code that is gone may be unlinked. The other
columns it protects are kept by every SET clause and foreign-key action. -/
def AccessToken.unlinkAllowed (db : Db) (old r : AccessToken) : Bool :=
  old.authorizationCodeID == r.authorizationCodeID ||
    (old.issuanceSource == .authorizationCode && r.authorizationCodeID.isNone &&
      old.authorizationCodeID.any fun codeID => (db.code? codeID).isNone)

/-- The triggers of an access token that a foreign-key action changes. -/
def AccessToken.unlinkViolation (db : Db) (old r : AccessToken) : Option PgError :=
  firstViolation
    [AccessToken.authorityViolation db (some old) r,
      raised .objectNotInPrerequisiteState "access token issuance authority is immutable"
        !AccessToken.unlinkAllowed db old r]

/-- Applies a SET NULL action to the access tokens that refer to a deleted row. -/
def unlinkAccessTokens (db : Db) (refers : AccessToken → Bool) (unlink : AccessToken → AccessToken) :
    Except PgError Db :=
  match (db.accessTokens.filter refers).findSome? fun old =>
      AccessToken.unlinkViolation db old (unlink old) with
  | some failure => .error failure
  | none => .ok { db with accessTokens := updateRows refers unlink db.accessTokens }

/-- Deletes login sessions. Codes, families and access tokens forget their origin session, in this
order; a logout transaction keeps its session alive. -/
def deleteLoginSessions (db : Db) (doomed : List LoginSession) : Except PgError Db := do
  let gone := refersTo LoginSession.id doomed
  let unlinked ← unlinkAccessTokens
    { db with
      loginSessions := survivors (·.id) doomed db.loginSessions
      authorizationCodes := updateRows (gone ·.originSessionID)
        (fun r => { r with originSessionID := none }) db.authorizationCodes
      refreshTokenFamilies := updateRows (gone ·.originSessionID)
        (fun r => { r with originSessionID := none }) db.refreshTokenFamilies }
    (gone ·.originSessionID) fun r => { r with originSessionID := none }
  match foreignKeyViolation "logout_transactions_session_id_fkey"
      !(db.logoutTransactions.any (gone ·.sessionID)) with
  | some failure => .error failure
  | none => .ok unlinked

/-- Deletes authorization codes. Families, then access tokens, forget the code. -/
def deleteAuthorizationCodes (db : Db) (doomed : List AuthorizationCode) : Except PgError Db :=
  let gone := refersTo AuthorizationCode.id doomed
  unlinkAccessTokens
    { db with
      authorizationCodes := survivors (·.id) doomed db.authorizationCodes
      refreshTokenFamilies := updateRows (gone ·.originAuthorizationCodeID)
        (fun r => { r with originAuthorizationCodeID := none }) db.refreshTokenFamilies }
    (gone ·.authorizationCodeID) fun r => { r with authorizationCodeID := none }

/-- A delete whose references all RESTRICT. -/
def restrict (violations : List (Option PgError)) (after : Db) : Except PgError Db :=
  match firstViolation violations with
  | some failure => .error failure
  | none => .ok after

/-- Deletes authorization transactions. -/
def deleteAuthTransactions (db : Db) (doomed : List AuthTransaction) : Except PgError Db :=
  let gone := refersTo AuthTransaction.id doomed
  restrict
    [foreignKeyViolation "preauth_sessions_auth_transaction_fk"
        !(db.preAuthSessions.any fun r => gone (some r.authTransactionID)),
      foreignKeyViolation "authorization_codes_auth_transaction_id_fkey"
        !(db.authorizationCodes.any fun r => gone (some r.authTransactionID))]
    { db with authTransactions := survivors (·.id) doomed db.authTransactions }

/-- Deletes generations. -/
def deleteRefreshTokens (db : Db) (doomed : List RefreshToken) : Except PgError Db :=
  let gone := refersTo RefreshToken.id doomed
  restrict
    [foreignKeyViolation "access_tokens_source_refresh_token_id_fkey"
        !(db.accessTokens.any (gone ·.sourceRefreshTokenID))]
    { db with refreshTokens := survivors (·.id) doomed db.refreshTokens }

/-- Deletes families. -/
def deleteRefreshTokenFamilies (db : Db) (doomed : List RefreshTokenFamily) : Except PgError Db :=
  let gone := refersTo RefreshTokenFamily.id doomed
  restrict
    [foreignKeyViolation "refresh_tokens_family_id_fkey"
        !(db.refreshTokens.any fun r => gone (some r.familyID)),
      foreignKeyViolation "access_tokens_refresh_family_id_fkey"
        !(db.accessTokens.any (gone ·.refreshFamilyID))]
    { db with refreshTokenFamilies := survivors (·.id) doomed db.refreshTokenFamilies }

/-- The number of deleted rows and the database without them. -/
def counted {ρ : Type} (doomed : List ρ) (outcome : Except PgError Db) : Except PgError (Nat × Db) :=
  outcome.map fun after => (doomed.length, after)

theorem counted_ok {ρ : Type} {doomed : List ρ} {outcome : Except PgError Db} {answer : Nat} {after : Db} :
    counted doomed outcome = .ok (answer, after) ↔ outcome = .ok after ∧ answer = doomed.length := by
  rw [counted, map_ok]
  constructor
  · rintro ⟨stored, isOk, same⟩
    cases same
    exact ⟨isOk, rfl⟩
  · rintro ⟨isOk, rfl⟩
    exact ⟨after, isOk, rfl⟩

/-! ## Execution -/

/-- An identifier no stored audit event has. -/
def freshEventID (db : Db) : Uuid := (db.auditEvents.map (·.id)).foldr max 0 + 1

/-- The effect of a statement that runs alone. -/
def exec ⦃β : Type⦄ (statement : Stmt β) (db : Db) : Except PgError (β × Db) :=
  match statement with
  | .read select => .ok (select db, db)
  | .advisoryLock _ => .ok ((), db)
  | .newEventID => .ok (freshEventID db, db)
  | .users s => store (fun rows => { db with users := rows }) (s.exec usersTable db db.users)
  | .credentials s =>
    store (fun rows => { db with credentials := rows }) (s.exec credentialsTable db db.credentials)
  | .clients s => store (fun rows => { db with clients := rows }) (s.exec clientsTable db db.clients)
  | .insertClientRedirectURI row =>
    (insert (ClientURI.insertViolation db "oidc_client_redirect_uri_bounds"
      "oidc_client_redirect_uris_pkey" "oidc_client_redirect_uris_client_id_fkey"
      db.clientRedirectURIs) row db.clientRedirectURIs).map
      fun rows => ((), { db with clientRedirectURIs := rows })
  | .insertClientLogoutURI row =>
    (insert (ClientURI.insertViolation db "oidc_client_logout_uri_bounds"
      "oidc_client_logout_uris_pkey" "oidc_client_logout_uris_client_id_fkey"
      db.clientLogoutURIs) row db.clientLogoutURIs).map
      fun rows => ((), { db with clientLogoutURIs := rows })
  | .insertClientScope row =>
    (insert (ClientScope.insertViolation db) row db.clientScopes).map
      fun rows => ((), { db with clientScopes := rows })
  | .deleteClientRedirectURIs clientID =>
    .ok ((), { db with
      clientRedirectURIs := db.clientRedirectURIs.filter (·.clientID != clientID) })
  | .deleteClientLogoutURIs clientID =>
    .ok ((), { db with clientLogoutURIs := db.clientLogoutURIs.filter (·.clientID != clientID) })
  | .deleteClientScopes clientID =>
    .ok ((), { db with clientScopes := db.clientScopes.filter (·.clientID != clientID) })
  | .clientSecrets s =>
    store (fun rows => { db with clientSecrets := rows })
      (s.exec clientSecretsTable db db.clientSecrets)
  | .loginSessions s =>
    store (fun rows => { db with loginSessions := rows })
      (s.exec loginSessionsTable db db.loginSessions)
  | .preAuthSessions s =>
    store (fun rows => { db with preAuthSessions := rows })
      (s.exec preAuthSessionsTable db db.preAuthSessions)
  | .authTransactions s =>
    store (fun rows => { db with authTransactions := rows })
      (s.exec authTransactionsTable db db.authTransactions)
  | .consentGrants s =>
    store (fun rows => { db with consentGrants := rows })
      (s.exec consentGrantsTable db db.consentGrants)
  | .authorizationCodes s =>
    store (fun rows => { db with authorizationCodes := rows })
      (s.exec authorizationCodesTable db db.authorizationCodes)
  | .refreshTokenFamilies s =>
    store (fun rows => { db with refreshTokenFamilies := rows })
      (s.exec refreshTokenFamiliesTable db db.refreshTokenFamilies)
  | .refreshTokens s =>
    store (fun rows => { db with refreshTokens := rows })
      (s.exec refreshTokensTable db db.refreshTokens)
  | .accessTokens s =>
    store (fun rows => { db with accessTokens := rows })
      (s.exec accessTokensTable db db.accessTokens)
  | .logoutTransactions s =>
    store (fun rows => { db with logoutTransactions := rows })
      (s.exec logoutTransactionsTable db db.logoutTransactions)
  | .auditEvents s =>
    store (fun rows => { db with auditEvents := rows }) (s.exec auditEventsTable db db.auditEvents)
  | .expireAuthTransactions now limit locked =>
    let ended := expiredAuthTransactions db limit locked now
    (store (fun rows => { db with authTransactions := rows })
      (TableStmt.exec authTransactionsTable db db.authTransactions
        (.update (fun r => ended.any (·.id == r.id)) (.expire now)))).map
      fun answered => (answered.1.map (·.id), answered.2)
  | .retirePreAuthSessions cutoff limit locked =>
    let doomed := retiredPreAuthSessions db cutoff limit locked
    counted doomed (.ok { db with preAuthSessions := survivors (·.id) doomed db.preAuthSessions })
  | .retireLoginSessions cutoff limit locked =>
    let doomed := retiredLoginSessions db cutoff limit locked
    counted doomed (deleteLoginSessions db doomed)
  | .retireAuthTransactions cutoff limit locked =>
    let doomed := retiredAuthTransactions db cutoff limit locked
    counted doomed (deleteAuthTransactions db doomed)
  | .retireAuthorizationCodes cutoff limit locked =>
    let doomed := retiredAuthorizationCodes db cutoff limit locked
    counted doomed (deleteAuthorizationCodes db doomed)
  | .retireAccessTokens cutoff limit locked =>
    let doomed := retiredAccessTokens db cutoff limit locked
    counted doomed (.ok { db with accessTokens := survivors (·.id) doomed db.accessTokens })
  | .retireRefreshTokens cutoff limit locked =>
    let doomed := retiredRefreshTokens db cutoff limit locked
    counted doomed (deleteRefreshTokens db doomed)
  | .retireRefreshTokenFamilies cutoff limit locked =>
    let doomed := retiredRefreshTokenFamilies db cutoff limit locked
    counted doomed (deleteRefreshTokenFamilies db doomed)
  | .retireLogoutTransactions now cutoff limit locked =>
    let doomed := retiredLogoutTransactions db cutoff limit locked now
    counted doomed
      (.ok { db with logoutTransactions := survivors (·.id) doomed db.logoutTransactions })

end OneIssuer
