import OneIssuer.Evolution

/-!
# Frames

Which tables a statement writes. Every other table is the same after it (`exec_same`), so a fact about
one table has to be proved for the few statements that write it.
-/

set_option autoImplicit false

namespace OneIssuer

open Relational

/-- The tables. -/
inductive TableName where
  | users
  | credentials
  | clients
  | clientRedirectURIs
  | clientLogoutURIs
  | clientScopes
  | clientSecrets
  | loginSessions
  | preAuthSessions
  | authTransactions
  | consentGrants
  | authorizationCodes
  | refreshTokenFamilies
  | refreshTokens
  | accessTokens
  | logoutTransactions
  | auditEvents
  deriving DecidableEq, Repr

/-- The table has the same rows in both states. -/
def Db.Same (before after : Db) : TableName → Prop
  | .users => after.users = before.users
  | .credentials => after.credentials = before.credentials
  | .clients => after.clients = before.clients
  | .clientRedirectURIs => after.clientRedirectURIs = before.clientRedirectURIs
  | .clientLogoutURIs => after.clientLogoutURIs = before.clientLogoutURIs
  | .clientScopes => after.clientScopes = before.clientScopes
  | .clientSecrets => after.clientSecrets = before.clientSecrets
  | .loginSessions => after.loginSessions = before.loginSessions
  | .preAuthSessions => after.preAuthSessions = before.preAuthSessions
  | .authTransactions => after.authTransactions = before.authTransactions
  | .consentGrants => after.consentGrants = before.consentGrants
  | .authorizationCodes => after.authorizationCodes = before.authorizationCodes
  | .refreshTokenFamilies => after.refreshTokenFamilies = before.refreshTokenFamilies
  | .refreshTokens => after.refreshTokens = before.refreshTokens
  | .accessTokens => after.accessTokens = before.accessTokens
  | .logoutTransactions => after.logoutTransactions = before.logoutTransactions
  | .auditEvents => after.auditEvents = before.auditEvents

/-- The table a statement on one table writes; a lock writes nothing. -/
def writtenBy {ρ χ β : Type} (table : TableName) : TableStmt ρ χ β → List TableName
  | .lock _ => []
  | _ => [table]

@[simp] theorem not_mem_writtenBy {ρ χ β : Type} {table own : TableName} (other : table ≠ own)
    (s : TableStmt ρ χ β) : table ∉ writtenBy own s := by
  cases s <;> simp [writtenBy, other]

/-- The tables a statement writes. -/
def Stmt.writes {β : Type} : Stmt β → List TableName
  | .read _ | .advisoryLock _ | .newEventID => []
  | .users s => writtenBy .users s
  | .credentials s => writtenBy .credentials s
  | .clients s => writtenBy .clients s
  | .insertClientRedirectURI _ | .deleteClientRedirectURIs _ => [.clientRedirectURIs]
  | .insertClientLogoutURI _ | .deleteClientLogoutURIs _ => [.clientLogoutURIs]
  | .insertClientScope _ | .deleteClientScopes _ => [.clientScopes]
  | .clientSecrets s => writtenBy .clientSecrets s
  | .loginSessions s => writtenBy .loginSessions s
  | .preAuthSessions s => writtenBy .preAuthSessions s
  | .authTransactions s => writtenBy .authTransactions s
  | .consentGrants s => writtenBy .consentGrants s
  | .authorizationCodes s => writtenBy .authorizationCodes s
  | .refreshTokenFamilies s => writtenBy .refreshTokenFamilies s
  | .refreshTokens s => writtenBy .refreshTokens s
  | .accessTokens s => writtenBy .accessTokens s
  | .logoutTransactions s => writtenBy .logoutTransactions s
  | .auditEvents s => writtenBy .auditEvents s
  | .expireAuthTransactions .. => [.authTransactions]
  | .retirePreAuthSessions .. => [.preAuthSessions]
  | .retireLoginSessions .. =>
    [.loginSessions, .authorizationCodes, .refreshTokenFamilies, .accessTokens]
  | .retireAuthTransactions .. => [.authTransactions]
  | .retireAuthorizationCodes .. => [.authorizationCodes, .refreshTokenFamilies, .accessTokens]
  | .retireAccessTokens .. => [.accessTokens]
  | .retireRefreshTokens .. => [.refreshTokens]
  | .retireRefreshTokenFamilies .. => [.refreshTokenFamilies]
  | .retireLogoutTransactions .. => [.logoutTransactions]

theorem Db.Same.refl (db : Db) (table : TableName) : db.Same db table := by
  cases table <;> rfl

section Writes

variable {db after : Db} {table : TableName}

/-- A statement on one table leaves the others alone. -/
theorem store_same {ρ χ β : Type} {spec : TableSpec Db ρ χ PgError} {own : TableName}
    {put : List ρ → Db} {rows : List ρ} {s : TableStmt ρ χ β} {answer : β}
    (others : ∀ other ≠ own, ∀ rows, db.Same (put rows) other) (same : put rows = db)
    (free : table ∉ writtenBy own s)
    (stored : store put (s.exec spec db rows) = .ok (answer, after)) : db.Same after table := by
  obtain ⟨left, ran, rfl⟩ := store_ok.mp stored
  cases s with
  | lock matching =>
    obtain ⟨-, rfl⟩ := TableStmt.exec_lock_ok.mp ran
    rw [same]
    exact .refl db table
  | insert row => exact others table (by simpa [writtenBy] using free) left
  | update matching change => exact others table (by simpa [writtenBy] using free) left

/-- A table that a statement does not write stays the same. -/
theorem exec_same {β : Type} {statement : Stmt β} {answer : β} (free : table ∉ statement.writes)
    (executed : exec statement db = .ok (answer, after)) : db.Same after table := by
  cases statement with
  | read select | advisoryLock key | newEventID =>
    cases executed
    exact .refl db table
  | deleteClientRedirectURIs clientID | deleteClientLogoutURIs clientID
  | deleteClientScopes clientID =>
    cases executed
    cases table <;> first | rfl | exact absurd List.mem_cons_self free
  | insertClientRedirectURI row | insertClientLogoutURI row | insertClientScope row =>
    rw [exec] at executed
    obtain ⟨rows, -, same⟩ := map_ok.mp executed
    cases same
    cases table <;> first | rfl | exact absurd List.mem_cons_self free
  | users s | credentials s | clients s | clientSecrets s | loginSessions s | preAuthSessions s
  | authTransactions s | consentGrants s | authorizationCodes s | refreshTokenFamilies s
  | refreshTokens s | accessTokens s | logoutTransactions s | auditEvents s =>
    rw [exec] at executed
    refine store_same ?_ rfl free executed
    intro other notOwn rows
    cases other <;> first | rfl | exact absurd rfl notOwn
  | expireAuthTransactions now limit locked =>
    rw [exec] at executed
    obtain ⟨⟨ended, stored⟩, ran, same⟩ := map_ok.mp executed
    obtain ⟨rows, -, rfl⟩ := store_ok.mp ran
    cases same
    cases table <;> first | rfl | exact absurd List.mem_cons_self free
  | retirePreAuthSessions cutoff limit locked | retireAccessTokens cutoff limit locked
  | retireLogoutTransactions now cutoff limit locked =>
    rw [exec] at executed
    cases (counted_ok.mp executed).1
    cases table <;> first | rfl | exact absurd List.mem_cons_self free
  | retireAuthTransactions cutoff limit locked | retireRefreshTokens cutoff limit locked
  | retireRefreshTokenFamilies cutoff limit locked =>
    rw [exec] at executed
    have deleted := (counted_ok.mp executed).1
    rw [(restrict_ok.mp deleted).2]
    cases table <;> first | rfl | exact absurd List.mem_cons_self free
  | retireLoginSessions cutoff limit locked =>
    rw [exec] at executed
    have deleted := (counted_ok.mp executed).1
    rw [deleteLoginSessions_ok deleted]
    cases table <;> first | rfl | exact absurd (by simp [Stmt.writes]) free
  | retireAuthorizationCodes cutoff limit locked =>
    rw [exec] at executed
    have deleted := (counted_ok.mp executed).1
    rw [deleteAuthorizationCodes] at deleted
    rw [unlinkAccessTokens_ok deleted]
    cases table <;> first | rfl | exact absurd (by simp [Stmt.writes]) free

end Writes

end OneIssuer
