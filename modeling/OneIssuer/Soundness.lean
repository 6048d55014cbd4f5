import OneIssuer.Evolution

/-!
# Sound databases

What the constraints of the schema say about every stored row: primary and unique keys are distinct
and the CHECK constraints hold. Every statement keeps a database sound, whatever its arguments are,
so every operation does.
-/

set_option autoImplicit false

namespace OneIssuer

open Relational

/-! ## One table -/

/-- The rows of a table have distinct identifiers and satisfy their CHECK constraints. -/
structure RowsSound {ρ : Type} (id : ρ → Uuid) (checks : ρ → List (String × Bool))
    (rows : List ρ) : Prop where
  distinct : (rows.map id).Nodup
  valid : ∀ row ∈ rows, checkViolation (checks row) = none

section RowsSound

variable {ρ χ β : Type} {id : ρ → Uuid} {checks : ρ → List (String × Bool)} {rows after : List ρ}

theorem RowsSound.nil : RowsSound id checks [] := ⟨List.nodup_nil, nofun⟩

/-- A statement that checks what it writes keeps a table sound. -/
theorem RowsSound.exec {spec : TableSpec Db ρ χ PgError} {db : Db} {statement : TableStmt ρ χ β}
    {answer : β} (sound : RowsSound id checks rows) (keyed : TableStmt.Keyed spec id db rows)
    (inserted : ∀ row, spec.insertViolation db row = none → checkViolation (checks row) = none)
    (updated : ∀ change row, spec.updateViolation db change row = none →
      checkViolation (checks row) = none)
    (ran : statement.exec spec db rows = .ok (answer, after)) : RowsSound id checks after where
  distinct := statement.exec_nodup keyed ran sound.distinct
  valid := statement.exec_forall inserted updated ran sound.valid

theorem RowsSound.filter (sound : RowsSound id checks rows) (kept : ρ → Bool) :
    RowsSound id checks (rows.filter kept) where
  distinct := nodup_filter kept sound.distinct
  valid row member := sound.valid row (List.mem_filter.mp member).1

/-- A foreign-key action that leaves the CHECK constraints alone. -/
theorem RowsSound.unlink (sound : RowsSound id checks rows) {matching : ρ → Bool} {set : ρ → ρ}
    (sameID : ∀ row, id (set row) = id row)
    (stays : ∀ row, checkViolation (checks row) = none → checkViolation (checks (set row)) = none) :
    RowsSound id checks (updateRows matching set rows) where
  distinct := nodup_updateRows sameID sound.distinct
  valid row member := by
    obtain ⟨old, inRows, rfl⟩ := mem_updateRows.mp member
    split
    · exact stays old (sound.valid old inRows)
    · exact sound.valid old inRows

/-- A sound table has one row for each identifier. -/
theorem RowsSound.unique (sound : RowsSound id checks rows) {first second : ρ}
    (inFirst : first ∈ rows) (inSecond : second ∈ rows) (sameID : id first = id second) :
    first = second := eq_of_key sound.distinct inFirst inSecond sameID

/-- A named CHECK constraint holds of every row. -/
theorem RowsSound.check (sound : RowsSound id checks rows) {row : ρ} (member : row ∈ rows)
    (name : String) {holds : Bool} (listed : (name, holds) ∈ checks row) : holds = true :=
  checkViolation_eq_none.mp (sound.valid row member) (name, holds) listed

end RowsSound

/-! ## The database -/

/-- Two events that at most one event may be of the same kind about the same target are one. -/
def EventsOnce (events : List AuditEvent) : Prop :=
  events.Pairwise fun first second =>
    first.oncePerTarget = none ∨ first.oncePerTarget ≠ second.oncePerTarget

/-- Keys are distinct and CHECK constraints hold. -/
structure Db.Sound (db : Db) : Prop where
  users : RowsSound User.id User.checks db.users
  clients : RowsSound ClientRow.id ClientRow.checks db.clients
  secrets : RowsSound ClientSecret.id ClientSecret.checks db.clientSecrets
  sessions : RowsSound LoginSession.id LoginSession.checks db.loginSessions
  grants : RowsSound ConsentGrant.id ConsentGrant.checks db.consentGrants
  codes : RowsSound AuthorizationCode.id AuthorizationCode.checks db.authorizationCodes
  families : RowsSound RefreshTokenFamily.id (RefreshTokenFamily.checks db.zone)
    db.refreshTokenFamilies
  generations : RowsSound RefreshToken.id (RefreshToken.checks db.zone) db.refreshTokens
  accesses : RowsSound AccessToken.id AccessToken.checks db.accessTokens
  logouts : RowsSound LogoutTransaction.id LogoutTransaction.checks db.logoutTransactions
  clientIDs : (db.clients.map (·.clientID)).Nodup
  sessionTokens : (db.loginSessions.map (·.tokenHash)).Nodup
  grantParties : (db.consentGrants.map fun r => (r.userID, r.clientID)).Nodup
  codeHashes : (db.authorizationCodes.map (·.codeHash)).Nodup
  tokenHashes : (db.refreshTokens.map (·.tokenHash)).Nodup
  numbers : (db.refreshTokens.map fun r => (r.familyID, r.generation)).Nodup
  jtiHashes : (db.accessTokens.map (·.jtiHash)).Nodup
  lookupHashes : (db.logoutTransactions.map (·.lookupHash)).Nodup
  events : EventsOnce db.auditEvents

theorem Db.sound_empty (zone : Zone) : (Db.empty zone).Sound where
  users := .nil
  clients := .nil
  secrets := .nil
  sessions := .nil
  grants := .nil
  codes := .nil
  families := .nil
  generations := .nil
  accesses := .nil
  logouts := .nil
  clientIDs := List.nodup_nil
  sessionTokens := List.nodup_nil
  grantParties := List.nodup_nil
  codeHashes := List.nodup_nil
  tokenHashes := List.nodup_nil
  numbers := List.nodup_nil
  jtiHashes := List.nodup_nil
  lookupHashes := List.nodup_nil
  events := List.Pairwise.nil

/-! ## Unique keys -/

section Keys

variable (db : Db)

theorem clientIDs_keyed :
    TableStmt.Keyed clientsTable ClientRow.clientID db db.clients where
  sameKey := by rintro ⟨⟩ row; rfl
  fresh row allowed := free_of_insert "oidc_clients_client_id_key" allowed (by simp)

theorem sessionTokens_keyed :
    TableStmt.Keyed loginSessionsTable LoginSession.tokenHash db db.loginSessions where
  sameKey := by rintro (_ | _ | _) row <;> rfl
  fresh row allowed := free_of_insert "login_sessions_token_hash_key" allowed (by simp)

theorem grantParties_keyed :
    TableStmt.Keyed consentGrantsTable (fun r => (r.userID, r.clientID)) db db.consentGrants where
  sameKey := by rintro (_ | _ | _) row <;> rfl
  fresh row allowed := by
    have free := firstViolation_eq_none.mp allowed
      (uniqueViolation "consent_grants_user_client_unique"
        (db.consentGrants.any fun old => old.userID == row.userID && old.clientID == row.clientID))
      (by simp)
    simpa using free

theorem codeHashes_keyed :
    TableStmt.Keyed authorizationCodesTable AuthorizationCode.codeHash db
      db.authorizationCodes where
  sameKey := by rintro ⟨⟩ row; rfl
  fresh row allowed := free_of_insert "authorization_codes_code_hash_key" allowed (by simp)

theorem tokenHashes_keyed :
    TableStmt.Keyed refreshTokensTable RefreshToken.tokenHash db db.refreshTokens where
  sameKey := by rintro ⟨⟩ row; rfl
  fresh row allowed := free_of_insert "refresh_tokens_token_hash_key" allowed (by simp)

theorem numbers_keyed :
    TableStmt.Keyed refreshTokensTable (fun r => (r.familyID, r.generation)) db
      db.refreshTokens where
  sameKey := by rintro ⟨⟩ row; rfl
  fresh row allowed := by
    have free := firstViolation_eq_none.mp allowed
      (uniqueViolation "refresh_tokens_family_generation_unique"
        (db.refreshTokens.any fun old =>
          old.familyID == row.familyID && old.generation == row.generation))
      (by simp)
    simpa using free

theorem jtiHashes_keyed :
    TableStmt.Keyed accessTokensTable AccessToken.jtiHash db db.accessTokens where
  sameKey := by rintro ⟨⟩ row; rfl
  fresh row allowed := free_of_insert "access_tokens_jti_hash_key" allowed (by simp)

theorem clientSecrets_keyed :
    TableStmt.Keyed clientSecretsTable ClientSecret.id db db.clientSecrets where
  sameKey := by rintro ⟨⟩ row; rfl
  fresh row allowed := free_of_insert "oidc_client_secrets_pkey" allowed (by simp)

theorem logoutTransactions_keyed :
    TableStmt.Keyed logoutTransactionsTable LogoutTransaction.id db db.logoutTransactions where
  sameKey := by rintro (_ | _ | _ | _) row <;> rfl
  fresh row allowed := free_of_insert "logout_transactions_pkey" allowed (by simp)

theorem lookupHashes_keyed :
    TableStmt.Keyed logoutTransactionsTable LogoutTransaction.lookupHash db
      db.logoutTransactions where
  sameKey := by rintro (_ | _ | _ | _) row <;> rfl
  fresh row allowed := free_of_insert "logout_transactions_lookup_hash_key" allowed (by simp)

end Keys

/-! ## Every statement keeps the database sound -/

/-- The CHECK constraints are among what an insert or an update looks at. -/
theorem checked {violations : List (Option PgError)} {checks : List (String × Bool)}
    (allowed : firstViolation violations = none) (looked : checkViolation checks ∈ violations) :
    checkViolation checks = none := firstViolation_eq_none.mp allowed _ looked

theorem eventsOnce_exec {β : Type} {s : TableStmt AuditEvent Empty β} {db : Db}
    {rows : List AuditEvent} {answer : β} (once : EventsOnce db.auditEvents)
    (ran : s.exec auditEventsTable db db.auditEvents = .ok (answer, rows)) : EventsOnce rows := by
  cases s with
  | insert row =>
    obtain ⟨allowed, rfl⟩ := TableStmt.exec_insert_ok.mp ran
    have free := firstViolation_eq_none.mp allowed
      (row.oncePerTarget.bind fun key =>
        uniqueViolation key.1 (db.auditEvents.any fun old => old.oncePerTarget == some key))
      (by simp)
    refine List.pairwise_append.mpr ⟨once, List.pairwise_singleton _ _, ?_⟩
    intro old member last isLast
    rw [List.mem_singleton.mp isLast]
    cases kind : row.oncePerTarget with
    | none =>
      by_cases unmarked : old.oncePerTarget = none
      · exact Or.inl unmarked
      · exact Or.inr unmarked
    | some key =>
      simp only [kind, Option.bind_some, uniqueViolation_eq_none, List.any_eq_false,
        beq_iff_eq] at free
      exact Or.inr (free old member)
  | lock matching =>
    obtain ⟨-, rfl⟩ := TableStmt.exec_lock_ok.mp ran
    exact once
  | update matching change => exact change.elim

/-- Clearing the code of an access token keeps its CHECK constraints. -/
theorem AccessToken.checks_detached (token : AccessToken)
    (valid : checkViolation token.checks = none) :
    checkViolation { token with authorizationCodeID := none }.checks = none := by
  simp only [checkViolation_eq_none, AccessToken.checks, List.mem_cons, List.not_mem_nil, or_false,
    forall_eq_or_imp, forall_eq] at valid ⊢
  refine ⟨valid.1, valid.2.1, valid.2.2.1, valid.2.2.2.1, valid.2.2.2.2.1, ?_⟩
  have source := valid.2.2.2.2.2
  simp only [Bool.or_eq_true, Bool.and_eq_true] at source ⊢
  rcases source with ofCode | ofRefresh
  · exact Or.inl ofCode
  · exact Or.inr ⟨⟨⟨⟨ofRefresh.1.1.1.1, rfl⟩, ofRefresh.1.1.2⟩, ofRefresh.1.2⟩, ofRefresh.2⟩

theorem deleteLoginSessions_sound {db after : Db} {doomed : List LoginSession} (sound : db.Sound)
    (deleted : deleteLoginSessions db doomed = .ok after) : after.Sound := by
  rw [deleteLoginSessions_ok deleted]
  exact { sound with
    sessions := sound.sessions.filter _
    sessionTokens := nodup_filter _ sound.sessionTokens
    codes := sound.codes.unlink (fun _ => rfl) fun _ valid => valid
    codeHashes := nodup_updateRows (fun _ => rfl) sound.codeHashes
    families := sound.families.unlink (fun _ => rfl) fun _ valid => valid
    accesses := sound.accesses.unlink (fun _ => rfl) fun _ valid => valid
    jtiHashes := nodup_updateRows (fun _ => rfl) sound.jtiHashes }

theorem deleteAuthorizationCodes_sound {db after : Db} {doomed : List AuthorizationCode}
    (sound : db.Sound) (deleted : deleteAuthorizationCodes db doomed = .ok after) :
    after.Sound := by
  rw [deleteAuthorizationCodes] at deleted
  rw [unlinkAccessTokens_ok deleted]
  exact { sound with
    codes := sound.codes.filter _
    codeHashes := nodup_filter _ sound.codeHashes
    families := sound.families.unlink (fun _ => rfl) fun _ valid => valid
    accesses := sound.accesses.unlink (fun _ => rfl) AccessToken.checks_detached
    jtiHashes := nodup_updateRows (fun _ => rfl) sound.jtiHashes }

theorem exec_sound {β : Type} {statement : Stmt β} {db after : Db} {answer : β} (sound : db.Sound)
    (executed : exec statement db = .ok (answer, after)) : after.Sound := by
  cases statement with
  | read select | advisoryLock key | newEventID =>
    cases executed
    exact sound
  | deleteClientRedirectURIs clientID | deleteClientLogoutURIs clientID
  | deleteClientScopes clientID =>
    cases executed
    exact { sound with }
  | insertClientRedirectURI row | insertClientLogoutURI row | insertClientScope row =>
    rw [exec] at executed
    obtain ⟨rows, -, same⟩ := map_ok.mp executed
    cases same
    exact { sound with }
  | users s =>
    rw [exec] at executed
    obtain ⟨rows, ran, rfl⟩ := store_ok.mp executed
    refine { sound with users := sound.users.exec (users_respect db).toKeyed ?_ ?_ ran }
    · exact fun row allowed => checked allowed (by simp)
    · rintro (_ | _) row allowed
      · exact checked allowed (by simp)
      · exact allowed
  | clients s =>
    rw [exec] at executed
    obtain ⟨rows, ran, rfl⟩ := store_ok.mp executed
    exact { sound with
      clients := sound.clients.exec (clients_respect db).toKeyed
        (fun row allowed => checked allowed (by simp)) (fun _ _ allowed => allowed) ran
      clientIDs := s.exec_nodup (clientIDs_keyed db) ran sound.clientIDs }
  | clientSecrets s =>
    rw [exec] at executed
    obtain ⟨rows, ran, rfl⟩ := store_ok.mp executed
    exact { sound with
      secrets := sound.secrets.exec (clientSecrets_keyed db)
        (fun row allowed => checked allowed (by simp)) (fun _ _ allowed => allowed) ran }
  | loginSessions s =>
    rw [exec] at executed
    obtain ⟨rows, ran, rfl⟩ := store_ok.mp executed
    exact { sound with
      sessions := sound.sessions.exec (loginSessions_respect db).toKeyed
        (fun row allowed => checked allowed (by simp)) (fun _ _ allowed => allowed) ran
      sessionTokens := s.exec_nodup (sessionTokens_keyed db) ran sound.sessionTokens }
  | consentGrants s =>
    rw [exec] at executed
    obtain ⟨rows, ran, rfl⟩ := store_ok.mp executed
    exact { sound with
      grants := sound.grants.exec (consentGrants_respect db).toKeyed
        (fun row allowed => checked allowed (by simp)) (fun _ _ allowed => allowed) ran
      grantParties := s.exec_nodup (grantParties_keyed db) ran sound.grantParties }
  | authorizationCodes s =>
    rw [exec] at executed
    obtain ⟨rows, ran, rfl⟩ := store_ok.mp executed
    exact { sound with
      codes := sound.codes.exec (authorizationCodes_respect db).toKeyed
        (fun row allowed => checked allowed (by simp)) (fun _ _ allowed => allowed) ran
      codeHashes := s.exec_nodup (codeHashes_keyed db) ran sound.codeHashes }
  | refreshTokenFamilies s =>
    rw [exec] at executed
    obtain ⟨rows, ran, rfl⟩ := store_ok.mp executed
    exact { sound with
      families := sound.families.exec (refreshTokenFamilies_respect db).toKeyed
        (fun row allowed => checked allowed (by simp)) (fun _ _ allowed => allowed) ran }
  | refreshTokens s =>
    rw [exec] at executed
    obtain ⟨rows, ran, rfl⟩ := store_ok.mp executed
    exact { sound with
      generations := sound.generations.exec (refreshTokens_respect db).toKeyed
        (fun row allowed => checked allowed (by simp)) (fun _ _ allowed => allowed) ran
      tokenHashes := s.exec_nodup (tokenHashes_keyed db) ran sound.tokenHashes
      numbers := s.exec_nodup (numbers_keyed db) ran sound.numbers }
  | accessTokens s =>
    rw [exec] at executed
    obtain ⟨rows, ran, rfl⟩ := store_ok.mp executed
    exact { sound with
      accesses := sound.accesses.exec (accessTokens_respect db).toKeyed
        (fun row allowed => checked allowed (by simp)) (fun _ _ allowed => allowed) ran
      jtiHashes := s.exec_nodup (jtiHashes_keyed db) ran sound.jtiHashes }
  | logoutTransactions s =>
    rw [exec] at executed
    obtain ⟨rows, ran, rfl⟩ := store_ok.mp executed
    refine { sound with
      logouts := sound.logouts.exec (logoutTransactions_keyed db) ?_ ?_ ran
      lookupHashes := s.exec_nodup (lookupHashes_keyed db) ran sound.lookupHashes }
    · exact fun row allowed => checked allowed (by simp)
    · rintro (_ | _ | _ | _) row allowed
      · exact checked allowed (by simp)
      all_goals exact allowed
  | auditEvents s =>
    rw [exec] at executed
    obtain ⟨rows, ran, rfl⟩ := store_ok.mp executed
    exact { sound with events := eventsOnce_exec sound.events ran }
  | credentials s | preAuthSessions s | authTransactions s =>
    rw [exec] at executed
    obtain ⟨rows, ran, rfl⟩ := store_ok.mp executed
    exact { sound with }
  | expireAuthTransactions now limit locked =>
    rw [exec] at executed
    obtain ⟨⟨ended, stored⟩, ran, same⟩ := map_ok.mp executed
    obtain ⟨rows, -, rfl⟩ := store_ok.mp ran
    cases same
    exact { sound with }
  | retirePreAuthSessions cutoff limit locked =>
    rw [exec] at executed
    cases (counted_ok.mp executed).1
    exact { sound with }
  | retireLogoutTransactions now cutoff limit locked =>
    rw [exec] at executed
    cases (counted_ok.mp executed).1
    exact { sound with
      logouts := sound.logouts.filter _
      lookupHashes := nodup_filter _ sound.lookupHashes }
  | retireAccessTokens cutoff limit locked =>
    rw [exec] at executed
    cases (counted_ok.mp executed).1
    exact { sound with
      accesses := sound.accesses.filter _
      jtiHashes := nodup_filter _ sound.jtiHashes }
  | retireAuthTransactions cutoff limit locked =>
    rw [exec] at executed
    have deleted := (counted_ok.mp executed).1
    rw [restrict_ok.mp deleted |>.2]
    exact { sound with }
  | retireLoginSessions cutoff limit locked =>
    rw [exec] at executed
    have deleted := (counted_ok.mp executed).1
    exact deleteLoginSessions_sound sound deleted
  | retireAuthorizationCodes cutoff limit locked =>
    rw [exec] at executed
    have deleted := (counted_ok.mp executed).1
    exact deleteAuthorizationCodes_sound sound deleted
  | retireRefreshTokens cutoff limit locked =>
    rw [exec] at executed
    have deleted := (counted_ok.mp executed).1
    rw [(restrict_ok.mp deleted).2]
    exact { sound with
      generations := sound.generations.filter _
      tokenHashes := nodup_filter _ sound.tokenHashes
      numbers := nodup_filter _ sound.numbers }
  | retireRefreshTokenFamilies cutoff limit locked =>
    rw [exec] at executed
    have deleted := (counted_ok.mp executed).1
    rw [(restrict_ok.mp deleted).2]
    exact { sound with families := sound.families.filter _ }

end OneIssuer
