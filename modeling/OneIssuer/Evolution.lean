import OneIssuer.Statements

/-!
# How rows evolve

What one statement can do to a row that exists before it: which columns stay, which are written
once, which references may only be cleared. `…Continues old new` says this for each table.

`Db.Grew` collects it for a statement that deletes nothing, `Db.Shrank` for one that retires rows.
Both are preorders, so they hold of every operation whose statements are all of one kind.
-/

set_option autoImplicit false

namespace OneIssuer

open Relational

/-! ## Row relations -/

/-- A user keeps its identity. -/
structure UserContinues (old new : User) : Prop where
  subject : new.subject = old.subject
  createdAt : new.createdAt = old.createdAt

/-- A client keeps its identity and the way it authenticates. -/
structure ClientContinues (old new : ClientRow) : Prop where
  clientID : new.clientID = old.clientID
  clientType : new.clientType = old.clientType
  tokenEndpointAuthMethod : new.tokenEndpointAuthMethod = old.tokenEndpointAuthMethod

/-- A session keeps its owner, its binding and its absolute lifetime; a revocation stays. -/
structure SessionContinues (old new : LoginSession) : Prop where
  same : new = { old with
    csrfHash := new.csrfHash, csrfExpiresAt := new.csrfExpiresAt, lastSeenAt := new.lastSeenAt
    idleExpiresAt := new.idleExpiresAt, revokedAt := new.revokedAt
    revokeReason := new.revokeReason }
  revokedAt : WrittenOnce old.revokedAt new.revokedAt

/-- A grant keeps its parties; a row that changed has a higher version. -/
structure GrantContinues (old new : ConsentGrant) : Prop where
  userID : new.userID = old.userID
  clientID : new.clientID = old.clientID
  createdAt : new.createdAt = old.createdAt
  changed : new = old ∨ old.version < new.version

/-- A code is consumed once and may forget its session. -/
structure CodeContinues (old new : AuthorizationCode) : Prop where
  same : new = { old with consumedAt := new.consumedAt, originSessionID := new.originSessionID }
  consumedAt : WrittenOnce old.consumedAt new.consumedAt
  originSessionID : OnlyCleared old.originSessionID new.originSessionID

/-- A family is revoked once and may forget its code and its session. -/
structure FamilyContinues (old new : RefreshTokenFamily) : Prop where
  same : new = { old with
    originAuthorizationCodeID := new.originAuthorizationCodeID
    originSessionID := new.originSessionID, revokedAt := new.revokedAt
    revokeReason := new.revokeReason }
  revokedAt : WrittenOnce old.revokedAt new.revokedAt
  originAuthorizationCodeID :
    OnlyCleared old.originAuthorizationCodeID new.originAuthorizationCodeID

/-- A generation is consumed once. -/
structure GenerationContinues (old new : RefreshToken) : Prop where
  same : new = { old with consumedAt := new.consumedAt }
  consumedAt : WrittenOnce old.consumedAt new.consumedAt

/-- An access token is revoked once and may forget its code and its session. -/
structure AccessContinues (old new : AccessToken) : Prop where
  same : new = { old with
    authorizationCodeID := new.authorizationCodeID, originSessionID := new.originSessionID
    revokedAt := new.revokedAt, revokeReason := new.revokeReason }
  revokedAt : WrittenOnce old.revokedAt new.revokedAt
  authorizationCodeID : OnlyCleared old.authorizationCodeID new.authorizationCodeID

/-! ### They are preorders -/

theorem UserContinues.refl (row : User) : UserContinues row row := ⟨rfl, rfl⟩

theorem UserContinues.trans (a b c : User) (early : UserContinues a b) (late : UserContinues b c) :
    UserContinues a c :=
  ⟨late.subject.trans early.subject, late.createdAt.trans early.createdAt⟩

theorem ClientContinues.refl (row : ClientRow) : ClientContinues row row := ⟨rfl, rfl, rfl⟩

theorem ClientContinues.trans (a b c : ClientRow) (early : ClientContinues a b)
    (late : ClientContinues b c) : ClientContinues a c :=
  ⟨late.clientID.trans early.clientID, late.clientType.trans early.clientType,
    late.tokenEndpointAuthMethod.trans early.tokenEndpointAuthMethod⟩

theorem SessionContinues.refl (row : LoginSession) : SessionContinues row row :=
  ⟨rfl, .refl _⟩

theorem SessionContinues.trans (a b c : LoginSession) (early : SessionContinues a b)
    (late : SessionContinues b c) : SessionContinues a c where
  same := late.same.trans (by rw [early.same])
  revokedAt := early.revokedAt.trans late.revokedAt

theorem GrantContinues.refl (row : ConsentGrant) : GrantContinues row row :=
  ⟨rfl, rfl, rfl, Or.inl rfl⟩

theorem GrantContinues.trans (a b c : ConsentGrant) (early : GrantContinues a b)
    (late : GrantContinues b c) : GrantContinues a c where
  userID := late.userID.trans early.userID
  clientID := late.clientID.trans early.clientID
  createdAt := late.createdAt.trans early.createdAt
  changed := by
    rcases late.changed with rfl | later
    · exact early.changed
    · rcases early.changed with rfl | earlier
      · exact Or.inr later
      · exact Or.inr (earlier.trans later)

theorem CodeContinues.refl (row : AuthorizationCode) : CodeContinues row row :=
  ⟨rfl, .refl _, .refl _⟩

theorem CodeContinues.trans (a b c : AuthorizationCode) (early : CodeContinues a b)
    (late : CodeContinues b c) : CodeContinues a c where
  same := late.same.trans (by rw [early.same])
  consumedAt := early.consumedAt.trans late.consumedAt
  originSessionID := early.originSessionID.trans late.originSessionID

theorem FamilyContinues.refl (row : RefreshTokenFamily) : FamilyContinues row row :=
  ⟨rfl, .refl _, .refl _⟩

theorem FamilyContinues.trans (a b c : RefreshTokenFamily) (early : FamilyContinues a b)
    (late : FamilyContinues b c) : FamilyContinues a c where
  same := late.same.trans (by rw [early.same])
  revokedAt := early.revokedAt.trans late.revokedAt
  originAuthorizationCodeID := early.originAuthorizationCodeID.trans late.originAuthorizationCodeID

theorem GenerationContinues.refl (row : RefreshToken) : GenerationContinues row row :=
  ⟨rfl, .refl _⟩

theorem GenerationContinues.trans (a b c : RefreshToken) (early : GenerationContinues a b)
    (late : GenerationContinues b c) : GenerationContinues a c where
  same := late.same.trans (by rw [early.same])
  consumedAt := early.consumedAt.trans late.consumedAt

theorem AccessContinues.refl (row : AccessToken) : AccessContinues row row :=
  ⟨rfl, .refl _, .refl _⟩

theorem AccessContinues.trans (a b c : AccessToken) (early : AccessContinues a b)
    (late : AccessContinues b c) : AccessContinues a c where
  same := late.same.trans (by rw [early.same])
  revokedAt := early.revokedAt.trans late.revokedAt
  authorizationCodeID := early.authorizationCodeID.trans late.authorizationCodeID

/-! ## Tables keep the relations

The primary key of a row that may be inserted is new; a SET clause keeps it. -/

section Respects

variable (db : Db)

/-- A key the insert looked for is free. -/
theorem free_of_insert {ρ κ : Type} [BEq κ] [LawfulBEq κ] {rows : List ρ} (name : String)
    {key : ρ → κ} {row : ρ} {violations : List (Option PgError)}
    (allowed : firstViolation violations = none)
    (looked : uniqueViolation name (rows.any (key · == key row)) ∈ violations) :
    ∀ old ∈ rows, key old ≠ key row := by
  have free := firstViolation_eq_none.mp allowed _ looked
  simpa using free

theorem users_respect : TableStmt.Respects usersTable User.id UserContinues db db.users where
  sameKey := by rintro (_ | _) row <;> rfl
  fresh row allowed := free_of_insert "users_pkey" allowed (by simp)
  refl := UserContinues.refl
  moves := by rintro (_ | _) row _ <;> exact ⟨rfl, rfl⟩

theorem clients_respect :
    TableStmt.Respects clientsTable ClientRow.id ClientContinues db db.clients where
  sameKey := by rintro ⟨⟩ row; rfl
  fresh row allowed := free_of_insert "oidc_clients_pkey" allowed (by simp)
  refl := ClientContinues.refl
  moves := by rintro ⟨⟩ row _; exact ⟨rfl, rfl, rfl⟩

theorem loginSessions_respect :
    TableStmt.Respects loginSessionsTable LoginSession.id SessionContinues db db.loginSessions where
  sameKey := by rintro (_ | _ | _) row <;> rfl
  fresh row allowed := free_of_insert "login_sessions_pkey" allowed (by simp)
  refl := SessionContinues.refl
  moves := by
    rintro (⟨lastSeenAt, idleExpiresAt⟩ | ⟨csrfHash, csrfExpiresAt⟩ | ⟨revokedAt, reason⟩) row allowed
    · exact ⟨rfl, .refl _⟩
    · exact ⟨rfl, .refl _⟩
    · have unrevoked : row.revokedAt = none := Option.isNone_iff_eq_none.mp allowed
      exact ⟨rfl, unrevoked ▸ .of_none⟩

theorem consentGrants_respect :
    TableStmt.Respects consentGrantsTable ConsentGrant.id GrantContinues db db.consentGrants where
  sameKey := by rintro (_ | _ | _) row <;> rfl
  fresh row allowed := free_of_insert "consent_grants_pkey" allowed (by simp)
  refl := GrantContinues.refl
  moves := by
    rintro (_ | _ | _) row _ <;> exact ⟨rfl, rfl, rfl, Or.inr (Int.lt_succ _)⟩

theorem authorizationCodes_respect :
    TableStmt.Respects authorizationCodesTable AuthorizationCode.id CodeContinues db
      db.authorizationCodes where
  sameKey := by rintro ⟨⟩ row; rfl
  fresh row allowed := free_of_insert "authorization_codes_pkey" allowed (by simp)
  refl := CodeContinues.refl
  moves := by
    rintro ⟨consumedAt⟩ row allowed
    have unconsumed : row.consumedAt = none :=
      Option.isNone_iff_eq_none.mp (Bool.and_eq_true_iff.mp allowed).1
    exact ⟨rfl, unconsumed ▸ .of_none, .refl _⟩

theorem refreshTokenFamilies_respect :
    TableStmt.Respects refreshTokenFamiliesTable RefreshTokenFamily.id FamilyContinues db
      db.refreshTokenFamilies where
  sameKey := by rintro ⟨⟩ row; rfl
  fresh row allowed := free_of_insert "refresh_token_families_pkey" allowed (by simp)
  refl := FamilyContinues.refl
  moves := by
    rintro ⟨revokedAt, reason⟩ row allowed
    have unrevoked : row.revokedAt = none := Option.isNone_iff_eq_none.mp allowed
    exact ⟨rfl, unrevoked ▸ .of_none, .refl _⟩

theorem refreshTokens_respect :
    TableStmt.Respects refreshTokensTable RefreshToken.id GenerationContinues db
      db.refreshTokens where
  sameKey := by rintro ⟨⟩ row; rfl
  fresh row allowed := free_of_insert "refresh_tokens_pkey" allowed (by simp)
  refl := GenerationContinues.refl
  moves := by
    rintro ⟨consumedAt⟩ row allowed
    have unconsumed : row.consumedAt = none := Option.isNone_iff_eq_none.mp allowed
    exact ⟨rfl, unconsumed ▸ .of_none⟩

theorem accessTokens_respect :
    TableStmt.Respects accessTokensTable AccessToken.id AccessContinues db db.accessTokens where
  sameKey := by rintro ⟨⟩ row; rfl
  fresh row allowed := free_of_insert "access_tokens_pkey" allowed (by simp)
  refl := AccessContinues.refl
  moves := by
    rintro ⟨revokedAt, reason⟩ row allowed
    have unrevoked : row.revokedAt = none := Option.isNone_iff_eq_none.mp allowed
    exact ⟨rfl, unrevoked ▸ .of_none, .refl _⟩

end Respects

/-! ## Statements that delete nothing -/

/-- No row was lost, and every row that was there before continues. -/
structure Db.Grew (before after : Db) : Prop where
  users : Grows User.id UserContinues before.users after.users
  clients : Grows ClientRow.id ClientContinues before.clients after.clients
  sessions : Grows LoginSession.id SessionContinues before.loginSessions after.loginSessions
  grants : Grows ConsentGrant.id GrantContinues before.consentGrants after.consentGrants
  codes : Grows AuthorizationCode.id CodeContinues before.authorizationCodes
    after.authorizationCodes
  families : Grows RefreshTokenFamily.id FamilyContinues before.refreshTokenFamilies
    after.refreshTokenFamilies
  generations : Grows RefreshToken.id GenerationContinues before.refreshTokens after.refreshTokens
  accesses : Grows AccessToken.id AccessContinues before.accessTokens after.accessTokens
  events : before.auditEvents <+: after.auditEvents
  zone : after.zone = before.zone

theorem Db.Grew.refl (db : Db) : db.Grew db where
  users := .refl UserContinues.refl _
  clients := .refl ClientContinues.refl _
  sessions := .refl SessionContinues.refl _
  grants := .refl GrantContinues.refl _
  codes := .refl CodeContinues.refl _
  families := .refl FamilyContinues.refl _
  generations := .refl GenerationContinues.refl _
  accesses := .refl AccessContinues.refl _
  events := List.prefix_refl _
  zone := rfl

theorem Db.Grew.trans (a b c : Db) (early : a.Grew b) (late : b.Grew c) : a.Grew c where
  users := early.users.trans UserContinues.trans late.users
  clients := early.clients.trans ClientContinues.trans late.clients
  sessions := early.sessions.trans SessionContinues.trans late.sessions
  grants := early.grants.trans GrantContinues.trans late.grants
  codes := early.codes.trans CodeContinues.trans late.codes
  families := early.families.trans FamilyContinues.trans late.families
  generations := early.generations.trans GenerationContinues.trans late.generations
  accesses := early.accesses.trans AccessContinues.trans late.accesses
  events := early.events.trans late.events
  zone := late.zone.trans early.zone

/-- Events are only appended. -/
theorem auditEvents_prefix {β : Type} {s : TableStmt AuditEvent Empty β} {db : Db}
    {rows : List AuditEvent} {answer : β}
    (ran : s.exec auditEventsTable db db.auditEvents = .ok (answer, rows)) :
    db.auditEvents <+: rows := by
  cases s with
  | insert row =>
    obtain ⟨-, rfl⟩ := TableStmt.exec_insert_ok.mp ran
    exact List.prefix_append _ _
  | lock matching =>
    obtain ⟨-, rfl⟩ := TableStmt.exec_lock_ok.mp ran
    exact List.prefix_refl _
  | update matching change => exact change.elim

/-- A delete that RESTRICTs goes through when nothing refers to the rows. -/
theorem restrict_ok {violations : List (Option PgError)} {after result : Db} :
    restrict violations after = .ok result ↔
      (∀ violation ∈ violations, violation = none) ∧ result = after := by
  rw [← firstViolation_eq_none, restrict]
  cases firstViolation violations with
  | none => simp [eq_comm]
  | some failure => simp

/-- The statements that delete no session and no token row. -/
def Stmt.keepsRows {β : Type} : Stmt β → Bool
  | .retireLoginSessions .. => false
  | .retireAuthorizationCodes .. => false
  | .retireAccessTokens .. => false
  | .retireRefreshTokens .. => false
  | .retireRefreshTokenFamilies .. => false
  | _ => true

theorem exec_grew {β : Type} {statement : Stmt β} {db after : Db} {answer : β}
    (keeps : statement.keepsRows) (executed : exec statement db = .ok (answer, after)) :
    db.Grew after := by
  have unchanged := Db.Grew.refl db
  cases statement with
  | read select | advisoryLock key | newEventID =>
    cases executed
    exact unchanged
  | deleteClientRedirectURIs clientID | deleteClientLogoutURIs clientID
  | deleteClientScopes clientID =>
    cases executed
    exact { unchanged with }
  | insertClientRedirectURI row | insertClientLogoutURI row | insertClientScope row =>
    rw [exec] at executed
    obtain ⟨rows, -, same⟩ := map_ok.mp executed
    cases same
    exact { unchanged with }
  | users s =>
    rw [exec] at executed
    obtain ⟨rows, ran, rfl⟩ := store_ok.mp executed
    exact { unchanged with users := s.exec_grows (users_respect db) ran }
  | clients s =>
    rw [exec] at executed
    obtain ⟨rows, ran, rfl⟩ := store_ok.mp executed
    exact { unchanged with clients := s.exec_grows (clients_respect db) ran }
  | loginSessions s =>
    rw [exec] at executed
    obtain ⟨rows, ran, rfl⟩ := store_ok.mp executed
    exact { unchanged with sessions := s.exec_grows (loginSessions_respect db) ran }
  | consentGrants s =>
    rw [exec] at executed
    obtain ⟨rows, ran, rfl⟩ := store_ok.mp executed
    exact { unchanged with grants := s.exec_grows (consentGrants_respect db) ran }
  | authorizationCodes s =>
    rw [exec] at executed
    obtain ⟨rows, ran, rfl⟩ := store_ok.mp executed
    exact { unchanged with codes := s.exec_grows (authorizationCodes_respect db) ran }
  | refreshTokenFamilies s =>
    rw [exec] at executed
    obtain ⟨rows, ran, rfl⟩ := store_ok.mp executed
    exact { unchanged with families := s.exec_grows (refreshTokenFamilies_respect db) ran }
  | refreshTokens s =>
    rw [exec] at executed
    obtain ⟨rows, ran, rfl⟩ := store_ok.mp executed
    exact { unchanged with generations := s.exec_grows (refreshTokens_respect db) ran }
  | accessTokens s =>
    rw [exec] at executed
    obtain ⟨rows, ran, rfl⟩ := store_ok.mp executed
    exact { unchanged with accesses := s.exec_grows (accessTokens_respect db) ran }
  | auditEvents s =>
    rw [exec] at executed
    obtain ⟨rows, ran, rfl⟩ := store_ok.mp executed
    exact { unchanged with events := auditEvents_prefix ran }
  | credentials s | clientSecrets s | preAuthSessions s | authTransactions s
  | logoutTransactions s =>
    rw [exec] at executed
    obtain ⟨rows, ran, rfl⟩ := store_ok.mp executed
    exact { unchanged with }
  | expireAuthTransactions now limit locked =>
    rw [exec] at executed
    obtain ⟨⟨ended, stored⟩, ran, same⟩ := map_ok.mp executed
    obtain ⟨rows, -, rfl⟩ := store_ok.mp ran
    cases same
    exact { unchanged with }
  | retirePreAuthSessions cutoff limit locked | retireLogoutTransactions now cutoff limit locked =>
    rw [exec] at executed
    cases (counted_ok.mp executed).1
    exact { unchanged with }
  | retireAuthTransactions cutoff limit locked =>
    rw [exec] at executed
    have deleted := (counted_ok.mp executed).1
    rw [restrict_ok.mp deleted |>.2]
    exact { unchanged with }
  | retireLoginSessions cutoff limit locked | retireAuthorizationCodes cutoff limit locked
  | retireAccessTokens cutoff limit locked | retireRefreshTokens cutoff limit locked
  | retireRefreshTokenFamilies cutoff limit locked => cases keeps

/-! ## Statements that retire rows -/

/-- No token of the state names the family. -/
def Db.Unreferenced (db : Db) (familyID : Uuid) : Prop :=
  (∀ generation ∈ db.refreshTokens, generation.familyID ≠ familyID) ∧
    ∀ token ∈ db.accessTokens, token.refreshFamilyID ≠ some familyID

/-- No row was added, users, clients, grants and events stayed, and a family went only when nothing
names it any more. -/
structure Db.Shrank (before after : Db) : Prop where
  users : after.users = before.users
  clients : after.clients = before.clients
  grants : after.consentGrants = before.consentGrants
  events : after.auditEvents = before.auditEvents
  zone : after.zone = before.zone
  sessions : Shrinks LoginSession.id SessionContinues before.loginSessions after.loginSessions
  codes : Shrinks AuthorizationCode.id CodeContinues before.authorizationCodes
    after.authorizationCodes
  families : Shrinks RefreshTokenFamily.id FamilyContinues before.refreshTokenFamilies
    after.refreshTokenFamilies
  generations : Shrinks RefreshToken.id GenerationContinues before.refreshTokens
    after.refreshTokens
  accesses : Shrinks AccessToken.id AccessContinues before.accessTokens after.accessTokens
  familyKept : ∀ family ∈ before.refreshTokenFamilies,
    (∃ kept ∈ after.refreshTokenFamilies, kept.id = family.id) ∨ after.Unreferenced family.id

theorem Db.Shrank.refl (db : Db) : db.Shrank db where
  users := rfl
  clients := rfl
  grants := rfl
  events := rfl
  zone := rfl
  sessions := .refl SessionContinues.refl _
  codes := .refl CodeContinues.refl _
  families := .refl FamilyContinues.refl _
  generations := .refl GenerationContinues.refl _
  accesses := .refl AccessContinues.refl _
  familyKept family member := Or.inl ⟨family, member, rfl⟩

/-- What nothing names before a retirement nothing names after it. -/
theorem Db.Shrank.unreferenced {before after : Db} (shrank : before.Shrank after) {familyID : Uuid}
    (free : before.Unreferenced familyID) : after.Unreferenced familyID := by
  constructor
  · intro generation member
    obtain ⟨old, inBefore, -, continued⟩ := shrank.generations generation member
    rw [continued.same]
    exact free.1 old inBefore
  · intro token member
    obtain ⟨old, inBefore, -, continued⟩ := shrank.accesses token member
    rw [continued.same]
    exact free.2 old inBefore

theorem Db.Shrank.trans (a b c : Db) (early : a.Shrank b) (late : b.Shrank c) : a.Shrank c where
  users := late.users.trans early.users
  clients := late.clients.trans early.clients
  grants := late.grants.trans early.grants
  events := late.events.trans early.events
  zone := late.zone.trans early.zone
  sessions := Shrinks.trans SessionContinues.trans early.sessions late.sessions
  codes := Shrinks.trans CodeContinues.trans early.codes late.codes
  families := Shrinks.trans FamilyContinues.trans early.families late.families
  generations := Shrinks.trans GenerationContinues.trans early.generations late.generations
  accesses := Shrinks.trans AccessContinues.trans early.accesses late.accesses
  familyKept family member := by
    rcases early.familyKept family member with ⟨kept, inB, sameID⟩ | free
    · rw [← sameID]
      exact late.familyKept kept inB
    · exact Or.inr (late.unreferenced free)

/-- A foreign-key action on access tokens that forgets a code or a session. -/
theorem unlinkAccessTokens_ok {db after : Db} {refers : AccessToken → Bool}
    {unlink : AccessToken → AccessToken}
    (unlinked : unlinkAccessTokens db refers unlink = .ok after) :
    after = { db with accessTokens := updateRows refers unlink db.accessTokens } := by
  rw [unlinkAccessTokens] at unlinked
  split at unlinked
  · cases unlinked
  · cases unlinked
    rfl

/-- Unlinking the rows that refer to a deleted row keeps every family. -/
theorem kept_of_unlinked {matching : RefreshTokenFamily → Bool}
    {unlink : RefreshTokenFamily → RefreshTokenFamily} {rows : List RefreshTokenFamily}
    (sameID : ∀ family, (unlink family).id = family.id) {family : RefreshTokenFamily}
    (member : family ∈ rows) : ∃ kept ∈ updateRows matching unlink rows, kept.id = family.id := by
  refine ⟨_, mem_updateRows.mpr ⟨family, member, rfl⟩, ?_⟩
  split
  · exact sameID family
  · rfl

/-- What is left when login sessions are deleted. -/
theorem deleteLoginSessions_ok {db after : Db} {doomed : List LoginSession}
    (deleted : deleteLoginSessions db doomed = .ok after) :
    after = { db with
      loginSessions := survivors (·.id) doomed db.loginSessions
      authorizationCodes := updateRows (refersTo LoginSession.id doomed ·.originSessionID)
        (fun r => { r with originSessionID := none }) db.authorizationCodes
      refreshTokenFamilies := updateRows (refersTo LoginSession.id doomed ·.originSessionID)
        (fun r => { r with originSessionID := none }) db.refreshTokenFamilies
      accessTokens := updateRows (refersTo LoginSession.id doomed ·.originSessionID)
        (fun r => { r with originSessionID := none }) db.accessTokens } := by
  rw [deleteLoginSessions] at deleted
  obtain ⟨unlinked, ran, finished⟩ := bind_ok.mp deleted
  split at finished
  · cases finished
  · rw [← Except.ok.inj finished, unlinkAccessTokens_ok ran]

theorem deleteLoginSessions_shrank {db after : Db} {doomed : List LoginSession}
    (deleted : deleteLoginSessions db doomed = .ok after) : db.Shrank after := by
  rw [deleteLoginSessions_ok deleted]
  refine { Db.Shrank.refl db with
    sessions := shrinks_filter _ SessionContinues.refl
    codes := shrinks_updateRows CodeContinues.refl (fun _ => rfl) ?_
    families := shrinks_updateRows FamilyContinues.refl (fun _ => rfl) ?_
    accesses := shrinks_updateRows AccessContinues.refl (fun _ => rfl) ?_
    familyKept := fun family member => Or.inl (kept_of_unlinked ?_ member) }
  · intro row _ _
    exact ⟨rfl, .refl _, Or.inr rfl⟩
  · intro row _ _
    exact ⟨rfl, .refl _, .refl _⟩
  · intro row _ _
    exact ⟨rfl, .refl _, .refl _⟩
  · exact fun _ => rfl

theorem deleteAuthorizationCodes_shrank {db after : Db} {doomed : List AuthorizationCode}
    (deleted : deleteAuthorizationCodes db doomed = .ok after) : db.Shrank after := by
  rw [deleteAuthorizationCodes] at deleted
  rw [unlinkAccessTokens_ok deleted]
  refine { Db.Shrank.refl db with
    codes := shrinks_filter _ CodeContinues.refl
    families := shrinks_updateRows FamilyContinues.refl (fun _ => rfl) ?_
    accesses := shrinks_updateRows AccessContinues.refl (fun _ => rfl) ?_
    familyKept := fun family member => Or.inl (kept_of_unlinked ?_ member) }
  · intro row _ _
    exact ⟨rfl, .refl _, Or.inr rfl⟩
  · intro row _ _
    exact ⟨rfl, .refl _, Or.inr rfl⟩
  · exact fun _ => rfl

theorem deleteRefreshTokens_shrank {db after : Db} {doomed : List RefreshToken}
    (deleted : deleteRefreshTokens db doomed = .ok after) : db.Shrank after := by
  rw [deleteRefreshTokens] at deleted
  rw [(restrict_ok.mp deleted).2]
  exact { Db.Shrank.refl db with
    generations := shrinks_filter _ GenerationContinues.refl
    familyKept := fun family member => Or.inl ⟨family, member, rfl⟩ }

theorem deleteRefreshTokenFamilies_shrank {db after : Db} {doomed : List RefreshTokenFamily}
    (deleted : deleteRefreshTokenFamilies db doomed = .ok after) : db.Shrank after := by
  rw [deleteRefreshTokenFamilies] at deleted
  obtain ⟨restricted, rfl⟩ := restrict_ok.mp deleted
  simp only [List.mem_cons, List.not_mem_nil, or_false, forall_eq_or_imp, forall_eq,
    foreignKeyViolation_eq_none, Bool.not_eq_true', List.any_eq_false] at restricted
  refine { Db.Shrank.refl db with
    families := shrinks_filter _ FamilyContinues.refl
    familyKept := fun family member => ?_ }
  by_cases isDoomed : doomed.any (·.id == family.id)
  · right
    constructor
    · intro generation inTable named
      refine restricted.1 generation inTable ?_
      rw [named]
      exact isDoomed
    · intro token inTable named
      refine restricted.2 token inTable ?_
      rw [named]
      exact isDoomed
  · left
    exact ⟨family, List.mem_filter.mpr ⟨member, by simpa using isDoomed⟩, rfl⟩

/-- The statements that retire rows. -/
def Stmt.retires {β : Type} : Stmt β → Bool
  | .retirePreAuthSessions .. => true
  | .retireLoginSessions .. => true
  | .retireAuthorizationCodes .. => true
  | .retireAccessTokens .. => true
  | .retireRefreshTokens .. => true
  | .retireRefreshTokenFamilies .. => true
  | _ => false

theorem exec_shrank {β : Type} {statement : Stmt β} {db after : Db} {answer : β}
    (retires : statement.retires) (executed : exec statement db = .ok (answer, after)) :
    db.Shrank after := by
  cases statement with
  | retirePreAuthSessions cutoff limit locked =>
    rw [exec] at executed
    cases (counted_ok.mp executed).1
    exact { Db.Shrank.refl db with }
  | retireAccessTokens cutoff limit locked =>
    rw [exec] at executed
    cases (counted_ok.mp executed).1
    exact { Db.Shrank.refl db with
      accesses := shrinks_filter _ AccessContinues.refl
      familyKept := fun family member => Or.inl ⟨family, member, rfl⟩ }
  | retireLoginSessions cutoff limit locked =>
    rw [exec] at executed
    have deleted := (counted_ok.mp executed).1
    exact deleteLoginSessions_shrank deleted
  | retireAuthorizationCodes cutoff limit locked =>
    rw [exec] at executed
    have deleted := (counted_ok.mp executed).1
    exact deleteAuthorizationCodes_shrank deleted
  | retireRefreshTokens cutoff limit locked =>
    rw [exec] at executed
    have deleted := (counted_ok.mp executed).1
    exact deleteRefreshTokens_shrank deleted
  | retireRefreshTokenFamilies cutoff limit locked =>
    rw [exec] at executed
    have deleted := (counted_ok.mp executed).1
    exact deleteRefreshTokenFamilies_shrank deleted
  | _ => cases retires

end OneIssuer
