import OneIssuer.Store.Steps

/-!
# Exchange and refresh, run

What a successful code exchange and a successful refresh found in the database and what they left
behind. Both operations end in one of two ways: a replay that is recorded, or new tokens.
-/

set_option autoImplicit false

namespace OneIssuer.Store

open Relational Queries
open OneIssuer.Consent
open OneIssuer.Token

variable {sha : Sha256} {db after : Db}

/-! ## Events -/

/-- Events were appended and nothing else changed. -/
def Appended (events : List AuditEvent) (db after : Db) : Prop :=
  after = { db with auditEvents := db.auditEvents ++ events }

theorem Appended.trans {first second : List AuditEvent} {between : Db}
    (early : Appended first db between) (late : Appended second between after) :
    Appended (first ++ second) db after := by
  simp only [Appended] at *
  rw [late, early, List.append_assoc]

theorem insertProtocolAudit_appended {type : Audit.EventType} {result : Audit.Result}
    {actor target : Uuid} {targetType : Audit.TargetType} {requestID : Audit.RequestID}
    {changed : List String} {now : Time}
    (ran : (insertProtocolAudit type result actor targetType target requestID changed now).run exec
      db = .ok ((), after)) :
    ∃ event, Appended [event] db after ∧ event.eventType = type ∧
      event.targetType = some targetType ∧ event.targetID = some target := by
  obtain ⟨-, -, rfl⟩ := insertNewAudit_ok.mp ran
  exact ⟨_, rfl, rfl, rfl, rfl⟩

/-! ## Code exchange -/

/-- The authority an exchange hands to its callback. -/
def exchangedAuthority (input : ExchangeInput) (code : AuthorizationCode) (locked : LockedExchange)
    (user : User) (client : Client) : Authority :=
  { codeID := code.id, grantID := locked.grant.id, originSessionID := code.originSessionID
    sessionBindingID := code.sessionBindingID, user, client, scopes := locked.scopes
    nonce := valueString code.nonceValue, authenticatedAt := code.authTime, issuedAt := input.now }

/-- The authority of an exchange, as it stands in the database. -/
structure ExchangeLocked (sha : Sha256) (input : ExchangeInput) (mint : MintFunc) (db : Db)
    (code : AuthorizationCode) (locked : LockedExchange) : Prop where
  unexpired : input.now < code.expiresAt
  clientID : code.clientID = input.client.id
  user : ∃ user ∈ db.users, user.id = code.userID ∧ user.status = .active
  client : ∃ row ∈ db.clients, row.id = code.clientID ∧ row.status = .active
  scopes : canonicalScopes code.scopes = some locked.scopes
  grant : locked.grant ∈ db.consentGrants
  grantUser : locked.grant.userID = code.userID
  grantClient : locked.grant.clientID = code.clientID
  grantID : locked.grant.id = code.consentGrantID
  version : locked.grant.version = code.consentGrantVersion
  unrevoked : locked.grant.revokedAt = none
  covered : ∀ scope ∈ locked.scopes, scope ∈ locked.grant.scopes
  registered : ∃ row ∈ db.clients, row.id = code.clientID ∧
    ∀ scope ∈ locked.scopes, scope ∈ (db.clientOf row).scopes
  valid : validMintedTokens sha locked.minted input.now (locked.scopes.contains "offline_access")
  minted : ∃ user ∈ db.users, user.id = code.userID ∧ ∃ row ∈ db.clients, row.id = code.clientID ∧
    mint (exchangedAuthority input code locked user (db.clientOf row)) = .ok locked.minted

theorem lockExchangeAuthority_ok (sound : db.Sound) {input : ExchangeInput} {mint : MintFunc}
    {code : AuthorizationCode} {locked : LockedExchange}
    (ran : (lockExchangeAuthority sha input mint code).run exec db = .ok (locked, after)) :
    ExchangeLocked sha input mint db code locked ∧ after = db := by
  simp only [lockExchangeAuthority, Program.run_bind_ok, Program.run_require_ok,
    Program.run_need_ok, Program.run_ofExcept_ok, Program.run_pure_ok, Prod.mk.injEq] at ran
  obtain ⟨_, _, ⟨unexpired, rfl⟩, _, _, ⟨presented, rfl⟩, user, _, userLocked, ran⟩ := ran
  obtain ⟨⟨inUsers, userID⟩, rfl⟩ := sound.lockUserByID.mp userLocked
  obtain ⟨_, _, ⟨userActive, rfl⟩, client, _, clientLocked, ran⟩ := ran
  obtain ⟨row, inClients, rowID, rfl, rfl⟩ := (lockClient_ok sound).mp clientLocked
  obtain ⟨_, _, ⟨sameClient, rfl⟩, scopes, _, ⟨canonical, rfl⟩, _, _, ⟨registered, rfl⟩, grant, _,
    grantLocked, ran⟩ := ran
  obtain ⟨⟨inGrants, grantUser, grantClient⟩, rfl⟩ :=
    sound.lockConsentGrantByUserClient.mp grantLocked
  obtain ⟨_, _, ⟨grantMatches, rfl⟩, minted, _, ⟨isMinted, rfl⟩, _, _, ⟨valid, rfl⟩, rfl, rfl⟩ := ran
  simp only [Bool.and_eq_true, beq_iff_eq, decide_eq_true_eq, sameAuthenticatedClient,
    Option.isNone_iff_eq_none] at unexpired presented userActive sameClient grantMatches
  refine ⟨?_, rfl⟩
  exact
    { unexpired, clientID := presented.1.1.1, user := ⟨user, inUsers, userID, userActive⟩
      client := ⟨row, inClients, rowID, sameClient.1.1.1.1.2⟩, scopes := canonical
      grant := inGrants, grantUser, grantClient, grantID := grantMatches.1.1.1
      version := grantMatches.1.1.2, unrevoked := grantMatches.1.2
      covered := fun scope member => (covered_of_difference canonical grantMatches.2 scope member).1
      registered := ⟨row, inClients, rowID, scopeSubset_iff.mp registered⟩
      valid, minted := ⟨user, inUsers, userID, row, inClients, rowID, isMinted⟩ }

/-- The family and the generation an exchange creates, when it is offline. -/
def initialRows (code : AuthorizationCode) (locked : LockedExchange) :
    List RefreshTokenFamily × List RefreshToken :=
  match locked.minted.initialRefresh, code.sessionBindingID with
  | some initial, some binding =>
    ([initialFamily code locked binding initial], [initialGeneration locked initial])
  | _, _ => ([], [])

theorem mem_initialFamilies {code : AuthorizationCode} {locked : LockedExchange}
    {family : RefreshTokenFamily} (member : family ∈ (initialRows code locked).1) :
    ∃ initial binding, locked.minted.initialRefresh = some initial ∧
      code.sessionBindingID = some binding ∧ family = initialFamily code locked binding initial := by
  unfold initialRows at member
  split at member
  · rename_i initial binding isInitial isBinding
    exact ⟨initial, binding, isInitial, isBinding, List.mem_singleton.mp member⟩
  · cases member

theorem mem_initialGenerations {code : AuthorizationCode} {locked : LockedExchange}
    {generation : RefreshToken} (member : generation ∈ (initialRows code locked).2) :
    ∃ initial binding, locked.minted.initialRefresh = some initial ∧
      code.sessionBindingID = some binding ∧ generation = initialGeneration locked initial := by
  unfold initialRows at member
  split at member
  · rename_i initial binding isInitial isBinding
    exact ⟨initial, binding, isInitial, isBinding, List.mem_singleton.mp member⟩
  · cases member

/-- The database with the first rows of a family. -/
def founded (db : Db) (code : AuthorizationCode) (locked : LockedExchange) : Db :=
  { db with
    refreshTokenFamilies := db.refreshTokenFamilies ++ (initialRows code locked).1
    refreshTokens := db.refreshTokens ++ (initialRows code locked).2 }

/-- A generation that may be inserted lies inside its family. -/
theorem insideFamily_of_insert {row : RefreshToken} (allowed : row.insertViolation db = none) :
    ∃ family ∈ db.refreshTokenFamilies, family.id = row.familyID ∧
      family.createdAt ≤ row.issuedAt ∧ row.expiresAt ≤ family.absoluteExpiresAt := by
  have inside := firstViolation_eq_none.mp allowed
    (raised .checkViolation "refresh token lifetime exceeds family authority" !row.insideFamily db)
    (by simp)
  simp only [raised_eq_none, Bool.not_eq_false', RefreshToken.insideFamily] at inside
  split at inside
  · cases inside
  · rename_i family found
    simp only [Bool.and_eq_true, decide_eq_true_eq] at inside
    exact ⟨family, List.mem_of_find?_eq_some found, by simpa using List.find?_some found, inside⟩

theorem createInitialRefresh_ok {code : AuthorizationCode} {locked : LockedExchange}
    (ran : (createInitialRefresh code locked).run exec db = .ok ((), after)) :
    after = founded db code locked ∧
      (∀ initial, locked.minted.initialRefresh = some initial → code.sessionBindingID.isSome) ∧
      ∀ generation ∈ (initialRows code locked).2, ∃ family ∈ after.refreshTokenFamilies,
        family.id = generation.familyID ∧ family.createdAt ≤ generation.issuedAt ∧
          generation.expiresAt ≤ family.absoluteExpiresAt := by
  unfold createInitialRefresh at ran
  cases offline : locked.minted.initialRefresh with
  | none =>
    rw [offline] at ran
    cases ran
    simp [founded, initialRows, offline]
  | some initial =>
    rw [offline] at ran
    simp only [Program.run_bind_ok, Program.run_need_ok, Tx.query_ok, createRefreshTokenFamily,
      createRefreshToken, exec_insert_refreshTokenFamilies, exec_insert_refreshTokens] at ran
    obtain ⟨binding, _, ⟨bound, rfl⟩, _, _, ⟨-, rfl⟩, allowed, rfl⟩ := ran
    obtain ⟨session, -, isBinding⟩ := Option.bind_eq_some_iff.mp bound
    have inside := insideFamily_of_insert allowed
    simp only [founded, initialRows, offline, isBinding, Option.isSome_some, implies_true,
      List.mem_singleton, forall_eq, true_and]
    exact inside

/-- The event that records the replay of a code. -/
def isReplayOf (code : AuthorizationCode) (event : AuditEvent) : Prop :=
  event.eventType = .authorizationCodeExchangeRejected ∧
    event.targetType = some .authorizationCode ∧ event.targetID = some code.id

theorem recordReplay_ok {input : ExchangeInput} {code : AuthorizationCode}
    (ran : (recordReplay input code).run exec db = .ok ((), after)) :
    after = db ∨ ∃ event, isReplayOf code event ∧ (∀ old ∈ db.auditEvents, ¬ isReplayOf code old) ∧
      Appended [event] db after := by
  simp only [recordReplay, Program.run_bind_ok, Tx.query_ok,
    hasAuthorizationCodeExchangeRejection] at ran
  obtain ⟨recorded, s, executed, ran⟩ := ran
  cases executed
  split at ran
  · cases ran
    exact Or.inl rfl
  · rename_i unrecorded
    obtain ⟨event, appended, isType, isKind, isTarget⟩ := insertProtocolAudit_appended ran
    refine Or.inr ⟨event, ⟨isType, isKind, isTarget⟩, ?_, appended⟩
    rintro old member ⟨oldType, oldKind, oldTarget⟩
    refine unrecorded (List.any_eq_true.mpr ⟨old, member, ?_⟩)
    simp [oldType, oldKind, oldTarget]

/-- The events of a successful exchange are ordinary. -/
theorem auditExchange_ok {input : ExchangeInput} {code : AuthorizationCode}
    {locked : LockedExchange} (ran : (auditExchange input code locked).run exec db = .ok ((), after)) :
    ∃ events, Appended events db after ∧ ∀ event ∈ events, event.oncePerTarget = none := by
  simp only [auditExchange, Program.run_bind_ok] at ran
  obtain ⟨_, _, first, _, _, second, ran⟩ := ran
  obtain ⟨consumed, rfl, isConsumed, -⟩ := insertProtocolAudit_appended first
  obtain ⟨issued, rfl, isIssued, -⟩ := insertProtocolAudit_appended second
  have consumedOrdinary : consumed.oncePerTarget = none :=
    AuditEvent.oncePerTarget_eq_none (by rw [isConsumed]; decide)
  have issuedOrdinary : issued.oncePerTarget = none :=
    AuditEvent.oncePerTarget_eq_none (by rw [isIssued]; decide)
  cases offline : locked.minted.initialRefresh with
  | none =>
    rw [offline] at ran
    cases ran
    exact ⟨[consumed, issued], by simp [Appended], by simp [consumedOrdinary, issuedOrdinary]⟩
  | some initial =>
    rw [offline] at ran
    obtain ⟨refresh, rfl, isRefresh, -⟩ := insertProtocolAudit_appended ran
    have refreshOrdinary : refresh.oncePerTarget = none :=
      AuditEvent.oncePerTarget_eq_none (by rw [isRefresh]; decide)
    exact ⟨[consumed, issued, refresh], by simp [Appended],
      by simp [consumedOrdinary, issuedOrdinary, refreshOrdinary]⟩

/-- The codes after one was consumed. -/
def consumedCodes (codes : List AuthorizationCode) (id : Uuid) (now : Time) :
    List AuthorizationCode :=
  updateRows (fun r => CodeChange.guard (.consume now) r && r.id == id)
    (CodeChange.apply (.consume now)) codes

/-- A code that could be consumed was. -/
theorem mem_consumedCodes {codes : List AuthorizationCode} {code : AuthorizationCode} {now : Time}
    (inCodes : code ∈ codes) (unconsumed : code.consumedAt = none) (unexpired : now < code.expiresAt) :
    { code with consumedAt := some now } ∈ consumedCodes codes code.id now := by
  refine mem_updateRows.mpr ⟨code, inCodes, ?_⟩
  simp [CodeChange.guard, CodeChange.apply, unconsumed, unexpired]

/-- How an exchange that committed ended. -/
inductive ExchangeEnd (sha : Sha256) (input : ExchangeInput) (mint : MintFunc) (db : Db) :
    Except StoreError Response → Db → Prop where
  /-- The code was consumed before: at most its replay is recorded. -/
  | replayed {code : AuthorizationCode} {after : Db} (inCodes : code ∈ db.authorizationCodes)
      (presented : code.codeHash = input.codeHash) (consumed : code.consumedAt.isSome)
      (recorded : after = db ∨ ∃ event, isReplayOf code event ∧
        (∀ old ∈ db.auditEvents, ¬ isReplayOf code old) ∧ Appended [event] db after) :
      ExchangeEnd sha input mint db (.error .tokenInvalidGrant) after
  /-- The code is consumed and its tokens are there. -/
  | exchanged {code : AuthorizationCode} {locked : LockedExchange} {events : List AuditEvent}
      (inCodes : code ∈ db.authorizationCodes) (presented : code.codeHash = input.codeHash)
      (unconsumed : code.consumedAt = none)
      (locks : ExchangeLocked sha input mint db code locked)
      (bound : ∀ initial, locked.minted.initialRefresh = some initial →
        code.sessionBindingID.isSome)
      (inside : ∀ generation ∈ (initialRows code locked).2,
        ∃ family ∈ (founded db code locked).refreshTokenFamilies,
          family.id = generation.familyID ∧ family.createdAt ≤ generation.issuedAt ∧
            generation.expiresAt ≤ family.absoluteExpiresAt)
      (ordinary : ∀ event ∈ events, event.oncePerTarget = none) :
      ExchangeEnd sha input mint db (.ok (exchangeResponse locked))
        { founded db code locked with
          accessTokens := db.accessTokens ++ [exchangedAccess code locked]
          authorizationCodes := consumedCodes db.authorizationCodes code.id (timestamp input.now)
          auditEvents := db.auditEvents ++ events }

theorem exchangeAuthorizationCode_ok (sound : db.Sound) {input : ExchangeInput} {mint : MintFunc}
    {outcome : Except StoreError Response}
    (ran : (exchangeAuthorizationCode sha input mint).run exec db = .ok (outcome, after)) :
    ExchangeEnd sha input mint db outcome after := by
  simp only [exchangeAuthorizationCode, Program.run_bind_ok, Program.run_require_ok] at ran
  obtain ⟨_, _, ⟨-, rfl⟩, code, _, codeLocked, ran⟩ := ran
  obtain ⟨⟨inCodes, presented⟩, rfl⟩ := sound.lockAuthorizationCodeByHash.mp codeLocked
  split at ran
  · rename_i consumed
    simp only [Program.run_bind_ok, Program.run_pure_ok, Prod.mk.injEq] at ran
    obtain ⟨_, _, recorded, rfl, rfl⟩ := ran
    exact .replayed inCodes presented consumed (recordReplay_ok recorded)
  · rename_i unconsumed
    simp only [Program.run_bind_ok, Program.run_pure_ok, Prod.mk.injEq, Tx.query_ok] at ran
    obtain ⟨locked, _, authorityLocked, _, _, created, _, _, inserted, _, _, consumed, _, _,
      audited, rfl, rfl⟩ := ran
    obtain ⟨locks, rfl⟩ := lockExchangeAuthority_ok sound authorityLocked
    obtain ⟨rfl, bound, inside⟩ := createInitialRefresh_ok created
    obtain ⟨-, rfl⟩ := exec_insert_accessTokens.mp inserted
    obtain ⟨rows, consuming, -⟩ := Tx.queryRow_ok.mp consumed
    obtain ⟨-, -, rfl⟩ := (query_update exec_update_authorizationCodes).mp consuming
    obtain ⟨events, rfl, ordinary⟩ := auditExchange_ok audited
    exact .exchanged inCodes presented (Option.not_isSome_iff_eq_none.mp unconsumed) locks bound
      inside ordinary

/-! ## Refresh -/

/-- The authority a refresh hands to its callback. -/
def refreshedAuthority (input : RefreshInput) (locked : LockedRefresh) (scopes : List String) :
    RefreshAuthority :=
  { presented := locked.presented, family := locked.family, grant := locked.grant
    user := locked.user, client := locked.client, accessScopes := scopes, issuedAt := input.now }

/-- The authority of a refresh, as it stands in the database. -/
structure RefreshLocked (input : RefreshInput) (candidate : RefreshToken)
    (candidateFamily : RefreshTokenFamily) (db : Db) (locked : LockedRefresh) : Prop where
  user : locked.user ∈ db.users
  userID : locked.user.id = candidateFamily.userID
  active : locked.user.status = .active
  client : ∃ row ∈ db.clients, row.id = candidateFamily.clientID ∧ locked.client = db.clientOf row
  sameClient : sameAuthenticatedClient locked.client input.client
  grant : locked.grant ∈ db.consentGrants
  grantUser : locked.grant.userID = candidateFamily.userID
  grantClient : locked.grant.clientID = candidateFamily.clientID
  grantID : locked.grant.id = candidateFamily.consentGrantID
  granted : locked.grant.revokedAt = none
  version : 1 ≤ locked.grant.version
  family : locked.family ∈ db.refreshTokenFamilies
  familyID : locked.family.id = candidate.familyID
  sameFamily : locked.family.id = candidateFamily.id
  familyUser : locked.family.userID = locked.user.id
  familyClient : locked.family.clientID = locked.client.id
  familyGrant : locked.family.consentGrantID = locked.grant.id
  unrevoked : locked.family.revokedAt = none
  unexpired : input.now < locked.family.absoluteExpiresAt
  presented : locked.presented ∈ db.refreshTokens
  presentedID : locked.presented.id = candidate.id
  presentedFamily : locked.presented.familyID = locked.family.id
  presentedHash : locked.presented.tokenHash = input.tokenHash

theorem lockRefreshAuthority_ok (sound : db.Sound) {input : RefreshInput} {candidate : RefreshToken}
    {candidateFamily : RefreshTokenFamily} {locked : LockedRefresh} :
    (lockRefreshAuthority input candidate candidateFamily).run exec db = .ok (locked, after) ↔
      RefreshLocked input candidate candidateFamily db locked ∧ after = db := by
  simp only [lockRefreshAuthority, Program.run_bind_ok, Program.run_require_ok,
    Program.run_pure_ok, Prod.mk.injEq]
  constructor
  · rintro ⟨user, _, userLocked, _, _, ⟨active, rfl⟩, client, _, clientLocked, _, _,
      ⟨sameClient, rfl⟩, grant, _, grantLocked, _, _, ⟨grantMatches, rfl⟩, family, _, familyLocked,
      _, _, ⟨familyMatches, rfl⟩, presented, _, presentedLocked, _, _, ⟨presentedMatches, rfl⟩, rfl,
      rfl⟩
    obtain ⟨⟨inUsers, userID⟩, rfl⟩ := sound.lockUserByID.mp userLocked
    obtain ⟨row, inClients, rowID, rfl, rfl⟩ := (lockClient_ok sound).mp clientLocked
    obtain ⟨⟨inGrants, grantUser, grantClient⟩, rfl⟩ :=
      sound.lockConsentGrantByUserClient.mp grantLocked
    obtain ⟨⟨inFamilies, familyID⟩, rfl⟩ := sound.lockRefreshTokenFamilyByID.mp familyLocked
    obtain ⟨⟨inGenerations, presentedID⟩, rfl⟩ := sound.lockRefreshTokenByID.mp presentedLocked
    simp only [Bool.and_eq_true, beq_iff_eq, decide_eq_true_eq, Option.isNone_iff_eq_none]
      at active grantMatches familyMatches presentedMatches
    obtain ⟨⟨grantID, granted⟩, version⟩ := grantMatches
    obtain ⟨⟨⟨⟨⟨sameFamily, familyUser⟩, familyClient⟩, familyGrant⟩, unrevoked⟩, unexpired⟩ :=
      familyMatches
    exact ⟨{
      user := inUsers, userID, active, client := ⟨row, inClients, rowID, rfl⟩, sameClient
      grant := inGrants, grantUser, grantClient, grantID, granted, version, family := inFamilies
      familyID, sameFamily, familyUser, familyClient, familyGrant, unrevoked, unexpired
      presented := inGenerations, presentedID, presentedFamily := presentedMatches.1
      presentedHash := presentedMatches.2 }, rfl⟩
  · rintro ⟨locks, rfl⟩
    obtain ⟨row, inClients, rowID, isClient⟩ := locks.client
    refine ⟨locked.user, _, sound.lockUserByID.mpr ⟨⟨locks.user, locks.userID⟩, rfl⟩, (), _,
      ⟨by simp [locks.active], rfl⟩, locked.client, _,
      (lockClient_ok sound).mpr ⟨row, inClients, rowID, isClient, rfl⟩, (), _,
      ⟨locks.sameClient, rfl⟩, locked.grant, _,
      sound.lockConsentGrantByUserClient.mpr
        ⟨⟨locks.grant, locks.grantUser, locks.grantClient⟩, rfl⟩, (), _, ⟨?_, rfl⟩, locked.family, _,
      sound.lockRefreshTokenFamilyByID.mpr ⟨⟨locks.family, locks.familyID⟩, rfl⟩, (), _, ⟨?_, rfl⟩,
      locked.presented, _,
      sound.lockRefreshTokenByID.mpr ⟨⟨locks.presented, locks.presentedID⟩, rfl⟩, (), _, ⟨?_, rfl⟩,
      rfl, rfl⟩
    · simp [locks.grantID, locks.granted, locks.version]
    · simp [← locks.sameFamily, locks.familyUser, locks.familyClient, locks.familyGrant,
        locks.unrevoked, locks.unexpired]
    · simp [locks.presentedFamily, locks.presentedHash]

/-- Revoking one family, which must be unrevoked. -/
theorem revokeFamily_ok (sound : db.Sound) {operation : String} {absent : StoreError} {now : Time}
    {reason : RevokeReason} {id : Uuid} {row : RefreshTokenFamily} :
    (Tx.queryRow operation absent (revokeRefreshTokenFamily now (some reason) id)).run exec db =
        .ok (row, after) ↔
      ∃ old ∈ db.refreshTokenFamilies, old.id = id ∧ old.revokedAt = none ∧
        checkViolation ((old.revoked now reason).checks db.zone) = none ∧
        row = old.revoked now reason ∧ after = db.revokedFamilies (.family id) now reason := by
  refine (queryRow_update exec_update_refreshTokenFamilies
    (unique_of_key sound.families.distinct id)).trans ?_
  constructor
  · rintro ⟨old, member, isID, unrevoked, allowed, rfl, rfl⟩
    exact ⟨old, member, beq_iff_eq.mp isID, Option.isNone_iff_eq_none.mp unrevoked, allowed, rfl,
      rfl⟩
  · rintro ⟨old, member, isID, unrevoked, allowed, rfl, rfl⟩
    exact ⟨old, member, beq_iff_eq.mpr isID, Option.isNone_iff_eq_none.mpr unrevoked, allowed, rfl,
      rfl⟩

/-- The database after the reuse of a generation, before its events. -/
def reusedDb (db : Db) (id : Uuid) (now : Time) : Db :=
  (db.revokedFamilies (.family id) now .reuse).revokedAccesses (.family id) now .familyRevoked

/-- The event that records the reuse of a generation. -/
def isReuseOf (id : Uuid) (event : AuditEvent) : Prop :=
  event.eventType = .refreshTokenReuseDetected ∧ event.targetType = some .refreshToken ∧
    event.targetID = some id

/-- The two statements of a reuse that may fail: they stamp what was not created later. -/
theorem stampReused_iff (sound : db.Sound) {now : Time} {family : RefreshTokenFamily}
    (stored : family ∈ db.refreshTokenFamilies) (unrevoked : family.revokedAt = none) :
    checkViolation ((family.revoked now .reuse).checks db.zone) = none ∧
        db.AccessesStampable (.family family.id) now .familyRevoked ↔
      db.InOrder (.family family.id) (.family family.id) now := by
  have inOrder : db.FamiliesStampable (.family family.id) now .reuse ∧
      db.AccessesStampable (.family family.id) now .familyRevoked ↔ _ :=
    inOrder_iff sound (by decide) (by decide)
  rw [← inOrder]
  refine and_congr_left fun _ => ?_
  constructor
  · intro allowed row member selected
    obtain ⟨-, isFamily⟩ := Bool.and_eq_true_iff.mp selected
    obtain rfl := sound.families.unique member stored (beq_iff_eq.mp isFamily)
    exact allowed
  · intro stampable
    exact stampable family stored (by simp [Selector.stampsFamily, unrevoked, Selector.ofFamily])

theorem revokeReusedFamily_ok (sound : db.Sound) {input : RefreshInput} {locked : LockedRefresh}
    (ran : (revokeReusedFamily input locked).run exec db = .ok ((), after)) :
    ∃ reuse revoked, isReuseOf locked.presented.id reuse ∧ revoked.oncePerTarget = none ∧
      Appended [reuse, revoked] (reusedDb db locked.family.id (timestamp input.now)) after ∧
      db.InOrder (.family locked.family.id) (.family locked.family.id) (timestamp input.now) := by
  simp only [revokeReusedFamily, Program.run_bind_ok, Tx.query_ok] at ran
  obtain ⟨row, _, familyRevoked, _, _, accessRevoked, _, _, reported, revokedReported⟩ := ran
  obtain ⟨old, stored, sameID, unrevoked, allowed, -, rfl⟩ := (revokeFamily_ok sound).mp familyRevoked
  obtain ⟨stampable, -, rfl⟩ := exec_revokeLiveAccessTokens.mp accessRevoked
  obtain ⟨reuse, rfl, isType, isKind, isTarget⟩ := insertProtocolAudit_appended reported
  obtain ⟨revoked, rfl, isRevoked, -⟩ := insertProtocolAudit_appended revokedReported
  refine ⟨reuse, revoked, ⟨isType, isKind, isTarget⟩, ?_, by simp [Appended, reusedDb], ?_⟩
  · exact AuditEvent.oncePerTarget_eq_none (by rw [isRevoked]; decide)
  · rw [← sameID] at stampable ⊢
    exact (stampReused_iff sound stored unrevoked).mp ⟨allowed, stampable⟩

/-- When a reuse can be recorded. -/
theorem revokeReusedFamily_run (sound : db.Sound) {input : RefreshInput} {locked : LockedRefresh}
    (stored : locked.family ∈ db.refreshTokenFamilies) (unrevoked : locked.family.revokedAt = none)
    (inOrder : db.InOrder (.family locked.family.id) (.family locked.family.id)
      (timestamp input.now))
    (known : ∃ user ∈ db.users, user.id = locked.family.userID) (notZero : input.now ≠ 0)
    (notNil : locked.family.id ≠ Uuid.nil ∧ locked.presented.id ≠ Uuid.nil)
    (unrecorded : ∀ old ∈ db.auditEvents, old.oncePerTarget ≠ none →
      old.eventType = .refreshTokenReuseDetected → old.targetID ≠ some locked.presented.id) :
    ∃ after, (revokeReusedFamily input locked).run exec db = .ok ((), after) := by
  obtain ⟨allowed, stampable⟩ := (stampReused_iff sound stored unrevoked).mpr inOrder
  let stamped := reusedDb db locked.family.id (timestamp input.now)
  obtain ⟨reuse, -, reported⟩ : ∃ event, _ ∧
      (insertProtocolAudit .refreshTokenReuseDetected .rejected locked.family.userID .refreshToken
        locked.presented.id input.requestID ["reused"] input.now).run exec stamped =
        .ok ((), stamped.logged event) :=
    insertProtocolAudit_run known notNil.2 notZero (by decide) fun _ => unrecorded
  obtain ⟨revoked, -, revokedReported⟩ : ∃ event, _ ∧
      (insertProtocolAudit .refreshTokenFamilyRevoked .success locked.family.userID .refreshFamily
        locked.family.id input.requestID ["revoked"] input.now).run exec (stamped.logged reuse) =
        .ok ((), (stamped.logged reuse).logged event) :=
    insertProtocolAudit_run known notNil.1 notZero (by decide) (by simp)
  refine ⟨(stamped.logged reuse).logged revoked, ?_⟩
  simp only [revokeReusedFamily, Program.run_bind_ok, Tx.query_ok]
  exact ⟨_, _, (revokeFamily_ok sound).mpr
      ⟨locked.family, stored, rfl, unrevoked, allowed, rfl, rfl⟩, _, _,
    exec_revokeLiveAccessTokens.mpr ⟨stampable, rfl, rfl⟩, _, _, reported, revokedReported⟩

/-- The generations after one was consumed. -/
def consumedGenerations (generations : List RefreshToken) (id : Uuid) (now : Time) :
    List RefreshToken :=
  updateRows (fun r => GenerationChange.guard (.consume now) r && r.id == id)
    (GenerationChange.apply (.consume now)) generations

/-- A generation that could be consumed was. -/
theorem mem_consumedGenerations {generations : List RefreshToken} {generation : RefreshToken}
    {now : Time} (inGenerations : generation ∈ generations)
    (unconsumed : generation.consumedAt = none) :
    { generation with consumedAt := some now } ∈
      consumedGenerations generations generation.id now := by
  refine mem_updateRows.mpr ⟨generation, inGenerations, ?_⟩
  simp [GenerationChange.guard, GenerationChange.apply, unconsumed]

/-- The scopes of a refreshed access token are within the family, the grant and the client. -/
theorem selectRefreshAccessScopes_ok {requested : Option (List String)}
    {familyScopes grantScopes clientScopes scopes : List String}
    (selected : selectRefreshAccessScopes requested familyScopes grantScopes clientScopes =
      .ok scopes) :
    ∀ scope ∈ scopes, scope ∈ familyScopes ∧ scope ∈ grantScopes ∧ scope ∈ clientScopes := by
  simp only [selectRefreshAccessScopes] at selected
  split at selected
  · cases selected
  · rename_i family canonical
    obtain ⟨isCanonical, -⟩ := Option.filter_eq_some_iff.mp canonical
    obtain ⟨rfl, -⟩ := canonicalScopes_some isCanonical
    have effective : ∀ scope ∈ intersection (intersection (sortStrings familyScopes) grantScopes)
        clientScopes, scope ∈ familyScopes ∧ scope ∈ grantScopes ∧ scope ∈ clientScopes := by
      intro scope member
      obtain ⟨inBoth, -, inClient⟩ := mem_intersection.mp member
      obtain ⟨inFamily, -, inGrant⟩ := mem_intersection.mp inBoth
      exact ⟨mem_sortStrings.mp inFamily, inGrant, inClient⟩
    split at selected
    · cases selected
    · split at selected
      · cases selected
        exact effective
      · split at selected
        · cases selected
        · split at selected
          · rename_i subset
            cases selected
            intro scope member
            exact effective scope
              (scopeSubset_iff.mp (Bool.and_eq_true_iff.mp subset).2 scope member)
          · cases selected

/-- How a refresh that committed ended. -/
inductive RefreshEnd (sha : Sha256) (input : RefreshInput) (mint : RefreshMintFunc)
    (candidate : RefreshToken) (candidateFamily : RefreshTokenFamily) (db : Db) :
    Except StoreError Response → Db → Prop where
  /-- The generation was consumed before: its family is revoked. -/
  | reused {locked : LockedRefresh} {reuse revoked : AuditEvent} {after : Db}
      (locks : RefreshLocked input candidate candidateFamily db locked)
      (consumed : locked.presented.consumedAt.isSome)
      (recorded : isReuseOf locked.presented.id reuse) (ordinary : revoked.oncePerTarget = none)
      (appended : Appended [reuse, revoked] (reusedDb db locked.family.id (timestamp input.now))
        after)
      (inOrder : db.InOrder (.family locked.family.id) (.family locked.family.id)
        (timestamp input.now)) :
      RefreshEnd sha input mint candidate candidateFamily db (.error .tokenInvalidGrant) after
  /-- The generation is consumed and its successor is there. -/
  | rotated {locked : LockedRefresh} {scopes : List String} {minted : RefreshMinted}
      {events : List AuditEvent}
      (locks : RefreshLocked input candidate candidateFamily db locked)
      (unconsumed : locked.presented.consumedAt = none)
      (unexpired : input.now < locked.presented.expiresAt)
      (selected : selectRefreshAccessScopes input.requestedScopes locked.family.scopes
        locked.grant.scopes locked.client.scopes = .ok scopes)
      (valid : validRefreshMinted sha minted locked.presented locked.family input.now)
      (inside : ∃ family ∈ db.refreshTokenFamilies,
        family.id = (replacementGeneration locked minted).familyID ∧
          family.createdAt ≤ (replacementGeneration locked minted).issuedAt ∧
          (replacementGeneration locked minted).expiresAt ≤ family.absoluteExpiresAt)
      (ordinary : ∀ event ∈ events, event.oncePerTarget = none)
      (isMinted : mint (refreshedAuthority input locked scopes) = .ok minted) :
      RefreshEnd sha input mint candidate candidateFamily db (.ok (refreshResponse scopes minted))
        { db with
          refreshTokens :=
            consumedGenerations db.refreshTokens locked.presented.id (timestamp input.now) ++
              [replacementGeneration locked minted]
          accessTokens := db.accessTokens ++ [refreshedAccess locked scopes minted]
          auditEvents := db.auditEvents ++ events }

theorem exchangeRefreshToken_ok (sound : db.Sound) {input : RefreshInput} {mint : RefreshMintFunc}
    {candidate : RefreshToken} {candidateFamily : RefreshTokenFamily}
    {outcome : Except StoreError Response}
    (ran : (exchangeRefreshToken sha input mint candidate candidateFamily).run exec db =
      .ok (outcome, after)) :
    RefreshEnd sha input mint candidate candidateFamily db outcome after := by
  simp only [exchangeRefreshToken, Program.run_bind_ok, Program.run_require_ok] at ran
  obtain ⟨_, _, ⟨-, rfl⟩, locked, _, authorityLocked, ran⟩ := ran
  obtain ⟨locks, rfl⟩ := (lockRefreshAuthority_ok sound).mp authorityLocked
  split at ran
  · rename_i consumed
    simp only [Program.run_bind_ok, Program.run_pure_ok, Prod.mk.injEq] at ran
    obtain ⟨_, _, revoking, rfl, rfl⟩ := ran
    obtain ⟨reuse, revoked, recorded, ordinary, appended, inOrder⟩ :=
      revokeReusedFamily_ok sound revoking
    exact .reused locks consumed recorded ordinary appended inOrder
  · rename_i unconsumed
    simp only [rotateGeneration, Program.run_bind_ok, Program.run_pure_ok, Program.run_require_ok,
      Program.run_ofExcept_ok, Prod.mk.injEq, Tx.query_ok] at ran
    obtain ⟨_, _, ⟨_, _, ⟨unexpired, rfl⟩, scopes, _, ⟨selected, rfl⟩, minted, _, ⟨isMinted, rfl⟩, _, _,
      ⟨valid, rfl⟩, _, _, consumed, _, _, replaced, _, _, inserted, _, _, rotated, _, _, issued,
      rfl, rfl⟩, rfl, rfl⟩ := ran
    obtain ⟨rows, consuming, -⟩ := Tx.queryRow_ok.mp consumed
    obtain ⟨-, -, rfl⟩ := (query_update exec_update_refreshTokens).mp consuming
    obtain ⟨allowed, rfl⟩ := exec_insert_refreshTokens.mp replaced
    obtain ⟨-, rfl⟩ := exec_insert_accessTokens.mp inserted
    obtain ⟨rotation, first, isRotation, -⟩ := insertProtocolAudit_appended rotated
    obtain ⟨issue, second, isIssue, -⟩ := insertProtocolAudit_appended issued
    obtain rfl := first.trans second
    refine .rotated locks (Option.not_isSome_iff_eq_none.mp unconsumed)
      (of_decide_eq_true unexpired) selected valid ?_ ?_ isMinted
    · have inside := insideFamily_of_insert allowed
      exact inside
    · simp only [List.cons_append, List.nil_append, List.mem_cons, List.not_mem_nil, or_false,
        forall_eq_or_imp, forall_eq]
      exact ⟨AuditEvent.oncePerTarget_eq_none (by rw [isRotation]; decide),
        AuditEvent.oncePerTarget_eq_none (by rw [isIssue]; decide)⟩

end OneIssuer.Store
