import OneIssuer.Footprint
import OneIssuer.Store.TokenSteps

/-!
# Changes of authority, run

What the operations leave behind that take authority away or grant it: user and client updates,
grant revocation, code issue. Where an operation ends with a cascade, `Dead` says that nothing the
cascade selects survives the operation.
-/

set_option autoImplicit false

namespace OneIssuer

open Relational Queries

/-! ## Dead selections stay dead -/

/-- A selection of families looks at columns that never change. -/
theorem Queries.Selector.ofFamily_continues {old new : RefreshTokenFamily}
    (moved : FamilyContinues old new) (selector : Selector) :
    selector.ofFamily new = selector.ofFamily old := by
  rw [moved.same]
  cases selector <;> rfl

/-- A selection of access tokens looks at columns that never change. -/
theorem Queries.Selector.ofAccess_continues {old new : AccessToken}
    (moved : AccessContinues old new) (selector : Selector) :
    selector.ofAccess new = selector.ofAccess old := by
  rw [moved.same]
  cases selector <;> rfl

/-- A dead access token stays dead. -/
theorem AccessContinues.dead {old new : AccessToken} (moved : AccessContinues old new)
    {now later : Time} (notEarlier : now ≤ later)
    (dead : old.revokedAt.isSome ∨ old.expiresAt ≤ now) :
    new.revokedAt.isSome ∨ new.expiresAt ≤ later := by
  rcases dead with revoked | expired
  · exact Or.inl (moved.revokedAt.isSome revoked)
  · right
    rw [moved.same]
    exact expired.trans notEarlier

theorem Db.Dead.moved {before after : Db} {families accesses : Selector} {now later : Time}
    (dead : before.Dead families accesses now) (notEarlier : now ≤ later)
    (familiesMoved : Moved FamilyContinues before.refreshTokenFamilies after.refreshTokenFamilies)
    (accessesMoved : Moved AccessContinues before.accessTokens after.accessTokens) :
    after.Dead families accesses later where
  families family member selected := by
    obtain ⟨old, inBefore, moved⟩ := familiesMoved.origin member
    rw [families.ofFamily_continues moved] at selected
    exact moved.revokedAt.isSome (dead.families old inBefore selected)
  accesses token member selected := by
    obtain ⟨old, inBefore, moved⟩ := accessesMoved.origin member
    rw [accesses.ofAccess_continues moved] at selected
    exact moved.dead notEarlier (dead.accesses old inBefore selected)

theorem Db.Dead.stayed {before after : Db} {families accesses : Selector} {now later : Time}
    (dead : before.Dead families accesses now) (notEarlier : now ≤ later)
    (stayed : Db.Stayed [.quiet] before after) : after.Dead families accesses later :=
  dead.moved notEarlier (stayed.families (by simp)) (stayed.accesses (by simp))

namespace Store

variable {db after : Db}

/-! ## Users -/

/-- The users after a profile update. -/
def updatedUsers (db : Db) (updated : User) : List User :=
  updateRows (fun r => r.id == updated.id && r.version == updated.version)
    (profileChange updated).apply db.users

/-- An update of a user changes the row, then only revokes; a disabled user has nothing left. -/
theorem updateManagedUser_ok {commit : UpdateUserCommit} {row : User}
    (ran : (updateManagedUser commit).run exec db = .ok (row, after)) :
    Db.Stayed [.quiet] { db with users := updatedUsers db commit.updated } after ∧
      (commit.updated.status = .disabled →
        after.Dead (.user commit.updated.id) (.user commit.updated.id)
          (timestamp commit.updated.updatedAt)) := by
  have quiet : Kind.quiet ∈ [Kind.quiet] := List.mem_cons_self
  simp only [updateManagedUser, Program.run_bind_ok, Tx.query_ok, write_ok, Program.run_need_ok,
    Program.run_pure_ok, Prod.mk.injEq] at ran
  obtain ⟨_, _, locked, current, _, currentLocked, _, _, guarded, _, _, checked, rows, _, updated, _,
    _, ⟨-, rfl⟩, sessions, _, sessionsLocked, _, s, disabled, _, _, revoked, _, _, audited, -, rfl⟩ :=
    ran
  cases locked
  obtain ⟨_, lockedRows, -⟩ := Tx.queryRow_ok.mp currentLocked
  obtain ⟨-, rfl⟩ := exec_lock_users.mp lockedRows
  obtain rfl := protectLastAdmin_unchanged guarded
  obtain rfl := lockAndCheckIdentifiers_unchanged checked
  obtain ⟨-, -, rfl⟩ := (query_update exec_update_users).mp updated
  obtain rfl := lockUserSessions_unchanged sessionsLocked
  have afterCascade : Db.Stayed [.quiet] s after :=
    .trans _ _ _ (run_stayed (revokeChangedUserSessions_within quiet ..) (by simp) revoked)
      (run_stayed (serviceAudit_within quiet _) (by simp) audited)
  constructor
  · exact .trans _ _ _ (run_stayed (disableUserAuthority_within quiet _) (by simp) disabled)
      afterCascade
  · intro isDisabled
    rw [disableUserAuthority, if_pos (by simp [isDisabled])] at disabled
    obtain ⟨-, -, rfl⟩ := cascade_ok.mp disabled
    exact cascaded_dead.stayed le_rfl afterCascade

/-! ## Clients -/

/-- The clients after a profile update. -/
def updatedClients (db : Db) (value : Client) : List ClientRow :=
  updateRows (fun r => r.id == value.id && r.version == value.version) (clientChange value).apply
    db.clients

/-- A client is registered for a scope. -/
def registered (db : Db) (clientID : Uuid) (scope : String) : Prop :=
  ∃ row ∈ db.clientScopes, row.clientID = clientID ∧ row.scope = scope

/-- An update of a client changes the row and its children, then only revokes. A disabled client has
nothing left; a client that loses `offline_access` has no family left and no access token with one. -/
theorem updateClient_ok {value : Client} {event : Audit.ServiceEvent}
    (ran : (updateClient value event).run exec db = .ok ((), after)) :
    Db.Stayed [.quiet] { db with clients := updatedClients db value } after ∧
      (value.status = .disabled →
        after.Dead (.client value.id) (.client value.id) (timestamp value.updatedAt)) ∧
      (registered db value.id "offline_access" → "offline_access" ∉ value.scopes →
        after.Dead (.client value.id) (.clientOffline value.id) (timestamp value.updatedAt)) := by
  have quiet : Kind.quiet ∈ [Kind.quiet] := List.mem_cons_self
  simp only [updateClient, Program.run_bind_ok, Tx.query_ok, write_ok, Program.run_need_ok,
    listOIDCClientScopes] at ran
  obtain ⟨current, _, currentLocked, scopes, _, read, rows, _, updated, _, _, ⟨-, rfl⟩, _, children,
    replaced, _, s, revoked, audited⟩ := ran
  obtain ⟨_, lockedRows, -⟩ := Tx.queryRow_ok.mp currentLocked
  obtain ⟨-, rfl⟩ := exec_lock_clients.mp lockedRows
  cases read
  obtain ⟨-, -, rfl⟩ := (query_update exec_update_clients).mp updated
  have afterCascade : Db.Stayed [.quiet] s after :=
    run_stayed (serviceAudit_within quiet _) (by simp) audited
  refine ⟨?_, ?_, ?_⟩
  · have childrenStayed := run_stayed (replaceClientChildren_within quiet ..) (by simp) replaced
    have cascadeStayed := run_stayed (revokeClientAuthority_within quiet ..) (by simp) revoked
    exact childrenStayed.trans _ _ _ (cascadeStayed.trans _ _ _ afterCascade)
  · intro isDisabled
    rw [revokeClientAuthority, if_pos (by simp [isDisabled])] at revoked
    obtain ⟨-, -, rfl⟩ := cascade_ok.mp revoked
    exact cascaded_dead.stayed le_rfl afterCascade
  · rintro ⟨row, member, isClient, isOffline⟩ removed
    rw [revokeClientAuthority] at revoked
    split at revoked
    · obtain ⟨-, -, rfl⟩ := cascade_ok.mp revoked
      have dead : after.Dead (.client value.id) (.client value.id) _ :=
        cascaded_dead.stayed le_rfl afterCascade
      refine ⟨dead.families, fun token inTable selected => dead.accesses token inTable ?_⟩
      exact (Bool.and_eq_true_iff.mp selected).1
    · rw [if_pos] at revoked
      · obtain ⟨-, -, rfl⟩ := cascade_ok.mp revoked
        exact cascaded_dead.stayed le_rfl afterCascade
      · simp only [Bool.and_eq_true, Bool.not_eq_true', List.contains_iff_mem,
          Consent.mem_sortStrings, List.mem_map, List.mem_filter, beq_iff_eq]
        exact ⟨⟨row, ⟨member, isClient⟩, isOffline⟩, by simpa using removed⟩

/-! ## Grants -/

/-- The grants after a SET clause was applied to one of them. -/
def changedGrants (grants : List ConsentGrant) (change : GrantChange) (id : Uuid) :
    List ConsentGrant :=
  updateRows (fun r => change.guard r && r.id == id) change.apply grants

/-- How a revocation of a grant that committed ended. -/
inductive GrantRevocationEnd (input : RevokeInput) (db : Db) : Db → Prop where
  /-- The grant was revoked before. -/
  | unchanged {client : ClientRow} {grant : ConsentGrant} (inClients : client ∈ db.clients)
      (named : client.clientID = input.publicClientID) (inGrants : grant ∈ db.consentGrants)
      (grantUser : grant.userID = input.userID) (grantClient : grant.clientID = client.id)
      (revoked : grant.revokedAt.isSome) : GrantRevocationEnd input db db
  /-- The grant and what depends on it are revoked. -/
  | revoked {client : ClientRow} {grant : ConsentGrant} {event : AuditEvent} {after : Db}
      (inClients : client ∈ db.clients) (named : client.clientID = input.publicClientID)
      (inGrants : grant ∈ db.consentGrants) (grantUser : grant.userID = input.userID)
      (grantClient : grant.clientID = client.id) (unrevoked : grant.revokedAt = none)
      (ordinary : event.oncePerTarget = none)
      (appended : Appended [event]
        (Db.cascaded
          { db with consentGrants :=
              changedGrants db.consentGrants (.revoke (timestamp input.now)) grant.id }
          (.grant grant.id) (.grant grant.id) (timestamp input.now) .grantRevoked) after) :
      GrantRevocationEnd input db after

theorem revokeCurrentUserGrant_ok (sound : db.Sound) {input : RevokeInput} {managed : ManagedGrant}
    (ran : (revokeCurrentUserGrant input).run exec db = .ok (managed, after)) :
    GrantRevocationEnd input db after := by
  simp only [revokeCurrentUserGrant, Program.run_bind_ok] at ran
  obtain ⟨user, _, userLocked, client, _, clientLocked, grant, _, grantLocked, ran⟩ := ran
  obtain ⟨-, rfl⟩ := sound.lockUserByID.mp userLocked
  obtain ⟨⟨inClients, named⟩, rfl⟩ := sound.lockOIDCClientByClientID.mp clientLocked
  obtain ⟨⟨inGrants, grantUser, grantClient⟩, rfl⟩ :=
    sound.lockConsentGrantByUserClient.mp grantLocked
  split at ran
  · rename_i revoked
    cases ran
    exact .unchanged inClients named inGrants grantUser grantClient revoked
  · rename_i unrevoked
    simp only [revokeLockedGrant, Program.run_bind_ok, Tx.query_ok, Program.run_pure_ok,
      Prod.mk.injEq, lockUnrevokedRefreshTokenFamilies, lockLiveAccessTokens,
      exec_lock_refreshTokenFamilies, exec_lock_accessTokens] at ran
    obtain ⟨_, _, ⟨_, _, ⟨-, rfl⟩, _, _, ⟨-, rfl⟩, _, _, grantRevoked, _, _, familiesRevoked, _, _,
      accessesRevoked, _, _, audited, rfl, rfl⟩, -, rfl⟩ := ran
    obtain ⟨_, updated, -⟩ := Tx.queryRow_ok.mp grantRevoked
    obtain ⟨-, -, rfl⟩ := (query_update exec_update_consentGrants).mp updated
    obtain ⟨-, -, rfl⟩ := exec_revokeRefreshTokenFamilies.mp familiesRevoked
    obtain ⟨-, -, rfl⟩ := exec_revokeLiveAccessTokens.mp accessesRevoked
    obtain ⟨event, appended, isType, -⟩ := insertProtocolAudit_appended audited
    exact .revoked inClients named inGrants grantUser grantClient
      (Option.not_isSome_iff_eq_none.mp unrevoked)
      (AuditEvent.oncePerTarget_eq_none (by rw [isType]; decide)) appended

/-- What a code issue did to the grant of its user and client. The grant covers what was requested;
only an interactive consent changes it. -/
inductive ConsentEnd (commit : IssueCommit) (clientID : Uuid) (requested : List String) (db : Db) :
    ConsentGrant → List ConsentGrant → Prop where
  | unchanged {grant : ConsentGrant} {scopes : List String} (inGrants : grant ∈ db.consentGrants)
      (grantUser : grant.userID = commit.userID) (grantClient : grant.clientID = clientID)
      (unrevoked : grant.revokedAt = none) (covered : ∀ scope ∈ requested, scope ∈ grant.scopes) :
      ConsentEnd commit clientID requested db { grant with scopes } db.consentGrants
  | created (interactive : commit.interactiveConsent)
      (absent : ∀ old ∈ db.consentGrants, ¬ (old.userID = commit.userID ∧ old.clientID = clientID))
      (fresh : ∀ old ∈ db.consentGrants, old.id ≠ commit.proposedGrantID) :
      ConsentEnd commit clientID requested db (proposedGrant commit clientID requested)
        (db.consentGrants ++ [proposedGrant commit clientID requested])
  | expanded {grant : ConsentGrant} (inGrants : grant ∈ db.consentGrants)
      (grantUser : grant.userID = commit.userID) (grantClient : grant.clientID = clientID)
      (unrevoked : grant.revokedAt = none) (interactive : commit.interactiveConsent)
      {scopes : List String} (wider : ∀ scope ∈ grant.scopes, scope ∈ scopes)
      (covered : ∀ scope ∈ requested, scope ∈ scopes) :
      ConsentEnd commit clientID requested db
        (GrantChange.apply (.expand scopes (timestamp commit.createdAt)) grant)
        (changedGrants db.consentGrants (.expand scopes (timestamp commit.createdAt)) grant.id)
  | reactivated {grant : ConsentGrant} (inGrants : grant ∈ db.consentGrants)
      (grantUser : grant.userID = commit.userID) (grantClient : grant.clientID = clientID)
      (revoked : grant.revokedAt.isSome) (interactive : commit.interactiveConsent) :
      ConsentEnd commit clientID requested db
        (GrantChange.apply (.reactivate requested (timestamp commit.createdAt)) grant)
        (changedGrants db.consentGrants (.reactivate requested (timestamp commit.createdAt))
          grant.id)

/-- An update of one grant. -/
theorem changeGrant_ok (sound : db.Sound) {operation : String} {absent : StoreError}
    {change : GrantChange} {grant row : ConsentGrant} (inGrants : grant ∈ db.consentGrants)
    (ran : (Tx.queryRow operation absent
      (.consentGrants (.update (·.id == grant.id) change))).run exec db = .ok (row, after)) :
    row = change.apply grant ∧
      after = { db with consentGrants := changedGrants db.consentGrants change grant.id } := by
  obtain ⟨old, member, isID, -, -, rfl, rfl⟩ := (queryRow_update exec_update_consentGrants
    (unique_of_key sound.grants.distinct grant.id)).mp ran
  obtain rfl := sound.grants.unique member inGrants (beq_iff_eq.mp isID)
  exact ⟨rfl, rfl⟩

/-- A union contains its canonical left part. -/
theorem wider_of_union {grantScopes stored requested : List String}
    (canonical : Consent.canonicalScopes grantScopes = some stored) :
    ∀ scope ∈ grantScopes, scope ∈ Consent.union stored requested := by
  intro scope member
  obtain ⟨rfl, allSupported⟩ := Consent.canonicalScopes_some canonical
  simp [Consent.union, member, allSupported scope member]

/-- A union contains the supported scopes of its right part. -/
theorem covered_of_union {stored requested : List String}
    (allSupported : ∀ scope ∈ requested, Consent.supported scope) :
    ∀ scope ∈ requested, scope ∈ Consent.union stored requested := by
  intro scope member
  simp [Consent.union, member, allSupported scope member]

/-- Scopes that are in a canonical list are in the list it was made from. -/
theorem stored_of_canonical {grantScopes stored : List String}
    (canonical : Consent.canonicalScopes grantScopes = some stored) :
    ∀ scope ∈ stored, scope ∈ grantScopes := by
  intro scope member
  obtain ⟨rfl, -⟩ := Consent.canonicalScopes_some canonical
  exact Consent.mem_sortStrings.mp member

theorem lockAndApplyConsent_ok (sound : db.Sound) {commit : IssueCommit} {client : Client}
    {requested : List String} (allSupported : ∀ scope ∈ requested, Consent.supported scope)
    {grant : ConsentGrant} {outcome : GrantOutcome}
    (ran : (lockAndApplyConsent commit client requested).run exec db =
      .ok ((grant, outcome), after)) :
    ∃ grants, ConsentEnd commit client.id requested db grant grants ∧
      after = { db with consentGrants := grants } := by
  simp only [lockAndApplyConsent, Program.run_bind_ok, Tx.queryOne_ok,
    Queries.lockConsentGrantByUserClient, exec_lock_consentGrants] at ran
  obtain ⟨found, _, ⟨_, ⟨rfl, rfl⟩, isFound⟩, ran⟩ := ran
  cases found with
  | none =>
    simp only [Program.run_bind_ok, Program.run_require_ok, Tx.query_ok, createConsentGrant,
      exec_insert_consentGrants, Program.run_pure_ok, Prod.mk.injEq] at ran
    obtain ⟨_, _, ⟨interactive, rfl⟩, _, _, ⟨allowed, rfl⟩, ⟨rfl, -⟩, rfl⟩ := ran
    refine ⟨_, .created interactive ?_ ?_, rfl⟩
    · rintro old member ⟨isUser, isClient⟩
      have locked : old ∈ lockedRows consentGrantsTable.order
          (fun r => r.userID == commit.userID && r.clientID == client.id) _ :=
        mem_lockedRows.mpr ⟨member, by simp [isUser, isClient]⟩
      rw [List.head?_eq_none_iff.mp isFound.symm] at locked
      cases locked
    · exact (consentGrants_respect _).fresh _ allowed
  | some current =>
    obtain ⟨inGrants, parties⟩ := lockedRows_head isFound.symm
    simp only [Bool.and_eq_true, beq_iff_eq] at parties
    simp only [Program.run_bind_ok, Program.run_need_ok, Program.run_require_ok] at ran
    obtain ⟨stored, _, ⟨canonical, rfl⟩, _, _, ⟨-, rfl⟩, ran⟩ := ran
    split at ran
    · rename_i revoked
      simp only [Program.run_bind_ok, Program.run_require_ok, Program.run_pure_ok,
        Prod.mk.injEq] at ran
      obtain ⟨_, _, ⟨interactive, rfl⟩, _, _, changed, ⟨rfl, -⟩, rfl⟩ := ran
      obtain ⟨rfl, rfl⟩ := changeGrant_ok sound inGrants changed
      exact ⟨_, .reactivated inGrants parties.1 parties.2 revoked interactive, rfl⟩
    · rename_i unrevoked
      have active := Option.not_isSome_iff_eq_none.mp unrevoked
      unfold applyActiveConsent at ran
      split at ran
      · simp only [Program.run_bind_ok, Program.run_require_ok, Program.run_pure_ok,
          Prod.mk.injEq] at ran
        obtain ⟨_, _, ⟨empty, rfl⟩, ⟨rfl, -⟩, rfl⟩ := ran
        refine ⟨_, .unchanged inGrants parties.1 parties.2 active fun scope member => ?_, rfl⟩
        have inBoth := Consent.difference_eq_nil.mp (List.isEmpty_iff.mp empty) scope member
          (allSupported scope member)
        exact stored_of_canonical canonical scope (Consent.mem_intersection.mp inBoth).1
      · rename_i interactive
        have interactive : commit.interactiveConsent := by simpa using interactive
        split at ran
        · rename_i same
          cases ran
          refine ⟨_, .unchanged inGrants parties.1 parties.2 active fun scope member => ?_, rfl⟩
          have inUnion : scope ∈ Consent.union stored requested :=
            covered_of_union allSupported scope member
          rw [beq_iff_eq.mp same] at inUnion
          exact stored_of_canonical canonical scope inUnion
        · simp only [Program.run_bind_ok, Program.run_pure_ok, Prod.mk.injEq] at ran
          obtain ⟨_, _, changed, ⟨rfl, -⟩, rfl⟩ := ran
          obtain ⟨rfl, rfl⟩ := changeGrant_ok sound inGrants changed
          exact ⟨_, .expanded inGrants parties.1 parties.2 active interactive
            (wider_of_union canonical) (covered_of_union allSupported), rfl⟩

/-- The transactions after one was consumed. -/
def consumedTransactions (transactions : List AuthTransaction) (id : Uuid) (now : Time) :
    List AuthTransaction :=
  updateRows (fun r => AuthTransactionChange.guard (.consume now) r && r.id == id)
    (AuthTransactionChange.apply (.consume now)) transactions

/-- What a code issue that committed found and left: the transaction, the grant, the code, and
nothing else that matters. -/
structure Issued (commit : IssueCommit) (grant : ConsentGrant) (db after : Db) where
  transaction : AuthTransaction
  clientID : Uuid
  requested : List String
  grants : List ConsentGrant
  events : List AuditEvent
  valid : validateIssueCommit commit
  inTransactions : transaction ∈ db.authTransactions
  transactionID : transaction.id = commit.transaction.id
  checked : validateLockedAuthorizationTransaction transaction commit.transaction commit.createdAt =
    .ok ()
  transactionClient : transaction.clientID = some clientID
  canonical : Consent.canonicalScopes transaction.scopes = some requested
  client : ∃ row ∈ db.clients, row.id = clientID ∧ row.status = .active ∧
    (valueString transaction.redirectURI) ∈ (db.clientOf row).redirectURIs ∧
    ∀ scope ∈ transaction.scopes, scope ∈ (db.clientOf row).scopes
  consent : ConsentEnd commit clientID requested db grant grants
  stayed : Db.Stayed [.quiet]
    { db with
      consentGrants := grants
      authorizationCodes := db.authorizationCodes ++
        [issuedCode commit transaction clientID grant requested] } after
  isAfter : after =
    { db with
      consentGrants := grants
      authorizationCodes := db.authorizationCodes ++
        [issuedCode commit transaction clientID grant requested]
      authTransactions :=
        consumedTransactions db.authTransactions transaction.id (timestamp commit.createdAt)
      auditEvents := db.auditEvents ++ events }

theorem lockAndValidateAuthorizationClient_ok (sound : db.Sound) {transaction : AuthTransaction}
    {client : Client}
    (ran : (lockAndValidateAuthorizationClient transaction).run exec db = .ok (client, after)) :
    transaction.clientID = some client.id ∧ after = db ∧
      ∃ row ∈ db.clients, row.id = client.id ∧ row.status = .active ∧
        (valueString transaction.redirectURI) ∈ (db.clientOf row).redirectURIs ∧
        ∀ scope ∈ transaction.scopes, scope ∈ (db.clientOf row).scopes := by
  simp only [lockAndValidateAuthorizationClient, Program.run_bind_ok, Program.run_need_ok,
    Program.run_require_ok, Program.run_pure_ok, Prod.mk.injEq] at ran
  obtain ⟨id, _, ⟨named, rfl⟩, _, _, clientLocked, _, _, ⟨checked, rfl⟩, rfl, rfl⟩ := ran
  obtain ⟨row, inClients, isRow, rfl, rfl⟩ := (lockClient_ok sound).mp clientLocked
  simp only [Bool.and_eq_true, beq_iff_eq, List.contains_iff_mem] at checked
  obtain ⟨⟨⟨active, -⟩, redirect⟩, registered⟩ := checked
  exact ⟨named.trans (congrArg some isRow.symm), rfl, row, inClients, rfl, active, redirect,
    Consent.scopeSubset_iff.mp registered⟩

/-- The events of a code issue are all it writes at the end. -/
theorem auditIssue_appended {commit : IssueCommit} {transactionID grantID : Uuid}
    {outcome : GrantOutcome}
    (ran : (auditIssue commit transactionID grantID outcome).run exec db = .ok ((), after)) :
    ∃ events, Appended events db after := by
  simp only [auditIssue, Program.run_bind_ok] at ran
  obtain ⟨_, between, consented, _, _, consumed, _, _, granted, issued⟩ := ran
  have first : ∃ events, Appended events db between := by
    unfold auditConsent at consented
    split at consented
    · cases consented
      exact ⟨[], by simp [Appended]⟩
    all_goals
      obtain ⟨event, appended, -⟩ := insertProtocolAudit_appended consented
      exact ⟨[event], appended⟩
  obtain ⟨events, appended⟩ := first
  obtain ⟨_, second, -⟩ := insertProtocolAudit_appended consumed
  obtain ⟨_, third, -⟩ := insertProtocolAudit_appended granted
  obtain ⟨_, fourth, -⟩ := insertProtocolAudit_appended issued
  exact ⟨_, ((appended.trans second).trans third).trans fourth⟩

theorem issueAuthorizationCode_ok (sound : db.Sound) {commit : IssueCommit} {grant : ConsentGrant}
    (ran : (issueAuthorizationCode commit).run exec db = .ok (grant, after)) :
    Nonempty (Issued commit grant db after) := by
  have quiet : Kind.quiet ∈ [Kind.quiet] := List.mem_cons_self
  simp only [issueAuthorizationCode, Program.run_bind_ok, Program.run_require_ok,
    Program.run_ofExcept_ok, Program.run_need_ok, Tx.query_ok, Program.run_pure_ok,
    Prod.mk.injEq] at ran
  obtain ⟨_, _, ⟨valid, rfl⟩, transaction, _, transactionLocked, _, _, ⟨checked, rfl⟩, user, _,
    userLocked, _, _, ⟨-, rfl⟩, client, _, clientLocked, requested, _, ⟨canonical, rfl⟩,
    ⟨applied, outcome⟩, _, consented, _, _, created, _, _, consumed, _, _, audited, rfl, rfl⟩ := ran
  obtain ⟨_, lockedRows, isHead⟩ := Tx.queryRow_ok.mp transactionLocked
  obtain ⟨rfl, rfl⟩ := exec_lock_authTransactions.mp lockedRows
  obtain ⟨inTransactions, isTransaction⟩ := lockedRows_head isHead
  obtain ⟨-, rfl⟩ := sound.lockUserByID.mp userLocked
  obtain ⟨transactionClient, rfl, registered⟩ :=
    lockAndValidateAuthorizationClient_ok sound clientLocked
  have allSupported : ∀ scope ∈ requested, Consent.supported scope := by
    obtain ⟨rfl, allSupported⟩ := Consent.canonicalScopes_some canonical
    exact fun scope member => allSupported scope (Consent.mem_sortStrings.mp member)
  obtain ⟨grants, consent, rfl⟩ := lockAndApplyConsent_ok sound allSupported consented
  obtain ⟨-, rfl⟩ := exec_insert_authorizationCodes.mp created
  have consumedStayed : Db.Stayed [.quiet] _ _ :=
    run_stayed (.queryRow (by exact quiet)) (by simp) consumed
  have stayed := consumedStayed.trans _ _ _ (run_stayed (auditIssue_within quiet ..) (by simp) audited)
  obtain ⟨_, updated, -⟩ := Tx.queryRow_ok.mp consumed
  obtain ⟨-, -, rfl⟩ := (query_update exec_update_authTransactions).mp updated
  obtain ⟨events, rfl⟩ := auditIssue_appended audited
  exact ⟨⟨transaction, client.id, requested, grants, events, valid, inTransactions,
    beq_iff_eq.mp isTransaction, checked, transactionClient, canonical, registered, consent, stayed,
    rfl⟩⟩

end Store

end OneIssuer
