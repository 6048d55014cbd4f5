import OneIssuer.Store.TokenSteps

/-!
# Revocation by a client, run

The two halves of `RevokeToken` lock the authority of a token row by row and end without a change at
the first row that does not fit. `AccessRevocable` and `RefreshRevocable` say when all of them fit; then
the operation runs its last statements (`stampAccess`, `revokeLockedFamily`), and otherwise it does
nothing.
-/

set_option autoImplicit false

namespace OneIssuer

open Relational Queries Token
open OneIssuer.Consent

variable {db after : Db} {lookup : RevocationLookup}

/-! ## Locks that may miss -/

section Locks

variable {ρ : Type} {table : List ρ} {operation : String} {statement : Stmt (List ρ)}
  {order : ρ → ρ → Bool} {matching : ρ → Bool} {rest : ρ → Tx Unit}

theorem Tx.whenRow_run {rows : List ρ} (executed : exec statement db = .ok (rows, after)) :
    (Tx.whenRow operation statement rest).run exec db =
      match rows.head? with
      | none => .ok ((), after)
      | some row => (rest row).run exec after := by
  have queried : (Tx.queryOne operation statement).run exec db = .ok (rows.head?, after) :=
    Tx.queryOne_ok.mpr ⟨rows, executed, rfl⟩
  rw [Tx.whenRow, Program.run_bind, queried]
  cases rows.head? <;> rfl

/-- A lock by a key goes on with the row that has it. -/
theorem Tx.whenRow_found
    (locks : ∀ {rows : List ρ} {after : Db}, exec statement db = .ok (rows, after) ↔
      rows = lockedRows order matching table ∧ after = db)
    (unique : ∀ a ∈ table, ∀ b ∈ table, matching a → matching b → a = b) {row : ρ}
    (member : row ∈ table) (isMatching : matching row) :
    (Tx.whenRow operation statement rest).run exec db = (rest row).run exec db := by
  have head : (lockedRows order matching table).head? = some row :=
    (TableStmt.lock_head unique).mpr ⟨member, isMatching⟩
  rw [Tx.whenRow_run (locks.mpr ⟨rfl, rfl⟩), head]

/-- An operation that ends after every row it may find does nothing. -/
theorem Tx.whenRow_idle
    (locks : ∀ {rows : List ρ} {after : Db}, exec statement db = .ok (rows, after) ↔
      rows = lockedRows order matching table ∧ after = db)
    (idle : ∀ row ∈ table, matching row → (rest row).run exec db = .ok ((), db)) :
    (Tx.whenRow operation statement rest).run exec db = .ok ((), db) := by
  rw [Tx.whenRow_run (locks.mpr ⟨rfl, rfl⟩)]
  cases head : (lockedRows order matching table).head? with
  | none => rfl
  | some row =>
    obtain ⟨member, isMatching⟩ := lockedRows_head head
    exact idle row member isMatching

theorem Tx.onlyIf_idle {condition : Bool} {body : Tx Unit}
    (idle : condition = true → body.run exec db = .ok ((), db)) :
    (Tx.onlyIf condition body).run exec db = .ok ((), db) := by
  cases condition with
  | true => exact idle rfl
  | false => rfl

end Locks

/-! ## Access tokens -/

section Access

variable {candidate token : AccessToken}

/-- The last statements of `revokeAccessCandidate`. -/
def Store.stampAccess (lookup : RevocationLookup) (metadata : AccessToken) : Tx Unit := do
  let _ ← Tx.queryRow "revoke access token" (.noRows "revoke access token")
    (Queries.revokeAccessToken (timestamp lookup.now) (some .clientRevocation) metadata.id)
  Store.insertProtocolAudit .accessTokenRevoked .success metadata.userID .accessToken metadata.id
    lookup.requestID ["revoked"] lookup.now

/-- The token can be revoked: user, client, grant and family still carry it. -/
structure AccessRevocable (lookup : RevocationLookup) (candidate : AccessToken) (db : Db)
    (token : AccessToken) : Prop where
  user : ∃ user ∈ db.users, user.id = candidate.userID ∧ user.status = .active
  client : ∃ row ∈ db.clients, row.id = candidate.clientID ∧
    sameAuthenticatedClient (db.clientOf row) lookup.client ∧
    ∃ grant ∈ db.consentGrants, grant.userID = candidate.userID ∧
      grant.clientID = candidate.clientID ∧ grant.id = candidate.consentGrantID ∧
      grant.revokedAt = none ∧
      (difference candidate.scopes (intersection grant.scopes (db.clientOf row).scopes)).isEmpty
  family : ∀ id, candidate.refreshFamilyID = some id → ∃ family ∈ db.refreshTokenFamilies,
    family.id = id ∧ Store.familyBacks lookup candidate family
  stored : token ∈ db.accessTokens
  tokenID : token.id = candidate.id
  tokenClient : token.clientID = lookup.client.id
  unrevoked : token.revokedAt = none
  unexpired : lookup.now < token.expiresAt
  digest : lookup.accessJTIHash = some token.jtiHash

/-- The condition of `revokeLockedAccess`. -/
theorem lockedAccess_iff :
    (token.clientID == lookup.client.id && token.revokedAt.isNone &&
        lookup.now < token.expiresAt && some token.jtiHash == lookup.accessJTIHash) = true ↔
      token.clientID = lookup.client.id ∧ token.revokedAt = none ∧ lookup.now < token.expiresAt ∧
        lookup.accessJTIHash = some token.jtiHash := by
  simp only [Bool.and_eq_true, beq_iff_eq, Option.isNone_iff_eq_none, and_assoc]
  exact ⟨fun ⟨client, unrevoked, unexpired, digest⟩ =>
      ⟨client, unrevoked, of_decide_eq_true unexpired, digest.symm⟩,
    fun ⟨client, unrevoked, unexpired, digest⟩ =>
      ⟨client, unrevoked, decide_eq_true unexpired, digest.symm⟩⟩

theorem revokeLockedAccess_found (sound : db.Sound) (stored : token ∈ db.accessTokens)
    (isToken : token.id = candidate.id) (client : token.clientID = lookup.client.id)
    (unrevoked : token.revokedAt = none) (unexpired : lookup.now < token.expiresAt)
    (digest : lookup.accessJTIHash = some token.jtiHash) :
    (Store.revokeLockedAccess lookup candidate).run exec db =
      (Store.stampAccess lookup token).run exec db := by
  rw [Store.revokeLockedAccess, Queries.lockAccessTokenByID,
    Tx.whenRow_found exec_lock_accessTokens (unique_of_key sound.accesses.distinct candidate.id)
      stored (beq_iff_eq.mpr isToken),
    lockedAccess_iff.mpr ⟨client, unrevoked, unexpired, digest⟩]
  rfl

/-- A token that can be revoked is stamped. -/
theorem revokeAccessCandidate_found (sound : db.Sound)
    (revocable : AccessRevocable lookup candidate db token) :
    (Store.revokeAccessCandidate lookup candidate).run exec db =
      (Store.stampAccess lookup token).run exec db := by
  obtain ⟨user, inUsers, isUser, active⟩ := revocable.user
  obtain ⟨row, inClients, isRow, sameClient, grant, inGrants, grantUser, grantClient, grantID,
    unrevoked, covered⟩ := revocable.client
  rw [Store.revokeAccessCandidate, Queries.lockUserByID,
    Tx.whenRow_found exec_lock_users (unique_of_key sound.users.distinct candidate.userID) inUsers
      (beq_iff_eq.mpr isUser),
    beq_iff_eq.mpr active, Tx.onlyIf, if_pos rfl, Queries.lockOIDCClientByID,
    Tx.whenRow_found exec_lock_clients (unique_of_key sound.clients.distinct candidate.clientID)
      inClients (beq_iff_eq.mpr isRow),
    Program.run_bind, loadClientChildren_run]
  simp only [sameClient, Tx.onlyIf, if_true]
  rw [Queries.lockConsentGrantByUserClient, Tx.whenRow_found exec_lock_consentGrants
    (sound.parties_unique candidate.userID candidate.clientID) inGrants
    (by simp [grantUser, grantClient])]
  simp only [grantID, unrevoked, covered, beq_self_eq_true, Option.isNone_none, Bool.and_self, if_true]
  cases isFamily : candidate.refreshFamilyID with
  | none =>
    exact revokeLockedAccess_found sound revocable.stored revocable.tokenID revocable.tokenClient
      revocable.unrevoked revocable.unexpired revocable.digest
  | some id =>
    obtain ⟨family, inFamilies, isID, backs⟩ := revocable.family id isFamily
    simp only [Queries.lockRefreshTokenFamilyByID]
    rw [Tx.whenRow_found exec_lock_refreshTokenFamilies (unique_of_key sound.families.distinct id)
      inFamilies (beq_iff_eq.mpr isID), backs, if_pos rfl]
    exact revokeLockedAccess_found sound revocable.stored revocable.tokenID revocable.tokenClient
      revocable.unrevoked revocable.unexpired revocable.digest

/-- Without a token that can be revoked nothing happens. -/
theorem revokeAccessCandidate_idle (nothing : ∀ token, ¬ AccessRevocable lookup candidate db token) :
    (Store.revokeAccessCandidate lookup candidate).run exec db = .ok ((), db) := by
  refine Tx.whenRow_idle exec_lock_users fun user inUsers isUser => ?_
  refine Tx.onlyIf_idle fun active => ?_
  refine Tx.whenRow_idle exec_lock_clients fun row inClients isRow => ?_
  rw [Program.run_bind, loadClientChildren_run]
  refine Tx.onlyIf_idle fun sameClient => ?_
  refine Tx.whenRow_idle exec_lock_consentGrants fun grant inGrants parties => ?_
  refine Tx.onlyIf_idle fun granted => ?_
  simp only [Bool.and_eq_true, beq_iff_eq, Option.isNone_iff_eq_none] at parties granted
  have idle (families : ∀ id, candidate.refreshFamilyID = some id →
      ∃ family ∈ db.refreshTokenFamilies,
        family.id = id ∧ Store.familyBacks lookup candidate family) :
      (Store.revokeLockedAccess lookup candidate).run exec db = .ok ((), db) := by
    refine Tx.whenRow_idle exec_lock_accessTokens fun token stored isToken => ?_
    refine Tx.onlyIf_idle fun fits => absurd ?_ (nothing token)
    obtain ⟨client, unrevoked, unexpired, digest⟩ := lockedAccess_iff.mp fits
    exact
      { user := ⟨user, inUsers, beq_iff_eq.mp isUser, beq_iff_eq.mp active⟩
        client := ⟨row, inClients, beq_iff_eq.mp isRow, sameClient, grant, inGrants, parties.1,
          parties.2, granted.1.1, granted.1.2, granted.2⟩
        family := families, stored, tokenID := beq_iff_eq.mp isToken, tokenClient := client
        unrevoked, unexpired, digest }
  cases isFamily : candidate.refreshFamilyID with
  | none => exact idle fun id named => nomatch isFamily.symm.trans named
  | some id =>
    refine Tx.whenRow_idle exec_lock_refreshTokenFamilies fun family inFamilies isID => ?_
    refine Tx.onlyIf_idle fun backs => idle fun other named => ⟨family, inFamilies, ?_, backs⟩
    exact (beq_iff_eq.mp isID).trans (Option.some.inj (isFamily.symm.trans named))

end Access

/-! ## Refresh tokens -/

section Refresh

variable {candidate : RefreshToken} {candidateFamily family : RefreshTokenFamily}

/-- The family can be revoked: user, client and grant still carry it, and the presented generation
is one of its own. -/
structure RefreshRevocable (lookup : RevocationLookup) (candidate : RefreshToken)
    (candidateFamily : RefreshTokenFamily) (db : Db) (family : RefreshTokenFamily) : Prop where
  user : ∃ user ∈ db.users, user.id = candidateFamily.userID ∧ user.status = .active ∧
    family.userID = user.id
  client : ∃ row ∈ db.clients, row.id = candidateFamily.clientID ∧
    sameAuthenticatedClient (db.clientOf row) lookup.client ∧ family.clientID = row.id
  grant : ∃ grant ∈ db.consentGrants, grant.userID = candidateFamily.userID ∧
    grant.clientID = candidateFamily.clientID ∧ grant.id = candidateFamily.consentGrantID ∧
    grant.revokedAt = none ∧ family.consentGrantID = grant.id
  stored : family ∈ db.refreshTokenFamilies
  familyID : family.id = candidate.familyID
  unrevoked : family.revokedAt = none
  unexpired : lookup.now < family.absoluteExpiresAt
  presented : ∃ presented ∈ db.refreshTokens, presented.id = candidate.id ∧
    presented.familyID = family.id ∧ lookup.refreshTokenHash = some presented.tokenHash

/-- A family that can be revoked is. -/
theorem revokeRefreshCandidate_found (sound : db.Sound)
    (revocable : RefreshRevocable lookup candidate candidateFamily db family) :
    (Store.revokeRefreshCandidate lookup candidate candidateFamily).run exec db =
      (Store.revokeLockedFamily lookup family).run exec db := by
  obtain ⟨user, inUsers, isUser, active, familyUser⟩ := revocable.user
  obtain ⟨row, inClients, isRow, sameClient, familyClient⟩ := revocable.client
  obtain ⟨grant, inGrants, grantUser, grantClient, grantID, granted, familyGrant⟩ := revocable.grant
  obtain ⟨presented, inGenerations, presentedID, presentedFamily, digest⟩ := revocable.presented
  rw [Store.revokeRefreshCandidate, Queries.lockUserByID,
    Tx.whenRow_found exec_lock_users (unique_of_key sound.users.distinct candidateFamily.userID)
      inUsers (beq_iff_eq.mpr isUser),
    beq_iff_eq.mpr active, Tx.onlyIf, if_pos rfl, Queries.lockOIDCClientByID,
    Tx.whenRow_found exec_lock_clients
      (unique_of_key sound.clients.distinct candidateFamily.clientID) inClients
      (beq_iff_eq.mpr isRow),
    Program.run_bind, loadClientChildren_run]
  simp only [sameClient, Tx.onlyIf, if_true]
  rw [Queries.lockConsentGrantByUserClient, Tx.whenRow_found exec_lock_consentGrants
    (sound.parties_unique candidateFamily.userID candidateFamily.clientID) inGrants
    (by simp [grantUser, grantClient])]
  simp only [grantID, granted, beq_self_eq_true, Option.isNone_none, Bool.and_self, if_true]
  rw [Queries.lockRefreshTokenFamilyByID, Tx.whenRow_found exec_lock_refreshTokenFamilies
    (unique_of_key sound.families.distinct candidate.familyID) revocable.stored
    (beq_iff_eq.mpr revocable.familyID)]
  have fits : (family.revokedAt.isNone && lookup.now < family.absoluteExpiresAt &&
      family.userID == user.id && family.clientID == (db.clientOf row).id &&
      family.consentGrantID == candidateFamily.consentGrantID) = true := by
    have sameRow : family.clientID = (db.clientOf row).id := familyClient
    have sameGrant : family.consentGrantID = candidateFamily.consentGrantID :=
      familyGrant.trans grantID
    simp [revocable.unrevoked, revocable.unexpired, familyUser, sameRow, sameGrant]
  rw [fits, if_pos rfl, Queries.lockRefreshTokenByID, Tx.whenRow_found exec_lock_refreshTokens
    (unique_of_key sound.generations.distinct candidate.id) inGenerations
    (beq_iff_eq.mpr presentedID)]
  simp [presentedFamily, digest]

/-- Without a family that can be revoked nothing happens. -/
theorem revokeRefreshCandidate_idle
    (nothing : ∀ family, ¬ RefreshRevocable lookup candidate candidateFamily db family) :
    (Store.revokeRefreshCandidate lookup candidate candidateFamily).run exec db = .ok ((), db) := by
  refine Tx.whenRow_idle exec_lock_users fun user inUsers isUser => ?_
  refine Tx.onlyIf_idle fun active => ?_
  refine Tx.whenRow_idle exec_lock_clients fun row inClients isRow => ?_
  rw [Program.run_bind, loadClientChildren_run]
  refine Tx.onlyIf_idle fun sameClient => ?_
  refine Tx.whenRow_idle exec_lock_consentGrants fun grant inGrants parties => ?_
  refine Tx.onlyIf_idle fun granted => ?_
  refine Tx.whenRow_idle exec_lock_refreshTokenFamilies fun family inFamilies isFamily => ?_
  refine Tx.onlyIf_idle fun fits => ?_
  refine Tx.whenRow_idle exec_lock_refreshTokens fun presented inGenerations isPresented => ?_
  refine Tx.onlyIf_idle fun digest => absurd ?_ (nothing family)
  simp only [Bool.and_eq_true, beq_iff_eq, Option.isNone_iff_eq_none, and_assoc]
    at active parties granted fits digest
  obtain ⟨unrevoked, unexpired, familyUser, familyClient, familyGrant⟩ := fits
  exact
    { user := ⟨user, inUsers, beq_iff_eq.mp isUser, active, familyUser⟩
      client := ⟨row, inClients, beq_iff_eq.mp isRow, sameClient, familyClient⟩
      grant := ⟨grant, inGrants, parties.1, parties.2, granted.1, granted.2, familyGrant⟩
      stored := inFamilies, familyID := beq_iff_eq.mp isFamily, unrevoked
      unexpired := of_decide_eq_true unexpired
      presented := ⟨presented, inGenerations, beq_iff_eq.mp isPresented, digest.1, digest.2.symm⟩ }

end Refresh

end OneIssuer
