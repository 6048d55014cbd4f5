import OneIssuer.Agreement
import OneIssuer.Store.RevocationSteps

/-!
# Clients learn nothing about each other

Introspection and revocation take any text from any authenticated client. What a client gets back
depends on its own rows only: in two states that agree on them (`Db.AgreesFor`) the answers are the
same, a token of somebody else is answered like one that nobody has, and nothing of another client
changes. The hint never matters, because the grammars of the two kinds of token exclude each other.

**What it does not establish.** What a client can learn from the time an answer takes. Users and the
audit log are shared: the two states agree on them.
-/

set_option autoImplicit false

namespace OneIssuer

open Relational Token Store Consent

/-! ## The endpoint -/

/-- The store call of `Revoke`: the access digest is looked up first. -/
def revocationCall (lookup : RevocationLookup) (db : Db) : Call :=
  match lookup.accessJTIHash.bind fun hash => accessCandidate hash db with
  | some _ => .revokeAccessToken lookup db
  | none => .revokeRefreshToken lookup db db

/-- `Revoke` on the state `db`, with nothing else running: its answer and the state it leaves. -/
def Token.Service.revoke (service : Service) (sha : Sha256) (input : RevocationInput) (db : Db) :
    Except StoreError Answer × Db :=
  match service.revocationLookup sha input with
  | none => (.ok .done, db)
  | some lookup =>
    let entry := Entry.calm sha (revocationCall lookup db) db
    (entry.outcome, entry.after)

/-! ## Owners -/

/-- The rows of one client. -/
structure Owned where
  clients : List ClientRow
  redirectURIs : List ClientURI
  logoutURIs : List ClientURI
  scopes : List ClientScope
  secrets : List ClientSecret
  grants : List ConsentGrant
  codes : List AuthorizationCode
  families : List RefreshTokenFamily
  generations : List RefreshToken
  accesses : List AccessToken
  deriving DecidableEq

/-- The generation belongs to a family of the client. -/
def Db.ownsGeneration (db : Db) (client : Uuid) (generation : RefreshToken) : Bool :=
  db.refreshTokenFamilies.any fun family =>
    family.id == generation.familyID && family.clientID == client

/-- What belongs to the client. -/
def Db.ownedBy (db : Db) (client : Uuid) : Owned :=
  { clients := db.clients.filter (·.id == client)
    redirectURIs := db.clientRedirectURIs.filter (·.clientID == client)
    logoutURIs := db.clientLogoutURIs.filter (·.clientID == client)
    scopes := db.clientScopes.filter (·.clientID == client)
    secrets := db.clientSecrets.filter (·.clientID == client)
    grants := db.consentGrants.filter (·.clientID == client)
    codes := db.authorizationCodes.filter (·.clientID == client)
    families := db.refreshTokenFamilies.filter (·.clientID == client)
    generations := db.refreshTokens.filter (db.ownsGeneration client)
    accesses := db.accessTokens.filter (·.clientID == client) }

/-- The states differ in rows of other clients only. -/
structure Db.AgreesFor (client : Uuid) (left right : Db) : Prop where
  owned : left.ownedBy client = right.ownedBy client
  users : left.users = right.users
  events : left.auditEvents = right.auditEvents
  zone : left.zone = right.zone

/-- Keys, CHECK constraints and the trigger on access tokens hold. -/
structure Db.Lawful (db : Db) : Prop where
  sound : db.Sound
  attributed : db.Attributed

/-- Every reachable state is lawful. -/
theorem Run.lawful {sha : Sha256} {zone : Zone} {entries : List Entry} {db : Db}
    (run : Run sha zone entries db) : db.Lawful := ⟨run.sound, run.attributed⟩

/-- The text is a token of the client: the digest of one of its access tokens or generations. -/
def Db.Holds (db : Db) (client : Uuid) (sha : Sha256) (service : Service) (text : String) : Prop :=
  (∃ token ∈ (db.ownedBy client).accesses, service.accessDigest sha text = some token.jtiHash) ∨
    ∃ generation ∈ (db.ownedBy client).generations,
      digestPresentedRefreshToken sha text = some generation.tokenHash

section Isolation

variable {sha : Sha256} {service : Service} {client : Uuid} {db left right : Db}

theorem Db.AgreesFor.symm (agree : Db.AgreesFor client left right) :
    Db.AgreesFor client right left :=
  ⟨agree.owned.symm, agree.users.symm, agree.events.symm, agree.zone.symm⟩

/-- A row of the client is in both tables or in none. -/
theorem mem_of_filter {ρ : Type} {rows others : List ρ} {owned : ρ → Bool} {row : ρ}
    (same : rows.filter owned = others.filter owned) (member : row ∈ rows) (isOwned : owned row) :
    row ∈ others :=
  (List.mem_filter.mp (same ▸ List.mem_filter.mpr ⟨member, isOwned⟩)).1

namespace Db.AgreesFor

variable (agree : Db.AgreesFor client left right)
include agree

theorem mem_clients {row : ClientRow} (member : row ∈ left.clients) (isOwned : row.id = client) :
    row ∈ right.clients :=
  mem_of_filter (congrArg Owned.clients agree.owned) member (beq_iff_eq.mpr isOwned)

theorem mem_grants {row : ConsentGrant} (member : row ∈ left.consentGrants)
    (isOwned : row.clientID = client) : row ∈ right.consentGrants :=
  mem_of_filter (congrArg Owned.grants agree.owned) member (beq_iff_eq.mpr isOwned)

theorem mem_families {row : RefreshTokenFamily} (member : row ∈ left.refreshTokenFamilies)
    (isOwned : row.clientID = client) : row ∈ right.refreshTokenFamilies :=
  mem_of_filter (congrArg Owned.families agree.owned) member (beq_iff_eq.mpr isOwned)

theorem mem_accesses {row : AccessToken} (member : row ∈ left.accessTokens)
    (isOwned : row.clientID = client) : row ∈ right.accessTokens :=
  mem_of_filter (congrArg Owned.accesses agree.owned) member (beq_iff_eq.mpr isOwned)

theorem mem_generations {row : RefreshToken} (member : row ∈ left.refreshTokens)
    {family : RefreshTokenFamily} (inFamilies : family ∈ left.refreshTokenFamilies)
    (isFamily : family.id = row.familyID) (isOwned : family.clientID = client) :
    row ∈ right.refreshTokens := by
  have owns : left.ownsGeneration client row :=
    List.any_eq_true.mpr ⟨family, inFamilies, by simp [isFamily, isOwned]⟩
  have inOwned : row ∈ (left.ownedBy client).generations := List.mem_filter.mpr ⟨member, owns⟩
  rw [agree.owned] at inOwned
  exact (List.mem_filter.mp inOwned).1

/-- The client itself is the same. -/
theorem clientOf {row : ClientRow} (isOwned : row.id = client) :
    left.clientOf row = right.clientOf row := by
  have redirects := congrArg Owned.redirectURIs agree.owned
  have logouts := congrArg Owned.logoutURIs agree.owned
  have scopes := congrArg Owned.scopes agree.owned
  simp only [Db.ownedBy] at redirects logouts scopes
  simp only [Db.clientOf, isOwned, redirects, logouts, scopes]

end Db.AgreesFor

/-! ## Snapshots -/

/-- A snapshot about a token of the client is the same in both states. -/
theorem Token.AccessFound.transfer {hash : Bytes} {now : Time} {authority : AccessAuthority}
    (lawful : left.Lawful) (agree : Db.AgreesFor client left right)
    (isOwned : authority.metadata.clientID = client)
    (found : AccessFound left hash now authority) : AccessFound right hash now authority := by
  obtain ⟨row, inClients, isRow, isClient⟩ := found.client
  -- the family is one of the client's, because the token is
  have moved (family : RefreshTokenFamily) (isFamily : authority.family = some family) :
      family ∈ right.refreshTokenFamilies := by
    cases isNamed : authority.metadata.refreshFamilyID with
    | none =>
      rw [found.noFamily isNamed] at isFamily
      cases isFamily
    | some id =>
      obtain ⟨other, inFamilies, isID, isOther⟩ := found.named id isNamed
      obtain ⟨backing, inBacking, backingID, -, ownedToo, -⟩ :=
        lawful.attributed _ found.metadata id isNamed
      obtain rfl := lawful.sound.families.unique inBacking inFamilies (backingID.trans isID.symm)
      obtain rfl := Option.some.inj (isOther.symm.trans isFamily)
      exact agree.mem_families inFamilies (ownedToo.trans isOwned)
  refine
    { found with
      metadata := agree.mem_accesses found.metadata isOwned
      user := agree.users ▸ found.user
      client := ⟨row, agree.mem_clients inClients (isRow.trans isOwned), isRow,
        isClient.trans (agree.clientOf (isRow.trans isOwned))⟩
      grant := agree.mem_grants found.grant (found.grantClient.trans isOwned)
      family := moved
      named := fun id isNamed => ?_ }
  obtain ⟨family, -, isID, isFamily⟩ := found.named id isNamed
  exact ⟨family, moved family isFamily, isID, isFamily⟩

theorem RefreshFound.transfer {hash : Bytes} {authority : RefreshTokenAuthority}
    (agree : Db.AgreesFor client left right) (isOwned : authority.family.clientID = client)
    (found : RefreshFound left hash authority) : RefreshFound right hash authority := by
  obtain ⟨row, inClients, isRow, isClient⟩ := found.client
  exact
    { found with
      generation := agree.mem_generations found.generation found.family found.familyID isOwned
      family := agree.mem_families found.family isOwned
      user := agree.users ▸ found.user
      client := ⟨row, agree.mem_clients inClients (isRow.trans isOwned), isRow,
        isClient.trans (agree.clientOf (isRow.trans isOwned))⟩
      grant := agree.mem_grants found.grant (found.grantClient.trans isOwned) }

/-! ### How a snapshot fails -/

/-- The body fails with no other error. -/
def Tx.FailsOnly {α : Type} (error : StoreError) (body : Tx α) : Prop :=
  ∀ db raised, body.run exec db = .error raised → raised = error

section Fails

variable {α β : Type} {error : StoreError}

theorem Tx.FailsOnly.bind {first : Tx α} {rest : α → Tx β} (fails : Tx.FailsOnly error first)
    (continued : ∀ value, Tx.FailsOnly error (rest value)) :
    Tx.FailsOnly error (first >>= rest) := by
  intro db raised failed
  rcases (Program.run_bind_error exec).mp failed with early | ⟨value, s, -, late⟩
  · exact fails db raised early
  · exact continued value s raised late

theorem Tx.failsOnly_pure (value : α) : Tx.FailsOnly error (pure value) :=
  fun _ _ failed => nomatch failed

theorem Tx.failsOnly_require (condition : Bool) :
    Tx.FailsOnly error (Program.require condition error) := by
  intro db raised failed
  rw [Program.run_require] at failed
  split at failed
  · cases failed
  · exact (Except.error.inj failed).symm

/-- A read by a key fails only for want of a row. -/
theorem Tx.failsOnly_read (operation : String) (select : Db → List α) :
    Tx.FailsOnly error (Tx.queryRow operation error (.read select)) := by
  refine .bind (.bind ?_ fun _ => Tx.failsOnly_pure _) fun row => ?_
  · exact fun _ _ failed => nomatch failed
  · intro db raised failed
    cases row with
    | none => exact (Except.error.inj failed).symm
    | some value => cases failed

theorem failsOnly_loadClient (id : Uuid) : Tx.FailsOnly error (loadClient id error) := by
  refine .bind (Tx.failsOnly_read _ _) fun row db raised failed => ?_
  rw [loadClientChildren_run] at failed
  cases failed

theorem getAccessTokenAuthority_failsOnly (hash : Bytes) (now : Time) :
    Tx.FailsOnly .tokenInvalidToken (getAccessTokenAuthority hash now) := by
  refine .bind (Tx.failsOnly_require _) fun _ => .bind (Tx.failsOnly_read _ _) fun metadata =>
    .bind (Tx.failsOnly_require _) fun _ => .bind (Tx.failsOnly_read _ _) fun _ =>
    .bind (Tx.failsOnly_require _) fun _ => .bind (failsOnly_loadClient _) fun _ =>
    .bind (Tx.failsOnly_require _) fun _ => .bind (Tx.failsOnly_read _ _) fun _ =>
    .bind (Tx.failsOnly_require _) fun _ => ?_
  cases metadata.refreshFamilyID with
  | none => exact Tx.failsOnly_pure _
  | some id => exact .bind (Tx.failsOnly_read _ _) fun _ => Tx.failsOnly_pure _

theorem getRefreshTokenAuthority_failsOnly (hash : Bytes) :
    Tx.FailsOnly .tokenInvalidGrant (getRefreshTokenAuthority hash) :=
  .bind (Tx.failsOnly_require _) fun _ => .bind (Tx.failsOnly_read _ _) fun _ =>
    .bind (Tx.failsOnly_read _ _) fun _ => .bind (Tx.failsOnly_read _ _) fun _ =>
    .bind (failsOnly_loadClient _) fun _ => .bind (Tx.failsOnly_read _ _) fun _ =>
    .bind (Tx.failsOnly_require _) fun _ => Tx.failsOnly_pure _

/-- The answer of a snapshot that failed. -/
theorem snapshot_error {body : Tx α} (fails : Tx.FailsOnly error body) {raised : StoreError}
    (failed : (body.run exec db).map (·.1) = .error raised) : raised = error := by
  cases ran : body.run exec db with
  | ok ended =>
    rw [ran] at failed
    cases failed
  | error other =>
    rw [ran] at failed
    cases failed
    exact fails db raised ran

end Fails

/-! ## Introspection -/

variable {input : IntrospectionInput}

/-- An access token that is not the caller's is inactive. -/
theorem introspectAccess_foreign {claims : AccessTokenClaims}
    (verified : service.verifyAccessToken input.token input.now = some claims)
    (foreign : ∀ authority, AccessFound db (hashJTI sha claims.jwtID) input.now authority →
      authority.metadata.clientID ≠ input.client.id) :
    service.introspectAccess sha db input = some (.ok inactive) := by
  rw [Service.introspectAccess, verified, Option.map_some]
  congr 1
  cases read : accessAuthority db (hashJTI sha claims.jwtID) input.now with
  | error error =>
    rw [snapshot_error (getAccessTokenAuthority_failsOnly _ _) read]
  | ok authority =>
    have found := accessAuthority_found read
    obtain ⟨row, -, isRow, isClient⟩ := found.client
    have other : authority.client.id ≠ input.client.id := by
      rw [isClient]
      exact fun same => foreign authority found (isRow.symm.trans same)
    simp [other]

/-- A refresh token that is not the caller's is inactive. -/
theorem introspectRefresh_foreign (sound : db.Sound) {digest : Bytes}
    (presented : digestPresentedRefreshToken sha input.token = some digest)
    (foreign : ∀ authority, RefreshFound db digest authority →
      authority.family.clientID ≠ input.client.id) :
    service.introspectRefresh sha db input = some (.ok inactive) := by
  rw [Service.introspectRefresh, presented, Option.map_some]
  congr 1
  cases read : refreshAuthority db digest with
  | error error =>
    rw [snapshot_error (getRefreshTokenAuthority_failsOnly _) read]
  | ok authority =>
    have found := (refreshAuthority_iff sound (length_of_digest presented)).mp read
    obtain ⟨row, -, isRow, isClient⟩ := found.client
    have other : authority.client.id ≠ input.client.id := by
      rw [isClient]
      exact fun same => foreign authority found (isRow.symm.trans same)
    simp [refreshAuthorityMatches, other]

theorem introspectAccess_agree (input : IntrospectionInput) (lawfulLeft : left.Lawful)
    (lawfulRight : right.Lawful)
    (agree : Db.AgreesFor input.client.id left right) :
    service.introspectAccess sha left input = service.introspectAccess sha right input := by
  cases verified : service.verifyAccessToken input.token input.now with
  | none => simp only [Service.introspectAccess, verified, Option.map_none]
  | some claims =>
    by_cases own : ∃ authority, AccessFound left (hashJTI sha claims.jwtID) input.now authority ∧
        authority.metadata.clientID = input.client.id
    · obtain ⟨authority, found, isOwned⟩ := own
      have readLeft := (accessAuthority_iff lawfulLeft.sound).mpr found
      have readRight := (accessAuthority_iff lawfulRight.sound).mpr
        (found.transfer lawfulLeft agree isOwned)
      simp only [Service.introspectAccess, verified, Option.map_some, readLeft, readRight]
    · rw [introspectAccess_foreign verified fun authority found isOwned =>
          own ⟨authority, found, isOwned⟩,
        introspectAccess_foreign verified fun authority found isOwned =>
          own ⟨authority, found.transfer lawfulRight agree.symm isOwned, isOwned⟩]

theorem introspectRefresh_agree (input : IntrospectionInput) (lawfulLeft : left.Lawful)
    (lawfulRight : right.Lawful)
    (agree : Db.AgreesFor input.client.id left right) :
    service.introspectRefresh sha left input = service.introspectRefresh sha right input := by
  cases presented : digestPresentedRefreshToken sha input.token with
  | none => simp only [Service.introspectRefresh, presented, Option.map_none]
  | some digest =>
    by_cases own : ∃ authority, RefreshFound left digest authority ∧
        authority.family.clientID = input.client.id
    · obtain ⟨authority, found, isOwned⟩ := own
      have sized := length_of_digest presented
      have readLeft := (refreshAuthority_iff lawfulLeft.sound sized).mpr found
      have readRight := (refreshAuthority_iff lawfulRight.sound sized).mpr
        (found.transfer agree isOwned)
      simp only [Service.introspectRefresh, presented, Option.map_some, readLeft, readRight]
    · rw [introspectRefresh_foreign lawfulLeft.sound presented fun authority found isOwned =>
          own ⟨authority, found, isOwned⟩,
        introspectRefresh_foreign lawfulRight.sound presented fun authority found isOwned =>
          own ⟨authority, found.transfer agree.symm isOwned, isOwned⟩]

/-- At most one of the two lookups applies to a text. -/
theorem introspect_exclusive (sha : Sha256) (service : Service) (db : Db)
    (input : IntrospectionInput) :
    service.introspectAccess sha db input = none ∨ service.introspectRefresh sha db input = none := by
  cases verified : service.verifyAccessToken input.token input.now with
  | none => exact Or.inl (by simp only [Service.introspectAccess, verified, Option.map_none])
  | some claims =>
    obtain ⟨signed, -⟩ := Option.filter_eq_some_iff.mp verified
    refine Or.inr ?_
    simp only [Service.introspectRefresh, compact_not_refresh signed, Option.map_none]

/-- The order of the lookups does not matter. -/
theorem introspect_unordered :
    service.introspect sha db input =
      if input.client.type != .typeConfidential ||
          input.client.tokenEndpointAuthMethod != .clientSecretBasic || !activeClient input.client ||
          input.now.isZero || !presentable input.token then .ok inactive
      else
        (service.introspectAccess sha db input <|> service.introspectRefresh sha db input).getD
          (.ok inactive) := by
  rw [Service.introspect]
  split
  · rfl
  · split
    · rcases introspect_exclusive sha service db input with noAccess | noRefresh
      · simp [noAccess]
      · simp [noRefresh]
    · rfl

/-! ## Revocation -/

variable {lookup : RevocationLookup}

/-- The body of `RevokeToken`, its lookups made in `db`. -/
def revocationBody (lookup : RevocationLookup) (db : Db) : Tx Unit :=
  match lookup.accessJTIHash.bind fun hash => accessCandidate hash db with
  | some candidate => revokeAccessCandidate lookup candidate
  | none => revokeRefreshByHash lookup db db

theorem revocationCall_body (lookup : RevocationLookup) (db : Db) :
    (revocationCall lookup db).body sha = quietly (revocationBody lookup db) := by
  simp only [revocationCall, revocationBody]
  cases found : lookup.accessJTIHash.bind fun hash => accessCandidate hash db with
  | none => rfl
  | some candidate => simp only [Call.body, revokeAccessByHash, found]

/-- What `Revoke` answers and leaves, by the run of its body. -/
theorem revoke_run {input : RevocationInput} (isLookup : service.revocationLookup sha input = some lookup) :
    service.revoke sha input db =
      match (revocationBody lookup db).run exec db with
      | .ok (_, after) => (.ok .done, after)
      | .error error => (.error error, db) := by
  have ran : inTx ((revocationCall lookup db).body sha) .calm .calm db =
      match (revocationBody lookup db).run exec db with
      | .ok (_, after) => (.ok (.ok .done), after)
      | .error error => (.error error, db) := by
    rw [revocationCall_body, inTx_calm, quietly, Program.commit, Program.run_bind]
    cases (revocationBody lookup db).run exec db with
    | ok ended => rfl
    | error error => rfl
  rw [Service.revoke, isLookup]
  simp only [Entry.calm, seenByCaller, ran]
  cases (revocationBody lookup db).run exec db with
  | ok ended => rfl
  | error error => rfl

/-- The access token is revoked. -/
theorem revocation_access (sound : db.Sound) {token : AccessToken}
    (revocable : AccessRevocable lookup token db token) :
    (revocationBody lookup db).run exec db = (stampAccess lookup token).run exec db := by
  have found : (lookup.accessJTIHash.bind fun hash => accessCandidate hash db) = some token := by
    rw [revocable.digest]
    exact (find?_key sound.jtiHashes).mpr ⟨revocable.stored, rfl⟩
  rw [revocationBody, found]
  exact revokeAccessCandidate_found sound revocable

/-- The family of the generation is revoked. -/
theorem revocation_refresh (sound : db.Sound) (noAccess : lookup.accessJTIHash = none)
    {generation : RefreshToken} {family : RefreshTokenFamily}
    (stored : generation ∈ db.refreshTokens)
    (digest : lookup.refreshTokenHash = some generation.tokenHash)
    (revocable : RefreshRevocable lookup generation family db family) :
    (revocationBody lookup db).run exec db = (revokeLockedFamily lookup family).run exec db := by
  have found : (lookup.refreshTokenHash.bind fun hash => refreshCandidate hash db db) =
      some (generation, family) := by
    have isGeneration : db.refreshTokens.find? (·.tokenHash == generation.tokenHash) =
        some generation := (find?_key sound.tokenHashes).mpr ⟨stored, rfl⟩
    have isFamily : db.family? generation.familyID = some family :=
      (find?_key sound.families.distinct).mpr ⟨revocable.stored, revocable.familyID⟩
    rw [digest, Option.bind_some, refreshCandidate, isGeneration, Option.bind_some, isFamily]
    rfl
  rw [revocationBody, noAccess, Option.bind_none]
  simp only [revokeRefreshByHash, found]
  exact revokeRefreshCandidate_found sound revocable

/-- Nothing is revoked. -/
theorem revocation_idle (sound : db.Sound)
    (noAccess : ∀ token, ¬ AccessRevocable lookup token db token)
    (noRefresh : ∀ generation ∈ db.refreshTokens, lookup.refreshTokenHash = some generation.tokenHash →
      ∀ family, ¬ RefreshRevocable lookup generation family db family) :
    (revocationBody lookup db).run exec db = .ok ((), db) := by
  unfold revocationBody
  split
  · rename_i candidate found
    refine revokeAccessCandidate_idle fun token revocable => noAccess token ?_
    obtain ⟨hash, isHash, isCandidate⟩ := Option.bind_eq_some_iff.mp found
    obtain ⟨stored, sameHash⟩ := (find?_key sound.jtiHashes).mp isCandidate
    rw [revocable.digest] at isHash
    obtain rfl := eq_of_key sound.jtiHashes revocable.stored stored
      ((Option.some.inj isHash).trans sameHash.symm)
    exact revocable
  · unfold revokeRefreshByHash
    split
    · rfl
    · rename_i candidate candidateFamily found
      obtain ⟨hash, isHash, isCandidate⟩ := Option.bind_eq_some_iff.mp found
      obtain ⟨⟨stored, sameHash⟩, inFamilies, isFamily⟩ := refreshCandidate_some isCandidate
      refine revokeRefreshCandidate_idle fun family revocable => ?_
      obtain rfl := sound.families.unique revocable.stored inFamilies
        (revocable.familyID.trans isFamily.symm)
      exact noRefresh candidate stored (sameHash ▸ isHash) family revocable

/-! ### Agreement -/

theorem AccessRevocable.transfer {token : AccessToken} (agree : Db.AgreesFor lookup.client.id left right)
    (revocable : AccessRevocable lookup token left token) :
    AccessRevocable lookup token right token := by
  obtain ⟨user, inUsers, isUser, active⟩ := revocable.user
  obtain ⟨row, inClients, isRow, sameClient, grant, inGrants, grantUser, grantClient, grantID,
    unrevoked, covered⟩ := revocable.client
  have isOwned := revocable.tokenClient
  have sameRow := agree.clientOf (isRow.trans isOwned)
  refine
    { revocable with
      user := ⟨user, agree.users ▸ inUsers, isUser, active⟩
      client := ⟨row, agree.mem_clients inClients (isRow.trans isOwned), isRow, sameRow ▸ sameClient,
        grant, agree.mem_grants inGrants (grantClient.trans isOwned), grantUser, grantClient, grantID,
        unrevoked, sameRow ▸ covered⟩
      family := fun id named => ?_
      stored := agree.mem_accesses revocable.stored isOwned }
  obtain ⟨family, inFamilies, isID, backs⟩ := revocable.family id named
  have familyClient : family.clientID = token.clientID := by
    simp only [familyBacks, Bool.and_eq_true, beq_iff_eq, and_assoc] at backs
    exact backs.2.2.2.1
  exact ⟨family, agree.mem_families inFamilies (familyClient.trans isOwned), isID, backs⟩

/-- The family of a revocable generation belongs to the caller. -/
theorem RefreshRevocable.owned {generation : RefreshToken} {family : RefreshTokenFamily}
    (revocable : RefreshRevocable lookup generation family db family) :
    family.clientID = lookup.client.id := by
  obtain ⟨row, -, -, sameClient, familyClient⟩ := revocable.client
  simp only [sameAuthenticatedClient, Bool.and_eq_true, beq_iff_eq, and_assoc] at sameClient
  exact familyClient.trans sameClient.1

theorem RefreshRevocable.transfer {generation : RefreshToken} {family : RefreshTokenFamily}
    (agree : Db.AgreesFor lookup.client.id left right)
    (revocable : RefreshRevocable lookup generation family left family) :
    RefreshRevocable lookup generation family right family := by
  have isOwned := revocable.owned
  obtain ⟨user, inUsers, isUser, active, familyUser⟩ := revocable.user
  obtain ⟨row, inClients, isRow, sameClient, familyClient⟩ := revocable.client
  obtain ⟨grant, inGrants, grantUser, grantClient, grantID, granted, familyGrant⟩ := revocable.grant
  obtain ⟨presented, inGenerations, presentedID, presentedFamily, digest⟩ := revocable.presented
  have sameRow := agree.clientOf (isRow.trans isOwned)
  exact
    { revocable with
      user := ⟨user, agree.users ▸ inUsers, isUser, active, familyUser⟩
      client := ⟨row, agree.mem_clients inClients (isRow.trans isOwned), isRow,
        sameRow ▸ sameClient, familyClient⟩
      grant := ⟨grant, agree.mem_grants inGrants (grantClient.trans isOwned), grantUser, grantClient,
        grantID, granted, familyGrant⟩
      stored := agree.mem_families revocable.stored isOwned
      presented := ⟨presented, agree.mem_generations inGenerations revocable.stored
        presentedFamily.symm isOwned, presentedID, presentedFamily, digest⟩ }

/-! ### The last statements -/

/-- What an audit event is checked against. -/
def Db.SameLog (left right : Db) : Prop :=
  left.users = right.users ∧ left.auditEvents = right.auditEvents

theorem insertProtocolAudit_alike {type : Audit.EventType} {result : Audit.Result}
    {actor target : Uuid} {targetType : Audit.TargetType} {requestID : Audit.RequestID}
    {changed : List String} {now : Time} (same : Db.SameLog left right) :
    Program.Alike (fun _ _ => True)
      ((insertProtocolAudit type result actor targetType target requestID changed now).run exec left)
      ((insertProtocolAudit type result actor targetType target requestID changed now).run exec
        right) := by
  have fresh : freshEventID left = freshEventID right := by rw [freshEventID, freshEventID, same.2]
  refine Program.Alike.bind (R := Db.SameLog) (.call _ ?_) fun id s t alike => ?_
  · simp only [exec, fresh]
    exact .ok _ same
  · refine .bind (R := Db.SameLog) (.require _ _ alike) fun _ s t alike => ?_
    refine .bind (R := Db.SameLog) (.require _ _ alike) fun _ s t alike => .call _ ?_
    have violation (row : AuditEvent) : row.insertViolation s = row.insertViolation t := by
      have users : s.user? = t.user? := by
        funext id
        rw [Db.user?, Db.user?, alike.1]
      simp only [AuditEvent.insertViolation, alike.2, users]
    simp only [Queries.createAuditEvent, exec, TableStmt.exec, auditEventsTable, Relational.insert,
      violation]
    split
    · exact .error _
    · exact .ok _ trivial

/-- An update of the same rows of a table ends alike in two databases. -/
theorem exec_update_alike {ρ χ : Type} {spec : TableSpec Db ρ χ PgError} {R : Db → Db → Prop}
    {put putOther : List ρ → Db} {rows others : List ρ} {matching : ρ → Bool} {change : χ}
    {statement : Stmt (List ρ)}
    (updates : exec statement left =
      store put ((TableStmt.update matching change).exec spec left rows))
    (updatesOther : exec statement right =
      store putOther ((TableStmt.update matching change).exec spec right others))
    (violation : spec.updateViolation left change = spec.updateViolation right change)
    (same : rows.filter (fun r => spec.guard change r && matching r) =
      others.filter (fun r => spec.guard change r && matching r))
    (related : ∀ rows others, R (put rows) (putOther others)) :
    Program.Alike R (exec statement left) (exec statement right) := by
  rw [updates, updatesOther]
  simp only [TableStmt.exec, violation]
  rcases update_alike (spec.updateViolation right change) (spec.apply change) same with
    ⟨failure, isLeft, isRight⟩ | ⟨changed, isLeft, isRight⟩
  · rw [isLeft, isRight]
    exact .error failure
  · rw [isLeft, isRight]
    exact .ok changed (related _ _)

/-- A query for one row ends like its statement. -/
theorem queryRow_alike {ρ : Type} {R : Db → Db → Prop} {operation : String} {absent : StoreError}
    {statement : Stmt (List ρ)}
    (alike : Program.Alike R (exec statement left) (exec statement right)) :
    Program.Alike R ((Tx.queryRow operation absent statement).run exec left)
      ((Tx.queryRow operation absent statement).run exec right) :=
  .bind (R := R) (.bind (R := R) (.call _ alike) fun _ _ _ related => .ok _ related)
    fun row _ _ related => .need row absent related

theorem stampAccess_alike (lawfulLeft : left.Lawful) (lawfulRight : right.Lawful)
    (agree : Db.AgreesFor lookup.client.id left right) {token : AccessToken}
    (inLeft : AccessRevocable lookup token left token)
    (inRight : AccessRevocable lookup token right token) :
    Program.Alike (fun _ _ => True) ((stampAccess lookup token).run exec left)
      ((stampAccess lookup token).run exec right) := by
  refine .bind (R := Db.SameLog) (queryRow_alike
    (exec_update_alike exec_update_accessTokens exec_update_accessTokens rfl ?_ ?_))
    fun _ _ _ same => insertProtocolAudit_alike same
  · refine filter_eq_of_filter_eq (congrArg Owned.accesses agree.owned) ?_ ?_
    · intro row member isRow
      simp only [Bool.and_eq_true, beq_iff_eq] at isRow
      obtain rfl := lawfulLeft.sound.accesses.unique member inLeft.stored isRow.2
      exact beq_iff_eq.mpr inLeft.tokenClient
    · intro row member isRow
      simp only [Bool.and_eq_true, beq_iff_eq] at isRow
      obtain rfl := lawfulRight.sound.accesses.unique member inRight.stored isRow.2
      exact beq_iff_eq.mpr inRight.tokenClient
  · exact fun _ _ => ⟨agree.users, agree.events⟩

/-- The access tokens of a client's family are the client's. -/
theorem Db.Lawful.family_accesses (lawful : db.Lawful) {family : RefreshTokenFamily}
    (stored : family ∈ db.refreshTokenFamilies) {token : AccessToken} (member : token ∈ db.accessTokens)
    (named : token.refreshFamilyID = some family.id) : token.clientID = family.clientID := by
  obtain ⟨other, inFamilies, sameID, -, sameClient, -⟩ :=
    lawful.attributed token member family.id named
  obtain rfl := lawful.sound.families.unique inFamilies stored sameID
  exact sameClient.symm

theorem revokeLockedFamily_alike (lawfulLeft : left.Lawful) (lawfulRight : right.Lawful)
    (agree : Db.AgreesFor lookup.client.id left right) {family : RefreshTokenFamily}
    (isOwned : family.clientID = lookup.client.id) (inLeft : family ∈ left.refreshTokenFamilies)
    (inRight : family ∈ right.refreshTokenFamilies) :
    Program.Alike (fun _ _ => True) ((revokeLockedFamily lookup family).run exec left)
      ((revokeLockedFamily lookup family).run exec right) := by
  let Between (s t : Db) : Prop :=
    s.accessTokens = left.accessTokens ∧ t.accessTokens = right.accessTokens ∧ Db.SameLog s t
  have violation (change : FamilyChange) : refreshTokenFamiliesTable.updateViolation left change =
      refreshTokenFamiliesTable.updateViolation right change := by
    funext row
    simp only [refreshTokenFamiliesTable, agree.zone]
  refine .bind (R := Between) (queryRow_alike (exec_update_alike
    exec_update_refreshTokenFamilies exec_update_refreshTokenFamilies (violation _) ?_ ?_)) ?_
  · refine filter_eq_of_filter_eq (congrArg Owned.families agree.owned) ?_ ?_
    · intro row member isRow
      simp only [Bool.and_eq_true, beq_iff_eq] at isRow
      obtain rfl := lawfulLeft.sound.families.unique member inLeft isRow.2
      exact beq_iff_eq.mpr isOwned
    · intro row member isRow
      simp only [Bool.and_eq_true, beq_iff_eq] at isRow
      obtain rfl := lawfulRight.sound.families.unique member inRight isRow.2
      exact beq_iff_eq.mpr isOwned
  · exact fun _ _ => ⟨rfl, rfl, agree.users, agree.events⟩
  · rintro _ s t ⟨isLeft, isRight, same⟩
    refine .bind (R := Db.SameLog) (.call _ (exec_update_alike exec_update_accessTokens
      exec_update_accessTokens rfl ?_ fun _ _ => same)) fun _ _ _ same => insertProtocolAudit_alike same
    rw [isLeft, isRight]
    refine filter_eq_of_filter_eq (congrArg Owned.accesses agree.owned) ?_ ?_
    · intro row member isRow
      simp only [Bool.and_eq_true, Queries.Selector.ofAccess, beq_iff_eq] at isRow
      exact beq_iff_eq.mpr ((lawfulLeft.family_accesses inLeft member isRow.2.1).trans isOwned)
    · intro row member isRow
      simp only [Bool.and_eq_true, Queries.Selector.ofAccess, beq_iff_eq] at isRow
      exact beq_iff_eq.mpr ((lawfulRight.family_accesses inRight member isRow.2.1).trans isOwned)

/-! ### Rows of others -/

/-- Events belong to no client. -/
theorem ownedBy_logged (row : AuditEvent) (other : Uuid) :
    (db.logged row).ownedBy other = db.ownedBy other := rfl

/-- Changed access tokens of one client are nothing to another. -/
theorem ownedBy_accesses {matching : AccessToken → Bool} {set : AccessToken → AccessToken}
    {other : Uuid}
    (foreign : ∀ token ∈ db.accessTokens, matching token →
      token.clientID ≠ other ∧ (set token).clientID ≠ other) :
    { db with accessTokens := updateRows matching set db.accessTokens }.ownedBy other =
      db.ownedBy other := by
  simp only [Db.ownedBy, Owned.mk.injEq, true_and]
  refine ⟨rfl, filter_updateRows fun token member isMatching => ?_⟩
  obtain ⟨before, after⟩ := foreign token member isMatching
  exact ⟨beq_eq_false_iff_ne.mpr before, beq_eq_false_iff_ne.mpr after⟩

/-- A revoked family of one client is nothing to another. -/
theorem ownedBy_families {selector : Queries.Selector} {now : Time} {reason : RevokeReason}
    {other : Uuid}
    (foreign : ∀ family ∈ db.refreshTokenFamilies, selector.stampsFamily family →
      family.clientID ≠ other) :
    (db.revokedFamilies selector now reason).ownedBy other = db.ownedBy other := by
  have owns : (db.revokedFamilies selector now reason).ownsGeneration other =
      db.ownsGeneration other := by
    funext generation
    simp only [Db.ownsGeneration, Db.revokedFamilies, updateRows, List.any_map]
    congr 1
    funext family
    simp only [Function.comp_apply]
    split <;> rfl
  have families : (db.revokedFamilies selector now reason).refreshTokenFamilies.filter
      (·.clientID == other) = db.refreshTokenFamilies.filter (·.clientID == other) := by
    refine filter_updateRows fun family member stamped => ?_
    have isForeign : (family.clientID == other) = false :=
      beq_eq_false_iff_ne.mpr (foreign family member stamped)
    exact ⟨isForeign, isForeign⟩
  simp only [Db.ownedBy, owns, families]
  rfl

theorem stampAccess_foreign {token : AccessToken} {after : Db} (sound : db.Sound)
    (stored : token ∈ db.accessTokens) {other : Uuid} (foreign : token.clientID ≠ other)
    (ran : (stampAccess lookup token).run exec db = .ok ((), after)) :
    after.ownedBy other = db.ownedBy other := by
  obtain ⟨_, _, stamped, audited⟩ := (Program.run_bind_ok exec).mp ran
  obtain ⟨-, -, -, -, -, -, rfl⟩ := (queryRow_update exec_update_accessTokens
    (unique_of_key sound.accesses.distinct token.id)).mp stamped
  obtain ⟨-, -, rfl⟩ := insertNewAudit_ok.mp audited
  rw [ownedBy_logged]
  refine ownedBy_accesses fun row member isRow => ?_
  simp only [Bool.and_eq_true, beq_iff_eq] at isRow
  obtain rfl := sound.accesses.unique member stored isRow.2
  exact ⟨foreign, foreign⟩

theorem revokeLockedFamily_foreign {family : RefreshTokenFamily} {after : Db} (lawful : db.Lawful)
    (stored : family ∈ db.refreshTokenFamilies) {other : Uuid} (foreign : family.clientID ≠ other)
    (ran : (revokeLockedFamily lookup family).run exec db = .ok ((), after)) :
    after.ownedBy other = db.ownedBy other := by
  simp only [revokeLockedFamily, Program.run_bind_ok, Tx.query_ok] at ran
  obtain ⟨_, _, familyRevoked, _, _, accessesRevoked, audited⟩ := ran
  obtain ⟨-, -, -, -, -, -, rfl⟩ := (revokeFamily_ok lawful.sound).mp familyRevoked
  obtain ⟨-, -, rfl⟩ := exec_revokeLiveAccessTokens.mp accessesRevoked
  obtain ⟨-, -, rfl⟩ := insertNewAudit_ok.mp audited
  have families : (db.revokedFamilies (.family family.id) (timestamp lookup.now)
      .clientRevocation).ownedBy other = db.ownedBy other := by
    refine ownedBy_families fun row member stamped => ?_
    simp only [Queries.Selector.stampsFamily, Queries.Selector.ofFamily, Bool.and_eq_true,
      beq_iff_eq] at stamped
    obtain rfl := lawful.sound.families.unique member stored stamped.2
    exact foreign
  rw [ownedBy_logged]
  refine Eq.trans (ownedBy_accesses fun token member isToken => ?_) families
  simp only [Queries.Selector.stampsAccess, Queries.Selector.ofAccess, Bool.and_eq_true,
    beq_iff_eq] at isToken
  have isForeign : token.clientID ≠ other := by
    rw [lawful.family_accesses stored member isToken.2.1]
    exact foreign
  exact ⟨isForeign, isForeign⟩

/-! ### The answer of a revocation -/

/-- The lookup of a request: the caller, and the digest of one kind of token. -/
theorem revocationLookup_some {input : RevocationInput}
    (isLookup : service.revocationLookup sha input = some lookup) :
    lookup.client = input.client ∧
      (∀ hash, lookup.accessJTIHash = some hash →
        service.accessDigest sha input.token = some hash ∧ lookup.refreshTokenHash = none) ∧
      lookup.refreshTokenHash = digestPresentedRefreshToken sha input.token := by
  unfold Service.revocationLookup at isLookup
  split at isLookup
  · cases isLookup
  · simp only at isLookup
    split at isLookup
    · cases isLookup
    · cases isLookup
      refine ⟨rfl, fun hash isHash => ?_, rfl⟩
      obtain ⟨claims, verified, rfl⟩ := Option.map_eq_some_iff.mp isHash
      obtain ⟨signed, -⟩ := Option.filter_eq_some_iff.mp verified
      exact ⟨accessDigest_of_verified verified, compact_not_refresh signed⟩

/-- What a revocation finds: an access token of the caller, a family of the caller, or nothing. -/
theorem revocation_cases (lawful : db.Lawful)
    (exclusive : ∀ hash, lookup.accessJTIHash = some hash → lookup.refreshTokenHash = none) :
    (∃ token, AccessRevocable lookup token db token) ∨
      (lookup.accessJTIHash = none ∧ ∃ generation family, generation ∈ db.refreshTokens ∧
        lookup.refreshTokenHash = some generation.tokenHash ∧
        RefreshRevocable lookup generation family db family) ∨
      (revocationBody lookup db).run exec db = .ok ((), db) ∧
        (∀ token, ¬ AccessRevocable lookup token db token) ∧
        ∀ generation ∈ db.refreshTokens, lookup.refreshTokenHash = some generation.tokenHash →
          ∀ family, ¬ RefreshRevocable lookup generation family db family := by
  by_cases access : ∃ token, AccessRevocable lookup token db token
  · exact Or.inl access
  · have noAccess : ∀ token, ¬ AccessRevocable lookup token db token :=
      fun token revocable => access ⟨token, revocable⟩
    by_cases refresh : ∃ generation family, generation ∈ db.refreshTokens ∧
        lookup.refreshTokenHash = some generation.tokenHash ∧
        RefreshRevocable lookup generation family db family
    · refine Or.inr (Or.inl ⟨?_, refresh⟩)
      obtain ⟨generation, _, -, digest, -⟩ := refresh
      cases isHash : lookup.accessJTIHash with
      | none => rfl
      | some hash =>
        rw [exclusive hash isHash] at digest
        cases digest
    · have noRefresh : ∀ generation ∈ db.refreshTokens,
          lookup.refreshTokenHash = some generation.tokenHash →
          ∀ family, ¬ RefreshRevocable lookup generation family db family :=
        fun generation member digest family revocable =>
          refresh ⟨generation, family, member, digest, revocable⟩
      exact Or.inr (Or.inr ⟨revocation_idle lawful.sound noAccess noRefresh, noAccess, noRefresh⟩)

/-- The bodies end alike in two states that agree for the caller. -/
theorem revocation_alike (lawfulLeft : left.Lawful) (lawfulRight : right.Lawful)
    (agree : Db.AgreesFor lookup.client.id left right)
    (exclusive : ∀ hash, lookup.accessJTIHash = some hash → lookup.refreshTokenHash = none) :
    Program.Alike (fun _ _ => True) ((revocationBody lookup left).run exec left)
      ((revocationBody lookup right).run exec right) := by
  rcases revocation_cases lawfulLeft exclusive with ⟨token, revocable⟩ |
    ⟨noAccess, generation, family, stored, digest, revocable⟩ | ⟨idle, noAccess, noRefresh⟩
  · have inRight := revocable.transfer agree
    rw [revocation_access lawfulLeft.sound revocable, revocation_access lawfulRight.sound inRight]
    exact stampAccess_alike lawfulLeft lawfulRight agree revocable inRight
  · have inRight := revocable.transfer agree
    have storedRight := agree.mem_generations stored revocable.stored revocable.familyID
      revocable.owned
    rw [revocation_refresh lawfulLeft.sound noAccess stored digest revocable,
      revocation_refresh lawfulRight.sound noAccess storedRight digest inRight]
    exact revokeLockedFamily_alike lawfulLeft lawfulRight agree revocable.owned revocable.stored
      inRight.stored
  · have idleRight : (revocationBody lookup right).run exec right = .ok ((), right) := by
      refine revocation_idle lawfulRight.sound
        (fun token revocable => noAccess token (revocable.transfer agree.symm))
        fun generation stored digest family revocable => ?_
      exact noRefresh generation (agree.symm.mem_generations stored revocable.stored
        revocable.familyID revocable.owned) digest family (revocable.transfer agree.symm)
    rw [idle, idleRight]
    exact .ok () trivial

theorem revoke_agree {input : RevocationInput} (lawfulLeft : left.Lawful)
    (lawfulRight : right.Lawful) (agree : Db.AgreesFor input.client.id left right) :
    (service.revoke sha input left).1 = (service.revoke sha input right).1 := by
  cases isLookup : service.revocationLookup sha input with
  | none => simp only [Service.revoke, isLookup]
  | some lookup =>
    obtain ⟨caller, exclusive, -⟩ := revocationLookup_some isLookup
    rw [revoke_run isLookup, revoke_run isLookup]
    rw [← caller] at agree
    have alike := revocation_alike lawfulLeft lawfulRight agree fun hash isHash =>
      (exclusive hash isHash).2
    generalize (revocationBody lookup left).run exec left = ended at alike
    generalize (revocationBody lookup right).run exec right = endedRight at alike
    cases alike with
    | ok value related => rfl
    | error failure => rfl

theorem revoke_foreign {input : RevocationInput} (lawful : db.Lawful) {other : Uuid}
    (isOther : other ≠ input.client.id) :
    (service.revoke sha input db).2.ownedBy other = db.ownedBy other := by
  cases isLookup : service.revocationLookup sha input with
  | none => simp only [Service.revoke, isLookup]
  | some lookup =>
    obtain ⟨caller, exclusive, -⟩ := revocationLookup_some isLookup
    rw [← caller] at isOther
    rw [revoke_run isLookup]
    cases ran : (revocationBody lookup db).run exec db with
    | error error => rfl
    | ok ended =>
      obtain ⟨⟨⟩, after⟩ := ended
      rcases revocation_cases lawful fun hash isHash => (exclusive hash isHash).2 with
        ⟨token, revocable⟩ | ⟨noAccess, generation, family, stored, digest, revocable⟩ | ⟨idle, -⟩
      · rw [revocation_access lawful.sound revocable] at ran
        refine stampAccess_foreign lawful.sound revocable.stored ?_ ran
        rw [revocable.tokenClient]
        exact isOther.symm
      · rw [revocation_refresh lawful.sound noAccess stored digest revocable] at ran
        refine revokeLockedFamily_foreign lawful revocable.stored ?_ ran
        rw [revocable.owned]
        exact isOther.symm
      · rw [idle] at ran
        cases ran
        rfl

/-- A text that is no token of the caller is answered without a change. -/
theorem revoke_unheld {input : RevocationInput} (lawful : db.Lawful)
    (unheld : ¬ db.Holds input.client.id sha service input.token) :
    service.revoke sha input db = (.ok .done, db) := by
  cases isLookup : service.revocationLookup sha input with
  | none => simp only [Service.revoke, isLookup]
  | some lookup =>
    obtain ⟨caller, exclusive, isRefresh⟩ := revocationLookup_some isLookup
    rw [← caller] at unheld
    have idle : (revocationBody lookup db).run exec db = .ok ((), db) := by
      refine revocation_idle lawful.sound (fun token revocable => unheld (Or.inl ?_))
        fun generation stored digest family revocable => unheld (Or.inr ?_)
      · exact ⟨token, List.mem_filter.mpr ⟨revocable.stored, beq_iff_eq.mpr revocable.tokenClient⟩,
          (exclusive _ revocable.digest).1⟩
      · refine ⟨generation, List.mem_filter.mpr ⟨stored, List.any_eq_true.mpr
          ⟨family, revocable.stored, ?_⟩⟩, isRefresh ▸ digest⟩
        simp [revocable.familyID, revocable.owned]
    rw [revoke_run isLookup, idle]

theorem introspect_unheld (lawful : db.Lawful)
    (unheld : ¬ db.Holds input.client.id sha service input.token) :
    service.introspect sha db input = .ok inactive := by
  have access : service.introspectAccess sha db input = none ∨
      service.introspectAccess sha db input = some (.ok inactive) := by
    cases verified : service.verifyAccessToken input.token input.now with
    | none => exact Or.inl (by simp only [Service.introspectAccess, verified, Option.map_none])
    | some claims =>
      refine Or.inr (introspectAccess_foreign verified fun authority found isOwned =>
        unheld (Or.inl ⟨authority.metadata, ?_, ?_⟩))
      · exact List.mem_filter.mpr ⟨found.metadata, beq_iff_eq.mpr isOwned⟩
      · rw [found.digest]
        exact accessDigest_of_verified verified
  have refresh : service.introspectRefresh sha db input = none ∨
      service.introspectRefresh sha db input = some (.ok inactive) := by
    cases presented : digestPresentedRefreshToken sha input.token with
    | none => exact Or.inl (by simp only [Service.introspectRefresh, presented, Option.map_none])
    | some digest =>
      refine Or.inr (introspectRefresh_foreign lawful.sound presented
        fun authority found isOwned => unheld (Or.inr ⟨authority.generation, ?_, ?_⟩))
      · refine List.mem_filter.mpr ⟨found.generation, List.any_eq_true.mpr
          ⟨authority.family, found.family, ?_⟩⟩
        simp [found.familyID, isOwned]
      · rw [found.digest, presented]
  rw [introspect_unordered]
  split
  · rfl
  · rcases access with noAccess | isAccess
    · rcases refresh with noRefresh | isRefresh
      · simp [noAccess, noRefresh]
      · simp [noAccess, isRefresh]
    · simp [isAccess]

/-- Introspection and revocation tell a client about its own tokens only, whatever the hint. -/
theorem lifecycle_isolated (caller : Client) (lawfulLeft : left.Lawful) (lawfulRight : right.Lawful)
    (agree : Db.AgreesFor caller.id left right) (text : String) (hint : String) (now : Time)
    (requestID : Audit.RequestID) :
    service.introspect sha left ⟨caller, text, hint, now⟩ =
        service.introspect sha right ⟨caller, text, hint, now⟩ ∧
      (service.revoke sha ⟨caller, text, requestID, now⟩ left).1 =
        (service.revoke sha ⟨caller, text, requestID, now⟩ right).1 ∧
      (∀ other ≠ caller.id, (service.revoke sha ⟨caller, text, requestID, now⟩ left).2.ownedBy other =
        left.ownedBy other) ∧
      (¬ left.Holds caller.id sha service text →
        service.introspect sha left ⟨caller, text, hint, now⟩ = .ok inactive ∧
          service.revoke sha ⟨caller, text, requestID, now⟩ left = (.ok .done, left)) ∧
      ∀ db otherHint, service.introspect sha db ⟨caller, text, hint, now⟩ =
        service.introspect sha db ⟨caller, text, otherHint, now⟩ := by
  refine ⟨?_, revoke_agree lawfulLeft lawfulRight agree,
    fun other isOther => revoke_foreign lawfulLeft isOther,
    fun unheld => ⟨introspect_unheld lawfulLeft unheld, revoke_unheld lawfulLeft unheld⟩, ?_⟩
  · rw [introspect_unordered, introspect_unordered,
      introspectAccess_agree ⟨caller, text, hint, now⟩ lawfulLeft lawfulRight agree,
      introspectRefresh_agree ⟨caller, text, hint, now⟩ lawfulLeft lawfulRight agree]
  · intro db otherHint
    rw [introspect_unordered, introspect_unordered]
    rfl

end Isolation

namespace Sample

/-- Two hours and a day later the access token of the flow is deleted. -/
def tokenDeleted : Entry :=
  .calm sha (.cleanupProtocolArtifacts (at' 7200) (at' 7200 + hours 24) fun _ => false) exchanged.after

theorem tokenDeleted_evaluated :
    Fresh (states (exchanged :: flow) exchanged.after) exchanged.after tokenDeleted.after ∧
      exchanged.after.ownedBy 99 = tokenDeleted.after.ownedBy 99 ∧
      (exchanged.after.ownedBy 99).accesses = [] ∧ (exchanged.after.ownedBy 99).generations = [] ∧
      exchanged.after.users = tokenDeleted.after.users ∧
      exchanged.after.accessTokens ≠ tokenDeleted.after.accessTokens := by
  decide +kernel

end Sample

/-- Another client learns nothing about the exchanged access token, not even that it has gone. -/
theorem lifecycle_isolated_sample :
    Sample.exchanged.after.accessTokens ≠ Sample.tokenDeleted.after.accessTokens ∧
      Sample.service.introspect Sample.sha Sample.exchanged.after
          ⟨{ Sample.client with id := 99 }, "a.b.c", "", Sample.at' 30⟩ =
        Sample.service.introspect Sample.sha Sample.tokenDeleted.after
          ⟨{ Sample.client with id := 99 }, "a.b.c", "", Sample.at' 30⟩ ∧
      Sample.service.introspect Sample.sha Sample.exchanged.after
        ⟨{ Sample.client with id := 99 }, "a.b.c", "", Sample.at' 30⟩ = .ok inactive ∧
      Sample.service.revoke Sample.sha
        ⟨{ Sample.client with id := 99 }, "a.b.c", Sample.requestID, Sample.at' 30⟩
        Sample.exchanged.after = (.ok .done, Sample.exchanged.after) := by
  obtain ⟨fresh, owned, noAccess, noGeneration, users, different⟩ := Sample.tokenDeleted_evaluated
  have deleted : Run Sample.sha .utc (Sample.tokenDeleted :: Sample.exchanged :: Sample.flow)
      Sample.tokenDeleted.after := Sample.exchanged_run.calm _ (by simp [Call.reads]) fresh
  have agree : Db.AgreesFor 99 Sample.exchanged.after Sample.tokenDeleted.after :=
    ⟨owned, users, by decide +kernel, Sample.exchanged_run.inZone.trans deleted.inZone.symm⟩
  obtain ⟨same, -, -, unheld, -⟩ := lifecycle_isolated { Sample.client with id := 99 }
    Sample.exchanged_run.lawful deleted.lawful agree "a.b.c" "" (Sample.at' 30) Sample.requestID
  refine ⟨different, same, unheld ?_⟩
  rintro (⟨token, member, -⟩ | ⟨generation, member, -⟩)
  · rw [noAccess] at member
    cases member
  · rw [noGeneration] at member
    cases member

end OneIssuer
