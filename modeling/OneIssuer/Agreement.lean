import Mathlib.Data.Bool.AllAny
import OneIssuer.Invariants
import OneIssuer.Zones

/-!
# Refresh and introspection agree

Introspection decides about a refresh token from one snapshot; a refresh locks the same rows, mints,
and has to get its new rows past the constraints of three tables. In a reachable state the two agree:
what introspection calls active can be refreshed, and what can be refreshed is active, with the same
scopes. The one exception is a family whose deadline is Go's zero time, which minting takes for a
missing deadline.

**What it does not establish.** Anything about two states: both requests look at one state at one time,
and a change in between is outside.
-/

set_option autoImplicit false

namespace OneIssuer

open Relational Token Store Consent

/-! ## The endpoint -/

/-- `Refresh` on the state `db`, with nothing else running: its answer and the state it leaves. -/
def Token.MintingService.refresh (service : MintingService) (sha : Sha256) (entropy : RefreshEntropy)
    (input : RefreshInput) (db : Db) : Except StoreError Answer × Db :=
  if input.tokenHash.length != sha256Size || input.now.isZero || !activeClient input.client then
    (.error .tokenInvalidGrant, db)
  else if input.requestedScopes.any fun scopes => canonicalScopes scopes != some scopes then
    (.error .tokenInvalidScope, db)
  else
    let entry :=
      Entry.calm sha (.exchangeRefreshToken input (service.mintRefresh sha entropy) db db) db
    (entry.outcome, entry.after)

/-- The random values of a refresh are new to the database. -/
structure Token.RefreshEntropy.Unused (entropy : RefreshEntropy) (sha : Sha256) (db : Db) : Prop where
  generations : ∀ old ∈ db.refreshTokens, old.id ≠ entropy.replacementID ∧
    old.tokenHash ≠ hashRefreshToken sha (generateRefreshToken entropy.refreshToken)
  accesses : ∀ old ∈ db.accessTokens, old.id ≠ entropy.accessTokenID ∧
    old.jtiHash ≠ hashJTI sha (newJTI entropy.jti)

section Reachable

variable {sha : Sha256} {db : Db}

/-! ## The presented text -/

/-- Nothing in the alphabet of a token is a space. -/
theorem alphabet_visible : ∀ c ∈ base64Alphabet, isSpace c = false :=
  List.all_iff_forall_prop.mp (by decide)

/-- A refresh token is a text that introspection looks at. -/
theorem presentable_of_refresh {token : String} {digest : Bytes}
    (refresh : digestPresentedRefreshToken sha token = some digest) : presentable token := by
  unfold digestPresentedRefreshToken at refresh
  split at refresh
  · cases refresh
  · rename_i shaped
    split at refresh
    · cases refresh
    · rename_i decoded
      simp only [bne_iff_ne, ne_eq, Bool.or_eq_true, Bool.not_eq_true', not_or, not_not,
        Bool.not_eq_false] at shaped decoded
      obtain ⟨size, shape⟩ := shaped
      obtain ⟨rest, isToken⟩ := List.isPrefixOf_iff_prefix.mp shape
      rw [← isToken] at decoded
      have decodedRest : decodedLength rest = some 32 := decoded
      obtain ⟨values, isValues, isLength⟩ := Option.bind_eq_some_iff.mp decodedRest
      -- 32 bytes need all 43 characters, so no line end was skipped
      have full : rest.length ≤ (rest.filter fun c => c != '\r' && c != '\n').length := by
        have characters := length_le_utf8ByteSize token.toList
        rw [String.ofList_toList, size, ← isToken, List.length_append] at characters
        rw [← length_of_mapM isValues, length_of_strictLength isLength]
        simp only [String.reduceToList, List.length_cons, List.length_nil] at characters
        omega
      have unskipped : ∀ c ∈ rest, c != '\r' && c != '\n' :=
        List.filter_eq_self.mp (List.filter_sublist.eq_of_length_le full)
      have visible : ∀ c ∈ rest, isSpace c = false := by
        intro c member
        have kept := unskipped c member
        simp only [Bool.and_eq_true, bne_iff_ne, ne_eq] at kept
        exact alphabet_visible c (mem_alphabet_of_decoded decodedRest member kept.1 kept.2)
      have last : token.toList.getLast?.any isSpace = false := by
        rw [← isToken, List.getLast?_append]
        cases isLast : rest.getLast? with
        | none => rfl
        | some c => simpa using visible c (List.mem_of_getLast? isLast)
      have first : token.toList.head?.any isSpace = false := by
        rw [← isToken]
        rfl
      have nonempty : token ≠ "" := by
        rintro rfl
        cases size
      simp [presentable, isTrimmed, size, first, last, nonempty, maxCompactTokenBytes]

/-! ## The snapshot -/

/-- What `GetRefreshTokenAuthority` reads about a digest. -/
structure RefreshFound (db : Db) (hash : Bytes) (authority : RefreshTokenAuthority) : Prop where
  generation : authority.generation ∈ db.refreshTokens
  digest : authority.generation.tokenHash = hash
  family : authority.family ∈ db.refreshTokenFamilies
  familyID : authority.family.id = authority.generation.familyID
  user : authority.user ∈ db.users
  userID : authority.user.id = authority.family.userID
  client : ∃ row ∈ db.clients, row.id = authority.family.clientID ∧
    authority.client = db.clientOf row
  grant : authority.grant ∈ db.consentGrants
  grantUser : authority.grant.userID = authority.family.userID
  grantClient : authority.grant.clientID = authority.family.clientID
  grantID : authority.grant.id = authority.family.consentGrantID

theorem refreshAuthority_iff (sound : db.Sound) {hash : Bytes} (sized : hash.length = sha256Size)
    {authority : RefreshTokenAuthority} :
    refreshAuthority db hash = .ok authority ↔ RefreshFound db hash authority := by
  have grants {userID clientID : Uuid} {grant : ConsentGrant} :
      (db.consentGrants.filter fun r => r.userID == userID && r.clientID == clientID).head? =
          some grant ↔
        grant ∈ db.consentGrants ∧ (grant.userID, grant.clientID) = (userID, clientID) := by
    exact head_filter_iff (k := (userID, clientID)) sound.grantParties
  constructor
  · intro read
    obtain ⟨⟨_, after⟩, ran, rfl⟩ := map_ok.mp read
    simp only [getRefreshTokenAuthority, Program.run_bind_ok, Program.run_require_ok,
      Tx.queryRow_ok, Queries.getRefreshTokenByHash, Queries.getRefreshTokenFamilyByID,
      Queries.getUserByID, loadClient, Queries.getOIDCClientByID,
      Queries.getConsentGrantByUserClient, exec_read_ok, Program.run_pure_ok, Prod.mk.injEq] at ran
    obtain ⟨_, _, ⟨-, rfl⟩, generation, _, ⟨_, ⟨rfl, rfl⟩, generationHead⟩, family, _,
      ⟨_, ⟨rfl, rfl⟩, familyHead⟩, user, _, ⟨_, ⟨rfl, rfl⟩, userHead⟩, client, _,
      ⟨row, _, ⟨_, ⟨rfl, rfl⟩, clientHead⟩, loaded⟩, grant, _, ⟨_, ⟨rfl, rfl⟩, grantHead⟩, _, _,
      ⟨granted, rfl⟩, rfl, -⟩ := ran
    obtain ⟨rfl, rfl⟩ := loadClientChildren_ok.mp loaded
    obtain ⟨inGenerations, isHash⟩ := (head_filter_iff sound.tokenHashes).mp generationHead
    obtain ⟨inFamilies, isFamily⟩ := (head_filter_iff sound.families.distinct).mp familyHead
    obtain ⟨inUsers, isUser⟩ := (head_filter_iff sound.users.distinct).mp userHead
    obtain ⟨inClients, isClient⟩ := (head_filter_iff sound.clients.distinct).mp clientHead
    obtain ⟨inGrants, isParties⟩ := grants.mp grantHead
    exact ⟨inGenerations, isHash, inFamilies, isFamily, inUsers, isUser,
      ⟨row, inClients, isClient, rfl⟩, inGrants, congrArg Prod.fst isParties,
      congrArg Prod.snd isParties, beq_iff_eq.mp granted⟩
  · rintro found
    obtain ⟨row, inClients, isRow, isClient⟩ := found.client
    refine map_ok.mpr ⟨(authority, db), ?_, rfl⟩
    simp only [getRefreshTokenAuthority, Program.run_bind_ok, Program.run_require_ok,
      Tx.queryRow_ok, Queries.getRefreshTokenByHash, Queries.getRefreshTokenFamilyByID,
      Queries.getUserByID, loadClient, Queries.getOIDCClientByID,
      Queries.getConsentGrantByUserClient, exec_read_ok, Program.run_pure_ok, Prod.mk.injEq]
    exact ⟨(), db, ⟨by simp [sized], rfl⟩, authority.generation, db, ⟨_, ⟨rfl, rfl⟩,
      (head_filter_iff sound.tokenHashes).mpr ⟨found.generation, found.digest⟩⟩, authority.family, db,
      ⟨_, ⟨rfl, rfl⟩, (head_filter_iff sound.families.distinct).mpr ⟨found.family, found.familyID⟩⟩,
      authority.user, db,
      ⟨_, ⟨rfl, rfl⟩, (head_filter_iff sound.users.distinct).mpr ⟨found.user, found.userID⟩⟩,
      authority.client, db, ⟨row, db, ⟨_, ⟨rfl, rfl⟩,
        (head_filter_iff sound.clients.distinct).mpr ⟨inClients, isRow⟩⟩,
        loadClientChildren_ok.mpr ⟨isClient, rfl⟩⟩, authority.grant, db, ⟨_, ⟨rfl, rfl⟩,
        grants.mpr ⟨found.grant, Prod.ext found.grantUser found.grantClient⟩⟩, (), db,
      ⟨beq_iff_eq.mpr found.grantID, rfl⟩, rfl, rfl⟩

/-! ## The rotation -/

/-- The scopes of a refresh without a requested scope: a sorted set with `openid`. -/
theorem effective_listed {familyScopes grantScopes clientScopes scopes : List String}
    (selected : selectRefreshAccessScopes none familyScopes grantScopes clientScopes = .ok scopes) :
    scopes ∈ supportedScopes.sublists ∧ "openid" ∈ scopes ∧
      (∀ scope ∈ scopes, scope ∈ familyScopes) ∧ ∀ scope ∈ scopes, scope ∈ clientScopes := by
  have inBoth := selectRefreshAccessScopes_ok selected
  simp only [selectRefreshAccessScopes] at selected
  split at selected
  · cases selected
  · split at selected
    · cases selected
    · rename_i complete
      simp only [Bool.or_eq_true, Bool.not_eq_true', not_or, Bool.not_eq_false,
        List.contains_iff_mem] at complete
      cases selected
      exact ⟨intersection_listed _ _, complete.1, fun scope member => (inBoth scope member).1,
        fun scope member => (inBoth scope member).2.2⟩

/-- A sorted set with `openid` satisfies the scope CHECK. -/
theorem scopesValid_listed : ∀ scopes ∈ supportedScopes.sublists, "openid" ∈ scopes →
    scopesValid 1 scopes := by
  decide

section Rotation

variable {entries : List Entry} {service : MintingService} {entropy : RefreshEntropy}
  {input : RefreshInput} {candidate : RefreshToken} {candidateFamily : RefreshTokenFamily}
  {locked : LockedRefresh} {scopes : List String} {minted : RefreshMinted}

/-- The generations after the presented one was consumed. -/
def consumedDb (db : Db) (locked : LockedRefresh) (now : Time) : Db :=
  { db with refreshTokens := consumedGenerations db.refreshTokens locked.presented.id now }

/-- A consumed table has the old rows, but for `consumed_at`. -/
theorem mem_consumed {generations : List RefreshToken} {id : Uuid} {now : Time} {row : RefreshToken}
    (member : row ∈ consumedGenerations generations id now) :
    ∃ old ∈ generations, row = { old with consumedAt := row.consumedAt } := by
  obtain ⟨old, stored, rfl⟩ := mem_updateRows.mp member
  refine ⟨old, stored, ?_⟩
  split <;> rfl

/-- The presented generation can be consumed. -/
theorem consume_run (sound : db.Sound) (stored : locked.presented ∈ db.refreshTokens)
    (unconsumed : locked.presented.consumedAt = none) (notBefore : locked.presented.issuedAt ≤ input.now)
    (whole : timestamp locked.presented.issuedAt = locked.presented.issuedAt) :
    (Tx.queryRow "consume refresh token generation" .tokenInvalidGrant
      (Queries.consumeRefreshToken (timestamp input.now) locked.presented.id)).run exec db =
      .ok ({ locked.presented with consumedAt := some (timestamp input.now) },
        consumedDb db locked (timestamp input.now)) := by
  refine (queryRow_update exec_update_refreshTokens
    (unique_of_key sound.generations.distinct locked.presented.id)).mpr
    ⟨locked.presented, stored, by simp, by simp [refreshTokensTable, GenerationChange.guard,
      unconsumed], ?_, rfl, rfl⟩
  have valid := sound.generations.valid locked.presented stored
  have inOrder : locked.presented.issuedAt ≤ timestamp input.now := by
    rw [← whole]
    exact timestamp_mono notBefore
  simp only [refreshTokensTable, GenerationChange.apply, checkViolation_eq_none,
    RefreshToken.checks, List.mem_cons, List.not_mem_nil, or_false, forall_eq_or_imp, forall_eq,
    Bool.and_eq_true, unconsumed] at valid ⊢
  exact ⟨valid.1, valid.2.1, valid.2.2.1, by simpa using inOrder⟩

/-- The successor of the last generation passes the constraints in UTC. -/
theorem replacement_allowed (run : Run sha .utc entries db)
    (locks : RefreshLocked input candidate candidateFamily db locked)
    (unconsumed : locked.presented.consumedAt = none)
    (notBefore : locked.presented.issuedAt ≤ input.now)
    (unused : entropy.Unused sha db)
    (isMinted : service.mintRefresh sha entropy (refreshedAuthority input locked scopes) = .ok minted) :
    (replacementGeneration locked minted).insertViolation
      (consumedDb db locked (timestamp input.now)) = none := by
  obtain ⟨_, _, -, -, -, -, rfl⟩ := mintRefresh_ok.mp isMinted
  obtain ⟨least, most, -⟩ := service.refreshTTL_valid
  have sound := run.sound
  have zone : db.zone = .utc := run.inZone
  have inFamily : db.family? locked.family.id = some locked.family :=
    (find?_key sound.families.distinct).mpr ⟨locks.family, rfl⟩
  have wholeFamily := run.wholeTimes.families locked.family locks.family
  have wholePresented := run.wholeTimes.generations locked.presented locks.presented
  have created : locked.family.createdAt ≤ timestamp input.now := by
    obtain ⟨family, inFamilies, isFamily, created, -⟩ := run.inside locked.presented locks.presented
    obtain rfl := sound.families.unique inFamilies locks.family
      (isFamily.trans locks.presentedFamily)
    refine created.trans ?_
    rw [← wholePresented]
    exact timestamp_mono notBefore
  have expiresAfter : timestamp input.now <
      timestamp (min (input.now + service.refreshTokenTTL) locked.family.absoluteExpiresAt) := by
    rcases min_choice (input.now + service.refreshTokenTTL) locked.family.absoluteExpiresAt with
      rolling | absolute
    · rw [rolling]
      exact timestamp_lt_add (le_trans (by decide) least)
    · rw [absolute]
      exact timestamp_lt_of_whole locks.unexpired wholeFamily
  have expiresWithin :
      timestamp (min (input.now + service.refreshTokenTTL) locked.family.absoluteExpiresAt) ≤
        timestamp input.now + hours (24 * 30) := by
    refine (timestamp_mono (min_le_left _ _)).trans ?_
    exact timestamp_add_le (n := 2592000000000) (le_trans most (by decide))
  have expiresInside :
      timestamp (min (input.now + service.refreshTokenTTL) locked.family.absoluteExpiresAt) ≤
        locked.family.absoluteExpiresAt := (timestamp_le _).trans (min_le_right _ _)
  have nonneg := (generation_valid sound locks.presented).1
  simp only [RefreshToken.insertViolation, firstViolation_eq_none, List.mem_cons, List.not_mem_nil,
    or_false, forall_eq_or_imp, forall_eq, raised_eq_none, checkViolation_eq_none,
    uniqueViolation_eq_none, foreignKeyViolation_eq_none, Bool.not_eq_false', List.any_eq_false]
  refine ⟨?_, ?_, ?_, ?_, ?_, ?_⟩
  · rw [RefreshToken.insideFamily]
    have found : (consumedDb db locked (timestamp input.now)).family? locked.family.id =
      some locked.family := inFamily
    simp only [replacementGeneration, found, refreshedAuthority, Bool.and_eq_true]
    exact ⟨decide_eq_true created, decide_eq_true expiresInside⟩
  · simp only [RefreshToken.checks, List.mem_cons, List.not_mem_nil, or_false, forall_eq_or_imp,
      forall_eq, replacementGeneration, refreshedAuthority, consumedDb, zone, Zone.utc,
      Bool.and_eq_true, Option.all_none, and_true]
    exact ⟨decide_eq_true (by lia), by simp [isDigest, hashRefreshToken, sha.length_sum],
      decide_eq_true expiresAfter, decide_eq_true expiresWithin⟩
  · intro row member isID
    obtain ⟨old, stored, same⟩ := mem_consumed member
    rw [same] at isID
    exact (unused.generations old stored).1 (beq_iff_eq.mp isID)
  · intro row member isHash
    obtain ⟨old, stored, same⟩ := mem_consumed member
    rw [same] at isHash
    exact (unused.generations old stored).2 (beq_iff_eq.mp isHash)
  · intro row member taken
    obtain ⟨old, stored, same⟩ := mem_consumed member
    rw [same] at taken
    simp only [Bool.and_eq_true, beq_iff_eq, replacementGeneration] at taken
    have last := run.unconsumedLast locked.presented locks.presented unconsumed old stored
      (taken.1.trans locks.presentedFamily.symm)
    rw [taken.2] at last
    lia
  · exact Option.isSome_of_eq_some inFamily

/-- The state after the successor was inserted. -/
def replacedDb (db : Db) (locked : LockedRefresh) (minted : RefreshMinted) (now : Time) : Db :=
  { consumedDb db locked now with
    refreshTokens := (consumedDb db locked now).refreshTokens ++ [replacementGeneration locked minted] }

/-- The access token of a refresh passes the constraints. -/
theorem refreshedAccess_allowed (run : Run sha .utc entries db)
    (replaced : (replacedDb db locked minted (timestamp input.now)).Sound)
    (locks : RefreshLocked input candidate candidateFamily db locked)
    (unconsumed : locked.presented.consumedAt = none) (unused : entropy.Unused sha db)
    (selected : selectRefreshAccessScopes none locked.family.scopes locked.grant.scopes
      locked.client.scopes = .ok scopes)
    (isMinted : service.mintRefresh sha entropy (refreshedAuthority input locked scopes) = .ok minted) :
    (refreshedAccess locked scopes minted).insertViolation
      (replacedDb db locked minted (timestamp input.now)) = none := by
  obtain ⟨_, _, -, -, -, -, isNew⟩ := mintRefresh_ok.mp isMinted
  obtain ⟨least, most⟩ := service.accessTokenTTL_valid
  obtain ⟨listed, openid, inFamilyScopes, -⟩ := effective_listed selected
  have sound := run.sound
  have inFamily : (replacedDb db locked minted (timestamp input.now)).family? locked.family.id =
      some locked.family := (find?_key sound.families.distinct).mpr ⟨locks.family, rfl⟩
  have inGeneration : (replacedDb db locked minted (timestamp input.now)).generation?
      locked.presented.id =
        some { locked.presented with consumedAt := some (timestamp input.now) } :=
    (find?_key replaced.generations.distinct).mpr
      ⟨List.mem_append_left _ (mem_consumedGenerations locks.presented unconsumed), rfl⟩
  have inUsers : (db.user? locked.family.userID).isSome := Option.isSome_of_eq_some
    ((find?_key sound.users.distinct).mpr ⟨locks.user, locks.familyUser.symm⟩)
  have inClients : (db.client? locked.family.clientID).isSome := by
    obtain ⟨row, stored, isRow, isClient⟩ := locks.client
    refine Option.isSome_of_eq_some ((find?_key sound.clients.distinct).mpr ⟨stored, ?_⟩)
    rw [locks.familyClient, isClient]
    rfl
  have inGrants : (db.grant? locked.grant.id).isSome := Option.isSome_of_eq_some
    ((find?_key sound.grants.distinct).mpr ⟨locks.grant, rfl⟩)
  have inSessions : Db.resolves db.session? locked.family.originSessionID := by
    cases named : locked.family.originSessionID with
    | none => rfl
    | some id =>
      obtain ⟨session, stored, isSession⟩ := run.originsLinked locked.family locks.family id named
      exact Option.isSome_of_eq_some ((find?_key sound.sessions.distinct).mpr ⟨stored, isSession⟩)
  simp only [AccessToken.insertViolation, firstViolation_eq_none, List.mem_cons, List.not_mem_nil,
    or_false, forall_eq_or_imp, forall_eq, checkViolation_eq_none, uniqueViolation_eq_none,
    foreignKeyViolation_eq_none]
  refine ⟨?_, ?_, ?_, ?_, ?_, ?_, inGrants, inUsers, inClients, rfl, ?_, ?_, inSessions⟩
  · simp only [AccessToken.authorityViolation, refreshedAccess, raised_eq_none, Bool.not_eq_false',
      AccessToken.refreshConsistent, Option.bind_some, inGeneration, inFamily]
    simpa [locks.presentedFamily, locks.familyGrant] using inFamilyScopes
  · simp only [AccessToken.checks, List.mem_cons, List.not_mem_nil, or_false, forall_eq_or_imp,
      forall_eq, refreshedAccess, isNew, refreshedAuthority]
    have lasts := timestamp_lt_add (t := input.now) (le_trans (by decide) least)
    have bounded := timestamp_add_le (t := input.now) (n := 1800000000)
      (le_trans most (by decide))
    refine ⟨by simp [isDigest, hashJTI, sha.length_sum], ?_, by simp, rfl, scopesValid_listed scopes
      listed openid, by simp⟩
    simp only [Bool.and_eq_true, Option.all_none, and_true]
    exact ⟨decide_eq_true lasts, decide_eq_true bounded⟩
  · simpa [refreshedAccess, isNew, replacedDb, consumedDb] using fun old stored =>
      (unused.accesses old stored).1
  · simpa [refreshedAccess, isNew, replacedDb, consumedDb] using fun old stored =>
      (unused.accesses old stored).2
  · simp only [refreshedAccess, Option.isSome_some, Bool.true_and, List.any_eq_false, beq_iff_eq]
    intro old stored named
    have consumed := run.source_consumed locks.presented stored named
    rw [unconsumed] at consumed
    cases consumed
  · rfl
  · simp [refreshedAccess, Db.resolves, inGeneration]
  · simp [refreshedAccess, Db.resolves, inFamily]

/-- What the minted values of a refresh are checked for. -/
theorem validRefreshMinted_of_mint (locks : RefreshLocked input candidate candidateFamily db locked)
    (unused : entropy.Unused sha db) (below : locked.presented.generation < maxGeneration)
    (isMinted : service.mintRefresh sha entropy (refreshedAuthority input locked scopes) = .ok minted)
    (signed : minted.accessToken ≠ "") :
    validRefreshMinted sha minted locked.presented locked.family input.now := by
  obtain ⟨_, accessToken, -, -, -, -, rfl⟩ := mintRefresh_ok.mp isMinted
  obtain ⟨least, most⟩ := service.accessTokenTTL_valid
  obtain ⟨rollingLeast, rollingMost, -⟩ := service.refreshTTL_valid
  have notPresented : entropy.replacementID.1 ≠ locked.presented.id :=
    (unused.generations locked.presented locks.presented).1.symm
  have positive : 0 < service.accessTokenTTL := lt_of_lt_of_le (by decide) least
  have rolls : 0 < service.refreshTokenTTL := lt_of_lt_of_le (by decide) rollingLeast
  have expires : input.now < min (input.now + service.refreshTokenTTL)
      locked.family.absoluteExpiresAt := lt_min (by lia) locks.unexpired
  have within : min (input.now + service.refreshTokenTTL) locked.family.absoluteExpiresAt ≤
      input.now + hours (30 * 24) := (min_le_left _ _).trans (by lia)
  simp only [validRefreshMinted, refreshedAuthority, Bool.and_eq_true, bne_iff_ne, ne_eq, beq_iff_eq,
    and_assoc]
  exact ⟨entropy.accessTokenID.2, entropy.replacementID.2, notPresented, sha.length_sum _,
    sha.length_sum _, signed, generateRefreshToken_ne_empty _, trivial, decide_eq_true (by lia),
    decide_eq_true (by lia), decide_eq_true expires, decide_eq_true within,
    decide_eq_true (min_le_right _ _), below.ne, digest_generateRefreshToken sha _⟩

/-- A refresh whose mint succeeds rotates the generation. -/
theorem rotateGeneration_run (run : Run sha .utc entries db)
    (locks : RefreshLocked input candidate candidateFamily db locked)
    (unconsumed : locked.presented.consumedAt = none)
    (unexpired : input.now < locked.presented.expiresAt)
    (notBefore : locked.presented.issuedAt ≤ input.now) (notZero : input.now ≠ 0)
    (unused : entropy.Unused sha db) (below : locked.presented.generation < maxGeneration)
    (requested : input.requestedScopes = none)
    (selected : selectRefreshAccessScopes none locked.family.scopes locked.grant.scopes
      locked.client.scopes = .ok scopes)
    (isMinted : service.mintRefresh sha entropy (refreshedAuthority input locked scopes) = .ok minted)
    (signed : minted.accessToken ≠ "") (notNil : locked.presented.id ≠ Uuid.nil) :
    ∃ after, (rotateGeneration sha input (service.mintRefresh sha entropy) locked).run exec db =
      .ok (refreshResponse scopes minted, after) := by
  have whole := run.wholeTimes.generations locked.presented locks.presented
  have consumed := consume_run run.sound locks.presented unconsumed notBefore whole
  have inserted : exec (Queries.createRefreshToken (replacementGeneration locked minted))
      (consumedDb db locked (timestamp input.now)) =
        .ok ((), replacedDb db locked minted (timestamp input.now)) :=
    exec_insert_refreshTokens.mpr
      ⟨replacement_allowed run locks unconsumed notBefore unused isMinted, rfl⟩
  have replaced : (replacedDb db locked minted (timestamp input.now)).Sound :=
    exec_sound (run_sound run.sound consumed) inserted
  let issued : Db := { replacedDb db locked minted (timestamp input.now) with
    accessTokens := db.accessTokens ++ [refreshedAccess locked scopes minted] }
  have accessInserted : exec (Queries.createAccessToken (refreshedAccess locked scopes minted))
      (replacedDb db locked minted (timestamp input.now)) = .ok ((), issued) :=
    exec_insert_accessTokens.mpr
      ⟨refreshedAccess_allowed run replaced locks unconsumed unused selected isMinted, rfl⟩
  have known : ∃ user ∈ db.users, user.id = locked.family.userID :=
    ⟨locked.user, locks.user, locks.familyUser.symm⟩
  have accessID : minted.accessTokenID ≠ Uuid.nil := by
    obtain ⟨_, _, -, -, -, -, rfl⟩ := mintRefresh_ok.mp isMinted
    exact entropy.accessTokenID.2
  obtain ⟨rotation, -, rotated⟩ : ∃ event, _ ∧
      (insertProtocolAudit .refreshTokenRotated .success locked.family.userID .refreshToken
        locked.presented.id input.requestID ["consumed", "rotated"] input.now).run exec issued =
        .ok ((), issued.logged event) :=
    insertProtocolAudit_run known notNil notZero (by decide) (by simp)
  obtain ⟨issue, -, reported⟩ : ∃ event, _ ∧
      (insertProtocolAudit .accessTokenIssued .success locked.family.userID .accessToken
        minted.accessTokenID input.requestID ["issued"] input.now).run exec
        (issued.logged rotation) = .ok ((), (issued.logged rotation).logged event) :=
    insertProtocolAudit_run known accessID notZero (by decide) (by simp)
  refine ⟨(issued.logged rotation).logged issue, ?_⟩
  simp only [rotateGeneration, Program.run_bind_ok, Program.run_require_ok, Program.run_ofExcept_ok,
    Tx.query_ok, Program.run_pure_ok, requested]
  exact ⟨(), db, ⟨decide_eq_true unexpired, rfl⟩, scopes, db, ⟨selected, rfl⟩, minted, db,
    ⟨isMinted, rfl⟩, (), db, ⟨validRefreshMinted_of_mint locks unused below isMinted signed, rfl⟩, _, _,
    consumed, (), _, inserted, (), _, accessInserted, (), _, rotated, (), _, reported, rfl⟩

end Rotation

/-! ## Agreement -/

/-- The digest of a presented token is one. -/
theorem length_of_digest {token : String} {digest : Bytes}
    (presented : digestPresentedRefreshToken sha token = some digest) :
    digest.length = sha256Size := by
  unfold digestPresentedRefreshToken at presented
  split at presented
  · cases presented
  · split at presented
    · cases presented
    · cases presented
      exact sha.length_sum _

/-- When introspection reports a refresh token as active, and with what. -/
theorem introspect_refresh_iff {service : Service} (sound : db.Sound) (input : IntrospectionInput)
    {digest : Bytes} (presented : digestPresentedRefreshToken sha input.token = some digest)
    {response : IntrospectionResponse} :
    service.introspect sha db input = .ok response ∧ response.active ↔
      (input.client.type = .typeConfidential ∧
        input.client.tokenEndpointAuthMethod = .clientSecretBasic ∧ activeClient input.client ∧
        input.now ≠ 0) ∧
      ∃ authority scopes, RefreshFound db digest authority ∧
        refreshAuthorityMatches authority input.client digest input.now ∧
        selectRefreshAccessScopes none authority.family.scopes authority.grant.scopes
          authority.client.scopes = .ok scopes ∧
        response = service.refreshResponse authority scopes := by
  have notAccess : service.introspectAccess sha db input = none := by
    cases verified : service.verifyAccessToken input.token input.now with
    | none => simp [Service.introspectAccess, verified]
    | some claims =>
      obtain ⟨signed, -⟩ := Option.filter_eq_some_iff.mp verified
      rw [compact_not_refresh signed] at presented
      cases presented
  have shown := presentable_of_refresh presented
  have sized := length_of_digest presented
  by_cases admitted : input.client.type = .typeConfidential ∧
      input.client.tokenEndpointAuthMethod = .clientSecretBasic ∧ activeClient input.client ∧
      input.now ≠ 0
  · have asked : some (service.introspect sha db input) = service.introspectRefresh sha db input := by
      obtain ⟨confidential, basic, active, notZero⟩ := admitted
      unfold Service.introspect
      rw [if_neg (by simp [confidential, basic, active, notZero, shown, Time.isZero])]
      simp only [notAccess, Service.introspectRefresh, presented, Option.map_some]
      split <;> rfl
    constructor
    · rintro ⟨answered, active⟩
      rw [answered] at asked
      refine ⟨admitted, ?_⟩
      obtain ⟨_, isDigest, answer⟩ := Option.map_eq_some_iff.mp asked.symm
      rw [presented] at isDigest
      cases isDigest
      split at answer
      · cases answer
        cases active
      · cases answer
      · rename_i authority isAuthority
        split at answer
        · cases answer
          cases active
        · rename_i accepted
          split at answer
          · cases answer
            cases active
          · rename_i scopes selected
            cases answer
            exact ⟨authority, scopes, (refreshAuthority_iff sound sized).mp isAuthority,
              by simpa using accepted, selected, rfl⟩
    · rintro ⟨-, authority, scopes, found, accepted, selected, rfl⟩
      have isAuthority := (refreshAuthority_iff sound sized).mpr found
      simp only [Service.introspectRefresh, presented, Option.map_some, isAuthority, accepted,
        selected, Bool.not_true, Bool.false_eq_true, if_false, Option.some.injEq] at asked
      exact ⟨asked, rfl⟩
  · constructor
    · rintro ⟨answered, active⟩
      unfold Service.introspect at answered
      rw [if_pos ?_] at answered
      · cases answered
        cases active
      · by_contra passes
        simp only [Bool.or_eq_true, bne_iff_ne, ne_eq, Bool.not_eq_true', not_or, not_not,
          Bool.not_eq_false, Time.isZero, beq_iff_eq] at passes
        exact admitted ⟨passes.1.1.1.1, passes.1.1.1.2, passes.1.1.2, passes.1.2⟩
    · rintro ⟨isAdmitted, -⟩
      exact absurd isAdmitted admitted

section Agreement

variable {entries : List Entry} {service : MintingService} {entropy : RefreshEntropy}
  {input : RefreshInput} {candidate : RefreshToken} {candidateFamily : RefreshTokenFamily}
  {locked : LockedRefresh} {scopes : List String} {generation : RefreshToken}
  {family : RefreshTokenFamily}

/-- The rows of a locked refresh, as a snapshot. -/
def Store.LockedRefresh.authority (locked : LockedRefresh) : RefreshTokenAuthority :=
  { generation := locked.presented, family := locked.family, grant := locked.grant
    user := locked.user, client := locked.client }

/-- What a refresh locks is what introspection reads. -/
theorem found_iff_locks (stored : locked.presented ∈ db.refreshTokens)
    (hasHash : locked.presented.tokenHash = input.tokenHash)
    (inFamilies : locked.family ∈ db.refreshTokenFamilies)
    (isFamily : locked.family.id = locked.presented.familyID)
    (same : locked.client = input.client) (active : activeClient input.client)
    (notNil : locked.presented.id ≠ Uuid.nil) (unconsumed : locked.presented.consumedAt = none)
    (unexpired : input.now < locked.presented.expiresAt) :
    RefreshLocked input locked.presented locked.family db locked ↔
      RefreshFound db input.tokenHash locked.authority ∧
        refreshAuthorityMatches locked.authority input.client input.tokenHash input.now := by
  have profile := active
  simp only [activeClient, Bool.and_eq_true, beq_iff_eq, bne_iff_ne, ne_eq] at profile
  constructor
  · intro locks
    obtain ⟨row, inClients, isRow, isClient⟩ := locks.client
    refine ⟨⟨stored, hasHash, inFamilies, isFamily, locks.user, locks.userID,
      ⟨row, inClients, isRow, isClient⟩, locks.grant, locks.grantUser, locks.grantClient,
      locks.grantID⟩, ?_⟩
    have clientID : input.client.id = locked.family.clientID := by
      rw [← same, ← locks.familyClient]
    simp only [refreshAuthorityMatches, LockedRefresh.authority, Bool.and_eq_true, beq_iff_eq,
      bne_iff_ne, ne_eq, Option.isNone_iff_eq_none, and_assoc, same]
    exact ⟨trivial, trivial, notNil, isFamily.symm, hasHash, unconsumed, decide_eq_true unexpired,
      locks.unrevoked, decide_eq_true locks.unexpired, locks.userID, locks.active, clientID, active,
      locks.grantID, locks.grantUser, locks.grantClient, locks.granted,
      decide_eq_true locks.version⟩
  · rintro ⟨found, accepted⟩
    simp only [refreshAuthorityMatches, LockedRefresh.authority, Bool.and_eq_true, beq_iff_eq,
      bne_iff_ne, ne_eq, Option.isNone_iff_eq_none, and_assoc] at accepted
    obtain ⟨-, -, -, -, -, -, -, unrevoked, unexpiredFamily, userID, userActive, clientID, -, grantID,
      grantUser, grantClient, granted, version⟩ := accepted
    have sameClient : sameAuthenticatedClient locked.client input.client := by
      simp [sameAuthenticatedClient, same, profile]
    exact
      { user := found.user, userID, active := userActive, client := found.client, sameClient
        grant := found.grant, grantUser, grantClient, grantID, granted
        version := of_decide_eq_true version
        family := inFamilies, familyID := isFamily, sameFamily := rfl, familyUser := userID.symm
        familyClient := clientID.symm, familyGrant := grantID.symm, unrevoked
        unexpired := of_decide_eq_true unexpiredFamily, presented := stored, presentedID := rfl
        presentedFamily := isFamily.symm, presentedHash := hasHash }

/-- The rows a refresh looks up in the state it runs in. -/
theorem refreshCandidate_eq (sound : db.Sound) (stored : generation ∈ db.refreshTokens)
    (inFamilies : family ∈ db.refreshTokenFamilies) (isFamily : family.id = generation.familyID) :
    refreshCandidate generation.tokenHash db db = some (generation, family) := by
  have found : db.refreshTokens.find? (·.tokenHash == generation.tokenHash) = some generation :=
    (find?_key sound.tokenHashes).mpr ⟨stored, rfl⟩
  have foundFamily : db.family? generation.familyID = some family :=
    (find?_key sound.families.distinct).mpr ⟨inFamilies, isFamily⟩
  simp only [refreshCandidate, found, Option.bind_some, foundFamily, Option.map_some]

/-- The mint of a refresh that introspection would call active succeeds. -/
theorem mintRefresh_run (run : Run sha .utc entries db)
    (locks : RefreshLocked input candidate candidateFamily db locked)
    (selected : selectRefreshAccessScopes none locked.family.scopes locked.grant.scopes
      locked.client.scopes = .ok scopes)
    (signs : ∀ claims, ∃ text, service.signer.signAccess claims = some text ∧ text ≠ "")
    (deadline : locked.family.absoluteExpiresAt ≠ 0) (active : activeClient locked.client)
    (notZero : input.now ≠ 0) :
    ∃ minted, service.mintRefresh sha entropy (refreshedAuthority input locked scopes) =
      .ok minted ∧ minted.accessToken ≠ "" := by
  obtain ⟨listed, openid, inFamily, inClient⟩ := effective_listed selected
  have mintable : refreshMintable (refreshedAuthority input locked scopes) scopes := by
    have generationNotNil := run.generations_notNil locked.presented locks.presented
    have familyNotNil := run.families_notNil locked.family locks.family
    simp only [refreshMintable, refreshedAuthority, Bool.and_eq_true, beq_iff_eq, bne_iff_ne, ne_eq,
      Bool.not_eq_true', Time.isZero, beq_eq_false_iff_ne, Option.isNone_iff_eq_none,
      scopeSubset_iff, and_assoc]
    exact ⟨generationNotNil, familyNotNil, locks.presentedFamily, locks.familyUser.symm,
      locks.familyClient.symm, locks.familyGrant.symm, locks.active, active, notZero,
      locks.unrevoked, decide_eq_true locks.unexpired, inFamily, inClient⟩
  obtain ⟨text, signed, nonempty⟩ := signs (service.accessClaims locked.user locked.client scopes
    input.now (newJTI entropy.jti))
  refine ⟨_, mintRefresh_ok.mpr ⟨scopes, text, canonicalScopes_listed scopes listed openid, mintable,
    deadline, signed, rfl⟩, nonempty⟩

/-- A refresh that is admitted and rotates, as the caller sees it. -/
structure Rotates (sha : Sha256) (service : MintingService) (entropy : RefreshEntropy)
    (input : RefreshInput) (db : Db) (locked : LockedRefresh) (scopes : List String)
    (minted : RefreshMinted) : Prop where
  active : activeClient input.client
  notZero : input.now ≠ 0
  locks : RefreshLocked input locked.presented locked.family db locked
  unconsumed : locked.presented.consumedAt = none
  unexpired : input.now < locked.presented.expiresAt
  selected : selectRefreshAccessScopes none locked.family.scopes locked.grant.scopes
    locked.client.scopes = .ok scopes
  isMinted : service.mintRefresh sha entropy (refreshedAuthority input locked scopes) = .ok minted

/-- A refresh that answers with tokens rotated the generation. -/
theorem rotates_of_refresh (sound : db.Sound) (requested : input.requestedScopes = none)
    {issued : Response} (answered : (service.refresh sha entropy input db).1 = .ok (.tokens issued)) :
    ∃ locked scopes minted, Rotates sha service entropy input db locked scopes minted ∧
      issued = refreshResponse scopes minted ∧
      refreshedAccess locked scopes minted ∈
        (service.refresh sha entropy input db).2.accessTokens := by
  unfold MintingService.refresh at answered ⊢
  split at answered
  · cases answered
  · rename_i admitted
    rw [if_neg admitted]
    simp only [Bool.or_eq_true, bne_iff_ne, ne_eq, Bool.not_eq_true', not_or, not_not,
      Bool.not_eq_false, Time.isZero, beq_iff_eq] at admitted
    obtain ⟨⟨-, notZero⟩, active⟩ := admitted
    rw [requested] at answered ⊢
    simp only [Option.any_none, Bool.false_eq_true, if_false] at answered ⊢
    obtain ⟨candidate, candidateFamily, result, found, ended, same⟩ :=
      refresh_ran sound ((Entry.calm_ran sha _ db).of_ok answered)
    obtain ⟨⟨stored, -⟩, inFamilies, -⟩ := refreshCandidate_some found
    change RefreshEnd sha input _ candidate candidateFamily db result
      (Entry.calm sha _ db).after at ended
    generalize (Entry.calm sha _ db).after = after at ended ⊢
    cases ended with
    | reused => cases same
    | rotated locks unconsumed unexpired selected valid inside ordinary isMinted =>
      rename_i locked scopes minted events
      cases same
      obtain rfl := sound.generations.unique locks.presented stored locks.presentedID
      obtain rfl := sound.families.unique locks.family inFamilies locks.sameFamily
      rw [requested] at selected
      exact ⟨locked, scopes, minted, ⟨active, notZero, locks, unconsumed, unexpired, selected,
        isMinted⟩, rfl, List.mem_append_right _ List.mem_cons_self⟩

/-- A refresh that can be minted answers with tokens. -/
theorem refresh_of_rotates (run : Run sha .utc entries db) (unused : entropy.Unused sha db)
    (requested : input.requestedScopes = none) {minted : RefreshMinted}
    (rotates : Rotates sha service entropy input db locked scopes minted)
    (notBefore : locked.presented.issuedAt ≤ input.now)
    (below : locked.presented.generation < maxGeneration) (signed : minted.accessToken ≠ "") :
    ∃ issued, (service.refresh sha entropy input db).1 = .ok (.tokens issued) := by
  obtain ⟨active, notZero, locks, unconsumed, unexpired, selected, isMinted⟩ := rotates
  have sized : input.tokenHash.length = sha256Size := by
    have valid := (run.sound.generations.valid locked.presented locks.presented)
    simp only [RefreshToken.checks, checkViolation_eq_none, List.mem_cons, List.not_mem_nil,
      or_false, forall_eq_or_imp, forall_eq, isDigest] at valid
    rw [← locks.presentedHash]
    simpa using valid.2.1
  have notNil : input.client.id ≠ Uuid.nil := by
    simp only [activeClient, Bool.and_eq_true, bne_iff_ne, ne_eq] at active
    exact active.1.1.1
  obtain ⟨after, ran⟩ := rotateGeneration_run run locks unconsumed unexpired notBefore notZero unused
    below requested selected isMinted signed (run.generations_notNil _ locks.presented)
  refine ⟨refreshResponse scopes minted, ?_⟩
  unfold MintingService.refresh
  rw [if_neg (by simp [sized, notZero, active, Time.isZero]), requested]
  simp only [Option.any_none, Bool.false_eq_true, if_false]
  refine Entry.calm_ok.mpr ⟨after, withTokens_ok.mpr ⟨.ok (refreshResponse scopes minted), ?_, rfl⟩⟩
  have found := refreshCandidate_eq run.sound locks.presented locks.family
    locks.presentedFamily.symm
  rw [locks.presentedHash] at found
  simp only [refreshByHash, found, exchangeRefreshToken, Program.run_bind_ok,
    Program.run_require_ok]
  refine ⟨(), db, ⟨by simp [validRefreshInput, sized, notNil, notZero, Time.isZero], rfl⟩, locked, db,
    (lockRefreshAuthority_ok run.sound).mpr ⟨locks, rfl⟩, ?_⟩
  simp only [unconsumed, Option.isSome_none, Bool.false_eq_true, if_false, Program.run_bind_ok,
    Program.run_pure_ok]
  exact ⟨_, after, ran, rfl⟩

/-- The rows of a rotation are what introspection decides about. -/
theorem introspect_of_rotates (input : RefreshInput) (sound : db.Sound) {row : ClientRow}
    (inClients : row ∈ db.clients)
    (confidential : row.clientType = .typeConfidential) {token : String}
    (presented : digestPresentedRefreshToken sha token = some input.tokenHash)
    (isClient : input.client = db.clientOf row) {minted : RefreshMinted}
    (notNil : locked.presented.id ≠ Uuid.nil)
    (rotates : Rotates sha service entropy input db locked scopes minted) (hint : String) :
    service.introspect sha db ⟨input.client, token, hint, input.now⟩ =
      .ok (service.refreshResponse locked.authority scopes) := by
  obtain ⟨active, notZero, locks, unconsumed, unexpired, selected, isMinted⟩ := rotates
  have basic := basic_of_confidential sound inClients confidential
  have sameClient : locked.client = input.client := by
    obtain ⟨other, inTable, isRow, isLocked⟩ := locks.client
    have sameID := locks.sameClient
    simp only [sameAuthenticatedClient, Bool.and_eq_true, beq_iff_eq] at sameID
    rw [isLocked, isClient] at sameID ⊢
    rw [sound.clients.unique inTable inClients sameID.1.1.1.1.1]
  obtain ⟨found, accepted⟩ := (found_iff_locks locks.presented locks.presentedHash locks.family
    locks.familyID sameClient active notNil unconsumed unexpired).mp locks
  refine ((introspect_refresh_iff sound ⟨input.client, token, hint, input.now⟩
    presented).mpr ⟨⟨?_, ?_, active, notZero⟩, locked.authority, scopes, found, accepted, selected,
      rfl⟩).1
  · rw [isClient]
    exact confidential
  · rw [isClient]
    exact basic

/-- What introspection calls active can be rotated. -/
theorem rotates_of_introspect (entropy : RefreshEntropy) (input : RefreshInput)
    (run : Run sha .utc entries db)
    (signs : ∀ claims, ∃ text, service.signer.signAccess claims = some text ∧ text ≠ "")
    (stored : generation ∈ db.refreshTokens) (inFamilies : family ∈ db.refreshTokenFamilies)
    (isFamily : family.id = generation.familyID) (deadline : family.absoluteExpiresAt ≠ 0)
    {row : ClientRow} (inClients : row ∈ db.clients) {token : String}
    (hasHash : input.tokenHash = generation.tokenHash)
    (presented : digestPresentedRefreshToken sha token = some generation.tokenHash)
    (isClient : input.client = db.clientOf row) {hint : String} {response : IntrospectionResponse}
    (answered : service.introspect sha db ⟨input.client, token, hint, input.now⟩ = .ok response)
    (isActive : response.active) :
    ∃ locked scopes minted, Rotates sha service entropy input db locked scopes minted ∧
      locked.presented = generation ∧ minted.accessToken ≠ "" := by
  have sound := run.sound
  obtain ⟨⟨-, -, active, notZero⟩, authority, scopes, found, accepted, selected, -⟩ :=
    (introspect_refresh_iff sound ⟨input.client, token, hint, input.now⟩ presented).mp
      ⟨answered, isActive⟩
  let locked : LockedRefresh :=
    { user := authority.user, client := authority.client, grant := authority.grant
      family := authority.family, presented := authority.generation }
  have isGeneration : authority.generation = generation :=
    eq_of_key sound.tokenHashes found.generation stored found.digest
  have sameFamily : authority.family = family := by
    refine sound.families.unique found.family inFamilies ?_
    rw [found.familyID, isGeneration, isFamily]
  have matching := accepted
  simp only [refreshAuthorityMatches, Bool.and_eq_true, beq_iff_eq, bne_iff_ne, ne_eq,
    Option.isNone_iff_eq_none, and_assoc] at matching
  obtain ⟨clientID, -, notNil, -, -, unconsumed, unexpired, -⟩ := matching
  have sameClient : authority.client = input.client := by
    obtain ⟨other, inTable, isRow, isFound⟩ := found.client
    rw [isFound, isClient] at clientID ⊢
    rw [sound.clients.unique inTable inClients clientID]
  have locks : RefreshLocked input locked.presented locked.family db locked :=
    (found_iff_locks found.generation (found.digest.trans hasHash.symm) found.family found.familyID
      sameClient active notNil unconsumed (of_decide_eq_true unexpired)).mpr
        ⟨hasHash ▸ found, hasHash ▸ accepted⟩
  obtain ⟨minted, isMinted, signed⟩ := mintRefresh_run run locks selected signs
    (by rw [← sameFamily] at deadline; exact deadline) (by rw [← sameClient] at active; exact active)
    notZero
  exact ⟨locked, scopes, minted, ⟨active, notZero, locks, unconsumed, of_decide_eq_true unexpired,
    selected, isMinted⟩, isGeneration, signed⟩

/-- Refresh gets tokens exactly for what introspection calls active, with the reported scopes. -/
theorem introspect_agrees_with_refresh (run : Run sha .utc entries db)
    (signs : ∀ claims, ∃ text, service.signer.signAccess claims = some text ∧ text ≠ "")
    (unused : entropy.Unused sha db) (stored : generation ∈ db.refreshTokens)
    (inFamilies : family ∈ db.refreshTokenFamilies) (isFamily : family.id = generation.familyID)
    (deadline : family.absoluteExpiresAt ≠ 0) {row : ClientRow} (inClients : row ∈ db.clients)
    (confidential : row.clientType = .typeConfidential) {token : String}
    (presented : digestPresentedRefreshToken sha token = some generation.tokenHash) {now : Time}
    (notBefore : generation.issuedAt ≤ now) (below : generation.generation < maxGeneration)
    (hint : String) (requestID : Audit.RequestID) :
    let introspected := service.introspect sha db ⟨db.clientOf row, token, hint, now⟩
    let refreshed := service.refresh sha entropy
      ⟨generation.tokenHash, db.clientOf row, none, requestID, now⟩ db
    ((∃ response, introspected = .ok response ∧ response.active) ↔
      ∃ issued, refreshed.1 = .ok (.tokens issued)) ∧
    ∀ response issued, introspected = .ok response → response.active →
      refreshed.1 = .ok (.tokens issued) → response.scope = issued.scope ∧
        ∃ access ∈ refreshed.2.accessTokens, access.id = entropy.accessTokenID ∧
          response.scope = " ".intercalate access.scopes := by
  intro introspected refreshed
  have sound := run.sound
  have active_of_rotates {locked : LockedRefresh} {scopes : List String} {minted : RefreshMinted}
      (rotates : Rotates sha service entropy ⟨generation.tokenHash, db.clientOf row, none, requestID,
        now⟩ db locked scopes minted) :
      introspected = .ok (service.refreshResponse locked.authority scopes) :=
    introspect_of_rotates _ sound inClients confidential presented rfl
      (run.generations_notNil _ rotates.locks.presented) rotates hint
  constructor
  · constructor
    · rintro ⟨response, answered, active⟩
      obtain ⟨locked, scopes, minted, rotates, rfl, signed⟩ := rotates_of_introspect
        entropy ⟨generation.tokenHash, db.clientOf row, none, requestID, now⟩ run signs stored
        inFamilies isFamily deadline inClients rfl presented rfl answered active
      exact refresh_of_rotates run unused rfl rotates notBefore below signed
    · rintro ⟨issued, answered⟩
      obtain ⟨locked, scopes, minted, rotates, -, -⟩ := rotates_of_refresh sound rfl answered
      exact ⟨_, active_of_rotates rotates, rfl⟩
  · intro response issued answered _ isIssued
    obtain ⟨locked, scopes, minted, rotates, rfl, inserted⟩ := rotates_of_refresh sound rfl isIssued
    cases (active_of_rotates rotates).symm.trans answered
    refine ⟨rfl, refreshedAccess locked scopes minted, inserted, ?_, rfl⟩
    obtain ⟨_, _, -, -, -, -, rfl⟩ := mintRefresh_ok.mp rotates.isMinted
    rfl

end Agreement

end Reachable

namespace Sample

def refreshEntropy : RefreshEntropy :=
  { refreshToken := ⟨List.replicate 31 0 ++ [1], rfl⟩, replacementID := ⟨13, by decide⟩
    jti := ⟨List.replicate 15 0 ++ [1], rfl⟩, accessTokenID := ⟨12, by decide⟩ }

/-- The moment that is one absolute lifetime before Go's zero time. -/
def early : Time := -defaultAbsoluteTTL

def earlyClient : Client := { client with createdAt := early, updatedAt := early }

def earlyTransaction : Transaction :=
  { transaction with createdAt := early, expiresAt := early + minutes 10 }

def earlyRegistration : RegisterCommit :=
  { registration with
    user := ⟨{ user with createdAt := early, updatedAt := early }, passwordHash⟩
    session :=
      { session with
        csrfExpiresAt := early + minutes 10, createdAt := early, lastSeenAt := early
        authenticatedAt := early, expiresAt := early + hours 8
        idleExpiresAt := early + hours 1 } }

def earlyIssue : IssueCommit :=
  { issue with
    transaction := earlyTransaction, authenticatedAt := early, createdAt := early
    expiresAt := early + minutes 5 }

def earlyExchange : Call :=
  .exchangeAuthorizationCode { codeInput early with client := earlyClient }
    (issuer.mint sha exchangeEntropy)

def earlyClientCreated : Entry :=
  .calm sha (.createClient earlyClient none (event 1)) (Db.empty .utc)

def earlyFlowStarted : Entry :=
  .calm sha (.createAuthTransaction earlyTransaction (event 2)) earlyClientCreated.after

def earlyBrowserKnown : Entry :=
  .calm sha (.createPreAuth ⟨4, digest 4, digest 4, 3, early, early + minutes 5⟩)
    earlyFlowStarted.after

def earlyUserRegistered : Entry :=
  .calm sha (.commitRegistration earlyRegistration) earlyBrowserKnown.after

def earlyCodeIssued : Entry :=
  .calm sha (.issueAuthorizationCode earlyIssue) earlyUserRegistered.after

def earlyExchanged : Entry := .calm sha earlyExchange earlyCodeIssued.after

def earlyFlow : List Entry :=
  [earlyCodeIssued, earlyUserRegistered, earlyBrowserKnown, earlyFlowStarted, earlyClientCreated]

/-- Generation 0 of an exchange at `now`. -/
def firstGeneration (now ttl : Time) : RefreshToken :=
  { id := 11, familyID := 10, tokenHash := hashRefreshToken sha (refreshText 'A'), generation := 0
    issuedAt := now, expiresAt := now + ttl, consumedAt := none }

/-- The family of an exchange at `now`. -/
def firstFamily (now ttl : Time) : RefreshTokenFamily :=
  { id := 10, originAuthorizationCodeID := some 7, consentGrantID := 8, userID := 1, clientID := 2
    originSessionID := some 5, sessionBindingID := 5, scopes, createdAt := now
    absoluteExpiresAt := now + ttl, revokedAt := none, revokeReason := none }

/-- The row of the client registered at `now`. -/
def clientRow (now : Time) : ClientRow :=
  { id := 2, clientID := client.clientID, clientType := .typeConfidential
    tokenEndpointAuthMethod := .clientSecretBasic, name := "client", description := ""
    logoURI := none, status := .active, registrationEnabled := false, createdAt := now
    updatedAt := now, version := 1 }

/-- What introspection reports about it. -/
def activeResponse (now ttl : Time) : IntrospectionResponse :=
  { active := true, tokenType := "", clientID := client.clientID
    scope := "offline_access openid profile", subject := user.subject, issuer := service.issuer
    audience := "", issuedAt := now.unix, expiresAt := (now + ttl).unix }

/-- The rows after the exchange and what introspection says about the refresh token; the same when the
family ends at Go's zero time, and what a refresh answers then. -/
theorem exchanges_evaluated :
    (exchanged.after.clients = [clientRow start] ∧
      exchanged.after.refreshTokens = [firstGeneration (at' 20) (hours 24)] ∧
      exchanged.after.refreshTokenFamilies = [firstFamily (at' 20) (hours 48)] ∧
      exchanged.after.accessTokens.map (fun row => (row.id, row.jtiHash)) =
        [(9, hashJTI sha (jtiText 'A'))] ∧
      issuer.introspect sha exchanged.after
        ⟨exchanged.after.clientOf (clientRow start), refreshText 'A', "", at' 40⟩ =
        .ok (activeResponse (at' 20) (hours 24))) ∧
    (earlyExchanged.after.clients = [clientRow early] ∧
      earlyExchanged.after.refreshTokens = [firstGeneration early defaultRefreshTTL] ∧
      earlyExchanged.after.refreshTokenFamilies = [firstFamily early defaultAbsoluteTTL] ∧
      earlyExchanged.after.accessTokens.map (fun row => (row.id, row.jtiHash)) =
        [(9, hashJTI sha (jtiText 'A'))] ∧
      issuer.introspect sha earlyExchanged.after
        ⟨earlyExchanged.after.clientOf (clientRow early), refreshText 'A', "",
          early + seconds 20⟩ = .ok (activeResponse early defaultRefreshTTL) ∧
      (issuer.refresh sha refreshEntropy
        ⟨(firstGeneration early defaultRefreshTTL).tokenHash,
          earlyExchanged.after.clientOf (clientRow early), none, requestID, early + seconds 20⟩
        earlyExchanged.after).1 = .error .tokenInvalidGrant) ∧
    (Fresh (states earlyFlow.tail earlyCodeIssued.before) earlyCodeIssued.before
        earlyCodeIssued.after ∧
      Fresh (states earlyFlow earlyCodeIssued.after) earlyCodeIssued.after earlyExchanged.after) ∧
    digestPresentedRefreshToken sha (refreshText 'A') = some (hashRefreshToken sha (refreshText 'A')) ∧
    hashRefreshToken sha (refreshText 'A') ≠
      hashRefreshToken sha (generateRefreshToken refreshEntropy.refreshToken) ∧
    hashJTI sha (jtiText 'A') ≠ hashJTI sha (newJTI refreshEntropy.jti) := by
  decide +kernel

theorem earlyExchanged_run : Run sha .utc (earlyExchanged :: earlyFlow) earlyExchanged.after := by
  obtain ⟨-, -, ⟨issuedFresh, exchangedFresh⟩, -⟩ := exchanges_evaluated
  have created : Run sha .utc [earlyClientCreated] earlyClientCreated.after :=
    Run.start.quiet _ (by simp [Call.reads]) (by simp [Call.kinds])
  have started : Run sha .utc [earlyFlowStarted, earlyClientCreated] earlyFlowStarted.after :=
    created.quiet _ (by simp [Call.reads]) (by simp [Call.kinds])
  have known : Run sha .utc [earlyBrowserKnown, earlyFlowStarted, earlyClientCreated]
      earlyBrowserKnown.after := started.quiet _ (by simp [Call.reads]) (by simp [Call.kinds])
  have registered : Run sha .utc earlyFlow.tail earlyUserRegistered.after :=
    known.quiet _ (by simp [Call.reads]) (by simp [Call.kinds])
  have issued : Run sha .utc earlyFlow earlyCodeIssued.after :=
    registered.calm _ (by simp [Call.reads]) issuedFresh
  exact issued.calm _ (by simp [earlyExchange, Call.reads]) exchangedFresh

/-- The random values of the sample refresh are new when there is one token of each kind. -/
theorem refreshEntropy_unused {db : Db} {now ttl : Time}
    (generations : db.refreshTokens = [firstGeneration now ttl])
    (accesses : db.accessTokens.map (fun row => (row.id, row.jtiHash)) =
      [(9, hashJTI sha (jtiText 'A'))]) : refreshEntropy.Unused sha db where
  generations := by
    intro old member
    rw [generations, List.mem_singleton] at member
    rw [member]
    exact ⟨by simp [firstGeneration, refreshEntropy], exchanges_evaluated.2.2.2.2.1⟩
  accesses := by
    intro old member
    have named : (old.id, old.jtiHash) ∈ [((9 : Uuid), hashJTI sha (jtiText 'A'))] :=
      accesses ▸ List.mem_map.mpr ⟨old, member, rfl⟩
    obtain ⟨isID, isHash⟩ := Prod.mk.inj (List.mem_singleton.mp named)
    rw [isID, isHash]
    exact ⟨by simp [refreshEntropy], exchanges_evaluated.2.2.2.2.2⟩

end Sample

/-- The first refresh token is active, so it can be refreshed. -/
theorem introspect_agrees_with_refresh_sample :
    ∃ issued, (Sample.issuer.refresh Sample.sha Sample.refreshEntropy
      ⟨hashRefreshToken Sample.sha (Sample.refreshText 'A'),
        Sample.exchanged.after.clientOf (Sample.clientRow Sample.start), none, Sample.requestID,
        Sample.at' 40⟩ Sample.exchanged.after).1 = .ok (.tokens issued) := by
  obtain ⟨⟨clients, generations, families, accesses, answered⟩, -, -, presented, -⟩ :=
    Sample.exchanges_evaluated
  have signs (claims : AccessTokenClaims) :
      ∃ text, Sample.issuer.signer.signAccess claims = some text ∧ text ≠ "" :=
    ⟨"a.b.c", rfl, by decide⟩
  have stored : Sample.firstGeneration (Sample.at' 20) (hours 24) ∈
      Sample.exchanged.after.refreshTokens := generations ▸ List.mem_singleton_self _
  have inFamilies : Sample.firstFamily (Sample.at' 20) (hours 48) ∈
      Sample.exchanged.after.refreshTokenFamilies := families ▸ List.mem_singleton_self _
  have inClients : Sample.clientRow Sample.start ∈ Sample.exchanged.after.clients :=
    clients ▸ List.mem_singleton_self _
  have notBefore : (Sample.firstGeneration (Sample.at' 20) (hours 24)).issuedAt ≤ Sample.at' 40 := by
    decide
  exact (introspect_agrees_with_refresh Sample.exchanged_run signs
    (Sample.refreshEntropy_unused generations accesses) stored inFamilies rfl (by decide) inClients
    rfl presented notBefore (by decide) "" Sample.requestID).1.mp ⟨_, answered, rfl⟩

/-- A family that ends at Go's zero time is active, but cannot be refreshed. -/
theorem zero_deadline_disagrees :
    let db := Sample.earlyExchanged.after
    let generation := Sample.firstGeneration Sample.early defaultRefreshTTL
    let family := Sample.firstFamily Sample.early defaultAbsoluteTTL
    let client := db.clientOf (Sample.clientRow Sample.early)
    let now := Sample.early + seconds 20
    Run Sample.sha .utc (Sample.earlyExchanged :: Sample.earlyFlow) db ∧
      (∀ claims, Sample.issuer.signer.signAccess claims = some "a.b.c") ∧
      Sample.refreshEntropy.Unused Sample.sha db ∧
      generation ∈ db.refreshTokens ∧ family ∈ db.refreshTokenFamilies ∧
      family.id = generation.familyID ∧ Sample.clientRow Sample.early ∈ db.clients ∧
      client.id = family.clientID ∧ client.status = .active ∧ client.type = .typeConfidential ∧
      digestPresentedRefreshToken Sample.sha (Sample.refreshText 'A') = some generation.tokenHash ∧
      generation.issuedAt ≤ now ∧ generation.generation < maxGeneration ∧
      Sample.issuer.introspect Sample.sha db ⟨client, Sample.refreshText 'A', "", now⟩ =
        .ok (Sample.activeResponse Sample.early defaultRefreshTTL) ∧
      (Sample.issuer.refresh Sample.sha Sample.refreshEntropy
        ⟨generation.tokenHash, client, none, Sample.requestID, now⟩ db).1 =
        .error .tokenInvalidGrant := by
  obtain ⟨-, ⟨clients, generations, families, accesses, active, refused⟩, -, presented, -⟩ :=
    Sample.exchanges_evaluated
  refine ⟨Sample.earlyExchanged_run, fun _ => rfl, Sample.refreshEntropy_unused generations accesses,
    generations ▸ List.mem_singleton_self _, families ▸ List.mem_singleton_self _, rfl,
    clients ▸ List.mem_singleton_self _, rfl, rfl, rfl, presented, ?_, ?_, active, refused⟩
  · decide
  · decide

end OneIssuer
