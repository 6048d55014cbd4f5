import OneIssuer.Runs
import OneIssuer.Store.Steps
import OneIssuer.Token.Service

/-!
# What the token service accepts

What the database says about a token that UserInfo or introspection accepts: which rows were read and
that they are alive (`Db.HonoursAccess`, `Db.HonoursGeneration`). The grammars of the two kinds of
token exclude each other, so a compact token is never looked up as a refresh token.

The last section settles that the two endpoints agree about access tokens.

**What it does not establish.** Agreement about refresh tokens, which UserInfo does not take.
-/

set_option autoImplicit false

namespace OneIssuer

open Relational Queries
open OneIssuer.Consent Token

/-- The database backs the access token at `now`. -/
structure Db.HonoursAccess (db : Db) (now : Time) (token : AccessToken) : Prop where
  stored : token ∈ db.accessTokens
  unrevoked : token.revokedAt = none
  unexpired : now < token.expiresAt
  family : ∀ id, token.refreshFamilyID = some id → ∃ family ∈ db.refreshTokenFamilies,
    family.id = id ∧ family.revokedAt = none

/-- The database backs the generation at `now`. -/
structure Db.HonoursGeneration (db : Db) (now : Time) (generation : RefreshToken) : Prop where
  stored : generation ∈ db.refreshTokens
  unconsumed : generation.consumedAt = none
  unexpired : now < generation.expiresAt
  family : ∃ family ∈ db.refreshTokenFamilies, family.id = generation.familyID ∧
    family.revokedAt = none

namespace Token

variable {sha : Sha256} {service : Service} {db : Db}

/-! ## Snapshots -/

/-- The first of the rows a key selects has the key. -/
theorem head_filter {ρ : Type} {rows : List ρ} {matching : ρ → Bool} {row : ρ}
    (head : (rows.filter matching).head? = some row) : row ∈ rows ∧ matching row = true :=
  List.mem_filter.mp (List.mem_of_head? head)

/-- The one row a key selects. -/
theorem head_filter_iff {ρ κ : Type} [BEq κ] [LawfulBEq κ] {rows : List ρ} {key : ρ → κ}
    (distinct : (rows.map key).Nodup) {k : κ} {row : ρ} :
    (rows.filter (key · == k)).head? = some row ↔ row ∈ rows ∧ key row = k := by
  constructor
  · intro head
    obtain ⟨member, isKey⟩ := head_filter head
    exact ⟨member, beq_iff_eq.mp isKey⟩
  · rintro ⟨member, rfl⟩
    have inFilter : row ∈ rows.filter (key · == key row) := List.mem_filter.mpr ⟨member, by simp⟩
    obtain ⟨first, rest, isFilter⟩ := List.exists_cons_of_ne_nil (List.ne_nil_of_mem inFilter)
    have found : first ∈ rows.filter (key · == key row) := isFilter ▸ List.mem_cons_self
    obtain ⟨inRows, isKey⟩ := List.mem_filter.mp found
    rw [isFilter, List.head?_cons, eq_of_key distinct inRows member (beq_iff_eq.mp isKey)]

/-- A confidential client authenticates with its secret. -/
theorem basic_of_confidential (sound : db.Sound) {row : ClientRow} (inClients : row ∈ db.clients)
    (confidential : row.clientType = .typeConfidential) :
    row.tokenEndpointAuthMethod = .clientSecretBasic := by
  have valid := sound.clients.valid row inClients
  simp only [ClientRow.checks, checkViolation_eq_none, List.mem_cons, List.not_mem_nil, or_false,
    forall_eq_or_imp, forall_eq] at valid
  simpa [confidential] using valid.1

/-- What `GetAccessTokenAuthority` found. -/
structure AccessRead (db : Db) (jtiHash : Bytes) (now : Time) (authority : AccessAuthority) :
    Prop where
  timed : now.isZero = false
  metadata : authority.metadata ∈ db.accessTokens
  digest : authority.metadata.jtiHash = jtiHash
  unexpired : now < authority.metadata.expiresAt
  user : authority.user ∈ db.users
  userID : authority.user.id = authority.metadata.userID
  userActive : authority.user.status = .active
  client : ∃ row ∈ db.clients, row.id = authority.metadata.clientID ∧
    authority.client = db.clientOf row
  grant : authority.grant ∈ db.consentGrants
  grantID : authority.grant.id = authority.metadata.consentGrantID
  family : ∀ family, authority.family = some family → family ∈ db.refreshTokenFamilies

/-- All that `GetAccessTokenAuthority` compared. -/
structure AccessFound (db : Db) (jtiHash : Bytes) (now : Time) (authority : AccessAuthority) : Prop
    extends AccessRead db jtiHash now authority where
  sized : jtiHash.length = sha256Size
  clientActive : authority.client.status = .active
  grantUser : authority.grant.userID = authority.metadata.userID
  grantClient : authority.grant.clientID = authority.metadata.clientID
  noFamily : authority.metadata.refreshFamilyID = none → authority.family = none
  named : ∀ id, authority.metadata.refreshFamilyID = some id →
    ∃ family ∈ db.refreshTokenFamilies, family.id = id ∧ authority.family = some family

theorem accessAuthority_found {jtiHash : Bytes} {now : Time} {authority : AccessAuthority}
    (read : accessAuthority db jtiHash now = .ok authority) :
    AccessFound db jtiHash now authority := by
  obtain ⟨⟨_, after⟩, ran, rfl⟩ := map_ok.mp read
  simp only [Store.getAccessTokenAuthority, Program.run_bind_ok, Program.run_require_ok,
    Tx.queryRow_ok, getAccessTokenByJTIHash, getUserByID, getConsentGrantByUserClient,
    Store.loadClient, getOIDCClientByID, exec_read_ok] at ran
  obtain ⟨_, _, ⟨asked, rfl⟩, metadata, _, ⟨_, ⟨rfl, rfl⟩, tokenHead⟩, _, _, ⟨live, rfl⟩, user, _,
    ⟨_, ⟨rfl, rfl⟩, userHead⟩, _, _, ⟨active, rfl⟩, client, _,
    ⟨row, _, ⟨_, ⟨rfl, rfl⟩, clientHead⟩, loaded⟩, _, _, ⟨clientActive, rfl⟩, grant, _,
    ⟨_, ⟨rfl, rfl⟩, grantHead⟩, _, _, ⟨granted, rfl⟩, ran⟩ := ran
  obtain ⟨rfl, rfl⟩ := loadClientChildren_ok.mp loaded
  obtain ⟨inAccesses, -⟩ := head_filter tokenHead
  obtain ⟨inUsers, isUser⟩ := head_filter userHead
  obtain ⟨inClients, isClient⟩ := head_filter clientHead
  obtain ⟨inGrants, parties⟩ := head_filter grantHead
  simp only [Bool.and_eq_true, decide_eq_true_eq, beq_iff_eq, Bool.not_eq_true']
    at asked live isUser isClient active clientActive granted parties
  have found (family : Option RefreshTokenFamily)
      (inFamilies : ∀ row, family = some row → row ∈ _)
      (noFamily : metadata.refreshFamilyID = none → family = none)
      (named : ∀ id, metadata.refreshFamilyID = some id → ∃ row ∈ _, row.id = id ∧ family = some row) :
      AccessFound _ jtiHash now ⟨metadata, grant, user, _, family⟩ :=
    { timed := asked.2, metadata := inAccesses, digest := live.2, unexpired := live.1, user := inUsers
      userID := isUser, userActive := active, client := ⟨row, inClients, isClient, rfl⟩
      grant := inGrants, grantID := granted, family := inFamilies, sized := asked.1, clientActive
      grantUser := parties.1, grantClient := parties.2, noFamily, named }
  split at ran
  · rename_i unnamed
    cases ran
    exact found none (fun _ isSome => by cases isSome) (fun _ => rfl)
      fun id isNamed => by rw [unnamed] at isNamed; cases isNamed
  · rename_i id isNamed
    simp only [Program.run_bind_ok, Tx.queryRow_ok, getRefreshTokenFamilyByID, exec_read_ok,
      Program.run_pure_ok, Prod.mk.injEq] at ran
    obtain ⟨family, _, ⟨_, ⟨rfl, rfl⟩, familyHead⟩, rfl, rfl⟩ := ran
    obtain ⟨inFamilies, isFamily⟩ := head_filter familyHead
    refine found (some family) ?_ (fun unnamed => ?_) fun other isOther => ?_
    · intro row isRow
      cases isRow
      exact inFamilies
    · rw [isNamed] at unnamed
      cases unnamed
    · rw [isNamed] at isOther
      cases isOther
      exact ⟨family, inFamilies, beq_iff_eq.mp isFamily, rfl⟩

theorem accessAuthority_ok {jtiHash : Bytes} {now : Time} {authority : AccessAuthority}
    (read : accessAuthority db jtiHash now = .ok authority) :
    AccessRead db jtiHash now authority := (accessAuthority_found read).toAccessRead

/-- The snapshot is determined by the rows it reads. -/
theorem accessAuthority_iff (sound : db.Sound) {jtiHash : Bytes} {now : Time}
    {authority : AccessAuthority} :
    accessAuthority db jtiHash now = .ok authority ↔ AccessFound db jtiHash now authority := by
  refine ⟨accessAuthority_found, fun found => ?_⟩
  obtain ⟨metadata, grant, user, client, family⟩ := authority
  obtain ⟨row, inClients, isRow, isClient⟩ := found.client
  have isGrant : (db.consentGrants.filter
      fun r => r.userID == metadata.userID && r.clientID == metadata.clientID).head? = some grant :=
    (head_filter_iff (k := (metadata.userID, metadata.clientID)) sound.grantParties).mpr
      ⟨found.grant, Prod.ext found.grantUser found.grantClient⟩
  refine map_ok.mpr ⟨(_, db), ?_, rfl⟩
  simp only [Store.getAccessTokenAuthority, Program.run_bind_ok, Program.run_require_ok,
    Tx.queryRow_ok, getAccessTokenByJTIHash, getUserByID, Store.loadClient, getOIDCClientByID,
    getConsentGrantByUserClient, exec_read_ok]
  refine ⟨(), db, ⟨by simp [found.sized, found.timed], rfl⟩, metadata, db, ⟨_, ⟨rfl, rfl⟩,
      (head_filter_iff sound.jtiHashes).mpr ⟨found.metadata, found.digest⟩⟩,
    (), db, ⟨?_, rfl⟩, user, db, ⟨_, ⟨rfl, rfl⟩,
      (head_filter_iff sound.users.distinct).mpr ⟨found.user, found.userID⟩⟩,
    (), db, ⟨by simp [show user.status = .active from found.userActive], rfl⟩, client, db,
    ⟨row, db, ⟨_, ⟨rfl, rfl⟩, (head_filter_iff sound.clients.distinct).mpr ⟨inClients, isRow⟩⟩,
      loadClientChildren_ok.mpr ⟨isClient, rfl⟩⟩,
    (), db, ⟨by simp [show client.status = .active from found.clientActive], rfl⟩, grant, db,
    ⟨_, ⟨rfl, rfl⟩, isGrant⟩, (), db, ⟨beq_iff_eq.mpr found.grantID, rfl⟩, ?_⟩
  · have unexpired : now < metadata.expiresAt := found.unexpired
    have digest : metadata.jtiHash = jtiHash := found.digest
    simp [unexpired, digest]
  · cases isNamed : metadata.refreshFamilyID with
    | none =>
      have noFamily : family = none := found.noFamily isNamed
      rw [noFamily]
      rfl
    | some id =>
      obtain ⟨row, inFamilies, isID, isFamily⟩ := found.named id isNamed
      have isFamily : family = some row := isFamily
      simp only [Program.run_bind_ok, Tx.queryRow_ok, getRefreshTokenFamilyByID, exec_read_ok,
        Program.run_pure_ok, isFamily]
      exact ⟨row, db, ⟨_, ⟨rfl, rfl⟩,
        (head_filter_iff sound.families.distinct).mpr ⟨inFamilies, isID⟩⟩, rfl⟩

/-- What `GetRefreshTokenAuthority` found. -/
structure RefreshRead (db : Db) (hash : Bytes) (authority : RefreshTokenAuthority) : Prop where
  generation : authority.generation ∈ db.refreshTokens
  digest : authority.generation.tokenHash = hash
  family : authority.family ∈ db.refreshTokenFamilies
  familyID : authority.family.id = authority.generation.familyID

theorem refreshAuthority_ok {hash : Bytes} {authority : RefreshTokenAuthority}
    (read : refreshAuthority db hash = .ok authority) : RefreshRead db hash authority := by
  obtain ⟨⟨_, after⟩, ran, rfl⟩ := map_ok.mp read
  simp only [Store.getRefreshTokenAuthority, Program.run_bind_ok, Program.run_require_ok,
    Tx.queryRow_ok, getRefreshTokenByHash, getRefreshTokenFamilyByID, exec_read_ok,
    Program.run_pure_ok, Prod.mk.injEq] at ran
  obtain ⟨_, _, ⟨-, rfl⟩, generation, _, ⟨_, ⟨rfl, rfl⟩, generationHead⟩, family, _,
    ⟨_, ⟨rfl, rfl⟩, familyHead⟩, user, _, -, client, _, -, grant, _, -, _, _, -, rfl, -⟩ := ran
  obtain ⟨inGenerations, isHash⟩ := head_filter generationHead
  obtain ⟨inFamilies, isFamily⟩ := head_filter familyHead
  exact ⟨inGenerations, beq_iff_eq.mp isHash, inFamilies, beq_iff_eq.mp isFamily⟩

/-! ## Grammars -/

/-- A list maps only if each of its elements does. -/
theorem mapM_isSome {α β : Type} {f : α → Option β} {values : List α} {results : List β}
    (mapped : values.mapM f = some results) : ∀ value ∈ values, (f value).isSome := by
  induction values generalizing results with
  | nil => simp
  | cons first rest ih =>
    simp only [List.mapM_cons, Option.bind_eq_bind, Option.bind_eq_some_iff] at mapped
    obtain ⟨result, isResult, others, areOthers, -⟩ := mapped
    intro value member
    rcases List.mem_cons.mp member with rfl | inRest
    · exact Option.isSome_of_eq_some isResult
    · exact ih areOthers value inRest

/-- A character of a text that decodes is in the alphabet. -/
theorem mem_alphabet_of_decoded {text : List Char} {length : Nat}
    (decoded : decodedLength text = some length) {c : Char} (member : c ∈ text) (noReturn : c ≠ '\r')
    (noNewline : c ≠ '\n') : c ∈ base64Alphabet := by
  obtain ⟨values, isValues, -⟩ := Option.bind_eq_some_iff.mp decoded
  have kept : c ∈ text.filter fun c => c != '\r' && c != '\n' := by
    simp [member, noReturn, noNewline]
  obtain ⟨index, found⟩ : ∃ index, base64Alphabet.findIdx? (· == c) = some index :=
    Option.isSome_iff_exists.mp (mapM_isSome isValues c kept)
  obtain ⟨inBounds, isChar, -⟩ := List.findIdx?_eq_some_iff_getElem.mp found
  exact beq_iff_eq.mp isChar ▸ List.getElem_mem inBounds

/-- A refresh token has no dot. -/
theorem no_dot_of_refresh {token : String} {digest : Bytes}
    (refresh : digestPresentedRefreshToken sha token = some digest) : '.' ∉ token.toList := by
  unfold digestPresentedRefreshToken at refresh
  split at refresh
  · cases refresh
  · rename_i shaped
    split at refresh
    · cases refresh
    · rename_i decoded
      simp only [bne_iff_ne, ne_eq, Bool.or_eq_true, Bool.not_eq_true', not_or, not_not,
        Bool.not_eq_false] at shaped decoded
      obtain ⟨rest, isToken⟩ := List.isPrefixOf_iff_prefix.mp shaped.2
      rw [← isToken] at decoded ⊢
      simp only [List.mem_append, not_or]
      refine ⟨by decide, fun dotted => ?_⟩
      have inAlphabet := mem_alphabet_of_decoded decoded (c := '.') (by simpa using dotted)
        (by decide) (by decide)
      revert inAlphabet
      decide

/-- A compact token is not a refresh token. -/
theorem compact_not_refresh {compact : String} {claims : AccessTokenClaims}
    (signed : service.signedClaims compact = some claims) :
    digestPresentedRefreshToken sha compact = none := by
  unfold Service.signedClaims at signed
  split at signed
  · cases signed
  · rename_i shaped
    simp only [Bool.or_eq_true, bne_iff_ne, ne_eq, not_or, not_not] at shaped
    by_contra isRefresh
    obtain ⟨digest, refresh⟩ := Option.ne_none_iff_exists'.mp isRefresh
    have undotted := List.count_eq_zero.mpr (no_dot_of_refresh refresh)
    rw [shaped.2] at undotted
    cases undotted

/-! ## Accepted tokens -/

theorem matches_honours {authority : AccessAuthority} {claims : AccessTokenClaims} {hash : Bytes}
    {now : Time} (read : AccessRead db hash now authority)
    (accepted : service.accessAuthorityMatches sha authority claims now) :
    db.HonoursAccess now authority.metadata := by
  unfold Service.accessAuthorityMatches at accepted
  split at accepted
  · cases accepted
  · simp only [Bool.and_eq_true, authorityActive, Option.isNone_iff_eq_none] at accepted
    obtain ⟨⟨⟨⟨⟨⟨active, -⟩, family⟩, -⟩, -⟩, -⟩, -⟩ := accepted
    have unrevoked : authority.metadata.revokedAt = none := by
      simp only [and_assoc] at active
      exact active.2.2.1
    refine ⟨read.metadata, unrevoked, read.unexpired, fun id named => ?_⟩
    simp only [familyMatches, named] at family
    cases isFamily : authority.family with
    | none =>
      rw [isFamily] at family
      cases family
    | some row =>
      rw [isFamily] at family
      simp only [Bool.and_eq_true, beq_iff_eq, Option.isNone_iff_eq_none] at family
      exact ⟨row, read.family row isFamily, family.1.1.1.1.1.1.1, family.1.1.1.1.1.1.2⟩

theorem userInfo_ok {compact : String} {now : Time} {info : UserInfo} :
    service.userInfoForAccessToken sha db compact now = .ok info ↔
      ∃ claims authority, service.verifyAccessToken compact now = some claims ∧
        accessAuthority db (hashJTI sha claims.jwtID) now = .ok authority ∧
        service.accessAuthorityMatches sha authority claims now ∧
        info = applyUserInfoClaims authority.metadata.scopes authority.user := by
  unfold Service.userInfoForAccessToken
  constructor
  · intro accepted
    split at accepted
    · cases accepted
    · rename_i claims verified
      obtain ⟨authority, isAuthority, accepted⟩ := bind_ok.mp accepted
      split at accepted
      · rename_i isMatch
        cases accepted
        exact ⟨claims, authority, verified, isAuthority, isMatch, rfl⟩
      · cases accepted
  · rintro ⟨claims, authority, verified, isAuthority, isMatch, rfl⟩
    simp only [verified]
    exact bind_ok.mpr ⟨authority, isAuthority, if_pos isMatch⟩

/-- A verified token is stored under its digest. -/
theorem accessDigest_of_verified {compact : String} {now : Time} {claims : AccessTokenClaims}
    (verified : service.verifyAccessToken compact now = some claims) :
    service.accessDigest sha compact = some (hashJTI sha claims.jwtID) := by
  obtain ⟨signed, -⟩ := Option.filter_eq_some_iff.mp verified
  rw [Service.accessDigest, signed]
  rfl

/-- What UserInfo accepts is backed by the database. -/
theorem userInfo_honours {compact : String} {now : Time} {info : UserInfo}
    (accepted : service.userInfoForAccessToken sha db compact now = .ok info) :
    ∃ token, service.accessDigest sha compact = some token.jtiHash ∧ db.HonoursAccess now token := by
  obtain ⟨claims, authority, verified, isAuthority, isMatch, -⟩ := userInfo_ok.mp accepted
  have read := accessAuthority_ok isAuthority
  exact ⟨authority.metadata, read.digest ▸ accessDigest_of_verified verified,
    matches_honours read isMatch⟩

/-- The presented text is the access token `introspect` reports as active. -/
theorem introspectAccess_active {input : IntrospectionInput} {response : IntrospectionResponse}
    (answered : service.introspectAccess sha db input = some (.ok response))
    (active : response.active) :
    ∃ claims authority, service.verifyAccessToken input.token input.now = some claims ∧
      accessAuthority db (hashJTI sha claims.jwtID) input.now = .ok authority ∧
      service.accessAuthorityMatches sha authority claims input.now ∧
      authority.client.id = input.client.id ∧ authority.client.clientID = input.client.clientID ∧
      response = service.accessResponse authority := by
  obtain ⟨claims, verified, answer⟩ := Option.map_eq_some_iff.mp answered
  split at answer
  · cases answer
    cases active
  · cases answer
  · rename_i authority isAuthority
    split at answer
    · cases answer
      cases active
    · rename_i accepted
      split at answer
      · cases answer
        cases active
      · cases answer
        simp only [Bool.or_eq_true, bne_iff_ne, ne_eq, Bool.not_eq_true', not_or, not_not,
          Bool.not_eq_false] at accepted
        exact ⟨claims, authority, verified, isAuthority, accepted.2, accepted.1.1, accepted.1.2, rfl⟩

/-- What introspection reports as an active refresh token is backed by the database. -/
theorem introspectRefresh_active {input : IntrospectionInput} {response : IntrospectionResponse}
    (answered : service.introspectRefresh sha db input = some (.ok response))
    (active : response.active) :
    response.tokenType = "" ∧ ∃ generation,
      digestPresentedRefreshToken sha input.token = some generation.tokenHash ∧
        db.HonoursGeneration input.now generation := by
  obtain ⟨digest, presented, answer⟩ := Option.map_eq_some_iff.mp answered
  split at answer
  · cases answer
    cases active
  · cases answer
  · rename_i authority isAuthority
    split at answer
    · cases answer
      cases active
    · rename_i accepted
      split at answer
      · cases answer
        cases active
      · cases answer
        have read := refreshAuthority_ok isAuthority
        simp only [refreshAuthorityMatches, Bool.not_eq_true', Bool.not_eq_false,
          Bool.and_eq_true, decide_eq_true_eq, Option.isNone_iff_eq_none, and_assoc] at accepted
        obtain ⟨-, -, -, -, -, unconsumed, unexpired, unrevoked, -⟩ := accepted
        exact ⟨rfl, authority.generation, by rw [presented, read.digest], read.generation,
          unconsumed, unexpired, authority.family, read.family, read.familyID, unrevoked⟩

/-- An active answer is about an access token or about a refresh token. -/
theorem introspect_cases {input : IntrospectionInput} {response : IntrospectionResponse}
    (answered : service.introspect sha db input = .ok response) (active : response.active) :
    service.introspectAccess sha db input = some (.ok response) ∨
      service.introspectRefresh sha db input = some (.ok response) := by
  unfold Service.introspect at answered
  split at answered
  · cases answered
    cases active
  · cases access : service.introspectAccess sha db input with
    | none =>
      cases refresh : service.introspectRefresh sha db input with
      | none =>
        simp only [access, refresh, ite_self] at answered
        cases answered
        cases active
      | some answer =>
        simp only [access, refresh] at answered
        right
        split at answered <;> exact congrArg some answered
    | some answer =>
      cases refresh : service.introspectRefresh sha db input with
      | none =>
        simp only [access, refresh] at answered
        left
        split at answered <;> exact congrArg some answered
      | some other =>
        simp only [access, refresh] at answered
        split at answered
        · exact Or.inr (congrArg some answered)
        · exact Or.inl (congrArg some answered)

/-! ## The endpoints agree -/

/-- The access token is stored under the client. -/
def Service.StoredUnder (service : Service) (sha : Sha256) (db : Db) (compact : String)
    (client : Client) : Prop :=
  ∃ token ∈ db.accessTokens, service.accessDigest sha compact = some token.jtiHash ∧
    ∃ stored ∈ db.clients, stored.id = token.clientID ∧ stored.id = client.id ∧
      stored.clientID = client.clientID

/-- Intersecting a stored scope list with a list that covers it loses nothing. -/
theorem intersection_eq_self {left right : List String} (sorted : sortedUnique left)
    (covered : ∀ scope ∈ left, supported scope ∧ scope ∈ right) : intersection left right = left := by
  have kept : (left.filter fun scope => supported scope && right.contains scope) = left :=
    List.filter_eq_self.mpr fun scope member => by simp [covered scope member]
  rw [intersection, kept]
  exact beq_iff_eq.mp sorted

/-- The scopes of a stored access token: sorted, supported, with `openid`. -/
theorem stored_scopes (sound : db.Sound) {token : AccessToken} (member : token ∈ db.accessTokens) :
    sortedUnique token.scopes ∧ "openid" ∈ token.scopes ∧
      ∀ scope ∈ token.scopes, supported scope := by
  have valid := checkViolation_eq_none.mp (sound.accesses.valid token member)
    ("access_tokens_scopes_valid", scopesValid 1 token.scopes) (by simp [AccessToken.checks])
  simp only [scopesValid, Bool.and_eq_true, List.all_eq_true, List.contains_iff_mem] at valid
  refine ⟨valid.2, valid.1.2, fun scope inScopes => ?_⟩
  have known := valid.1.1.2 scope inScopes
  simp only [List.mem_cons, List.not_mem_nil, or_false] at known
  rcases known with rfl | rfl | rfl | rfl <;> rfl

/-- The intersections with grant, client and family lose nothing of an accepted token. -/
theorem effectiveScopes_eq (sound : db.Sound) {authority : AccessAuthority}
    {claims : AccessTokenClaims} {hash : Bytes} {now : Time}
    (read : AccessRead db hash now authority)
    (accepted : service.accessAuthorityMatches sha authority claims now) :
    effectiveScopes authority = authority.metadata.scopes := by
  obtain ⟨sorted, -, allSupported⟩ := stored_scopes sound read.metadata
  unfold Service.accessAuthorityMatches at accepted
  split at accepted
  · cases accepted
  · rename_i scopes canonical
    simp only [Bool.and_eq_true] at accepted
    obtain ⟨⟨⟨⟨⟨⟨-, -⟩, family⟩, -⟩, -⟩, covered⟩, -⟩ := accepted
    obtain ⟨isSorted, -⟩ := canonicalScopes_some canonical
    have inScopes : ∀ scope ∈ authority.metadata.scopes, scope ∈ scopes := by
      intro scope member
      rw [isSorted]
      exact mem_sortStrings.mpr member
    have granted : intersection authority.metadata.scopes
        (intersection authority.grant.scopes authority.client.scopes) =
          authority.metadata.scopes := by
      refine intersection_eq_self sorted fun scope member => ⟨allSupported scope member, ?_⟩
      obtain ⟨inGrant, inClient⟩ :=
        covered_of_difference canonical covered scope (inScopes scope member)
      exact mem_intersection.mpr ⟨inGrant, allSupported scope member, inClient⟩
    unfold effectiveScopes
    simp only [granted]
    cases isFamily : authority.family with
    | none => rfl
    | some row =>
      refine intersection_eq_self sorted fun scope member => ⟨allSupported scope member, ?_⟩
      unfold familyMatches at family
      cases named : authority.metadata.refreshFamilyID with
      | none => simp [named, isFamily] at family
      | some id =>
        simp only [named, isFamily, Bool.and_eq_true, Option.any_eq_true_iff_get] at family
        obtain ⟨-, isSome, subset⟩ := family
        have isFamilyScopes := Option.some_get isSome
        obtain ⟨familyCanonical, -⟩ := Option.filter_eq_some_iff.mp isFamilyScopes.symm
        obtain ⟨familySorted, -⟩ := canonicalScopes_some familyCanonical
        have inFamily := scopeSubset_iff.mp subset scope (inScopes scope member)
        rw [familySorted] at inFamily
        exact mem_sortStrings.mp inFamily

/-- A client that owns an accepted token gets past the first checks of `introspect`. -/
theorem introspect_of_accepted (sound : db.Sound) {input : IntrospectionInput}
    {claims : AccessTokenClaims} {authority : AccessAuthority}
    (confidential : input.client.type = .typeConfidential)
    (basic : input.client.tokenEndpointAuthMethod = .clientSecretBasic)
    (status : input.client.status = .active)
    (verified : service.verifyAccessToken input.token input.now = some claims)
    (isAuthority : accessAuthority db (hashJTI sha claims.jwtID) input.now = .ok authority)
    (accepted : service.accessAuthorityMatches sha authority claims input.now)
    (sameID : authority.client.id = input.client.id)
    (sameClientID : authority.client.clientID = input.client.clientID) :
    service.introspect sha db input = .ok (service.accessResponse authority) := by
  have read := accessAuthority_ok isAuthority
  have effective := effectiveScopes_eq sound read accepted
  obtain ⟨-, openid, -⟩ := stored_scopes sound read.metadata
  obtain ⟨signed, -⟩ := Option.filter_eq_some_iff.mp verified
  have answered : service.introspectAccess sha db input =
      some (.ok (service.accessResponse authority)) := by
    have nonempty : authority.metadata.scopes ≠ [] := List.ne_nil_of_mem openid
    simp [Service.introspectAccess, verified, isAuthority, accepted, sameID, sameClientID,
      effective, openid, nonempty]
  have notRefresh : service.introspectRefresh sha db input = none := by
    simp [Service.introspectRefresh, compact_not_refresh signed]
  have active : activeClient input.client := by
    have matched := accepted
    unfold Service.accessAuthorityMatches at matched
    split at matched
    · cases matched
    · simp only [authorityActive, activeClient, Bool.and_eq_true, and_assoc] at matched
      obtain ⟨-, -, -, -, -, -, -, -, -, -, -, -, notNil, named, -⟩ := matched
      rw [sameID] at notNil
      rw [sameClientID] at named
      simp only [activeClient, validAuthenticationProfile, confidential, basic, status, notNil,
        named, Bool.and_true, Bool.true_and]
      decide
  have shown : presentable input.token := by
    unfold Service.signedClaims at signed
    split at signed
    · cases signed
    · rename_i shaped
      simp only [Bool.or_eq_true, not_or, Bool.not_eq_true', beq_iff_eq, decide_eq_true_eq, not_lt,
        Bool.not_eq_false] at shaped
      simp [presentable, shaped]
  unfold Service.introspect
  rw [if_neg (by simp [confidential, basic, active, read.timed, shown])]
  simp only [answered, notRefresh]
  split <;> rfl

/-- Introspection by an active confidential client reports a token as an active access token exactly
when UserInfo accepts it and it is stored under that client, and then reports the stored scopes. -/
theorem introspect_agrees_with_userInfo (sound : db.Sound) (input : IntrospectionInput)
    (confidential : input.client.type = .typeConfidential)
    (basic : input.client.tokenEndpointAuthMethod = .clientSecretBasic)
    (status : input.client.status = .active) :
    ((∃ response, service.introspect sha db input = .ok response ∧ response.active ∧
        response.tokenType = "Bearer") ↔
      (∃ info, service.userInfoForAccessToken sha db input.token input.now = .ok info) ∧
        service.StoredUnder sha db input.token input.client) ∧
    ∀ response, service.introspect sha db input = .ok response → response.active →
      response.tokenType = "Bearer" →
        ∃ token ∈ db.accessTokens, service.accessDigest sha input.token = some token.jtiHash ∧
          response.scope = " ".intercalate token.scopes := by
  have found : ∀ response, service.introspect sha db input = .ok response → response.active →
      response.tokenType = "Bearer" → ∃ claims authority,
        service.verifyAccessToken input.token input.now = some claims ∧
        accessAuthority db (hashJTI sha claims.jwtID) input.now = .ok authority ∧
        service.accessAuthorityMatches sha authority claims input.now ∧
        authority.client.id = input.client.id ∧ authority.client.clientID = input.client.clientID ∧
        response = service.accessResponse authority := by
    intro response answered active bearer
    rcases introspect_cases answered active with access | refresh
    · exact introspectAccess_active access active
    · rw [(introspectRefresh_active refresh active).1] at bearer
      exact absurd bearer (by decide)
  refine ⟨⟨?_, ?_⟩, ?_⟩
  · rintro ⟨response, answered, active, bearer⟩
    obtain ⟨claims, authority, verified, isAuthority, accepted, sameID, sameClientID, -⟩ :=
      found response answered active bearer
    have read := accessAuthority_ok isAuthority
    obtain ⟨row, inClients, isClient, same⟩ := read.client
    rw [same] at sameID sameClientID
    exact ⟨⟨_, userInfo_ok.mpr ⟨claims, authority, verified, isAuthority, accepted, rfl⟩⟩,
      authority.metadata, read.metadata, read.digest ▸ accessDigest_of_verified verified, row,
      inClients, isClient, sameID, sameClientID⟩
  · rintro ⟨⟨info, accepted⟩, token, inAccesses, digest, stored, inClients, isClient, sameID,
      sameClientID⟩
    obtain ⟨claims, authority, verified, isAuthority, isMatch, -⟩ := userInfo_ok.mp accepted
    have read := accessAuthority_ok isAuthority
    have sameDigest : token.jtiHash = authority.metadata.jtiHash := by
      rw [accessDigest_of_verified verified, ← read.digest] at digest
      exact (Option.some.inj digest).symm
    obtain rfl := eq_of_key sound.jtiHashes inAccesses read.metadata sameDigest
    obtain ⟨row, inRows, isRow, same⟩ := read.client
    obtain rfl := sound.clients.unique inClients inRows (isClient.trans isRow.symm)
    refine ⟨_, introspect_of_accepted sound confidential basic status verified isAuthority isMatch
      ?_ ?_, rfl, rfl⟩
    · rw [same]
      exact sameID
    · rw [same]
      exact sameClientID
  · intro response answered active bearer
    obtain ⟨claims, authority, verified, isAuthority, accepted, -, -, rfl⟩ :=
      found response answered active bearer
    have read := accessAuthority_ok isAuthority
    refine ⟨authority.metadata, read.metadata, read.digest ▸ accessDigest_of_verified verified, ?_⟩
    rw [Service.accessResponse, effectiveScopes_eq sound read accepted]

end Token

namespace Sample

/-- A service whose only key verifies everything, with the claims of the exchanged access token. -/
def service : Service :=
  { jose :=
      { parseSignedCompact := fun _ => some
          [{ algorithm := "RS256", keyID := "key", hasJSONWebKey := false, nonceValue := ""
             extraHeaders := [("typ", .text "at+jwt")] }]
        verify := fun _ _ => some ""
        decodeClaims := fun _ => some
          { issuer := "https://issuer.example", subject := user.subject
            audience := "https://issuer.example/oauth2/userinfo", clientID := client.clientID
            scope := "offline_access openid profile", issuedAt := 1664403220
            expiresAt := 1664403520, jwtID := jtiText 'A' } }
    publicKeys :=
      [{ keyID := "key", algorithm := "RS256", use := "sig", isPublic := true
         rsaBits := some 2048 }]
    issuer := "https://issuer.example", userinfoAudience := "https://issuer.example/oauth2/userinfo"
    clockSkew := 0 }

end Sample

theorem introspect_agrees_with_userInfo_exchanged :
    ∃ response, Sample.service.introspect Sample.sha Sample.exchanged.after
        ⟨Sample.client, "a.b.c", "refresh_token", Sample.at' 30⟩ = .ok response ∧
      response.active ∧ response.tokenType = "Bearer" := by
  refine (Token.introspect_agrees_with_userInfo Sample.exchanged_run.sound _ rfl rfl rfl).1.mpr
    ⟨⟨⟨Sample.user.subject, some "Ann", some "ann", none, none⟩, ?_⟩, ?_⟩
  · decide +kernel
  · unfold Token.Service.StoredUnder
    decide +kernel

end OneIssuer
