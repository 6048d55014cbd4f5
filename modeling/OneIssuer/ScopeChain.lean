import OneIssuer.Agreement

/-!
# Scopes along the issuance chain

Scopes only get fewer on the way from the grant to a token. `Db.Permits` says that scopes lie within
an unrevoked grant and within the registration of its client. A code and an access token are
permitted in the state their step leaves; a family has the scopes of its code and keeps them; an
access token has none its family lacks.

Grants and registrations change after that, so the use paths do not rest on the chain: UserInfo,
introspection and refresh find the scopes they act on permitted in the state they read.
`Db.refreshScopes` is what a refresh of a family may get; a rotation reads it and leaves it alone.

**What it does not establish.** What a client or a resource server does with the scopes of a token it
holds.
-/

set_option autoImplicit false

namespace OneIssuer

open Relational Token Store Consent

variable {sha : Sha256} {zone : Zone} {entries : List Entry} {db : Db} {entry : Entry}

/-! ## Permitted scopes -/

/-- The scopes are within an unrevoked grant and within the registration of its client. -/
structure Db.Permits (db : Db) (userID clientID grantID : Uuid) (scopes : List String) : Prop where
  grant : ∃ grant ∈ db.consentGrants, grant.id = grantID ∧ grant.userID = userID ∧
    grant.clientID = clientID ∧ grant.revokedAt = none ∧ ∀ scope ∈ scopes, scope ∈ grant.scopes
  client : ∃ row ∈ db.clients, row.id = clientID ∧
    ∀ scope ∈ scopes, scope ∈ (db.clientOf row).scopes

/-- Only grants, clients and registered scopes matter. -/
theorem Db.Permits.congr {after : Db} {userID clientID grantID : Uuid} {scopes : List String}
    (permits : db.Permits userID clientID grantID scopes)
    (grants : after.consentGrants = db.consentGrants) (clients : after.clients = db.clients)
    (registered : after.clientScopes = db.clientScopes) :
    after.Permits userID clientID grantID scopes := by
  obtain ⟨row, inClients, isRow, covered⟩ := permits.client
  refine ⟨grants ▸ permits.grant, row, clients ▸ inClients, isRow, fun scope member => ?_⟩
  have inRegistered := covered scope member
  simp only [Db.clientOf, mapClient] at inRegistered ⊢
  rw [registered]
  exact inRegistered

/-! ## Codes -/

/-- A grant that may be changed is there afterwards, changed. -/
theorem changed_mem {grants : List ConsentGrant} {change : GrantChange} {grant : ConsentGrant}
    (inGrants : grant ∈ grants) (allowed : change.guard grant) :
    change.apply grant ∈ changedGrants grants change grant.id :=
  mem_updateRows.mpr ⟨grant, inGrants, by simp [allowed]⟩

/-- After a code issue the grant it names covers what was requested. -/
theorem Store.ConsentEnd.covers {commit : IssueCommit} {clientID : Uuid} {requested : List String}
    {grant : ConsentGrant} {grants : List ConsentGrant}
    (ended : ConsentEnd commit clientID requested db grant grants) :
    ∃ stored ∈ grants, stored.id = grant.id ∧ stored.userID = commit.userID ∧
      stored.clientID = clientID ∧ stored.revokedAt = none ∧
      ∀ scope ∈ requested, scope ∈ stored.scopes := by
  cases ended with
  | @unchanged stored _ inGrants grantUser grantClient unrevoked covered =>
    exact ⟨stored, inGrants, rfl, grantUser, grantClient, unrevoked, covered⟩
  | created =>
    exact ⟨_, List.mem_append_right _ (List.mem_singleton.mpr rfl), rfl, rfl, rfl, rfl,
      fun _ member => member⟩
  | expanded inGrants grantUser grantClient unrevoked _ _ covered =>
    refine ⟨_, changed_mem inGrants ?_, rfl, grantUser, grantClient, unrevoked, covered⟩
    simp [GrantChange.guard, unrevoked]
  | reactivated inGrants grantUser grantClient revoked =>
    exact ⟨_, changed_mem inGrants revoked, rfl, grantUser, grantClient, rfl, fun _ member => member⟩

/-- A code is permitted in the state its issue leaves. -/
theorem Entry.Issues.permits {code : AuthorizationCode} (issues : entry.Issues code) :
    entry.after.Permits code.userID code.clientID code.consentGrantID code.scopes := by
  obtain ⟨commit, grant, issued, -, rfl⟩ := issues
  obtain ⟨row, inClients, isRow, -, -, registered⟩ := issued.client
  obtain ⟨isRequested, -⟩ := canonicalScopes_some issued.canonical
  have settled : Db.Permits { entry.before with consentGrants := issued.grants } commit.userID
      issued.clientID grant.id issued.requested := by
    refine ⟨issued.consent.covers, row, inClients, isRow, fun scope member => ?_⟩
    refine registered scope (mem_sortStrings.mp ?_)
    rw [← isRequested]
    exact member
  have grants := congrArg Db.consentGrants issued.isAfter
  have clients := congrArg Db.clients issued.isAfter
  have scopes := congrArg Db.clientScopes issued.isAfter
  exact settled.congr grants clients scopes

/-- The scopes of a stored code are their own canonical form. -/
theorem code_canonical (sound : db.Sound) {code : AuthorizationCode}
    (member : code ∈ db.authorizationCodes) {scopes : List String}
    (canonical : canonicalScopes code.scopes = some scopes) : scopes = code.scopes := by
  have valid := checkViolation_eq_none.mp (sound.codes.valid code member)
    ("authorization_codes_scopes_valid", scopesValid 1 code.scopes)
    (by simp [AuthorizationCode.checks])
  simp only [scopesValid, Bool.and_eq_true, sortedUnique, beq_iff_eq] at valid
  obtain ⟨rfl, -⟩ := canonicalScopes_some canonical
  have sorted := sortedSet_pairwise code.scopes
  rw [valid.2] at sorted
  refine List.Perm.eq_of_pairwise ?_ (sortStrings_pairwise _) (sorted.imp le_of_lt)
    (sortStrings_perm _)
  exact fun _ _ _ _ below above => le_antisymm below above

/-! ## Families -/

/-- A family that a step adds has the scopes of its code. -/
theorem Entry.Ran.family_scopes (took : entry.Ran sha) (sound : entry.before.Sound)
    {family : RefreshTokenFamily}
    (adds : entry.Adds RefreshTokenFamily.id Db.refreshTokenFamilies family) :
    ∃ code ∈ entry.before.authorizationCodes,
      family.originAuthorizationCodeID = some code.id ∧ family.scopes = code.scopes := by
  cases took.minting sound with
  | none families =>
    obtain ⟨old, inBefore, sameID⟩ := families family adds.1
    exact absurd sameID (adds.2 old inBefore)
  | exchanged _ inCodes _ _ locks _ _ isAfter =>
    have member := adds.1
    rw [isAfter] at member
    rcases List.mem_append.mp member with old | new
    · exact absurd rfl (adds.2 family old)
    · obtain ⟨initial, binding, -, -, rfl⟩ := mem_initialFamilies new
      exact ⟨_, inCodes, rfl, code_canonical sound inCodes locks.scopes⟩
  | rotated _ _ _ _ _ _ _ _ isAfter =>
    have member := adds.1
    rw [isAfter] at member
    exact absurd rfl (adds.2 family member)

/-! ## Access tokens -/

/-- What a rotation selects is permitted. -/
theorem Store.RefreshLocked.permits {input : RefreshInput} {candidate : RefreshToken}
    {candidateFamily : RefreshTokenFamily} {locked : LockedRefresh} {scopes : List String}
    (locks : RefreshLocked input candidate candidateFamily db locked)
    (selected : selectRefreshAccessScopes input.requestedScopes locked.family.scopes
      locked.grant.scopes locked.client.scopes = .ok scopes) :
    db.Permits locked.family.userID locked.family.clientID locked.grant.id scopes := by
  obtain ⟨row, inClients, isRow, isClient⟩ := locks.client
  have inAll := selectRefreshAccessScopes_ok selected
  have sameClient : row.id = locked.family.clientID := by
    rw [locks.familyClient, isClient]
    rfl
  refine ⟨⟨locked.grant, locks.grant, rfl, ?_, ?_, locks.granted,
    fun scope member => (inAll scope member).2.1⟩, row, inClients, sameClient, ?_⟩
  · exact locks.grantUser.trans (locks.userID.symm.trans locks.familyUser.symm)
  · exact locks.grantClient.trans (isRow.symm.trans sameClient)
  · intro scope member
    rw [← isClient]
    exact (inAll scope member).2.2

/-- An access token that a step adds is permitted in the state the step leaves. -/
theorem Entry.Ran.access_permits (took : entry.Ran sha) (sound : entry.before.Sound)
    {token : AccessToken} (adds : entry.Adds AccessToken.id Db.accessTokens token) :
    entry.after.Permits token.userID token.clientID token.consentGrantID token.scopes := by
  cases took.minting sound with
  | none _ _ accesses =>
    obtain ⟨old, inBefore, sameID⟩ := accesses token adds.1
    exact absurd sameID (adds.2 old inBefore)
  | @exchanged _ _ code locked _ _ _ _ _ locks _ _ isAfter =>
    have member := adds.1
    rw [isAfter] at member ⊢
    rcases List.mem_append.mp member with old | new
    · exact absurd rfl (adds.2 token old)
    · obtain rfl := List.mem_singleton.mp new
      exact ⟨⟨locked.grant, locks.grant, rfl, locks.grantUser, locks.grantClient, locks.unrevoked,
        locks.covered⟩, locks.registered⟩
  | rotated _ _ locks _ _ selected _ _ isAfter =>
    have member := adds.1
    rw [isAfter] at member ⊢
    rcases List.mem_append.mp member with old | new
    · exact absurd rfl (adds.2 token old)
    · obtain rfl := List.mem_singleton.mp new
      exact (locks.permits selected).congr rfl rfl rfl

/-- No access token has a scope that its family lacks. -/
def Db.Narrower (db : Db) : Prop :=
  ∀ token ∈ db.accessTokens, ∀ family ∈ db.refreshTokenFamilies,
    token.refreshFamilyID = some family.id → ∀ scope ∈ token.scopes, scope ∈ family.scopes

/-- A token that a step adds has no scope that its family lacks. -/
theorem Entry.Ran.access_narrower (took : entry.Ran sha) (sound : entry.before.Sound)
    {token : AccessToken} (adds : entry.Adds AccessToken.id Db.accessTokens token)
    {family : RefreshTokenFamily} (inFamilies : family ∈ entry.after.refreshTokenFamilies)
    (names : token.refreshFamilyID = some family.id) :
    ∀ scope ∈ token.scopes, scope ∈ family.scopes := by
  have soundAfter := took.sound sound
  cases took.minting sound with
  | none _ _ accesses =>
    obtain ⟨old, inBefore, sameID⟩ := accesses token adds.1
    exact absurd sameID (adds.2 old inBefore)
  | @exchanged _ _ code locked _ _ _ _ _ locks bound _ isAfter =>
    have member := adds.1
    rw [isAfter] at member
    rcases List.mem_append.mp member with old | new
    · exact absurd rfl (adds.2 token old)
    · obtain rfl := List.mem_singleton.mp new
      obtain ⟨initial, isInitial, isID⟩ := Option.map_eq_some_iff.mp names
      obtain ⟨binding, isBinding⟩ := Option.isSome_iff_exists.mp (bound initial isInitial)
      have founded : initialFamily code locked binding initial ∈
          entry.after.refreshTokenFamilies := by
        rw [isAfter]
        exact List.mem_append_right _ (by simp [initialRows, isInitial, isBinding])
      obtain rfl := soundAfter.families.unique founded inFamilies isID
      exact fun _ member => member
  | @rotated _ _ _ _ _ _ locked _ _ _ _ _ locks _ _ selected _ _ isAfter =>
    have member := adds.1
    rw [isAfter] at member
    rcases List.mem_append.mp member with old | new
    · exact absurd rfl (adds.2 token old)
    · obtain rfl := List.mem_singleton.mp new
      have stored : locked.family ∈ entry.after.refreshTokenFamilies := by
        rw [isAfter]
        exact locks.family
      obtain rfl := soundAfter.families.unique stored inFamilies (Option.some.inj names)
      exact fun scope member => (selectRefreshAccessScopes_ok selected scope member).1

theorem Run.narrower (run : Run sha zone entries db) : db.Narrower := by
  induction run with
  | start =>
    intro token member
    cases member
  | @step past entry ran took _ _ ih =>
    intro token inTokens family inFamilies names
    by_cases known : ∃ old ∈ entry.before.accessTokens, old.id = token.id
    · obtain ⟨old, inBefore, sameID⟩ := known
      have kept := took.evolved.accesses.continues ran.sound.accesses.distinct inBefore inTokens
        sameID.symm
      -- the family of an old token is an old family
      have oldNames : old.refreshFamilyID = some family.id := by
        rw [kept.same] at names
        exact names
      obtain ⟨oldFamily, inOld, isFamily, -⟩ := ran.attributed old inBefore family.id oldNames
      have continued := took.evolved.families.continues ran.sound.families.distinct inOld inFamilies
        isFamily.symm
      rw [kept.same, continued.same]
      exact ih old inBefore oldFamily inOld (isFamily ▸ oldNames)
    · refine took.access_narrower ran.sound ⟨inTokens, ?_⟩ inFamilies names
      exact fun old inBefore sameID => known ⟨old, inBefore, sameID⟩

/-! ## Uses -/

/-- The stored token behind an accepted one is permitted now. -/
theorem Token.permits_of_matches {service : Service} {authority : AccessAuthority}
    {claims : AccessTokenClaims} {hash : Bytes} {now : Time}
    (found : AccessFound db hash now authority)
    (accepted : service.accessAuthorityMatches sha authority claims now) :
    db.Permits authority.metadata.userID authority.metadata.clientID
      authority.metadata.consentGrantID authority.metadata.scopes := by
  obtain ⟨row, inClients, isRow, isClient⟩ := found.client
  unfold Service.accessAuthorityMatches at accepted
  split at accepted
  · cases accepted
  · rename_i scopes canonical
    simp only [Bool.and_eq_true, authorityActive, beq_iff_eq, Option.isNone_iff_eq_none] at accepted
    obtain ⟨⟨⟨⟨⟨⟨active, -⟩, -⟩, -⟩, -⟩, covered⟩, -⟩ := accepted
    have inScopes : ∀ scope ∈ authority.metadata.scopes, scope ∈ scopes := by
      obtain ⟨rfl, -⟩ := canonicalScopes_some canonical
      exact fun scope member => mem_sortStrings.mpr member
    have inBoth := covered_of_difference canonical covered
    refine ⟨⟨authority.grant, found.grant, active.1.1.1.1.2, active.1.1.1.2, active.1.1.2, active.2,
      fun scope member => (inBoth scope (inScopes scope member)).1⟩, row, inClients, isRow,
      fun scope member => ?_⟩
    rw [← isClient]
    exact (inBoth scope (inScopes scope member)).2

/-- UserInfo answers from the scopes of a stored token that is permitted now. -/
theorem Token.userInfo_permitted {service : Service} {compact : String} {now : Time}
    {info : UserInfo} (accepted : service.userInfoForAccessToken sha db compact now = .ok info) :
    ∃ token ∈ db.accessTokens, service.accessDigest sha compact = some token.jtiHash ∧
      db.Permits token.userID token.clientID token.consentGrantID token.scopes ∧
      ∃ user ∈ db.users, user.id = token.userID ∧ info = applyUserInfoClaims token.scopes user := by
  obtain ⟨claims, authority, verified, isAuthority, isMatch, isInfo⟩ := userInfo_ok.mp accepted
  have found := accessAuthority_found isAuthority
  exact ⟨authority.metadata, found.metadata, found.digest ▸ accessDigest_of_verified verified,
    permits_of_matches found isMatch, authority.user, found.user, found.userID, isInfo⟩

/-- What introspection reports about a refresh token is permitted now. -/
theorem RefreshFound.permits {digest : Bytes} {authority : RefreshTokenAuthority}
    {client : Client} {now : Time} {scopes : List String}
    (found : RefreshFound db digest authority)
    (accepted : refreshAuthorityMatches authority client digest now)
    (selected : selectRefreshAccessScopes none authority.family.scopes authority.grant.scopes
      authority.client.scopes = .ok scopes) :
    db.Permits authority.family.userID authority.family.clientID authority.family.consentGrantID
      scopes := by
  obtain ⟨row, inClients, isRow, isClient⟩ := found.client
  have inAll := selectRefreshAccessScopes_ok selected
  simp only [refreshAuthorityMatches, Bool.and_eq_true, Option.isNone_iff_eq_none] at accepted
  refine ⟨⟨authority.grant, found.grant, found.grantID, found.grantUser, found.grantClient,
    accepted.1.2, fun scope member => (inAll scope member).2.1⟩, row, inClients, isRow,
    fun scope member => ?_⟩
  rw [← isClient]
  exact (inAll scope member).2.2

/-- Introspection reports scopes that are permitted now. -/
theorem Token.introspect_permitted (sound : db.Sound) {service : Service}
    {input : IntrospectionInput} {response : IntrospectionResponse}
    (answered : service.introspect sha db input = .ok response) (active : response.active) :
    ∃ userID clientID grantID scopes, response.scope = " ".intercalate scopes ∧
      db.Permits userID clientID grantID scopes ∧
      ((∃ token ∈ db.accessTokens, service.accessDigest sha input.token = some token.jtiHash ∧
          token.userID = userID ∧ token.clientID = clientID ∧ token.consentGrantID = grantID) ∨
        ∃ generation ∈ db.refreshTokens, ∃ family ∈ db.refreshTokenFamilies,
          digestPresentedRefreshToken sha input.token = some generation.tokenHash ∧
          family.id = generation.familyID ∧ family.userID = userID ∧ family.clientID = clientID ∧
          family.consentGrantID = grantID) := by
  cases presented : digestPresentedRefreshToken sha input.token with
  | some digest =>
    obtain ⟨-, authority, scopes, found, accepted, selected, rfl⟩ :=
      (introspect_refresh_iff sound input presented).mp ⟨answered, active⟩
    refine ⟨_, _, _, scopes, rfl, found.permits accepted selected, Or.inr ?_⟩
    exact ⟨authority.generation, found.generation, authority.family, found.family,
      congrArg some found.digest.symm, found.familyID, rfl, rfl, rfl⟩
  | none =>
    rcases introspect_cases answered active with access | refresh
    · obtain ⟨claims, authority, verified, isAuthority, isMatch, -, -, rfl⟩ :=
        introspectAccess_active access active
      have found := accessAuthority_found isAuthority
      refine ⟨_, _, _, authority.metadata.scopes, ?_, permits_of_matches found isMatch, Or.inl ?_⟩
      · rw [← effectiveScopes_eq sound found.toAccessRead isMatch]
        rfl
      · exact ⟨authority.metadata, found.metadata,
          found.digest ▸ accessDigest_of_verified verified, rfl, rfl, rfl⟩
    · simp [Service.introspectRefresh, presented] at refresh

/-! ## Refresh -/

/-- What a refresh of the family that requests `requested` gets in this state, as far as scopes
decide. -/
def Db.refreshScopes (db : Db) (family : RefreshTokenFamily) (requested : Option (List String)) :
    Except StoreError (List String) :=
  match db.consentGrants.find? fun r => (r.userID, r.clientID) == (family.userID, family.clientID),
      db.clients.find? (·.id == family.clientID) with
  | some grant, some row =>
    selectRefreshAccessScopes requested family.scopes grant.scopes (db.clientOf row).scopes
  | _, _ => .error .tokenInvalidGrant

theorem refreshScopes_of_locked (sound : db.Sound) {input : RefreshInput} {candidate : RefreshToken}
    {candidateFamily : RefreshTokenFamily} {locked : LockedRefresh}
    (locks : RefreshLocked input candidate candidateFamily db locked)
    (requested : Option (List String)) :
    db.refreshScopes locked.family requested =
      selectRefreshAccessScopes requested locked.family.scopes locked.grant.scopes
        locked.client.scopes := by
  obtain ⟨row, inClients, isRow, isClient⟩ := locks.client
  have sameClient : row.id = locked.family.clientID := by
    rw [locks.familyClient, isClient]
    rfl
  have isGrant : db.consentGrants.find? (fun r => (r.userID, r.clientID) ==
      (locked.family.userID, locked.family.clientID)) = some locked.grant := by
    refine (find?_key sound.grantParties).mpr ⟨locks.grant, Prod.ext ?_ ?_⟩
    · exact locks.grantUser.trans (locks.userID.symm.trans locks.familyUser.symm)
    · exact locks.grantClient.trans (isRow.symm.trans sameClient)
  have isFound : db.clients.find? (·.id == locked.family.clientID) = some row :=
    (find?_key sound.clients.distinct).mpr ⟨inClients, sameClient⟩
  rw [Db.refreshScopes, isGrant, isFound, isClient]

/-- A refresh that returned tokens got scopes that are permitted in the state it locked, and it left
alone what any later refresh may get. -/
theorem Entry.Ran.refresh_permitted (took : entry.Ran sha) (sound : entry.before.Sound)
    {input : RefreshInput} {mint : RefreshMintFunc} {seenGeneration seenFamily : Db}
    {response : Response}
    (isCall : entry.call = .exchangeRefreshToken input mint seenGeneration seenFamily)
    (answered : entry.outcome = .ok (.tokens response)) :
    (∃ generation ∈ entry.before.refreshTokens, ∃ family ∈ entry.before.refreshTokenFamilies,
      generation.tokenHash = input.tokenHash ∧ family.id = generation.familyID ∧
      ∃ scopes, entry.before.refreshScopes family input.requestedScopes = .ok scopes ∧
        response.scope = " ".intercalate scopes ∧
        entry.before.Permits family.userID family.clientID family.consentGrantID scopes) ∧
      entry.after.refreshTokenFamilies = entry.before.refreshTokenFamilies ∧
      entry.after.refreshScopes = entry.before.refreshScopes := by
  have ran := took.of_ok answered
  rw [isCall] at ran
  obtain ⟨_, _, result, -, ended, isOutcome⟩ := refresh_ran sound ran
  generalize entry.after = after at ended ⊢
  cases ended with
  | reused => cases isOutcome
  | @rotated locked scopes _ _ locks _ _ selected =>
    cases isOutcome
    refine ⟨⟨locked.presented, locks.presented, locked.family, locks.family, locks.presentedHash,
      locks.presentedFamily.symm, scopes, ?_, rfl, ?_⟩, rfl, rfl⟩
    · rw [refreshScopes_of_locked sound locks]
      exact selected
    · rw [locks.familyGrant]
      exact locks.permits selected

/-! ## The chain -/

section Chain

variable (run : Run sha zone entries db)
include run

theorem Run.codes_permitted {code : AuthorizationCode} (member : code ∈ db.authorizationCodes) :
    ∃ entry ∈ entries, ∃ first, entry.Adds AuthorizationCode.id Db.authorizationCodes first ∧
      first.id = code.id ∧
      entry.after.Permits code.userID code.clientID code.consentGrantID code.scopes := by
  obtain ⟨entry, inEntries, first, adds, sameID, continued⟩ := run.added CodeContinues.refl
    CodeContinues.trans (fun _ took => took.evolved.codes) (fun _ sound => sound.codes.distinct) rfl
    code member
  obtain ⟨_, _, found⟩ := run.at inEntries
  have permits := (found.took.issues_of_adds found.before.sound adds).permits
  refine ⟨entry, inEntries, first, adds, sameID, ?_⟩
  rw [continued.same]
  exact permits

theorem Run.families_scoped {family : RefreshTokenFamily}
    (member : family ∈ db.refreshTokenFamilies) :
    ∃ entry ∈ entries, ∃ first, entry.Adds RefreshTokenFamily.id Db.refreshTokenFamilies first ∧
      first.id = family.id ∧ ∃ code ∈ entry.before.authorizationCodes,
        first.originAuthorizationCodeID = some code.id ∧ family.scopes = code.scopes := by
  obtain ⟨entry, inEntries, first, adds, sameID, continued⟩ := run.added FamilyContinues.refl
    FamilyContinues.trans (fun _ took => took.evolved.families)
    (fun _ sound => sound.families.distinct) rfl family member
  obtain ⟨_, _, found⟩ := run.at inEntries
  obtain ⟨code, inCodes, named, sameScopes⟩ := found.took.family_scopes found.before.sound adds
  refine ⟨entry, inEntries, first, adds, sameID, code, inCodes, named, ?_⟩
  rw [continued.same]
  exact sameScopes

theorem Run.accesses_permitted {token : AccessToken} (member : token ∈ db.accessTokens) :
    ∃ entry ∈ entries, ∃ first, entry.Adds AccessToken.id Db.accessTokens first ∧
      first.id = token.id ∧
      entry.after.Permits token.userID token.clientID token.consentGrantID token.scopes := by
  obtain ⟨entry, inEntries, first, adds, sameID, continued⟩ := run.added AccessContinues.refl
    AccessContinues.trans (fun _ took => took.evolved.accesses)
    (fun _ sound => sound.accesses.distinct) rfl token member
  obtain ⟨_, _, found⟩ := run.at inEntries
  have permits := found.took.access_permits found.before.sound adds
  refine ⟨entry, inEntries, first, adds, sameID, ?_⟩
  rw [continued.same]
  exact permits

end Chain

/-- No scope is gained on the way from a grant to a code, a family and an access token, whatever
happens to grants and registrations in between, and no use of a token succeeds with scopes that the
grant and the client do not have at that moment. -/
theorem scopes_never_escalate (run : Run sha zone entries db) (service : Service) :
    (∀ code ∈ db.authorizationCodes,
      ∃ entry ∈ entries, ∃ first, entry.Adds AuthorizationCode.id Db.authorizationCodes first ∧
        first.id = code.id ∧
        entry.after.Permits code.userID code.clientID code.consentGrantID code.scopes) ∧
    (∀ family ∈ db.refreshTokenFamilies,
      (∃ entry ∈ entries, ∃ first,
        entry.Adds RefreshTokenFamily.id Db.refreshTokenFamilies first ∧ first.id = family.id ∧
        ∃ code ∈ entry.before.authorizationCodes,
          first.originAuthorizationCodeID = some code.id ∧ family.scopes = code.scopes) ∧
      ∀ seen ∈ states entries db, ∀ old ∈ seen.refreshTokenFamilies, old.id = family.id →
        old.scopes = family.scopes) ∧
    (∀ token ∈ db.accessTokens, "openid" ∈ token.scopes ∧
      (∀ id, token.refreshFamilyID = some id → ∃ family ∈ db.refreshTokenFamilies,
        family.id = id ∧ ∀ scope ∈ token.scopes, scope ∈ family.scopes) ∧
      ∃ entry ∈ entries, ∃ first, entry.Adds AccessToken.id Db.accessTokens first ∧
        first.id = token.id ∧
        entry.after.Permits token.userID token.clientID token.consentGrantID token.scopes) ∧
    (∀ compact now info, service.userInfoForAccessToken sha db compact now = .ok info →
      ∃ token ∈ db.accessTokens, service.accessDigest sha compact = some token.jtiHash ∧
        db.Permits token.userID token.clientID token.consentGrantID token.scopes ∧
        ∃ user ∈ db.users, user.id = token.userID ∧
          info = applyUserInfoClaims token.scopes user) ∧
    (∀ input response, service.introspect sha db input = .ok response → response.active →
      ∃ userID clientID grantID scopes, response.scope = " ".intercalate scopes ∧
        db.Permits userID clientID grantID scopes ∧
        ((∃ token ∈ db.accessTokens, service.accessDigest sha input.token = some token.jtiHash ∧
            token.userID = userID ∧ token.clientID = clientID ∧ token.consentGrantID = grantID) ∨
          ∃ generation ∈ db.refreshTokens, ∃ family ∈ db.refreshTokenFamilies,
            digestPresentedRefreshToken sha input.token = some generation.tokenHash ∧
            family.id = generation.familyID ∧ family.userID = userID ∧
            family.clientID = clientID ∧ family.consentGrantID = grantID)) ∧
    ∀ entry ∈ entries, ∀ input mint seenGeneration seenFamily response,
      entry.call = .exchangeRefreshToken input mint seenGeneration seenFamily →
      entry.outcome = .ok (.tokens response) →
      (∃ generation ∈ entry.before.refreshTokens, ∃ family ∈ entry.before.refreshTokenFamilies,
        generation.tokenHash = input.tokenHash ∧ family.id = generation.familyID ∧
        ∃ scopes, entry.before.refreshScopes family input.requestedScopes = .ok scopes ∧
          response.scope = " ".intercalate scopes ∧
          entry.before.Permits family.userID family.clientID family.consentGrantID scopes) ∧
        entry.after.refreshTokenFamilies = entry.before.refreshTokenFamilies ∧
        entry.after.refreshScopes = entry.before.refreshScopes := by
  refine ⟨fun code member => run.codes_permitted member, fun family member => ⟨?_, ?_⟩,
    fun token member => ⟨?_, ?_, run.accesses_permitted member⟩,
    fun compact now info accepted => userInfo_permitted accepted,
    fun input response answered active => introspect_permitted run.sound answered active, ?_⟩
  · exact run.families_scoped member
  · intro seen inStates old inSeen sameID
    rw [(run.families seen inStates old inSeen family member (Or.inl sameID)).2.same]
  · exact (stored_scopes run.sound member).2.1
  · intro id named
    obtain ⟨family, inFamilies, isFamily, -⟩ := run.attributed token member id named
    exact ⟨family, inFamilies, isFamily, run.narrower token member family inFamilies (isFamily ▸ named)⟩
  · intro entry inEntries input mint seenGeneration seenFamily response isCall answered
    obtain ⟨_, _, found⟩ := run.at inEntries
    exact found.took.refresh_permitted found.before.sound isCall answered

theorem scopes_never_escalate_sample :
    ∃ token ∈ Sample.refreshed.after.accessTokens,
      ∃ family ∈ Sample.refreshed.after.refreshTokenFamilies, token.refreshFamilyID = some family.id ∧
        ∀ scope ∈ token.scopes, scope ∈ family.scopes := by
  obtain ⟨token, stored, named⟩ :
      ∃ token ∈ Sample.refreshed.after.accessTokens, token.refreshFamilyID = some 10 := by
    decide +kernel
  obtain ⟨family, inFamilies, isFamily, covered⟩ :=
    ((scopes_never_escalate Sample.refreshed_run Sample.service).2.2.1 token stored).2.1 10 named
  exact ⟨token, stored, family, inFamilies, isFamily ▸ named, covered⟩

end OneIssuer
