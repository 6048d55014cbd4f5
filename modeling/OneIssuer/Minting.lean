import OneIssuer.Calls

/-!
# Where token rows come from

Only a code exchange and a refresh create rows in the token tables. `Entry.Ran.minting` says this
once for every step of a run, with all that the two operations found and left behind; what a run
can contain is then a case analysis over three cases.
-/

set_option autoImplicit false

namespace OneIssuer

open Relational Token Store

/-- How a step of a run created token rows. -/
inductive Entry.Minting (sha : Sha256) (entry : Entry) : Prop where
  /-- It created none: every row has a row of the same identifier before the step. -/
  | none
      (families : ∀ row ∈ entry.after.refreshTokenFamilies,
        ∃ old ∈ entry.before.refreshTokenFamilies, old.id = row.id)
      (generations : ∀ row ∈ entry.after.refreshTokens,
        ∃ old ∈ entry.before.refreshTokens, old.id = row.id)
      (accesses : ∀ row ∈ entry.after.accessTokens,
        ∃ old ∈ entry.before.accessTokens, old.id = row.id)
  /-- A code was exchanged. -/
  | exchanged {input : ExchangeInput} {mint : MintFunc} {code : AuthorizationCode}
      {locked : LockedExchange} {events : List AuditEvent}
      (isCall : entry.call = .exchangeAuthorizationCode input mint)
      (inCodes : code ∈ entry.before.authorizationCodes)
      (presented : code.codeHash = input.codeHash) (unconsumed : code.consumedAt = Option.none)
      (locks : ExchangeLocked sha input mint entry.before code locked)
      (bound : ∀ initial, locked.minted.initialRefresh = some initial →
        code.sessionBindingID.isSome)
      (inside : ∀ generation ∈ (initialRows code locked).2,
        ∃ family ∈ (founded entry.before code locked).refreshTokenFamilies,
          family.id = generation.familyID ∧ family.createdAt ≤ generation.issuedAt ∧
            generation.expiresAt ≤ family.absoluteExpiresAt)
      (isAfter : entry.after =
        { founded entry.before code locked with
          accessTokens := entry.before.accessTokens ++ [exchangedAccess code locked]
          authorizationCodes :=
            consumedCodes entry.before.authorizationCodes code.id (timestamp input.now)
          auditEvents := entry.before.auditEvents ++ events })
  /-- A generation was rotated. -/
  | rotated {input : RefreshInput} {mint : RefreshMintFunc} {seenGeneration seenFamily : Db}
      {candidate : RefreshToken} {candidateFamily : RefreshTokenFamily} {locked : LockedRefresh}
      {scopes : List String} {minted : RefreshMinted} {events : List AuditEvent}
      (isCall : entry.call = .exchangeRefreshToken input mint seenGeneration seenFamily)
      (found : refreshCandidate input.tokenHash seenGeneration seenFamily =
        some (candidate, candidateFamily))
      (locks : RefreshLocked input candidate candidateFamily entry.before locked)
      (unconsumed : locked.presented.consumedAt = Option.none)
      (unexpired : input.now < locked.presented.expiresAt)
      (selected : selectRefreshAccessScopes input.requestedScopes locked.family.scopes
        locked.grant.scopes locked.client.scopes = .ok scopes)
      (valid : validRefreshMinted sha minted locked.presented locked.family input.now)
      (inside : ∃ family ∈ entry.before.refreshTokenFamilies,
        family.id = (replacementGeneration locked minted).familyID ∧
          family.createdAt ≤ (replacementGeneration locked minted).issuedAt ∧
          (replacementGeneration locked minted).expiresAt ≤ family.absoluteExpiresAt)
      (isAfter : entry.after =
        { entry.before with
          refreshTokens :=
            consumedGenerations entry.before.refreshTokens locked.presented.id
              (timestamp input.now) ++ [replacementGeneration locked minted]
          accessTokens := entry.before.accessTokens ++ [refreshedAccess locked scopes minted]
          auditEvents := entry.before.auditEvents ++ events })
      (isMinted : mint (refreshedAuthority input locked scopes) = .ok minted)

/-- The calls that can create token rows. -/
theorem Call.mints (call : Call) :
    (∃ input mint, call = .exchangeAuthorizationCode input mint) ∨
      (∃ input mint seenGeneration seenFamily,
        call = .exchangeRefreshToken input mint seenGeneration seenFamily) ∨
      call.kinds = [.retire] ∨
      .retire ∉ call.kinds ∧ .family ∉ call.kinds ∧ .generation ∉ call.kinds ∧
        .access ∉ call.kinds := by
  cases call <;> simp [Call.kinds]

variable {sha : Sha256} {entry : Entry}

/-- A step that changed no token row minted nothing. -/
theorem Entry.minting_of_unchanged
    (families : entry.after.refreshTokenFamilies = entry.before.refreshTokenFamilies)
    (generations : entry.after.refreshTokens = entry.before.refreshTokens)
    (accesses : entry.after.accessTokens = entry.before.accessTokens) : entry.Minting sha := by
  refine .none ?_ ?_ ?_
  · exact fun row member => ⟨row, families ▸ member, rfl⟩
  · exact fun row member => ⟨row, generations ▸ member, rfl⟩
  · exact fun row member => ⟨row, accesses ▸ member, rfl⟩

/-- A reuse only revokes. -/
theorem minting_of_reuse {id : Uuid} {now : Time} {events : List AuditEvent}
    (appended : Appended events (reusedDb entry.before id now) entry.after) :
    entry.Minting sha := by
  refine .none ?_ ?_ ?_
  all_goals
    intro row member
    rw [appended] at member
  · obtain ⟨old, inBefore, rfl⟩ := mem_updateRows.mp member
    exact ⟨old, inBefore, by split <;> rfl⟩
  · exact ⟨row, member, rfl⟩
  · obtain ⟨old, inBefore, rfl⟩ := mem_updateRows.mp member
    exact ⟨old, inBefore, by split <;> rfl⟩

theorem Entry.Ran.minting (took : entry.Ran sha) (sound : entry.before.Sound) :
    entry.Minting sha := by
  rcases took.cases with ran | ⟨-, unchanged⟩
  · rcases entry.call.mints with ⟨input, mint, isCall⟩ | ⟨input, mint, _, _, isCall⟩ | retiring |
      ⟨growing, noFamily, noGeneration, noAccess⟩
    · rw [isCall] at ran
      obtain ⟨result, ended, -⟩ := exchange_ran sound ran
      generalize isAfter : entry.after = after at ended
      cases ended with
      | replayed _ _ _ recorded =>
        rcases recorded with same | ⟨event, -, -, appended⟩
        · exact Entry.minting_of_unchanged (by rw [isAfter, same]) (by rw [isAfter, same])
            (by rw [isAfter, same])
        · exact Entry.minting_of_unchanged (by rw [isAfter, appended]) (by rw [isAfter, appended])
            (by rw [isAfter, appended])
      | exchanged inCodes presented unconsumed locks bound inside _ =>
        exact .exchanged isCall inCodes presented unconsumed locks bound inside isAfter
    · rw [isCall] at ran
      obtain ⟨candidate, family, result, found, ended, -⟩ := refresh_ran sound ran
      generalize isAfter : entry.after = after at ended
      cases ended with
      | reused _ _ _ _ appended => exact minting_of_reuse (isAfter ▸ appended)
      | rotated locks unconsumed unexpired selected valid inside _ isMinted =>
        exact .rotated isCall found locks unconsumed unexpired selected valid inside isAfter isMinted
    · have within := entry.call.body_within sha
      rw [retiring] at within
      have shrank := run_shrank within ran
      refine .none ?_ ?_ ?_
      · intro row member
        obtain ⟨old, inBefore, sameID, -⟩ := shrank.families row member
        exact ⟨old, inBefore, sameID⟩
      · intro row member
        obtain ⟨old, inBefore, sameID, -⟩ := shrank.generations row member
        exact ⟨old, inBefore, sameID⟩
      · intro row member
        obtain ⟨old, inBefore, sameID, -⟩ := shrank.accesses row member
        exact ⟨old, inBefore, sameID⟩
    · have stayed := run_stayed (entry.call.body_within sha) growing ran
      refine .none ?_ ?_ ?_
      · intro row member
        obtain ⟨old, inBefore, moved⟩ := (stayed.families noFamily).origin member
        exact ⟨old, inBefore, by rw [moved.same]⟩
      · exact fun row member => ⟨row, stayed.generations noGeneration ▸ member, rfl⟩
      · intro row member
        obtain ⟨old, inBefore, moved⟩ := (stayed.accesses noAccess).origin member
        exact ⟨old, inBefore, by rw [moved.same]⟩
  · exact Entry.minting_of_unchanged (by rw [unchanged]) (by rw [unchanged]) (by rw [unchanged])

/-! ## Origins of rows -/

/-- A generation that a step created: the first of a new family, or the successor of a generation
that the step consumed. It lies inside the lifetime of its family. -/
structure Db.Begun (before after : Db) (generation : RefreshToken) : Prop where
  notNil : generation.id ≠ Uuid.nil
  unconsumed : generation.consumedAt = none
  number : generation.generation = 0 ∨
    ∃ presented ∈ before.refreshTokens, presented.familyID = generation.familyID ∧
      generation.generation = presented.generation + 1 ∧ presented.consumedAt = none ∧
      ∃ used ∈ after.refreshTokens, used.id = presented.id ∧ used.familyID = presented.familyID ∧
        used.generation = presented.generation ∧ used.consumedAt.isSome
  inside : ∃ family ∈ after.refreshTokenFamilies, family.id = generation.familyID ∧
    family.createdAt ≤ generation.issuedAt ∧ generation.expiresAt ≤ family.absoluteExpiresAt

/-- What an accepted first refresh token is like. -/
theorem initial_notNil {value : Minted} {now : Time} {offline : Bool} {initial : InitialRefresh}
    (valid : validMintedTokens sha value now offline) (isInitial : value.initialRefresh = some initial) :
    initial.familyID ≠ Uuid.nil ∧ initial.tokenID ≠ Uuid.nil := by
  simp only [validMintedTokens, isInitial, Bool.and_eq_true] at valid
  cases offline with
  | false => simp at valid
  | true =>
    simp only [validInitialRefresh, Bool.and_eq_true, bne_iff_ne, ne_eq, and_assoc] at valid
    obtain ⟨-, -, -, -, -, -, -, -, -, family, token, -⟩ := valid
    exact ⟨family, token⟩

theorem Entry.Ran.generation_origin (took : entry.Ran sha) (sound : entry.before.Sound)
    {generation : RefreshToken} (member : generation ∈ entry.after.refreshTokens) :
    (∃ old ∈ entry.before.refreshTokens, old.id = generation.id ∧
      GenerationContinues old generation) ∨ entry.before.Begun entry.after generation := by
  have continued {old : RefreshToken} (inBefore : old ∈ entry.before.refreshTokens)
      (sameID : old.id = generation.id) : GenerationContinues old generation :=
    took.evolved.generations.continues sound.generations.distinct inBefore member sameID.symm
  cases took.minting sound with
  | none _ generations =>
    obtain ⟨old, inBefore, sameID⟩ := generations generation member
    exact Or.inl ⟨old, inBefore, sameID, continued inBefore sameID⟩
  | exchanged _ _ _ _ locks _ inside isAfter =>
    rw [isAfter] at member ⊢
    rcases List.mem_append.mp member with old | new
    · exact Or.inl ⟨generation, old, rfl, .refl _⟩
    · obtain ⟨initial, -, isInitial, -, isGeneration⟩ := mem_initialGenerations new
      refine Or.inr ⟨?_, ?_, ?_, inside generation new⟩
      · rw [isGeneration]
        exact (initial_notNil locks.valid isInitial).2
      · rw [isGeneration]
        rfl
      · left
        rw [isGeneration]
        rfl
  | @rotated _ _ _ _ _ _ locked _ minted _ _ _ locks unconsumed _ _ valid inside isAfter =>
    have isRow := member
    rw [isAfter] at isRow ⊢
    rcases List.mem_append.mp isRow with old | new
    · obtain ⟨origin, inBefore, isOrigin⟩ := mem_updateRows.mp old
      have sameID : origin.id = generation.id := by
        rw [isOrigin]
        split <;> rfl
      exact Or.inl ⟨origin, inBefore, sameID, continued inBefore sameID⟩
    · obtain rfl := List.mem_singleton.mp new
      simp only [validRefreshMinted, Bool.and_eq_true, bne_iff_ne, ne_eq, and_assoc] at valid
      refine Or.inr ⟨valid.2.1, rfl, Or.inr ?_, inside⟩
      exact ⟨locked.presented, locks.presented, locks.presentedFamily, rfl, unconsumed, _,
        List.mem_append_left _ (mem_consumedGenerations locks.presented unconsumed), rfl, rfl, rfl,
        rfl⟩

/-- The rows behind a token: an active user, an active client, and an unrevoked grant between them
that covers the scopes. -/
structure Db.Backs (db : Db) (userID clientID grantID : Uuid) (scopes : List String) : Prop where
  user : ∃ user ∈ db.users, user.id = userID ∧ user.status = .active
  client : ∃ client ∈ db.clients, client.id = clientID ∧ client.status = .active
  grant : ∃ grant ∈ db.consentGrants, grant.id = grantID ∧ grant.userID = userID ∧
    grant.clientID = clientID ∧ grant.revokedAt = none ∧ ∀ scope ∈ scopes, scope ∈ grant.scopes

/-- A family that a step founded on a code. -/
structure Db.Founded (before after : Db) (family : RefreshTokenFamily) : Prop where
  notNil : family.id ≠ Uuid.nil
  unrevoked : family.revokedAt = none
  code : ∃ code ∈ before.authorizationCodes, code.consumedAt = none ∧
    family.originAuthorizationCodeID = some code.id ∧ family.consentGrantID = code.consentGrantID ∧
    code.sessionBindingID = some family.sessionBindingID
  backed : before.Backs family.userID family.clientID family.consentGrantID family.scopes
  first : ∃ generation ∈ after.refreshTokens, generation.familyID = family.id ∧
    generation.generation = 0

theorem Entry.Ran.family_origin (took : entry.Ran sha) (sound : entry.before.Sound)
    {family : RefreshTokenFamily} (member : family ∈ entry.after.refreshTokenFamilies) :
    (∃ old ∈ entry.before.refreshTokenFamilies, old.id = family.id ∧ FamilyContinues old family) ∨
      entry.before.Founded entry.after family := by
  have continued {old : RefreshTokenFamily} (inBefore : old ∈ entry.before.refreshTokenFamilies)
      (sameID : old.id = family.id) : FamilyContinues old family :=
    took.evolved.families.continues sound.families.distinct inBefore member sameID.symm
  cases took.minting sound with
  | none families =>
    obtain ⟨old, inBefore, sameID⟩ := families family member
    exact Or.inl ⟨old, inBefore, sameID, continued inBefore sameID⟩
  | @exchanged _ _ code locked _ _ inCodes _ unconsumed locks _ _ isAfter =>
    rw [isAfter] at member ⊢
    rcases List.mem_append.mp member with old | new
    · exact Or.inl ⟨family, old, rfl, .refl _⟩
    · obtain ⟨initial, binding, isInitial, isBinding, rfl⟩ := mem_initialFamilies new
      refine Or.inr ⟨(initial_notNil locks.valid isInitial).1, rfl, ?_, ?_, ?_⟩
      · exact ⟨code, inCodes, unconsumed, rfl, locks.grantID, isBinding⟩
      · exact ⟨locks.user, locks.client, locked.grant, locks.grant, rfl, locks.grantUser,
          locks.grantClient, locks.unrevoked, locks.covered⟩
      · refine ⟨initialGeneration locked initial, List.mem_append_right _ ?_, rfl, rfl⟩
        simp [initialRows, isInitial, isBinding]
  | rotated _ _ _ _ _ _ _ _ isAfter =>
    have isRow := member
    rw [isAfter] at isRow
    exact Or.inl ⟨family, isRow, rfl, .refl _⟩

/-- An access token that a step minted, from a code or from a generation of a family. -/
structure Db.Minted (before : Db) (now : Time) (token : AccessToken) : Prop where
  unrevoked : token.revokedAt = none
  issuedAt : token.issuedAt = timestamp now
  backed : before.Backs token.userID token.clientID token.consentGrantID token.scopes
  source :
    (∃ code ∈ before.authorizationCodes, code.consumedAt = none ∧
      token.authorizationCodeID = some code.id ∧ code.userID = token.userID ∧
      code.clientID = token.clientID ∧ code.consentGrantID = token.consentGrantID ∧
      code.sessionBindingID = token.sessionBindingID) ∨
    ∃ family ∈ before.refreshTokenFamilies, family.revokedAt = none ∧
      token.refreshFamilyID = some family.id ∧ family.userID = token.userID ∧
      family.clientID = token.clientID ∧ family.consentGrantID = token.consentGrantID ∧
      some family.sessionBindingID = token.sessionBindingID

theorem Entry.Ran.access_origin (took : entry.Ran sha) (sound : entry.before.Sound)
    {token : AccessToken} (member : token ∈ entry.after.accessTokens) :
    (∃ old ∈ entry.before.accessTokens, old.id = token.id ∧ AccessContinues old token) ∨
      entry.before.Minted entry.call.now token := by
  have continued {old : AccessToken} (inBefore : old ∈ entry.before.accessTokens)
      (sameID : old.id = token.id) : AccessContinues old token :=
    took.evolved.accesses.continues sound.accesses.distinct inBefore member sameID.symm
  cases took.minting sound with
  | none _ _ accesses =>
    obtain ⟨old, inBefore, sameID⟩ := accesses token member
    exact Or.inl ⟨old, inBefore, sameID, continued inBefore sameID⟩
  | @exchanged _ _ code locked _ isCall inCodes _ unconsumed locks _ _ isAfter =>
    rw [isAfter] at member
    rcases List.mem_append.mp member with old | new
    · exact Or.inl ⟨token, old, rfl, .refl _⟩
    · obtain rfl := List.mem_singleton.mp new
      refine Or.inr ⟨rfl, ?_, ?_,
        Or.inl ⟨code, inCodes, unconsumed, rfl, rfl, rfl, locks.grantID.symm, rfl⟩⟩
      · have valid := locks.valid
        simp only [validMintedTokens, Bool.and_eq_true, beq_iff_eq, and_assoc] at valid
        rw [isCall]
        exact congrArg timestamp valid.2.2.2.2.1
      · exact ⟨locks.user, locks.client, locked.grant, locks.grant, rfl, locks.grantUser,
          locks.grantClient, locks.unrevoked, locks.covered⟩
  | @rotated input _ _ _ _ _ locked scopes minted _ isCall _ locks _ _ selected valid _ isAfter =>
    rw [isAfter] at member
    rcases List.mem_append.mp member with old | new
    · exact Or.inl ⟨token, old, rfl, .refl _⟩
    · obtain rfl := List.mem_singleton.mp new
      refine Or.inr ⟨rfl, ?_, ?_, Or.inr ?_⟩
      · simp only [validRefreshMinted, Bool.and_eq_true, beq_iff_eq, and_assoc] at valid
        rw [isCall]
        exact congrArg timestamp valid.2.2.2.2.2.2.2.1
      · obtain ⟨row, inClients, isRow, isClient⟩ := locks.client
        have sameClient := locks.sameClient
        simp only [sameAuthenticatedClient, isClient, Bool.and_eq_true, beq_iff_eq, and_assoc]
          at sameClient
        refine ⟨⟨locked.user, locks.user, locks.familyUser.symm, locks.active⟩,
          ⟨row, inClients, ?_, sameClient.2.2.1⟩, locked.grant, locks.grant, rfl, ?_, ?_,
          locks.granted, fun scope inScopes => (selectRefreshAccessScopes_ok selected scope inScopes).2.1⟩
        · exact (locks.familyClient.trans (by rw [isClient]; rfl)).symm
        · exact locks.grantUser.trans (locks.userID.symm.trans locks.familyUser.symm)
        · refine locks.grantClient.trans (isRow.symm.trans ?_)
          exact (locks.familyClient.trans (by rw [isClient]; rfl)).symm
      · exact ⟨locked.family, locks.family, locks.unrevoked, rfl, rfl, rfl, locks.familyGrant, rfl⟩

end OneIssuer
