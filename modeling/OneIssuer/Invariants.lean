import OneIssuer.Chain
import OneIssuer.Frames

/-!
# Rows that fit together

Facts about the token rows of every reachable state, beyond the chain of a family: the session a
family names is there, stored times are whole microseconds, an unconsumed generation is the last of
its family, and no access token comes from it.
-/

set_option autoImplicit false

namespace OneIssuer

open Relational Token Store

variable {sha : Sha256} {zone : Zone} {entries : List Entry} {db after : Db}

/-- What every statement keeps holds of every reachable state. -/
theorem Run.invariant (holds : Db → Prop) (empty : holds (Db.empty zone))
    (kept : ∀ ⦃β : Type⦄ (statement : Stmt β) (s : Db) (answer : β) (s' : Db),
      exec statement s = .ok (answer, s') → holds s → holds s')
    (run : Run sha zone entries db) : holds db := by
  induction run with
  | start => exact empty
  | @step past entry _ took _ _ ih =>
    rcases took.cases with ran | ⟨-, unchanged⟩
    · exact Program.run_rel (fun _ => id) (fun _ _ _ early late before => late (early before))
        (fun _ statement s answer s' _ executed => kept statement s answer s' executed)
        (Program.only_true _) ran ih
    · rw [unchanged]
      exact ih

/-- No statement changes the time zone. -/
theorem exec_zone {β : Type} {statement : Stmt β} {answer : β}
    (executed : exec statement db = .ok (answer, after)) : after.zone = db.zone := by
  by_cases keeps : statement.keepsRows
  · exact (exec_grew keeps executed).zone
  · have retires : statement.retires := by
      cases statement <;> simp [Stmt.keepsRows, Stmt.retires] at keeps ⊢
    exact (exec_shrank retires executed).zone

theorem Run.inZone (run : Run sha zone entries db) : db.zone = zone := by
  refine run.invariant (fun db => db.zone = zone) rfl ?_
  exact fun _ _ _ _ _ executed isZone => (exec_zone executed).trans isZone

/-! ## Origin sessions -/

/-- The session a family names is there. -/
def Db.OriginsLinked (db : Db) : Prop :=
  ∀ family ∈ db.refreshTokenFamilies, ∀ id, family.originSessionID = some id →
    ∃ session ∈ db.loginSessions, session.id = id

/-- Deleting sessions unlinks the families that name them. -/
theorem linked_of_deleteSessions {doomed : List LoginSession}
    (deleted : deleteLoginSessions db doomed = .ok after) (linked : db.OriginsLinked) :
    after.OriginsLinked := by
  rw [deleteLoginSessions_ok deleted]
  intro family member id named
  obtain ⟨old, inBefore, rfl⟩ := mem_updateRows.mp member
  by_cases gone : refersTo LoginSession.id doomed old.originSessionID
  · simp [gone] at named
  · simp only [gone, Bool.false_eq_true, if_false] at named
    obtain ⟨session, inSessions, isSession⟩ := linked old inBefore id named
    refine ⟨session, List.mem_filter.mpr ⟨inSessions, ?_⟩, isSession⟩
    rw [named] at gone
    simpa [refersTo, isSession] using gone

/-- A statement that keeps the sessions and only drops or unlinks families. -/
theorem Db.OriginsLinked.of_families (linked : db.OriginsLinked)
    (sessions : after.loginSessions = db.loginSessions)
    (families : ∀ family ∈ after.refreshTokenFamilies, ∃ old ∈ db.refreshTokenFamilies,
      old.originSessionID = family.originSessionID) : after.OriginsLinked := by
  intro family member id named
  obtain ⟨old, inBefore, same⟩ := families family member
  rw [sessions]
  exact linked old inBefore id (same.trans named)

theorem exec_originsLinked {β : Type} {statement : Stmt β} {answer : β}
    (executed : exec statement db = .ok (answer, after)) (linked : db.OriginsLinked) :
    after.OriginsLinked := by
  by_cases untouched : .loginSessions ∉ statement.writes ∧ .refreshTokenFamilies ∉ statement.writes
  · have sessions : after.loginSessions = db.loginSessions := exec_same untouched.1 executed
    have families : after.refreshTokenFamilies = db.refreshTokenFamilies :=
      exec_same untouched.2 executed
    exact linked.of_families sessions fun family member => ⟨family, families ▸ member, rfl⟩
  cases statement with
  | loginSessions s =>
    have grew := exec_grew rfl executed
    rw [exec] at executed
    obtain ⟨rows, ran, rfl⟩ := store_ok.mp executed
    intro family member id named
    obtain ⟨session, inSessions, rfl⟩ := linked family member id named
    exact grew.sessions.kept session inSessions
  | refreshTokenFamilies s =>
    rw [exec] at executed
    obtain ⟨rows, ran, rfl⟩ := store_ok.mp executed
    refine TableStmt.exec_forall_kept ?_ ?_ s ran linked
    · intro row allowed id named
      have found := firstViolation_eq_none.mp allowed
        (foreignKeyViolation "refresh_token_families_origin_session_id_fkey"
          (Db.resolves db.session? row.originSessionID)) (by simp)
      simpa [Db.resolves, named, Db.session?] using found
    · rintro ⟨revokedAt, reason⟩ row kept
      exact kept
  | retireLoginSessions cutoff limit locked =>
    rw [exec] at executed
    have deleted := (counted_ok.mp executed).1
    exact linked_of_deleteSessions deleted linked
  | retireAuthorizationCodes cutoff limit locked =>
    rw [exec] at executed
    have deleted := (counted_ok.mp executed).1
    rw [deleteAuthorizationCodes] at deleted
    rw [unlinkAccessTokens_ok deleted]
    refine linked.of_families rfl fun family member => ?_
    obtain ⟨old, inBefore, rfl⟩ := mem_updateRows.mp member
    exact ⟨old, inBefore, by split <;> rfl⟩
  | retireRefreshTokenFamilies cutoff limit locked =>
    rw [exec] at executed
    have deleted := (counted_ok.mp executed).1
    rw [(restrict_ok.mp deleted).2]
    exact linked.of_families rfl fun family member => ⟨family, (List.mem_filter.mp member).1, rfl⟩
  | _ => exact absurd ⟨by simp [Stmt.writes], by simp [Stmt.writes]⟩ untouched

theorem Run.originsLinked (run : Run sha zone entries db) : db.OriginsLinked :=
  run.invariant Db.OriginsLinked (fun _ member => nomatch member) fun _ _ _ _ _ => exec_originsLinked

/-! ## The family of an access token -/

/-- The family an access token names is there and carries the token's authority. -/
def Db.Attributed (db : Db) : Prop :=
  ∀ token ∈ db.accessTokens, ∀ id, token.refreshFamilyID = some id →
    ∃ family ∈ db.refreshTokenFamilies, family.id = id ∧ family.userID = token.userID ∧
      family.clientID = token.clientID ∧ family.consentGrantID = token.consentGrantID ∧
      token.sessionBindingID = some family.sessionBindingID

/-- The trigger of the table compares a new access token with its family. -/
theorem attributed_of_insert {row : AccessToken} (allowed : row.insertViolation db = none) {id : Uuid}
    (named : row.refreshFamilyID = some id) :
    ∃ family ∈ db.refreshTokenFamilies, family.id = id ∧ family.userID = row.userID ∧
      family.clientID = row.clientID ∧ family.consentGrantID = row.consentGrantID ∧
      row.sessionBindingID = some family.sessionBindingID := by
  have consistent := firstViolation_eq_none.mp allowed (AccessToken.authorityViolation db none row)
    (by simp)
  have found {family : RefreshTokenFamily} (isFamily : db.family? id = some family) :
      family ∈ db.refreshTokenFamilies ∧ family.id = id :=
    ⟨List.mem_of_find?_eq_some isFamily, by simpa using List.find?_some isFamily⟩
  unfold AccessToken.authorityViolation at consistent
  split at consistent
  · simp only [raised_eq_none, Bool.not_eq_false', AccessToken.refreshConsistent] at consistent
    split at consistent
    · rename_i generation family _ isFamily
      rw [named] at isFamily
      obtain ⟨inFamilies, isID⟩ := found isFamily
      simp only [Bool.and_eq_true, beq_iff_eq, and_assoc] at consistent
      obtain ⟨-, grant, user, client, -, binding, -⟩ := consistent
      exact ⟨family, inFamilies, isID, user, client, grant, binding.symm⟩
    · cases consistent
  · split at consistent
    · simp at consistent
    · have matching := firstViolation_eq_none.mp consistent
        (raised .checkViolation "authorization-code Refresh family authority is inconsistent"
          !row.codeFamilyConsistent db) (by simp)
      simp only [raised_eq_none, Bool.not_eq_false', AccessToken.codeFamilyConsistent, named]
        at matching
      split at matching
      · cases matching
      · rename_i family isFamily
        obtain ⟨inFamilies, isID⟩ := found isFamily
        simp only [Bool.and_eq_true, beq_iff_eq, and_assoc] at matching
        obtain ⟨-, grant, user, client, -, binding, -⟩ := matching
        exact ⟨family, inFamilies, isID, user, client, grant, binding.symm⟩

/-- Tokens and families that continue stay attributed while the families are there. -/
theorem Db.Attributed.carried (attributed : db.Attributed)
    (tokens : ∀ token ∈ after.accessTokens, ∃ old ∈ db.accessTokens, AccessContinues old token)
    (families : ∀ family ∈ db.refreshTokenFamilies, ∀ token ∈ after.accessTokens,
      token.refreshFamilyID = some family.id →
        ∃ kept ∈ after.refreshTokenFamilies, kept.id = family.id ∧ FamilyContinues family kept) :
    after.Attributed := by
  intro token member id named
  obtain ⟨old, inBefore, continued⟩ := tokens token member
  have sameFamily : token.refreshFamilyID = old.refreshFamilyID := by rw [continued.same]
  obtain ⟨family, inFamilies, isID, user, client, grant, binding⟩ :=
    attributed old inBefore id (sameFamily ▸ named)
  obtain ⟨kept, inAfter, sameID, moved⟩ := families family inFamilies token member (isID ▸ named)
  refine ⟨kept, inAfter, sameID.trans isID, ?_⟩
  rw [moved.same, continued.same]
  exact ⟨user, client, grant, binding⟩

theorem exec_attributed {β : Type} {statement : Stmt β} {answer : β} (sound : db.Sound)
    (executed : exec statement db = .ok (answer, after)) (attributed : db.Attributed) :
    after.Attributed := by
  by_cases retires : statement.retires
  · have shrank := exec_shrank retires executed
    refine attributed.carried (fun token member => ?_) fun family member token inAfter named => ?_
    · obtain ⟨old, inBefore, -, continued⟩ := shrank.accesses token member
      exact ⟨old, inBefore, continued⟩
    · rcases shrank.familyKept family member with ⟨kept, inFamilies, sameID⟩ | free
      · obtain ⟨old, inBefore, oldID, continued⟩ := shrank.families kept inFamilies
        obtain rfl := sound.families.unique inBefore member (oldID.trans sameID)
        exact ⟨kept, inFamilies, sameID, continued⟩
      · exact absurd named (free.2 token inAfter)
  · have keeps : statement.keepsRows := by
      cases statement <;> simp [Stmt.keepsRows, Stmt.retires] at retires ⊢
    have grew := exec_grew keeps executed
    have families (family : RefreshTokenFamily) (member : family ∈ db.refreshTokenFamilies) :
        ∃ kept ∈ after.refreshTokenFamilies, kept.id = family.id ∧ FamilyContinues family kept := by
      obtain ⟨kept, inAfter, sameID⟩ := grew.families.kept family member
      exact ⟨kept, inAfter, sameID,
        grew.families.evolves.continues sound.families.distinct member inAfter sameID⟩
    by_cases writes : .accessTokens ∈ statement.writes
    · cases statement with
      | accessTokens s =>
        rw [exec] at executed
        obtain ⟨rows, ran, rfl⟩ := store_ok.mp executed
        refine TableStmt.exec_forall_kept ?_ ?_ s ran attributed
        · intro row allowed id named
          exact attributed_of_insert allowed named
        · rintro ⟨revokedAt, reason⟩ row kept
          exact kept
      | retireLoginSessions | retireAuthorizationCodes | retireAccessTokens => cases keeps
      | _ => simp [Stmt.writes] at writes
    · have same : after.accessTokens = db.accessTokens := exec_same writes executed
      exact attributed.carried (fun token member => ⟨token, same ▸ member, .refl _⟩)
        fun family member _ _ _ => families family member

theorem Run.attributed (run : Run sha zone entries db) : db.Attributed :=
  (run.invariant (fun db => db.Sound ∧ db.Attributed)
    ⟨Db.sound_empty zone, fun _ member => nomatch member⟩
    fun _ _ _ _ _ executed held =>
      ⟨exec_sound held.1 executed, exec_attributed held.1 executed held.2⟩).2

/-! ## Identifiers -/

theorem Run.families_notNil (run : Run sha zone entries db) :
    ∀ family ∈ db.refreshTokenFamilies, family.id ≠ Uuid.nil := by
  induction run with
  | start => exact nofun
  | step ran took _ _ ih =>
    intro family member
    rcases took.family_origin ran.sound member with ⟨old, inBefore, sameID, -⟩ | founded
    · exact sameID ▸ ih old inBefore
    · exact founded.notNil

theorem Run.generations_notNil (run : Run sha zone entries db) :
    ∀ generation ∈ db.refreshTokens, generation.id ≠ Uuid.nil := by
  induction run with
  | start => exact nofun
  | step ran took _ _ ih =>
    intro generation member
    rcases took.generation_origin ran.sound member with ⟨old, inBefore, sameID, -⟩ | begun
    · exact sameID ▸ ih old inBefore
    · exact begun.notNil

/-- The calls that can write grants. -/
theorem Call.writes_grants (call : Call) :
    (∃ commit, call = .issueAuthorizationCode commit) ∨
      (∃ input, call = .revokeCurrentUserGrant input) ∨ call.kinds = [.retire] ∨
      .retire ∉ call.kinds ∧ .grant ∉ call.kinds := by
  cases call <;> simp [Call.kinds]

/-- A changed grant keeps its identifier. -/
theorem mem_changedGrants {grants : List ConsentGrant} {change : GrantChange} {id : Uuid}
    {grant : ConsentGrant} (member : grant ∈ changedGrants grants change id) :
    ∃ old ∈ grants, old.id = grant.id := by
  obtain ⟨old, inGrants, rfl⟩ := mem_updateRows.mp member
  refine ⟨old, inGrants, ?_⟩
  split
  · cases change <;> rfl
  · rfl

/-- A grant was there before, or a code issue created it. -/
theorem Entry.Ran.grant_origin {entry : Entry} (took : entry.Ran sha) (sound : entry.before.Sound)
    {grant : ConsentGrant} (member : grant ∈ entry.after.consentGrants) :
    (∃ old ∈ entry.before.consentGrants, old.id = grant.id) ∨
      ∃ commit clientID requested, entry.call = .issueAuthorizationCode commit ∧
        validateIssueCommit commit ∧ grant = proposedGrant commit clientID requested := by
  rcases took.cases with ran | ⟨-, unchanged⟩
  · rcases entry.call.writes_grants with ⟨commit, isCall⟩ | ⟨input, isCall⟩ | retiring |
      ⟨growing, noGrant⟩
    · rw [isCall] at ran
      obtain ⟨applied, ⟨issued⟩⟩ := issue_ran sound ran
      have inGrants : grant ∈ issued.grants := by
        rw [issued.isAfter] at member
        exact member
      obtain ⟨_, clientID, requested, grants, _, valid, _, _, _, _, _, _, consent, _, _⟩ := issued
      cases consent with
      | unchanged => exact Or.inl ⟨grant, inGrants, rfl⟩
      | created =>
        rcases List.mem_append.mp inGrants with old | new
        · exact Or.inl ⟨grant, old, rfl⟩
        · exact Or.inr ⟨commit, clientID, requested, isCall, valid, List.mem_singleton.mp new⟩
      | expanded => exact Or.inl (mem_changedGrants inGrants)
      | reactivated => exact Or.inl (mem_changedGrants inGrants)
    · rw [isCall] at ran
      obtain ⟨⟨managed, revoked⟩, -⟩ := quietly_ok.mp ran
      have ended := revokeCurrentUserGrant_ok sound revoked
      generalize entry.after = after at ended member
      cases ended with
      | unchanged => exact Or.inl ⟨grant, member, rfl⟩
      | revoked _ _ _ _ _ _ _ appended =>
        rw [appended] at member
        exact Or.inl (mem_changedGrants member)
    · have within := entry.call.body_within sha
      rw [retiring] at within
      exact Or.inl ⟨grant, (run_shrank within ran).grants ▸ member, rfl⟩
    · have stayed := run_stayed (entry.call.body_within sha) growing ran
      exact Or.inl ⟨grant, stayed.grants noGrant ▸ member, rfl⟩
  · rw [unchanged] at member
    exact Or.inl ⟨grant, member, rfl⟩

theorem Run.grants_notNil (run : Run sha zone entries db) :
    ∀ grant ∈ db.consentGrants, grant.id ≠ Uuid.nil ∧ grant.userID ≠ Uuid.nil := by
  induction run with
  | start => exact nofun
  | step ran took _ _ ih =>
    intro grant member
    rcases took.grant_origin ran.sound member with
      ⟨old, inBefore, sameID⟩ | ⟨commit, clientID, requested, -, valid, rfl⟩
    · have continued : GrantContinues old grant :=
        took.evolved.grants.evolves.continues ran.sound.grants.distinct inBefore member sameID.symm
      rw [← sameID, continued.userID]
      exact ih old inBefore
    · simp only [validateIssueCommit, Bool.and_eq_true, bne_iff_ne, ne_eq, and_assoc] at valid
      exact ⟨valid.2.2.2.2.1, valid.1⟩

/-! ## Codes -/

/-- The calls that can write codes. -/
theorem Call.writes_codes (call : Call) :
    (∃ commit, call = .issueAuthorizationCode commit) ∨
      (∃ input mint, call = .exchangeAuthorizationCode input mint) ∨ call.kinds = [.retire] ∨
      .retire ∉ call.kinds ∧ .code ∉ call.kinds := by
  cases call <;> simp [Call.kinds]

/-- The step issued the code. -/
def Entry.Issues (entry : Entry) (code : AuthorizationCode) : Prop :=
  ∃ commit grant, ∃ issued : Issued commit grant entry.before entry.after,
    entry.call = .issueAuthorizationCode commit ∧
    code = issuedCode commit issued.transaction issued.clientID grant issued.requested

/-- A code was there before, or the step issued it. -/
theorem Entry.Ran.code_origin {entry : Entry} (took : entry.Ran sha) (sound : entry.before.Sound)
    {code : AuthorizationCode} (member : code ∈ entry.after.authorizationCodes) :
    (∃ old ∈ entry.before.authorizationCodes, old.id = code.id) ∨ entry.Issues code := by
  rcases took.cases with ran | ⟨-, unchanged⟩
  · rcases entry.call.writes_codes with ⟨commit, isCall⟩ | ⟨input, mint, isCall⟩ | retiring |
      ⟨growing, noCode⟩
    · rw [isCall] at ran
      obtain ⟨grant, ⟨issued⟩⟩ := issue_ran sound ran
      rw [issued.isAfter] at member
      rcases List.mem_append.mp member with old | new
      · exact Or.inl ⟨code, old, rfl⟩
      · exact Or.inr ⟨commit, grant, issued, isCall, List.mem_singleton.mp new⟩
    · rw [isCall] at ran
      obtain ⟨result, ended, -⟩ := exchange_ran sound ran
      generalize entry.after = after at ended member
      cases ended with
      | replayed _ _ _ recorded =>
        rcases recorded with rfl | ⟨event, -, -, appended⟩
        · exact Or.inl ⟨code, member, rfl⟩
        · rw [appended] at member
          exact Or.inl ⟨code, member, rfl⟩
      | exchanged =>
        obtain ⟨old, inBefore, rfl⟩ := mem_updateRows.mp member
        exact Or.inl ⟨old, inBefore, by split <;> rfl⟩
    · have within := entry.call.body_within sha
      rw [retiring] at within
      obtain ⟨old, inBefore, sameID, -⟩ := (run_shrank within ran).codes code member
      exact Or.inl ⟨old, inBefore, sameID⟩
    · have stayed := run_stayed (entry.call.body_within sha) growing ran
      exact Or.inl ⟨code, stayed.codes noCode ▸ member, rfl⟩
  · rw [unchanged] at member
    exact Or.inl ⟨code, member, rfl⟩

/-- A code that a step adds is one it issued. -/
theorem Entry.Ran.issues_of_adds {entry : Entry} (took : entry.Ran sha)
    (sound : entry.before.Sound) {code : AuthorizationCode}
    (adds : entry.Adds AuthorizationCode.id Db.authorizationCodes code) : entry.Issues code := by
  rcases took.code_origin sound adds.1 with ⟨old, inBefore, sameID⟩ | issues
  · exact absurd sameID (adds.2 old inBefore)
  · exact issues

/-! ## Times -/

/-- The deadlines of families and the times of generations are whole microseconds. -/
structure Db.WholeTimes (db : Db) : Prop where
  families : ∀ family ∈ db.refreshTokenFamilies,
    timestamp family.absoluteExpiresAt = family.absoluteExpiresAt
  generations : ∀ generation ∈ db.refreshTokens,
    timestamp generation.issuedAt = generation.issuedAt

theorem Run.wholeTimes (run : Run sha zone entries db) : db.WholeTimes := by
  induction run with
  | start => exact ⟨(fun _ member => nomatch member), (fun _ member => nomatch member)⟩
  | @step past entry ran took _ _ ih =>
    have keptFamily {old family : RefreshTokenFamily} (inBefore : old ∈ entry.before.refreshTokenFamilies)
        (member : family ∈ entry.after.refreshTokenFamilies) (sameID : old.id = family.id) :
        timestamp family.absoluteExpiresAt = family.absoluteExpiresAt := by
      have moved := took.evolved.families.continues ran.sound.families.distinct inBefore member
        sameID.symm
      rw [moved.same]
      exact ih.families old inBefore
    have keptGeneration {old generation : RefreshToken} (inBefore : old ∈ entry.before.refreshTokens)
        (member : generation ∈ entry.after.refreshTokens) (sameID : old.id = generation.id) :
        timestamp generation.issuedAt = generation.issuedAt := by
      have moved := took.evolved.generations.continues ran.sound.generations.distinct inBefore member
        sameID.symm
      rw [moved.same]
      exact ih.generations old inBefore
    constructor
    · intro family member
      cases took.minting ran.sound with
      | none families =>
        obtain ⟨old, inBefore, sameID⟩ := families family member
        exact keptFamily inBefore member sameID
      | exchanged _ _ _ _ _ _ _ isAfter =>
        have isRow := member
        rw [isAfter] at isRow
        rcases List.mem_append.mp isRow with old | new
        · exact keptFamily old member rfl
        · obtain ⟨initial, binding, -, -, rfl⟩ := mem_initialFamilies new
          exact timestamp_timestamp _
      | rotated _ _ _ _ _ _ _ _ isAfter =>
        have isRow := member
        rw [isAfter] at isRow
        exact keptFamily isRow member rfl
    · intro generation member
      cases took.minting ran.sound with
      | none _ generations =>
        obtain ⟨old, inBefore, sameID⟩ := generations generation member
        exact keptGeneration inBefore member sameID
      | exchanged _ _ _ _ _ _ _ isAfter =>
        have isRow := member
        rw [isAfter] at isRow
        rcases List.mem_append.mp isRow with old | new
        · exact keptGeneration old member rfl
        · obtain ⟨initial, binding, -, -, rfl⟩ := mem_initialGenerations new
          exact timestamp_timestamp _
      | rotated _ _ _ _ _ _ _ _ isAfter =>
        have isRow := member
        rw [isAfter] at isRow
        rcases List.mem_append.mp isRow with old | new
        · obtain ⟨origin, inBefore, rfl⟩ := mem_updateRows.mp old
          exact keptGeneration inBefore member (by split <;> rfl)
        · obtain rfl := List.mem_singleton.mp new
          exact timestamp_timestamp _

/-! ## The last generation -/

/-- No generation of a family comes after an unconsumed one. -/
def Db.UnconsumedLast (db : Db) : Prop :=
  ∀ last ∈ db.refreshTokens, last.consumedAt = none → ∀ other ∈ db.refreshTokens,
    other.familyID = last.familyID → other.generation ≤ last.generation

/-- A generation that is unconsumed after a step was unconsumed before it. -/
theorem Entry.Ran.unconsumed_before {entry : Entry} (took : entry.Ran sha)
    (sound : entry.before.Sound) {old generation : RefreshToken}
    (inBefore : old ∈ entry.before.refreshTokens) (member : generation ∈ entry.after.refreshTokens)
    (sameID : old.id = generation.id) (unconsumed : generation.consumedAt = none) :
    old.consumedAt = none := by
  have moved := took.evolved.generations.continues sound.generations.distinct inBefore member
    sameID.symm
  by_contra consumed
  have stays := moved.consumedAt.isSome (Option.isSome_iff_ne_none.mpr consumed)
  rw [unconsumed] at stays
  cases stays

/-- A step creates at most one generation, and generation 0 only with its family. -/
theorem Entry.Ran.generation_created {entry : Entry} (took : entry.Ran sha)
    (sound : entry.before.Sound) :
    ∃ created, ∀ generation ∈ entry.after.refreshTokens,
      (∃ old ∈ entry.before.refreshTokens, old.id = generation.id) ∨
        generation.id = created ∧ (generation.generation = 0 →
          ∀ family ∈ entry.before.refreshTokenFamilies, family.id ≠ generation.familyID) := by
  cases took.minting sound with
  | none _ generations => exact ⟨Uuid.nil, fun row member => Or.inl (generations row member)⟩
  | @exchanged _ _ code locked _ _ _ _ _ _ _ _ isAfter =>
    refine ⟨(locked.minted.initialRefresh.map (·.tokenID)).getD Uuid.nil, fun row member => ?_⟩
    have distinct := (took.sound sound).families.distinct
    rw [isAfter] at member distinct
    rcases List.mem_append.mp member with old | new
    · exact Or.inl ⟨row, old, rfl⟩
    · obtain ⟨initial, binding, isInitial, isBinding, rfl⟩ := mem_initialGenerations new
      refine Or.inr ⟨by rw [isInitial]; rfl, fun _ family inBefore sameID => ?_⟩
      simp only [founded, initialRows, isInitial, isBinding, List.map_append, List.map_cons,
        List.map_nil] at distinct
      exact List.disjoint_of_nodup_append distinct (List.mem_map_of_mem inBefore)
        (List.mem_singleton.mpr sameID)
  | @rotated _ _ _ _ _ _ locked _ minted _ _ _ locks _ _ _ _ _ isAfter =>
    refine ⟨minted.replacementTokenID, fun row member => ?_⟩
    rw [isAfter] at member
    rcases List.mem_append.mp member with old | new
    · obtain ⟨origin, inBefore, rfl⟩ := mem_updateRows.mp old
      exact Or.inl ⟨origin, inBefore, by split <;> rfl⟩
    · obtain rfl := List.mem_singleton.mp new
      refine Or.inr ⟨rfl, fun isZero => ?_⟩
      have nonneg := (generation_valid sound locks.presented).1
      simp only [replacementGeneration] at isZero
      omega

theorem Run.unconsumedLast (run : Run sha zone entries db) : db.UnconsumedLast := by
  induction run with
  | start => exact fun _ member => nomatch member
  | @step past entry ran took _ _ ih =>
    have sound := took.sound ran.sound
    obtain ⟨created, isCreated⟩ := took.generation_created ran.sound
    intro last inLast unconsumed other inOther sameFamily
    by_cases lastKnown : ∃ old ∈ entry.before.refreshTokens, old.id = last.id
    · obtain ⟨oldLast, inBefore, sameLast⟩ := lastKnown
      have moved := took.evolved.generations.continues ran.sound.generations.distinct inBefore inLast
        sameLast.symm
      have wasUnconsumed := took.unconsumed_before ran.sound inBefore inLast sameLast unconsumed
      rcases took.generation_origin ran.sound inOther with
        ⟨oldOther, inOtherBefore, -, otherMoved⟩ | otherBegun
      · rw [moved.same, otherMoved.same] at sameFamily ⊢
        exact ih oldLast inBefore wasUnconsumed oldOther inOtherBefore sameFamily
      · rcases otherBegun.number with isZero | ⟨presented, inPresented, presentedFamily, -,
          presentedUnconsumed, used, inUsed, sameUsed, -, -, consumed⟩
        · rw [isZero]
          exact (generation_valid sound inLast).1
        · -- both were unconsumed, so they are one row, which the step consumed
          have lastFamily : oldLast.familyID = presented.familyID := by
            rw [presentedFamily, sameFamily, moved.same]
          have sameNumber : oldLast.generation = presented.generation :=
            le_antisymm (ih presented inPresented presentedUnconsumed oldLast inBefore lastFamily)
              (ih oldLast inBefore wasUnconsumed presented inPresented lastFamily.symm)
          obtain rfl := eq_of_key ran.sound.numbers inBefore inPresented
            (Prod.ext lastFamily sameNumber)
          obtain rfl := sound.generations.unique inUsed inLast (sameUsed.trans sameLast)
          rw [unconsumed] at consumed
          cases consumed
    · rcases isCreated last inLast with known | ⟨isLast, founded⟩
      · exact absurd known lastKnown
      · rcases isCreated other inOther with ⟨oldOther, inOtherBefore, sameOther⟩ | ⟨isOther, -⟩
        · have otherMoved := took.evolved.generations.continues ran.sound.generations.distinct
            inOtherBefore inOther sameOther.symm
          have otherFamily : oldOther.familyID = last.familyID := by
            rw [← sameFamily, otherMoved.same]
          rcases took.generation_origin ran.sound inLast with ⟨old, inBefore, sameID, -⟩ | begun
          · exact absurd ⟨old, inBefore, sameID⟩ lastKnown
          · rcases begun.number with isZero | ⟨presented, inPresented, presentedFamily, isNext,
              presentedUnconsumed, -⟩
            · -- the family of an older generation was there before the step
              obtain ⟨family, inFamilies, isFamily, -⟩ := ran.inside oldOther inOtherBefore
              exact absurd (isFamily.trans otherFamily) (founded isZero family inFamilies)
            · have below := ih presented inPresented presentedUnconsumed oldOther inOtherBefore
                (otherFamily.trans presentedFamily.symm)
              rw [isNext, otherMoved.same]
              exact below.trans (Int.le_add_one (le_refl _))
        · exact le_of_eq (congrArg RefreshToken.generation
            (sound.generations.unique inOther inLast (isOther.trans isLast.symm)))

/-- An access token that comes from a generation comes from a consumed one. -/
theorem Run.source_consumed (run : Run sha zone entries db) {generation : RefreshToken}
    (member : generation ∈ db.refreshTokens) {token : AccessToken} (inTokens : token ∈ db.accessTokens)
    (named : token.sourceRefreshTokenID = some generation.id) : generation.consumedAt.isSome := by
  obtain ⟨namesUsed, -⟩ := run.named (fun _ took sound => took.accesses_useGenerations sound)
    (fun _ _ past => past.generations_stayUsed) rfl
  obtain ⟨past, inPast, used, inUsed, isGeneration, consumed⟩ :=
    namesUsed db List.mem_cons_self token inTokens generation.id named
  exact run.generations_stayUsed past inPast used inUsed consumed generation member isGeneration.symm

end OneIssuer
