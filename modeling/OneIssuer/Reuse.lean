import OneIssuer.Finality
import OneIssuer.Invariants

/-!
# Reuse of a refresh token

A generation that was rotated and is presented again is a reuse: the transaction revokes the family
and its live access tokens and commits, and the caller gets `ErrInvalidGrant`. The request time was
read before the locks, so it may lie before the rows that the rotation wrote, and the CHECK
constraints compare the two. `reuse_detected_iff` says exactly when the reuse goes through.

**What it does not establish.** Who presented the generation again. The first presentation after a theft
is an ordinary rotation.
-/

set_option autoImplicit false

namespace OneIssuer

open Relational Token Store Queries

variable {sha : Sha256} {zone : Zone} {entries : List Entry} {db : Db}

/-! ## What every state of a run has -/

/-- The grant of a family is there, between the user and the client of the family. -/
theorem Run.family_grant (run : Run sha zone entries db) :
    ∀ family ∈ db.refreshTokenFamilies, ∃ grant ∈ db.consentGrants,
      grant.id = family.consentGrantID ∧ grant.userID = family.userID ∧
        grant.clientID = family.clientID := by
  induction run with
  | start => exact nofun
  | @step past entry ran took _ _ ih =>
    intro family member
    have before : ∃ grant ∈ entry.before.consentGrants, grant.id = family.consentGrantID ∧
        grant.userID = family.userID ∧ grant.clientID = family.clientID := by
      rcases took.family_origin ran.sound member with ⟨old, inBefore, -, moved⟩ | founded
      · rw [moved.same]
        exact ih old inBefore
      · obtain ⟨grant, inGrants, isGrant, isUser, isClient, -⟩ := founded.backed.grant
        exact ⟨grant, inGrants, isGrant, isUser, isClient⟩
    obtain ⟨grant, inGrants, isGrant, isUser, isClient⟩ := before
    have grows := took.evolved.grants
    obtain ⟨kept, inAfter, sameID⟩ := grows.kept grant inGrants
    have moved := grows.evolves.continues ran.sound.grants.distinct inGrants inAfter sameID
    exact ⟨kept, inAfter, sameID.trans isGrant, moved.userID.trans isUser,
      moved.clientID.trans isClient⟩

/-! ## Recorded reuses -/

/-- The event is about a generation whose family is revoked. -/
def Db.ExplainsReuse (db : Db) (event : AuditEvent) : Prop :=
  ∃ generation ∈ db.refreshTokens, event.targetID = some generation.id ∧
    ∃ family ∈ db.refreshTokenFamilies, family.id = generation.familyID ∧ family.revokedAt.isSome

/-- The events that are written once for a target and record a reuse. -/
def recordsReuse (event : AuditEvent) : Prop :=
  event.oncePerTarget ≠ none ∧ event.eventType = .refreshTokenReuseDetected

/-- The calls that record something at most once for a target. -/
theorem Call.marks (call : Call) :
    (∃ input mint, call = .exchangeAuthorizationCode input mint) ∨
      (∃ input mint seenGeneration seenFamily,
        call = .exchangeRefreshToken input mint seenGeneration seenFamily) ∨
      call.kinds = [.retire] ∨ .retire ∉ call.kinds ∧ .marked ∉ call.kinds := by
  cases call <;> simp [Call.kinds]

/-- A reuse that a step recorded is explained by the state after it. -/
theorem Entry.Ran.reuse_explained {entry : Entry} (took : entry.Ran sha)
    (sound : entry.before.Sound) {event : AuditEvent} (member : event ∈ entry.after.auditEvents)
    (records : recordsReuse event) :
    event ∈ entry.before.auditEvents ∨ entry.after.ExplainsReuse event := by
  rcases took.cases with ran | ⟨-, unchanged⟩
  · rcases entry.call.marks with ⟨input, mint, isCall⟩ | ⟨input, mint, _, _, isCall⟩ | retiring |
      ⟨growing, unmarked⟩
    · rw [isCall] at ran
      obtain ⟨result, ended, -⟩ := exchange_ran sound ran
      left
      generalize entry.after = after at ended member
      cases ended with
      | replayed _ _ _ recorded =>
        rcases recorded with rfl | ⟨replay, isReplay, -, appended⟩
        · exact member
        · rw [appended] at member
          rcases List.mem_append.mp member with old | new
          · exact old
          · obtain rfl := List.mem_singleton.mp new
            cases isReplay.1.symm.trans records.2
      | exchanged _ _ _ _ _ _ ordinary =>
        rcases List.mem_append.mp member with old | new
        · exact old
        · exact absurd (ordinary event new) records.1
    · rw [isCall] at ran
      obtain ⟨_, _, result, -, ended, -⟩ := refresh_ran sound ran
      generalize entry.after = after at ended member ⊢
      cases ended with
      | @reused locked reuse revoked _ locks _ recorded ordinary appended =>
        rw [appended] at member ⊢
        rcases List.mem_append.mp member with old | new
        · exact Or.inl old
        · rcases List.mem_cons.mp new with rfl | second
          · refine Or.inr ⟨locked.presented, locks.presented, recorded.2.2, ?_⟩
            rw [locks.presentedFamily]
            exact revokedFamilies_kept locks.family (beq_self_eq_true locked.family.id)
          · obtain rfl := List.mem_singleton.mp second
            exact absurd ordinary records.1
      | rotated _ _ _ _ _ _ ordinary =>
        rcases List.mem_append.mp member with old | new
        · exact Or.inl old
        · exact absurd (ordinary event new) records.1
    · have within := entry.call.body_within sha
      rw [retiring] at within
      left
      rw [← (run_shrank within ran).events]
      exact member
    · left
      have stayed := run_stayed (entry.call.body_within sha) growing ran
      exact (stayed.events unmarked event member).resolve_right records.1
  · exact Or.inl (unchanged ▸ member)

/-- Every reuse that was recorded was explained by some state of the run. -/
theorem Run.reuse_explained (run : Run sha zone entries db) :
    ∀ event ∈ db.auditEvents, recordsReuse event →
      ∃ seen ∈ states entries db, seen.ExplainsReuse event := by
  induction run with
  | start => exact fun _ member => nomatch member
  | @step past entry ran took _ _ ih =>
    intro event member records
    rcases took.reuse_explained ran.sound member records with old | explained
    · obtain ⟨seen, inPast, explained⟩ := ih event old records
      exact ⟨seen, List.mem_cons_of_mem _ inPast, explained⟩
    · exact ⟨entry.after, List.mem_cons_self, explained⟩

/-- No reuse of a generation was recorded while its family is unrevoked. -/
theorem Run.reuse_unrecorded (run : Run sha zone entries db) {generation : RefreshToken}
    (stored : generation ∈ db.refreshTokens) {family : RefreshTokenFamily}
    (inFamilies : family ∈ db.refreshTokenFamilies) (isMember : generation.familyID = family.id)
    (unrevoked : family.revokedAt = none) :
    ∀ event ∈ db.auditEvents, recordsReuse event → event.targetID ≠ some generation.id := by
  intro event member records isTarget
  obtain ⟨seen, inHistory, old, inSeen, isOld, revoked, inRevoked, isFamily, isRevoked⟩ :=
    run.reuse_explained event member records
  have sameID : old.id = generation.id := Option.some.inj (isOld.symm.trans isTarget)
  obtain ⟨-, moved⟩ := run.generations seen inHistory old inSeen generation stored (Or.inl sameID)
  refine run.family_revoked inHistory inRevoked isRevoked inFamilies ?_ unrevoked
  rw [isFamily, ← isMember, moved.same]

/-! ## A token that is still usable -/

/-- The refresh token of a request is stored, its client presents it before the absolute expiry of
the family, and user, client, grant and family are active. -/
structure Db.Usable (db : Db) (input : RefreshInput) (generation : RefreshToken)
    (family : RefreshTokenFamily) : Prop where
  stored : generation ∈ db.refreshTokens
  presented : generation.tokenHash = input.tokenHash
  familyStored : family ∈ db.refreshTokenFamilies
  isMember : generation.familyID = family.id
  unrevoked : family.revokedAt = none
  unexpired : input.now < family.absoluteExpiresAt
  user : ∃ user ∈ db.users, user.id = family.userID ∧ user.status = .active
  client : ∃ client ∈ db.clients, client.id = family.clientID ∧
    sameAuthenticatedClient (db.clientOf client) input.client
  grant : ∃ grant ∈ db.consentGrants, grant.id = family.consentGrantID ∧ grant.revokedAt = none

/-- A request for a usable token gets its locks, whenever its rows were looked up. -/
theorem Run.refreshLocked (run : Run sha zone entries db) {input : RefreshInput}
    {seenGeneration seenFamily : Db} (generationRead : seenGeneration ∈ states entries db)
    (familyRead : seenFamily ∈ states entries db) {candidate : RefreshToken}
    {candidateFamily : RefreshTokenFamily}
    (found : refreshCandidate input.tokenHash seenGeneration seenFamily =
      some (candidate, candidateFamily))
    {generation : RefreshToken} {family : RefreshTokenFamily}
    (usable : db.Usable input generation family) :
    ∃ locked, RefreshLocked input candidate candidateFamily db locked ∧ locked.family = family ∧
      locked.presented = generation := by
  obtain ⟨⟨inGenerations, isHash⟩, inFamilies, isFamily⟩ := refreshCandidate_some found
  obtain ⟨sameID, moved⟩ := run.generations seenGeneration generationRead candidate inGenerations
    generation usable.stored (Or.inr (isHash.trans usable.presented.symm))
  have familyID : candidateFamily.id = family.id := by
    rw [isFamily, ← usable.isMember, moved.same]
  obtain ⟨-, familyMoved⟩ := run.families seenFamily familyRead candidateFamily inFamilies family
    usable.familyStored (Or.inl familyID)
  have sameUser : family.userID = candidateFamily.userID := by rw [familyMoved.same]
  have sameClient : family.clientID = candidateFamily.clientID := by rw [familyMoved.same]
  have sameGrant : family.consentGrantID = candidateFamily.consentGrantID := by
    rw [familyMoved.same]
  obtain ⟨user, inUsers, isUser, active⟩ := usable.user
  obtain ⟨client, inClients, isClient, authenticated⟩ := usable.client
  obtain ⟨grant, inGrants, isGrant, granted⟩ := usable.grant
  obtain ⟨own, inOwn, isOwn, ownUser, ownClient⟩ := run.family_grant family usable.familyStored
  obtain rfl := run.sound.grants.unique inOwn inGrants (isOwn.trans isGrant.symm)
  have version : decide (0 < own.version) = true :=
    run.sound.grants.check inGrants "consent_grants_version_valid" (by simp [ConsentGrant.checks])
  refine ⟨⟨user, db.clientOf client, own, family, generation⟩, ?_, rfl, rfl⟩
  exact
    { user := inUsers, userID := isUser.trans sameUser, active
      client := ⟨client, inClients, isClient.trans sameClient, rfl⟩, sameClient := authenticated
      grant := inGrants, grantUser := ownUser.trans sameUser
      grantClient := ownClient.trans sameClient, grantID := isGrant.trans sameGrant, granted
      version := of_decide_eq_true version, family := usable.familyStored
      familyID := familyID.symm.trans isFamily, sameFamily := familyID.symm
      familyUser := isUser.symm, familyClient := isClient.symm, familyGrant := isGrant.symm
      unrevoked := usable.unrevoked, unexpired := usable.unexpired, presented := usable.stored
      presentedID := sameID.symm, presentedFamily := usable.isMember
      presentedHash := usable.presented }

/-! ## Presenting a rotated token -/

/-- What the presentation of a rotated token is to do: its transaction commits, the caller gets
`ErrInvalidGrant`, and nothing of the family is left alive at `later`. -/
def ReuseDetected (sha : Sha256) (call : Call) (db : Db) (familyID : Uuid) (later : Time) : Prop :=
  ∃ after, inTx (call.body sha) .calm .calm db = (.ok (.error .tokenInvalidGrant), after) ∧
    (∃ family ∈ after.refreshTokenFamilies, family.id = familyID ∧ family.revokedAt.isSome) ∧
    ∀ token ∈ after.accessTokens, token.refreshFamilyID = some familyID →
      later < token.expiresAt → token.revokedAt.isSome

/-- A committed reuse was in order with the rows it stamped. -/
theorem inOrder_of_reuse (sound : db.Sound) {input : RefreshInput} {mint : RefreshMintFunc}
    {candidate : RefreshToken} {candidateFamily : RefreshTokenFamily} {error : StoreError}
    {after : Db} (ended : RefreshEnd sha input mint candidate candidateFamily db (.error error) after)
    {family : RefreshTokenFamily} (stored : family ∈ db.refreshTokenFamilies)
    (sameID : family.id = candidateFamily.id) :
    db.InOrder (.family family.id) (.family family.id) (timestamp input.now) := by
  cases ended with
  | reused locks _ _ _ _ inOrder =>
    obtain rfl := sound.families.unique stored locks.family (sameID.trans locks.sameFamily.symm)
    exact inOrder

/-- What a reuse leaves of its family. -/
theorem reuse_leaves {input : RefreshInput} {mint : RefreshMintFunc} {candidate : RefreshToken}
    {candidateFamily : RefreshTokenFamily} {error : StoreError} {after : Db}
    (ended : RefreshEnd sha input mint candidate candidateFamily db (.error error) after)
    {later : Time} (notEarlier : input.now ≤ later) :
    (∃ family ∈ after.refreshTokenFamilies, family.id = candidateFamily.id ∧
      family.revokedAt.isSome) ∧
    ∀ token ∈ after.accessTokens, token.refreshFamilyID = some candidateFamily.id →
      later < token.expiresAt → token.revokedAt.isSome := by
  cases ended with
  | @reused locked _ _ _ locks _ _ _ appended =>
    rw [appended, ← locks.sameFamily]
    constructor
    · exact revokedFamilies_kept locks.family (beq_self_eq_true locked.family.id)
    · intro token member linked live
      refine (revokedAccesses_dead member (beq_iff_eq.mpr linked)).resolve_right (not_le.mpr ?_)
      exact ((timestamp_le _).trans notEarlier).trans_lt live

/-- The presentation of a consumed token commits when the rows it stamps are in order. -/
theorem Run.reuse_commits (run : Run sha zone entries db) {input : RefreshInput}
    {mint : RefreshMintFunc} {seenGeneration seenFamily : Db}
    (generationRead : seenGeneration ∈ states entries db)
    (familyRead : seenFamily ∈ states entries db)
    (found : (refreshCandidate input.tokenHash seenGeneration seenFamily).isSome)
    (valid : validRefreshInput input) {generation : RefreshToken} {family : RefreshTokenFamily}
    (usable : db.Usable input generation family) (consumed : generation.consumedAt.isSome)
    (inOrder : db.InOrder (.family family.id) (.family family.id) (timestamp input.now)) :
    ∃ after, (refreshByHash sha input mint seenGeneration seenFamily).run exec db =
      .ok (.error .tokenInvalidGrant, after) := by
  obtain ⟨⟨candidate, candidateFamily⟩, isCandidate⟩ := Option.isSome_iff_exists.mp found
  obtain ⟨locked, locks, rfl, rfl⟩ := run.refreshLocked generationRead familyRead isCandidate usable
  have notZero : input.now ≠ 0 := by
    simpa [validRefreshInput, Time.isZero] using (Bool.and_eq_true_iff.mp valid).2
  have unrecorded := run.reuse_unrecorded usable.stored usable.familyStored usable.isMember
    usable.unrevoked
  obtain ⟨after, revoking⟩ := revokeReusedFamily_run run.sound usable.familyStored
    usable.unrevoked inOrder ⟨locked.user, locks.user, locks.familyUser.symm⟩ notZero
    ⟨run.families_notNil _ usable.familyStored, run.generations_notNil _ usable.stored⟩
    fun event member marked isType => unrecorded event member ⟨marked, isType⟩
  refine ⟨after, ?_⟩
  rw [refreshByHash, isCandidate]
  simp only [exchangeRefreshToken, Program.run_bind_ok, Program.run_require_ok]
  refine ⟨(), db, ⟨valid, rfl⟩, locked, db, (lockRefreshAuthority_ok run.sound).mpr ⟨locks, rfl⟩, ?_⟩
  rw [if_pos consumed, Program.run_bind_ok]
  exact ⟨(), after, revoking, rfl⟩

/-- After a rotation, the same token is presented again while user, client, grant and family are
active. The reuse is detected if and only if no row it has to stamp was created after the request
time. -/
theorem reuse_detected_iff (run : Run sha zone entries db) {winner : Entry} (won : winner ∈ entries)
    {input : RefreshInput} (rotated : winner.Refreshes input.tokenHash) (mint : RefreshMintFunc)
    {seenGeneration seenFamily : Db} (generationRead : seenGeneration ∈ states entries db)
    (familyRead : seenFamily ∈ states entries db)
    (found : (refreshCandidate input.tokenHash seenGeneration seenFamily).isSome)
    (valid : validRefreshInput input) {generation : RefreshToken} {family : RefreshTokenFamily}
    (usable : db.Usable input generation family) :
    ReuseDetected sha (.exchangeRefreshToken input mint seenGeneration seenFamily) db family.id
        (max input.now winner.call.now) ↔
      db.InOrder (.family family.id) (.family family.id) (timestamp input.now) := by
  obtain ⟨⟨candidate, candidateFamily⟩, isCandidate⟩ := Option.isSome_iff_exists.mp found
  obtain ⟨locked, locks, rfl, rfl⟩ := run.refreshLocked generationRead familyRead isCandidate usable
  constructor
  · rintro ⟨after, committed, -⟩
    obtain ⟨_, _, result, same, ended, isOutcome⟩ :=
      refresh_ran run.sound (inTx_calm_ok.mp committed)
    cases same.symm.trans isCandidate
    cases result with
    | ok response => cases isOutcome
    | error error => exact inOrder_of_reuse run.sound ended usable.familyStored locks.sameFamily
  · intro inOrder
    have consumed : locked.presented.consumedAt.isSome := by
      obtain ⟨_, _, at'⟩ := run.at won
      obtain ⟨-, used, inAfter, isDigest, isUsed⟩ := rotated.usesUp at'.took at'.before.sound
      exact run.tokenHashes_stayUsed winner.after (at'.states _ List.mem_cons_self) used inAfter
        isUsed locked.presented usable.stored (usable.presented.trans isDigest.symm)
    obtain ⟨after, ran⟩ := run.reuse_commits generationRead familyRead found valid usable consumed
      inOrder
    have committed : ((Call.exchangeRefreshToken input mint seenGeneration seenFamily).body sha).run
        exec db = .ok (.error .tokenInvalidGrant, after) := withTokens_ok.mpr ⟨_, ran, rfl⟩
    obtain ⟨_, _, result, same, ended, isOutcome⟩ := refresh_ran run.sound committed
    cases same.symm.trans isCandidate
    cases result with
    | ok response => cases isOutcome
    | error error =>
      rw [locks.sameFamily]
      exact ⟨after, inTx_calm_ok.mpr committed,
        reuse_leaves ended (le_max_left input.now winner.call.now)⟩

-- By this lemma `before` is read off without running the call.
theorem Entry.calm_before (sha : Sha256) (call : Call) (db : Db) :
    (Entry.calm sha call db).before = db := rfl

def Sample.refreshedResponse : Response :=
  { accessToken := "access", tokenType := "Bearer", expiresIn := 300, idToken := ""
    refreshToken := refreshText 'E', scope := "offline_access openid profile" }

/-- The rotation of the sample run, the rows after it, and the rotated token presented again with an
earlier time. -/
theorem Sample.refreshed_evaluated :
    (∃ generation ∈ refreshed.after.refreshTokens,
      generation.tokenHash = hashRefreshToken Sample.sha (refreshText 'A') ∧
      ∃ family ∈ refreshed.after.refreshTokenFamilies, generation.familyID = family.id ∧
        family.id = 10 ∧ family.revokedAt = none ∧ at' 1000 ≤ family.absoluteExpiresAt ∧
        (∃ user ∈ refreshed.after.users, user.id = family.userID ∧ user.status = .active) ∧
        (∃ row ∈ refreshed.after.clients, row.id = family.clientID ∧
          sameAuthenticatedClient (refreshed.after.clientOf row) client) ∧
        ∃ grant ∈ refreshed.after.consentGrants, grant.id = family.consentGrantID ∧
          grant.revokedAt = none) ∧
    refreshed.outcome = .ok (.tokens refreshedResponse) ∧
    ((refreshCandidate (presentation (at' 60)).tokenHash exchanged.after exchanged.after).isSome ∧
      validRefreshInput (presentation (at' 60)) ∧
      (∀ family ∈ refreshed.after.refreshTokenFamilies, family.createdAt ≤ timestamp (at' 60)) ∧
      ∀ token ∈ refreshed.after.accessTokens, token.issuedAt ≤ timestamp (at' 60)) ∧
    (∀ row ∈ refreshed.after.refreshTokens,
      row.tokenHash = hashRefreshToken Sample.sha (refreshText 'A') → row.consumedAt.isSome) ∧
    (inTx ((refresh (at' 30) exchanged.after).body Sample.sha) .calm .calm refreshed.after).1 =
      .error (.query "revoke access tokens after refresh reuse"
        ⟨.checkViolation, "access_tokens_lifetime_valid"⟩) := by
  decide +kernel

/-- The rotated token of the sample run can be presented again, until its family expires. -/
theorem Sample.presentation_usable {now : Time} (early : now < at' 1000) :
    ∃ generation family, refreshed.after.Usable (presentation now) generation family ∧
      family.id = 10 := by
  obtain ⟨⟨generation, stored, presented, family, familyStored, isMember, isFamily, unrevoked, lasts,
    user, client, grant⟩, -⟩ := refreshed_evaluated
  exact ⟨generation, family, ⟨stored, presented, familyStored, isMember, unrevoked,
    early.trans_le lasts, user, client, grant⟩, isFamily⟩

theorem Sample.refreshed_rotates :
    refreshed.Refreshes (hashRefreshToken Sample.sha (refreshText 'A')) :=
  ⟨presentation (at' 40), remint, exchanged.after, exchanged.after, refreshedResponse, rfl, rfl,
    refreshed_evaluated.2.1⟩

/-- Presented again with the time of 60 s, the rotated token is detected. -/
theorem reuse_detected_sample :
    ReuseDetected Sample.sha (Sample.refresh (Sample.at' 60) Sample.exchanged.after)
      Sample.refreshed.after 10 (Sample.at' 60) := by
  have early : Sample.at' 60 < Sample.at' 1000 := by decide
  obtain ⟨generation, family, usable, isFamily⟩ := Sample.presentation_usable early
  have rotated : Sample.refreshed.Refreshes (Sample.presentation (Sample.at' 60)).tokenHash :=
    Sample.refreshed_rotates
  have inHistory : Sample.exchanged.after ∈ states (Sample.refreshed :: Sample.exchanged ::
      Sample.flow) Sample.refreshed.after := by
    have isBefore : Sample.refreshed.before = Sample.exchanged.after := Entry.calm_before _ _ _
    rw [← isBefore]
    simp only [states, List.map_cons, List.mem_cons, true_or, or_true]
  obtain ⟨-, -, ⟨found, valid, families, accesses⟩, -⟩ := Sample.refreshed_evaluated
  have detected := (reuse_detected_iff Sample.refreshed_run List.mem_cons_self rotated Sample.remint
    inHistory inHistory found valid usable).mpr
      ⟨fun row member _ => families row member, fun token member _ => accesses token member⟩
  rw [isFamily] at detected
  exact detected

/-- Presented again with the time of 30 s, after a rotation with the time of 40 s, it is not: the
access token of the rotation cannot be stamped, so the transaction is rolled back and the family
stays unrevoked. -/
theorem reuse_lost_to_race :
    Run Sample.sha .utc (Sample.refreshed :: Sample.exchanged :: Sample.flow)
        Sample.refreshed.after ∧
      Sample.refreshed.Refreshes (Sample.presentation (Sample.at' 30)).tokenHash ∧
      (∃ generation family, Sample.refreshed.after.Usable (Sample.presentation (Sample.at' 30))
        generation family ∧ family.id = 10) ∧
      (inTx ((Sample.refresh (Sample.at' 30) Sample.exchanged.after).body Sample.sha) .calm .calm
        Sample.refreshed.after).1 = .error (.query "revoke access tokens after refresh reuse"
          ⟨.checkViolation, "access_tokens_lifetime_valid"⟩) ∧
      ¬ ReuseDetected Sample.sha (Sample.refresh (Sample.at' 30) Sample.exchanged.after)
        Sample.refreshed.after 10 (Sample.at' 40) := by
  obtain ⟨-, -, -, -, failed⟩ := Sample.refreshed_evaluated
  refine ⟨Sample.refreshed_run, Sample.refreshed_rotates, Sample.presentation_usable (by decide),
    failed, ?_⟩
  rintro ⟨after, committed, -⟩
  rw [committed] at failed
  cases failed

end OneIssuer
