import OneIssuer.Agreement
import OneIssuer.Reuse
import OneIssuer.Store.Callbacks

/-!
# What a refresh changes

`ExchangeRefreshToken` ends in one of three ways: it rotates the presented generation, it revokes the
family of a generation that was consumed before, or it changes nothing. Each way is stated here as the
state it leaves, table by table, and `refresh_exact_iff` says when a refresh that runs alone does what
its way says. The two results of the Go function, the response and the error, are modelled beside each
other, because a rolled back callback may have assigned the response.

**What it does not establish.** A refresh whose statements alternate with those of other calls. The
locks rule that out for the rows it reads, and `System` takes transactions whole.
-/

set_option autoImplicit false

namespace OneIssuer

open Relational Token Store Queries

variable {sha : Sha256} {zone : Zone} {entries : List Entry} {db : Db}

/-! ## The two results -/

/-- The error that stands beside the response. -/
inductive ReturnedError where
  | store (error : StoreError)
  | transaction (failure : TxFailure)

/-- The results after the transaction. -/
def refreshResults (ended : Ended ExchangeVariables) : Response × Option ReturnedError :=
  match ended.failure with
  | some failure => (ended.captured.response, some (.transaction failure))
  | none =>
    if ended.captured.rejected then (emptyResponse, some (.store .tokenInvalidGrant))
    else (ended.captured.response, none)

/-- What `ExchangeRefreshToken` returns, whatever its attempts find and meet. -/
def exchangeRefreshTokenResults (sha : Sha256) (input : RefreshInput) (mint : RefreshMintFunc)
    (seenGeneration seenFamily : Db) (rounds : Nat → Round) : Response × Option ReturnedError :=
  if !validRefreshInput input then (emptyResponse, some (.store .tokenInvalidGrant))
  else
    match refreshCandidate input.tokenHash seenGeneration seenFamily with
    | none => (emptyResponse, some (.store .tokenInvalidGrant))
    | some (candidate, candidateFamily) =>
      let call := AuditedCall.exchangeRefreshToken input mint candidate candidateFamily
      refreshResults (inTxCaptured (call.operation sha) rounds call.initial)

/-- A transaction that failed left the response empty. -/
theorem refreshResults_empty {operation : Operation ExchangeVariables} {s : ExchangeVariables}
    {ended : Ended ExchangeVariables} (guarantees : Guarantees operation s ended)
    (empty : (operation.reset s).response = emptyResponse) (failed : (refreshResults ended).2.isSome) :
    (refreshResults ended).1 = emptyResponse := by
  unfold refreshResults at failed ⊢
  cases isFailure : ended.failure with
  | some failure =>
    simp only [guarantees.clean (by rw [isFailure]; exact Option.some_ne_none failure), empty]
  | none =>
    simp only [isFailure] at failed ⊢
    split
    · rfl
    · rename_i kept
      rw [if_neg kept] at failed
      cases failed

/-- An error comes with the empty response: no clear token is returned. -/
theorem no_tokens_with_error (sha : Sha256) (input : RefreshInput) (mint : RefreshMintFunc)
    (seenGeneration seenFamily : Db) (rounds : Nat → Round)
    (failed : (exchangeRefreshTokenResults sha input mint seenGeneration seenFamily rounds).2.isSome) :
    (exchangeRefreshTokenResults sha input mint seenGeneration seenFamily rounds).1 =
      emptyResponse := by
  unfold exchangeRefreshTokenResults at failed ⊢
  split
  · rfl
  · rename_i valid
    rw [if_neg valid] at failed
    split
    · rfl
    · rename_i candidate candidateFamily found
      rw [found] at failed
      exact refreshResults_empty (inTxCaptured_guarantees _ _ _) rfl failed

/-! ## The three ways -/

/-- One generation is consumed; the next one, an access token and two events are added; nothing else
changes. -/
def Rotation (input : RefreshInput) (db after : Db) : Prop :=
  ∃ presented ∈ db.refreshTokens, presented.tokenHash = input.tokenHash ∧
    presented.consumedAt = none ∧
    ∃ (replacement : RefreshToken) (token : AccessToken) (first second : AuditEvent),
      (replacement.familyID = presented.familyID ∧
        replacement.generation = presented.generation + 1 ∧ replacement.consumedAt = none) ∧
      (token.refreshFamilyID = some presented.familyID ∧
        token.sourceRefreshTokenID = some presented.id ∧ token.revokedAt = none) ∧
      after =
        { db with
          refreshTokens :=
            updateRows (·.id == presented.id) ({ · with consumedAt := some (timestamp input.now) })
              db.refreshTokens ++ [replacement]
          accessTokens := db.accessTokens ++ [token]
          auditEvents := db.auditEvents ++ [first, second] }

/-- The family and its unrevoked access tokens that are unexpired at the request time are revoked; two
events are added; nothing else changes. -/
def FamilyRevocation (input : RefreshInput) (familyID : Uuid) (db after : Db) : Prop :=
  ∃ first second : AuditEvent,
    after =
      { db with
        refreshTokenFamilies :=
          updateRows (·.id == familyID) (·.revoked (timestamp input.now) .reuse)
            db.refreshTokenFamilies
        accessTokens :=
          updateRows
            (fun token => token.refreshFamilyID == some familyID && token.revokedAt.isNone &&
              decide (input.now < token.expiresAt))
            (·.revoked (timestamp input.now) .familyRevoked) db.accessTokens
        auditEvents := db.auditEvents ++ [first, second] }

/-- The presented generation was consumed before, and every check before that one passes. -/
def Db.Reuses (db : Db) (input : RefreshInput) (family : RefreshTokenFamily) : Prop :=
  validRefreshInput input ∧
    ∃ generation, db.Usable input generation family ∧ generation.consumedAt.isSome

/-- A refresh that runs alone in the state, and meets no fault. -/
def refreshAlone (sha : Sha256) (input : RefreshInput) (mint : RefreshMintFunc) (db : Db) : Entry :=
  .calm sha (.exchangeRefreshToken input mint db db) db

/-- The effects of a refresh are exact. -/
structure RefreshExact (sha : Sha256) (input : RefreshInput) (mint : RefreshMintFunc) (db : Db) :
    Prop where
  /-- Tokens are returned for one rotation. -/
  rotation : ∀ response, (refreshAlone sha input mint db).outcome = .ok (.tokens response) →
    Rotation input db (refreshAlone sha input mint db).after
  /-- A reuse is rejected and revokes its family. -/
  reuse : ∀ family, db.Reuses input family →
    (refreshAlone sha input mint db).outcome = .error .tokenInvalidGrant ∧
      FamilyRevocation input family.id db (refreshAlone sha input mint db).after
  /-- Every other error leaves the database as it was. -/
  unchanged : ∀ error, (refreshAlone sha input mint db).outcome = .error error →
    (∀ family, ¬ db.Reuses input family) → (refreshAlone sha input mint db).after = db
  /-- An error comes without a clear token, whatever the attempts find and meet. -/
  clear : ∀ rounds, (exchangeRefreshTokenResults sha input mint db db rounds).2.isSome →
    (exchangeRefreshTokenResults sha input mint db db rounds).1 = emptyResponse

/-! ## From the ends of the transaction -/

/-- A rotation records two events. -/
theorem rotateGeneration_logs {after : Db} {input : RefreshInput} {mint : RefreshMintFunc}
    {locked : LockedRefresh} {response : Response}
    (ran : (rotateGeneration sha input mint locked).run exec db = .ok (response, after)) :
    ∃ first second, after.auditEvents = db.auditEvents ++ [first, second] := by
  simp only [rotateGeneration, Program.run_bind_ok, Program.run_pure_ok, Program.run_require_ok,
    Program.run_ofExcept_ok, Prod.mk.injEq, Tx.query_ok] at ran
  obtain ⟨_, _, ⟨-, rfl⟩, _, _, ⟨-, rfl⟩, _, _, ⟨-, rfl⟩, _, _, ⟨-, rfl⟩, _, _, consumed, _, _, replaced,
    _, _, inserted, _, _, rotated, _, _, issued, rfl, rfl⟩ := ran
  obtain ⟨rows, consuming, -⟩ := Tx.queryRow_ok.mp consumed
  obtain ⟨-, -, rfl⟩ := (query_update exec_update_refreshTokens).mp consuming
  obtain ⟨-, rfl⟩ := exec_insert_refreshTokens.mp replaced
  obtain ⟨-, rfl⟩ := exec_insert_accessTokens.mp inserted
  obtain ⟨first, isFirst, -⟩ := insertProtocolAudit_appended rotated
  obtain ⟨second, isSecond, -⟩ := insertProtocolAudit_appended issued
  obtain rfl := isFirst.trans isSecond
  exact ⟨first, second, rfl⟩

/-- A refresh that returns tokens rotated the presented generation, and nothing else. -/
theorem rotation_of_ok (sound : db.Sound) {after : Db} {input : RefreshInput} {mint : RefreshMintFunc}
    {candidate : RefreshToken} {candidateFamily : RefreshTokenFamily} {response : Response}
    (ran : (exchangeRefreshToken sha input mint candidate candidateFamily).run exec db =
      .ok (.ok response, after)) : Rotation input db after := by
  have logs : ∃ first second, after.auditEvents = db.auditEvents ++ [first, second] := by
    simp only [exchangeRefreshToken, Program.run_bind_ok, Program.run_require_ok] at ran
    obtain ⟨_, _, ⟨-, rfl⟩, locked, _, authorityLocked, ran⟩ := ran
    obtain ⟨-, rfl⟩ := (lockRefreshAuthority_ok sound).mp authorityLocked
    split at ran
    · simp only [Program.run_bind_ok, Program.run_pure_ok, Prod.mk.injEq, reduceCtorEq, false_and,
        and_false, exists_false] at ran
    · simp only [Program.run_bind_ok, Program.run_pure_ok, Prod.mk.injEq] at ran
      obtain ⟨_, _, rotating, -, rfl⟩ := ran
      exact rotateGeneration_logs rotating
  have ended := exchangeRefreshToken_ok sound ran
  generalize isOutcome : (Except.ok response : Except StoreError Response) = outcome at ended
  cases ended with
  | reused => cases isOutcome
  | @rotated locked scopes minted events locks unconsumed =>
    obtain ⟨first, second, isLog⟩ := logs
    obtain rfl := List.append_cancel_left isLog
    refine ⟨locked.presented, locks.presented, locks.presentedHash, unconsumed,
      replacementGeneration locked minted, refreshedAccess locked scopes minted, first, second,
      ⟨locks.presentedFamily.symm, rfl, rfl⟩, ⟨?_, rfl, rfl⟩, ?_⟩
    · exact congrArg some locks.presentedFamily.symm
    · -- The guard of the statement is met by the one row with this identifier.
      have consumes : consumedGenerations db.refreshTokens locked.presented.id (timestamp input.now) =
          updateRows (·.id == locked.presented.id)
            ({ · with consumedAt := some (timestamp input.now) }) db.refreshTokens := by
        refine List.map_congr_left fun row member => ?_
        by_cases isPresented : row.id = locked.presented.id
        · obtain rfl := sound.generations.unique member locks.presented isPresented
          simp [GenerationChange.guard, GenerationChange.apply, unconsumed]
        · simp [isPresented]
      rw [consumes]

/-- Every expiry of an access token is a whole number of microseconds. -/
theorem Run.wholeExpiries (run : Run sha zone entries db) :
    ∀ token ∈ db.accessTokens, timestamp token.expiresAt = token.expiresAt := by
  induction run with
  | start => exact fun _ member => nomatch member
  | @step past entry ran took _ _ ih =>
    intro token member
    have kept {old : AccessToken} (inBefore : old ∈ entry.before.accessTokens)
        (sameID : old.id = token.id) : timestamp token.expiresAt = token.expiresAt := by
      have moved := took.evolved.accesses.continues ran.sound.accesses.distinct inBefore member
        sameID.symm
      rw [moved.same]
      exact ih old inBefore
    cases took.minting ran.sound with
    | none _ _ accesses =>
      obtain ⟨old, inBefore, sameID⟩ := accesses token member
      exact kept inBefore sameID
    | exchanged _ _ _ _ _ _ _ isAfter =>
      rw [isAfter] at member
      rcases List.mem_append.mp member with old | new
      · exact kept old rfl
      · obtain rfl := List.mem_singleton.mp new
        exact timestamp_timestamp _
    | rotated _ _ _ _ _ _ _ _ isAfter =>
      rw [isAfter] at member
      rcases List.mem_append.mp member with old | new
      · exact kept old rfl
      · obtain rfl := List.mem_singleton.mp new
        exact timestamp_timestamp _

/-- A refresh that committed an error revoked the family, and nothing else. -/
theorem revocation_of_reuse (run : Run sha zone entries db) {after : Db} {input : RefreshInput}
    {mint : RefreshMintFunc} {candidate : RefreshToken} {candidateFamily : RefreshTokenFamily}
    {error : StoreError}
    (ended : RefreshEnd sha input mint candidate candidateFamily db (.error error) after) :
    error = .tokenInvalidGrant ∧ FamilyRevocation input candidateFamily.id db after := by
  cases ended with
  | @reused locked reuse revoked _ locks _ _ _ appended =>
    refine ⟨rfl, reuse, revoked, Eq.trans appended ?_⟩
    rw [← locks.sameFamily]
    have families : updateRows (Selector.family locked.family.id).stampsFamily
        (·.revoked (timestamp input.now) .reuse) db.refreshTokenFamilies =
        updateRows (·.id == locked.family.id) (·.revoked (timestamp input.now) .reuse)
          db.refreshTokenFamilies := by
      refine List.map_congr_left fun row member => ?_
      by_cases isFamily : row.id = locked.family.id
      · obtain rfl := run.sound.families.unique member locks.family isFamily
        simp [Selector.stampsFamily, Selector.ofFamily, locks.unrevoked]
      · simp [Selector.stampsFamily, Selector.ofFamily, isFamily]
    have accesses : updateRows ((Selector.family locked.family.id).stampsAccess (timestamp input.now))
        (·.revoked (timestamp input.now) .familyRevoked) db.accessTokens =
        updateRows
          (fun token => token.refreshFamilyID == some locked.family.id && token.revokedAt.isNone &&
            decide (input.now < token.expiresAt))
          (·.revoked (timestamp input.now) .familyRevoked) db.accessTokens := by
      refine List.map_congr_left fun token member => ?_
      have whole := run.wholeExpiries token member
      have sameBound : decide (timestamp input.now < token.expiresAt) =
          decide (input.now < token.expiresAt) := by
        refine decide_eq_decide.mpr ⟨fun before => ?_, (timestamp_le input.now).trans_lt⟩
        rw [← not_le]
        intro after
        exact absurd (whole ▸ timestamp_mono after) (not_le.mpr before)
      simp only [Selector.stampsAccess, Selector.ofAccess, sameBound]
      congr 1
      rw [Bool.and_left_comm, Bool.and_assoc]
    simp only [reusedDb, Db.revokedFamilies, Db.revokedAccesses, families, accesses]

/-! ## Exactness -/

/-- The request of a reuse finds its rows in the state it runs in. -/
theorem Db.Usable.candidate (sound : db.Sound) {input : RefreshInput} {generation : RefreshToken}
    {family : RefreshTokenFamily} (usable : db.Usable input generation family) :
    refreshCandidate input.tokenHash db db = some (generation, family) := by
  rw [← usable.presented]
  exact refreshCandidate_eq sound usable.stored usable.familyStored usable.isMember.symm

/-- What a refresh locked was usable. -/
theorem usable_of_locks {input : RefreshInput} {candidate : RefreshToken}
    {candidateFamily : RefreshTokenFamily} {locked : LockedRefresh}
    (locks : RefreshLocked input candidate candidateFamily db locked) :
    db.Usable input locked.presented locked.family := by
  obtain ⟨row, inClients, isRow, isClient⟩ := locks.client
  refine
    { stored := locks.presented, presented := locks.presentedHash, familyStored := locks.family
      isMember := locks.presentedFamily, unrevoked := locks.unrevoked, unexpired := locks.unexpired
      user := ⟨locked.user, locks.user, locks.familyUser.symm, locks.active⟩
      client := ⟨row, inClients, ?_, isClient ▸ locks.sameClient⟩
      grant := ⟨locked.grant, locks.grant, locks.familyGrant.symm, locks.granted⟩ }
  rw [locks.familyClient, isClient]
  rfl

/-- A refresh that runs alone commits what its transaction does, or changes nothing. -/
theorem refreshAlone_cases (sha : Sha256) (input : RefreshInput) (mint : RefreshMintFunc) (db : Db) :
    (∃ candidate candidateFamily result,
        refreshCandidate input.tokenHash db db = some (candidate, candidateFamily) ∧
        (exchangeRefreshToken sha input mint candidate candidateFamily).run exec db =
          .ok (result, (refreshAlone sha input mint db).after) ∧
        (refreshAlone sha input mint db).outcome = result.map Answer.tokens) ∨
      (∃ error, (refreshAlone sha input mint db).outcome = .error error) ∧
        (refreshAlone sha input mint db).after = db := by
  rcases (Entry.calm_ran sha (.exchangeRefreshToken input mint db db) db).cases with ran | failed
  · obtain ⟨result, refreshed, isOutcome⟩ := withTokens_ok.mp ran
    unfold refreshByHash at refreshed
    split at refreshed
    · cases refreshed
    · rename_i candidate candidateFamily found
      exact .inl ⟨candidate, candidateFamily, result, found, refreshed, isOutcome⟩
  · exact .inr failed

/-- An error that was committed is a reuse. -/
theorem reuses_of_error (sound : db.Sound) {input : RefreshInput} {mint : RefreshMintFunc}
    {candidate : RefreshToken} {candidateFamily : RefreshTokenFamily} {error : StoreError} {after : Db}
    (ran : (exchangeRefreshToken sha input mint candidate candidateFamily).run exec db =
      .ok (.error error, after)) : ∃ family, db.Reuses input family := by
  have valid : validRefreshInput input := by
    simp only [exchangeRefreshToken, Program.run_bind_ok, Program.run_require_ok] at ran
    obtain ⟨_, _, ⟨valid, -⟩, -⟩ := ran
    exact valid
  cases exchangeRefreshToken_ok sound ran with
  | reused locks consumed => exact ⟨_, valid, _, usable_of_locks locks, consumed⟩

/-- A reuse that is in order revokes its family. -/
theorem revocation_of_inOrder (run : Run sha zone entries db) {input : RefreshInput}
    (mint : RefreshMintFunc) {family : RefreshTokenFamily} (reuses : db.Reuses input family)
    (inOrder : db.InOrder (.family family.id) (.family family.id) (timestamp input.now)) :
    (refreshAlone sha input mint db).outcome = .error .tokenInvalidGrant ∧
      FamilyRevocation input family.id db (refreshAlone sha input mint db).after := by
  obtain ⟨valid, generation, usable, consumed⟩ := reuses
  have here : db ∈ states entries db := List.mem_cons_self
  have found := usable.candidate run.sound
  obtain ⟨after, ran⟩ : ∃ after, (refreshByHash sha input mint db db).run exec db =
      .ok (.error .tokenInvalidGrant, after) :=
    run.reuse_commits here here (found ▸ rfl) valid usable consumed inOrder
  have committed : ((Call.exchangeRefreshToken input mint db db).body sha).run exec db =
      .ok (.error .tokenInvalidGrant, after) := withTokens_ok.mpr ⟨_, ran, rfl⟩
  have isAfter : (refreshAlone sha input mint db).outcome = .error .tokenInvalidGrant ∧
      (refreshAlone sha input mint db).after = after := by
    simp only [refreshAlone, Entry.calm, seenByCaller, inTx_calm_ok.mpr committed]
    exact ⟨rfl, trivial⟩
  rw [refreshByHash, found] at ran
  rw [isAfter.2]
  exact ⟨isAfter.1, (revocation_of_reuse run (exchangeRefreshToken_ok run.sound ran)).2⟩

/-- The effects of a refresh are exact if and only if no row that a reuse has to stamp was created
after the request time. -/
theorem refresh_exact_iff (run : Run sha zone entries db) (input : RefreshInput)
    (mint : RefreshMintFunc) :
    RefreshExact sha input mint db ↔ ∀ family, db.Reuses input family →
      db.InOrder (.family family.id) (.family family.id) (timestamp input.now) := by
  have cases := refreshAlone_cases sha input mint db
  constructor
  · intro isExact family reuses
    obtain ⟨failed, first, second, isAfter⟩ := isExact.reuse family reuses
    obtain ⟨-, generation, usable, -⟩ := reuses
    rcases cases with ⟨candidate, candidateFamily, result, found, ran, isOutcome⟩ | ⟨-, unchanged⟩
    · cases found.symm.trans (usable.candidate run.sound)
      cases result with
      | ok response =>
        rw [failed] at isOutcome
        cases isOutcome
      | error error =>
        exact inOrder_of_reuse run.sound (exchangeRefreshToken_ok run.sound ran) usable.familyStored rfl
    · -- Two events were added, so the transaction did commit.
      have longer := congrArg (fun state : Db => state.auditEvents.length) (unchanged.symm.trans isAfter)
      simp at longer
  · intro inOrder
    refine ⟨?_, fun family reuses => revocation_of_inOrder run mint reuses (inOrder family reuses), ?_,
      no_tokens_with_error sha input mint db db⟩
    · intro response answered
      rcases cases with ⟨candidate, candidateFamily, result, -, ran, isOutcome⟩ | ⟨⟨error, failed⟩, -⟩
      · cases result with
        | ok _ => exact rotation_of_ok run.sound ran
        | error error =>
          rw [answered] at isOutcome
          cases isOutcome
      · rw [answered] at failed
        cases failed
    · intro error failed noReuse
      rcases cases with ⟨candidate, candidateFamily, result, -, ran, isOutcome⟩ | ⟨-, unchanged⟩
      · cases result with
        | ok response =>
          rw [failed] at isOutcome
          cases isOutcome
        | error error =>
          obtain ⟨family, reuses⟩ := reuses_of_error run.sound ran
          exact absurd reuses (noReuse family)
      · exact unchanged

namespace Sample

/-- Presented again, the rotated token of the sample run is a reuse of its family. -/
theorem presentation_reuses {now : Time} (early : now < at' 1000) (notZero : now ≠ 0) :
    ∃ family, refreshed.after.Reuses (presentation now) family ∧ family.id = 10 := by
  obtain ⟨generation, family, usable, isFamily⟩ := presentation_usable early
  obtain ⟨-, -, ⟨-, valid, -⟩, consumed, -⟩ := refreshed_evaluated
  refine ⟨family, ⟨?_, generation, usable, consumed generation usable.stored usable.presented⟩, isFamily⟩
  simp only [validRefreshInput, Time.isZero, Bool.and_eq_true, Bool.not_eq_true',
    beq_eq_false_iff_ne] at valid ⊢
  exact ⟨valid.1, notZero⟩

/-- Presented with the time of 60 s, the rotated token revokes its family and nothing else. -/
theorem reuse_exact_sample :
    (∃ family, refreshed.after.Reuses (presentation (at' 60)) family) ∧
      RefreshExact Sample.sha (presentation (at' 60)) remint refreshed.after := by
  obtain ⟨family, reuses, -⟩ : ∃ family, refreshed.after.Reuses (presentation (at' 60)) family ∧ _ :=
    presentation_reuses (by decide) (by decide)
  obtain ⟨-, -, ⟨-, -, families, accesses⟩, -⟩ := refreshed_evaluated
  exact ⟨⟨family, reuses⟩, (refresh_exact_iff refreshed_run _ _).mpr fun _ _ =>
    ⟨fun row member _ => families row member, fun token member _ => accesses token member⟩⟩

/-- Presented with the time of 30 s, after a rotation with the time of 40 s, it changes nothing: the
family of a consumed generation stays unrevoked. -/
theorem reuse_not_exact :
    Run Sample.sha .utc (refreshed :: exchanged :: flow) refreshed.after ∧
      (∃ family, refreshed.after.Reuses (presentation (at' 30)) family ∧ family.id = 10) ∧
      (refreshAlone Sample.sha (presentation (at' 30)) remint refreshed.after).outcome =
        .error (.query "revoke access tokens after refresh reuse"
          ⟨.checkViolation, "access_tokens_lifetime_valid"⟩) ∧
      ¬ RefreshExact Sample.sha (presentation (at' 30)) remint refreshed.after := by
  have reused : ∃ family, refreshed.after.Reuses (presentation (at' 30)) family ∧ family.id = 10 :=
    presentation_reuses (by decide) (by decide)
  have failed : (refreshAlone Sample.sha (presentation (at' 30)) remint refreshed.after).outcome =
      .error (.query "revoke access tokens after refresh reuse"
        ⟨.checkViolation, "access_tokens_lifetime_valid"⟩) := by
    decide +kernel
  refine ⟨refreshed_run, reused, failed, fun isExact => ?_⟩
  obtain ⟨family, reuses, -⟩ := reused
  have rejected := (isExact.reuse family reuses).1
  rw [failed] at rejected
  cases rejected

end Sample

end OneIssuer
