import OneIssuer.Relational.Batches
import OneIssuer.Shelter

/-!
# Cleanup loops

Each cleanup of the store repeats one transaction until a batch is not full. The loops are modelled as
they run alone, so that no row is held by another transaction. For each of them `Cleanup.left` counts the
rows that are due, and `Cleanup.Leaves` is the state without them: every other row is as it was, up to
references to deleted rows, which the foreign keys clear.

`CleanupRefreshArtifacts` deletes generations and then families. A family is due once its generations
are gone, so the count looks at the families after every generation that is due is gone.

**What it does not establish.** A loop beside other transactions: it skips the rows they hold, and
leaves them to the next loop.
-/

set_option autoImplicit false

namespace OneIssuer

open Relational Queries Store

variable {db after : Db} {cutoff : Time}

/-! ## Rows that are due -/

/-- `DeleteExpiredPreAuthSessions` takes the row. -/
def PreAuthSession.due (cutoff : Time) (row : PreAuthSession) : Bool :=
  row.expiresAt ≤ cutoff || row.consumedAt.any (· ≤ cutoff)

/-- `ExpireAuthTransactions` takes the row. -/
def AuthTransaction.elapsed (now : Time) (row : AuthTransaction) : Bool :=
  row.consumedAt.isNone && row.expiresAt ≤ now

/-- `DeleteRetiredAuthTransactions` takes the row. -/
def Db.transactionDue (db : Db) (cutoff : Time) (row : AuthTransaction) : Bool :=
  row.consumedAt.any (· ≤ cutoff) && !(db.preAuthSessions.any (·.authTransactionID == row.id)) &&
    !(db.authorizationCodes.any (·.authTransactionID == row.id))

/-- `DeleteRetiredAuthorizationCodes` takes the row. -/
def AuthorizationCode.due (cutoff : Time) (row : AuthorizationCode) : Bool := row.expiresAt ≤ cutoff

/-- `DeleteRetiredAccessTokens` takes the row. -/
def AccessToken.due (cutoff : Time) (row : AccessToken) : Bool := row.expiresAt ≤ cutoff

/-- `DeleteRetiredRefreshTokens` takes the row. -/
def Db.generationDue (db : Db) (cutoff : Time) (row : RefreshToken) : Bool :=
  ((db.family? row.familyID).any fun family => family.retiresAt ≤ cutoff) &&
    !(db.accessTokens.any (·.sourceRefreshTokenID == some row.id))

/-- `DeleteRetiredRefreshTokenFamilies` takes the row. -/
def Db.familyDue (db : Db) (cutoff : Time) (row : RefreshTokenFamily) : Bool :=
  row.retiresAt ≤ cutoff && !(db.refreshTokens.any (·.familyID == row.id)) &&
    !(db.accessTokens.any (·.refreshFamilyID == some row.id))

/-- `DeleteRetiredLogoutTransactions` takes the row. -/
def LogoutTransaction.due (now cutoff : Time) (row : LogoutTransaction) : Bool :=
  (row.consumedAt.isNone && row.expiresAt ≤ now) || row.consumedAt.any (· ≤ cutoff)

/-- The state without the generations that are due. -/
def Db.sweptGenerations (db : Db) (cutoff : Time) : Db :=
  { db with refreshTokens := db.refreshTokens.filter (!db.generationDue cutoff ·) }

/-! ## The loops -/

/-- The cleanups of the store. -/
inductive Cleanup where
  /-- `CleanupSessions`. -/
  | sessions (preAuthCutoff retiredCutoff : Time)
  /-- `ExpireAuthTransactions`. -/
  | expireTransactions (now : Time)
  /-- `CleanupAuthTransactions`. -/
  | authTransactions (cutoff : Time)
  /-- `CleanupProtocolArtifacts`. -/
  | protocolArtifacts (cutoff : Time)
  /-- `CleanupRefreshArtifacts`. -/
  | refreshArtifacts (cutoff : Time)
  /-- `CleanupLogoutTransactions`. -/
  | logoutTransactions (now terminalCutoff : Time)

/-- One batch that runs alone: how much it took and whether it was full. -/
def batchAlone {α : Type} (body : Tx α) (count : α → Nat) (full : α → Bool) (db : Db) :
    Except StoreError (Nat × Bool × Db) :=
  match inTx body .calm .calm db with
  | (.ok value, after) => .ok (count value, full value, after)
  | (.error error, _) => .error error

/-- The condition under which a loop over one table goes on. -/
def fullBatch (count : Nat) : Bool := !(count < cleanupBatchSize)

/-- The condition under which a loop over two tables goes on. -/
def fullBatches (counts : Nat × Nat) : Bool :=
  !(counts.1 < cleanupBatchSize && counts.2 < cleanupBatchSize)

/-- The batch a cleanup repeats. `CleanupAuthTransactions` runs its statement without a transaction of
its own, which is the same for a single statement. -/
def Cleanup.batch : Cleanup → Db → Except StoreError (Nat × Bool × Db)
  | .sessions preAuthCutoff retiredCutoff =>
    batchAlone (cleanupSessions preAuthCutoff retiredCutoff fun _ => false) (fun n => n.1 + n.2)
      fullBatches
  | .expireTransactions now => batchAlone (expireAuthTransactions now fun _ => false) id fullBatch
  | .authTransactions cutoff => batchAlone (cleanupAuthTransactions cutoff fun _ => false) id fullBatch
  | .protocolArtifacts cutoff =>
    batchAlone (cleanupProtocolArtifacts cutoff fun _ => false) (fun n => n.1 + n.2) fullBatches
  | .refreshArtifacts cutoff =>
    batchAlone (cleanupRefreshArtifacts cutoff fun _ => false) (fun n => n.1 + n.2) fullBatches
  | .logoutTransactions now terminalCutoff =>
    batchAlone (cleanupLogoutTransactions now terminalCutoff fun _ => false) id fullBatch

/-- A cleanup, with fuel for its batches. -/
def Cleanup.run (cleanup : Cleanup) (fuel : Nat) (db : Db) : Option (Drained Db StoreError) :=
  drain cleanup.batch fuel 0 db

theorem batchAlone_ok {α : Type} {body : Tx α} {count : α → Nat} {full : α → Bool} {n : Nat}
    {isFull : Bool} :
    batchAlone body count full db = .ok (n, isFull, after) ↔
      ∃ value, body.run exec db = .ok (value, after) ∧ n = count value ∧ isFull = full value := by
  simp only [← inTx_calm_ok, batchAlone]
  rcases inTx body .calm .calm db with ⟨result, state⟩
  cases result with
  | error error => simp
  | ok value =>
    simp only [Except.ok.injEq, Prod.mk.injEq]
    constructor
    · rintro ⟨rfl, rfl, rfl⟩
      exact ⟨value, ⟨rfl, rfl⟩, rfl, rfl⟩
    · rintro ⟨_, ⟨rfl, rfl⟩, rfl, rfl⟩
      exact ⟨rfl, rfl, rfl⟩

/-! ## What they leave -/

/-- How many rows are due. -/
def Cleanup.left : Cleanup → Db → Nat
  | .sessions preAuthCutoff retiredCutoff, db =>
    db.preAuthSessions.countP (·.due (timestamp preAuthCutoff)) +
      db.loginSessions.countP (·.retired (timestamp retiredCutoff))
  | .expireTransactions now, db => db.authTransactions.countP (·.elapsed (timestamp now))
  | .authTransactions cutoff, db => db.authTransactions.countP (db.transactionDue (timestamp cutoff))
  | .protocolArtifacts cutoff, db =>
    db.authorizationCodes.countP (·.due (timestamp cutoff)) +
      db.accessTokens.countP (·.due (timestamp cutoff))
  | .refreshArtifacts cutoff, db =>
    db.refreshTokens.countP (db.generationDue (timestamp cutoff)) +
      db.refreshTokenFamilies.countP
        ((db.sweptGenerations (timestamp cutoff)).familyDue (timestamp cutoff))
  | .logoutTransactions now terminalCutoff, db =>
    db.logoutTransactions.countP (·.due (timestamp now) (timestamp terminalCutoff))

/-- The state without the sessions that are due; codes, families and access tokens forget them. -/
def Db.sweptSessions (db : Db) (preAuthCutoff retiredCutoff : Time) : Db :=
  let gone := refersTo LoginSession.id (db.loginSessions.filter (·.retired retiredCutoff))
  { db with
    preAuthSessions := db.preAuthSessions.filter (!·.due preAuthCutoff)
    loginSessions := db.loginSessions.filter (!·.retired retiredCutoff)
    authorizationCodes := updateRows (gone ·.originSessionID)
      (fun r => { r with originSessionID := none }) db.authorizationCodes
    refreshTokenFamilies := updateRows (gone ·.originSessionID)
      (fun r => { r with originSessionID := none }) db.refreshTokenFamilies
    accessTokens := updateRows (gone ·.originSessionID)
      (fun r => { r with originSessionID := none }) db.accessTokens }

/-- The state without the codes and access tokens that are due; families and the other access tokens
forget the codes. -/
def Db.sweptArtifacts (db : Db) (cutoff : Time) : Db :=
  let gone := refersTo AuthorizationCode.id (db.authorizationCodes.filter (·.due cutoff))
  { db with
    authorizationCodes := db.authorizationCodes.filter (!·.due cutoff)
    refreshTokenFamilies := updateRows (gone ·.originAuthorizationCodeID)
      (fun r => { r with originAuthorizationCodeID := none }) db.refreshTokenFamilies
    accessTokens := updateRows (gone ·.authorizationCodeID)
      (fun r => { r with authorizationCodeID := none }) (db.accessTokens.filter (!·.due cutoff)) }

/-- The state without the generations that are due and without the families that are due then. -/
def Db.sweptFamilies (db : Db) (cutoff : Time) : Db :=
  { db.sweptGenerations cutoff with
    refreshTokenFamilies :=
      db.refreshTokenFamilies.filter (!(db.sweptGenerations cutoff).familyDue cutoff ·) }

/-- The state a cleanup leaves when no batch fails. -/
def Cleanup.Leaves : Cleanup → Db → Db → Prop
  | .sessions preAuthCutoff retiredCutoff, db, after =>
    after = db.sweptSessions (timestamp preAuthCutoff) (timestamp retiredCutoff)
  | .expireTransactions now, db, after =>
    ∃ events, events.length = (Cleanup.expireTransactions now).left db ∧
      after = { db with
        authTransactions := updateRows (·.elapsed (timestamp now))
          (AuthTransactionChange.apply (.expire (timestamp now))) db.authTransactions
        auditEvents := db.auditEvents ++ events }
  | .authTransactions cutoff, db, after =>
    after = { db with
      authTransactions := db.authTransactions.filter (!db.transactionDue (timestamp cutoff) ·) }
  | .protocolArtifacts cutoff, db, after => after = db.sweptArtifacts (timestamp cutoff)
  | .refreshArtifacts cutoff, db, after => after = db.sweptFamilies (timestamp cutoff)
  | .logoutTransactions now terminalCutoff, db, after =>
    after = { db with
      logoutTransactions :=
        db.logoutTransactions.filter (!·.due (timestamp now) (timestamp terminalCutoff)) }

/-- The primary keys of the tables that are cleaned. -/
structure Db.Keyed (db : Db) : Prop where
  preAuthSessions : (db.preAuthSessions.map (·.id)).Nodup
  loginSessions : (db.loginSessions.map (·.id)).Nodup
  authTransactions : (db.authTransactions.map (·.id)).Nodup
  authorizationCodes : (db.authorizationCodes.map (·.id)).Nodup
  refreshTokenFamilies : (db.refreshTokenFamilies.map (·.id)).Nodup
  refreshTokens : (db.refreshTokens.map (·.id)).Nodup
  accessTokens : (db.accessTokens.map (·.id)).Nodup
  logoutTransactions : (db.logoutTransactions.map (·.id)).Nodup

/-! ## Loops over one table -/

theorem fullBatch_false {count : Nat} (short : fullBatch count = false) : count < cleanupBatchSize := by
  simpa [fullBatch] using short

theorem fullBatch_pos {count : Nat} (full : fullBatch count = true) : 0 < count := by
  simp only [fullBatch, Bool.not_eq_true', decide_eq_false_iff_not, Nat.not_lt] at full
  exact Nat.lt_of_lt_of_le (by decide) full

theorem authTransactions_batch (keyed : db.Keyed) {count : Nat} {full : Bool}
    (ran : (Cleanup.authTransactions cutoff).batch db = .ok (count, full, after)) :
    ∃ taken rest, Takes (·.id) (db.transactionDue (timestamp cutoff)) cleanupBatchSize
        db.authTransactions taken rest ∧
      count = taken.length ∧ full = fullBatch taken.length ∧
      after = { db with authTransactions := rest } := by
  rw [Cleanup.batch] at ran
  obtain ⟨_, executed, rfl, rfl⟩ := batchAlone_ok.mp ran
  rw [cleanupAuthTransactions, Tx.query_ok, exec] at executed
  obtain ⟨_, deleted, same⟩ := map_ok.mp executed
  cases same
  rw [deleteAuthTransactions] at deleted
  exact ⟨_, _, takes_batch keyed.authTransactions, rfl, rfl, (restrict_ok.mp deleted).2⟩

theorem authTransactions_drains (cutoff : Time) :
    Drains (Cleanup.authTransactions cutoff).batch Db.Keyed (Cleanup.authTransactions cutoff).left
      (Cleanup.authTransactions cutoff).Leaves where
  keeps keyed ran := by
    obtain ⟨_, _, takes, -, -, rfl⟩ := authTransactions_batch keyed ran
    exact { keyed with authTransactions := takes.distinct }
  takes keyed ran := by
    obtain ⟨_, _, takes, rfl, -, rfl⟩ := authTransactions_batch keyed ran
    exact takes.counts
  leads keyed ran last leaves := by
    obtain ⟨_, _, takes, -, -, rfl⟩ := authTransactions_batch keyed ran
    have kept := takes.keeps
    simp only [Cleanup.Leaves] at leaves ⊢
    rw [← kept]
    exact leaves
  moves keyed ran := by
    obtain ⟨_, _, -, rfl, full, -⟩ := authTransactions_batch keyed ran
    exact fullBatch_pos full.symm
  ends keyed ran := by
    obtain ⟨_, _, takes, -, short, rfl⟩ := authTransactions_batch keyed ran
    obtain ⟨none, kept, -⟩ := takes.nothing (fullBatch_false short.symm)
    refine ⟨none, ?_⟩
    simp only [Cleanup.Leaves]
    congr 1
    exact kept.symm

theorem logoutTransactions_batch {now : Time} (keyed : db.Keyed) {count : Nat} {full : Bool}
    (ran : (Cleanup.logoutTransactions now cutoff).batch db = .ok (count, full, after)) :
    ∃ taken rest, Takes (·.id) (·.due (timestamp now) (timestamp cutoff)) cleanupBatchSize
        db.logoutTransactions taken rest ∧
      count = taken.length ∧ full = fullBatch taken.length ∧
      after = { db with logoutTransactions := rest } := by
  rw [Cleanup.batch] at ran
  obtain ⟨_, executed, rfl, rfl⟩ := batchAlone_ok.mp ran
  rw [cleanupLogoutTransactions, Tx.query_ok, exec] at executed
  obtain ⟨_, deleted, same⟩ := map_ok.mp executed
  cases deleted
  cases same
  exact ⟨_, _, takes_batch keyed.logoutTransactions, rfl, rfl, rfl⟩

theorem logoutTransactions_drains (now cutoff : Time) :
    Drains (Cleanup.logoutTransactions now cutoff).batch Db.Keyed
      (Cleanup.logoutTransactions now cutoff).left (Cleanup.logoutTransactions now cutoff).Leaves where
  keeps keyed ran := by
    obtain ⟨_, _, takes, -, -, rfl⟩ := logoutTransactions_batch keyed ran
    exact { keyed with logoutTransactions := takes.distinct }
  takes keyed ran := by
    obtain ⟨_, _, takes, rfl, -, rfl⟩ := logoutTransactions_batch keyed ran
    exact takes.counts
  leads keyed ran last leaves := by
    obtain ⟨_, _, takes, -, -, rfl⟩ := logoutTransactions_batch keyed ran
    have kept := takes.keeps
    simp only [Cleanup.Leaves] at leaves ⊢
    rw [← kept]
    exact leaves
  moves keyed ran := by
    obtain ⟨_, _, -, rfl, full, -⟩ := logoutTransactions_batch keyed ran
    exact fullBatch_pos full.symm
  ends keyed ran := by
    obtain ⟨_, _, takes, -, short, rfl⟩ := logoutTransactions_batch keyed ran
    obtain ⟨none, kept, -⟩ := takes.nothing (fullBatch_false short.symm)
    refine ⟨none, ?_⟩
    simp only [Cleanup.Leaves]
    congr 1
    exact kept.symm

/-! ## Expired transactions -/

/-- A loop that records one event for each item. -/
theorem insertEach_appended {build : Uuid → Uuid → Audit.Event} : ∀ {ids : List Uuid} {db after : Db},
    (Program.each (fun target => insertNewAudit (build target)) ids).run exec db = .ok ((), after) →
    ∃ events, events.length = ids.length ∧ Appended events db after
  | [], db, after, ran => by
    cases ran
    exact ⟨[], rfl, by simp [Appended]⟩
  | target :: rest, db, after, ran => by
    obtain ⟨between, first, others⟩ := (Program.run_each_ok exec).mp ran
    obtain ⟨-, -, rfl⟩ := insertNewAudit_ok.mp first
    obtain ⟨events, isLength, appended⟩ := insertEach_appended others
    refine ⟨(build target (freshEventID db)).row :: events, congrArg (· + 1) isLength, ?_⟩
    rw [appended]
    simp [Appended, Db.logged]

/-- The rows that an expiry ends are the ones its batch took. -/
theorem length_expired {now : Time} {rows taken : List AuthTransaction}
    (takes : Takes (·.id) (·.elapsed now) cleanupBatchSize rows taken (untaken (·.id) taken rows)) :
    (rows.filter fun row => row.elapsed now && taken.any (·.id == row.id)).length = taken.length := by
  have counts := takes.counts
  have split : rows.countP (·.elapsed now) =
      (rows.filter fun row => row.elapsed now && taken.any (·.id == row.id)).length +
        (untaken (·.id) taken rows).countP (·.elapsed now) := by
    rw [untaken, List.countP_filter, ← List.countP_eq_length_filter]
    rw [List.countP_eq_countP_filter_add rows _ fun row => taken.any (·.id == row.id)]
    rw [List.countP_filter, List.countP_filter]
  omega

theorem expireTransactions_batch {now : Time} (keyed : db.Keyed) {count : Nat} {full : Bool}
    (ran : (Cleanup.expireTransactions now).batch db = .ok (count, full, after)) :
    ∃ taken events, Takes (·.id) (·.elapsed (timestamp now)) cleanupBatchSize db.authTransactions taken
        (untaken (·.id) taken db.authTransactions) ∧
      count = taken.length ∧ full = fullBatch taken.length ∧ events.length = taken.length ∧
      after = { db with
        authTransactions :=
          updateRows (fun row => row.elapsed (timestamp now) && taken.any (·.id == row.id))
            (AuthTransactionChange.apply (.expire (timestamp now))) db.authTransactions
        auditEvents := db.auditEvents ++ events } := by
  rw [Cleanup.batch] at ran
  obtain ⟨_, executed, rfl, rfl⟩ := batchAlone_ok.mp ran
  simp only [expireAuthTransactions, Program.run_bind_ok, Tx.query_ok, Program.run_pure_ok,
    Prod.mk.injEq] at executed
  obtain ⟨ids, between, expired, _, _, reported, rfl, rfl⟩ := executed
  rw [exec] at expired
  obtain ⟨answered, updated, same⟩ := map_ok.mp expired
  obtain ⟨rows, changed⟩ := answered
  obtain ⟨table, ended, rfl⟩ := store_ok.mp updated
  obtain ⟨rfl, rfl⟩ := Prod.mk.inj same
  obtain ⟨-, rfl, rfl⟩ := update_ok.mp ended
  obtain ⟨events, isLength, appended⟩ := insertEach_appended reported
  have takes : Takes (·.id) (·.elapsed (timestamp now)) cleanupBatchSize db.authTransactions
      (expiredAuthTransactions db cleanupBatchSize (fun _ => false) (timestamp now))
      (untaken (·.id) (expiredAuthTransactions db cleanupBatchSize (fun _ => false) (timestamp now))
        db.authTransactions) := takes_batch keyed.authTransactions
  have isCount := length_expired takes
  rw [List.length_map, List.length_map] at isLength ⊢
  refine ⟨_, events, takes, isCount, congrArg fullBatch isCount, isLength.trans isCount, appended⟩

/-- A transaction that expired is not elapsed any more. -/
theorem elapsed_expire {now : Time} (row : AuthTransaction) :
    (AuthTransactionChange.apply (.expire now) row).elapsed now = false := rfl

/-- What is left after a batch of expiries is what the batch did not take. -/
theorem countP_expired {now : Time} (taken rows : List AuthTransaction) :
    (updateRows (fun row => row.elapsed now && taken.any (·.id == row.id))
      (AuthTransactionChange.apply (.expire now)) rows).countP (·.elapsed now) =
      (untaken (·.id) taken rows).countP (·.elapsed now) := by
  rw [updateRows, List.countP_map, untaken, List.countP_filter]
  refine List.countP_congr fun row _ => ?_
  simp only [Function.comp_apply]
  cases isElapsed : row.elapsed now with
  | false => simp [isElapsed]
  | true =>
    cases isTaken : taken.any (·.id == row.id) with
    | false => simp [isElapsed]
    | true => simp [elapsed_expire]

/-- A batch of expiries is a part of all of them. -/
theorem updateRows_expired {now : Time} (taken rows : List AuthTransaction) :
    updateRows (·.elapsed now) (AuthTransactionChange.apply (.expire now))
        (updateRows (fun row => row.elapsed now && taken.any (·.id == row.id))
          (AuthTransactionChange.apply (.expire now)) rows) =
      updateRows (·.elapsed now) (AuthTransactionChange.apply (.expire now)) rows := by
  rw [updateRows_updateRows fun row _ _ => elapsed_expire row]
  refine List.map_congr_left fun row _ => ?_
  cases isElapsed : row.elapsed now with
  | false => simp [isElapsed]
  | true => simp [isElapsed]

theorem expireTransactions_drains (now : Time) :
    Drains (Cleanup.expireTransactions now).batch Db.Keyed (Cleanup.expireTransactions now).left
      (Cleanup.expireTransactions now).Leaves where
  keeps keyed ran := by
    obtain ⟨_, _, -, -, -, -, rfl⟩ := expireTransactions_batch keyed ran
    exact { keyed with authTransactions := nodup_updateRows (fun _ => rfl) keyed.authTransactions }
  takes keyed ran := by
    obtain ⟨taken, _, takes, rfl, -, -, rfl⟩ := expireTransactions_batch keyed ran
    simp only [Cleanup.left]
    rw [countP_expired]
    exact takes.counts
  leads keyed ran last leaves := by
    obtain ⟨taken, first, takes, -, -, isFirst, rfl⟩ := expireTransactions_batch keyed ran
    obtain ⟨second, isSecond, rfl⟩ := leaves
    simp only [Cleanup.Leaves, Cleanup.left] at isSecond ⊢
    rw [countP_expired] at isSecond
    refine ⟨first ++ second, ?_, ?_⟩
    · rw [List.length_append, isFirst, isSecond]
      exact takes.counts.symm
    · rw [updateRows_expired, List.append_assoc]
  moves keyed ran := by
    obtain ⟨_, _, -, rfl, full, -⟩ := expireTransactions_batch keyed ran
    exact fullBatch_pos full.symm
  ends {s count t} keyed ran := by
    have nothing : (Cleanup.expireTransactions now).left t = 0 := by
      obtain ⟨_, _, takes, -, short, -, rfl⟩ := expireTransactions_batch keyed ran
      simp only [Cleanup.left]
      rw [countP_expired]
      exact (takes.nothing (fullBatch_false short.symm)).1
    refine ⟨nothing, [], nothing.symm, ?_⟩
    have none : ∀ row ∈ t.authTransactions, row.elapsed (timestamp now) = false :=
      fun row member => by simpa using List.countP_eq_zero.mp nothing row member
    rw [updateRows_none none, List.append_nil]

/-! ## Sessions -/

theorem fullBatches_false {counts : Nat × Nat} (short : fullBatches counts = false) :
    counts.1 < cleanupBatchSize ∧ counts.2 < cleanupBatchSize := by
  simpa [fullBatches] using short

theorem fullBatches_pos {counts : Nat × Nat} (full : fullBatches counts = true) :
    0 < counts.1 + counts.2 := by
  have large : 0 < cleanupBatchSize := by decide
  simp only [fullBatches, Bool.not_eq_true', Bool.and_eq_false_iff, decide_eq_false_iff_not,
    Nat.not_lt] at full
  omega

/-- The state after a batch of sessions. -/
def Db.sessionsTaken (db : Db) (preAuthRest : List PreAuthSession) (taken rest : List LoginSession) :
    Db :=
  { db with
    preAuthSessions := preAuthRest
    loginSessions := rest
    authorizationCodes := updateRows (refersTo LoginSession.id taken ·.originSessionID)
      (fun r => { r with originSessionID := none }) db.authorizationCodes
    refreshTokenFamilies := updateRows (refersTo LoginSession.id taken ·.originSessionID)
      (fun r => { r with originSessionID := none }) db.refreshTokenFamilies
    accessTokens := updateRows (refersTo LoginSession.id taken ·.originSessionID)
      (fun r => { r with originSessionID := none }) db.accessTokens }

section Swept

variable {preAuthCutoff : Time} {preAuthTaken preAuthRest : List PreAuthSession}
  {taken rest : List LoginSession}

/-- What is due after a batch and what the batch took make up what was due. -/
theorem sweptSessions_taken
    (preAuth : Takes (·.id) (·.due preAuthCutoff) cleanupBatchSize db.preAuthSessions preAuthTaken
      preAuthRest)
    (login : Takes LoginSession.id (·.retired cutoff) cleanupBatchSize db.loginSessions taken rest) :
    (db.sessionsTaken preAuthRest taken rest).sweptSessions preAuthCutoff cutoff =
      db.sweptSessions preAuthCutoff cutoff := by
  have codes := login.clears AuthorizationCode.originSessionID
    (fun r => { r with originSessionID := none }) (fun _ => rfl) db.authorizationCodes
  have families := login.clears RefreshTokenFamily.originSessionID
    (fun r => { r with originSessionID := none }) (fun _ => rfl) db.refreshTokenFamilies
  have accesses := login.clears AccessToken.originSessionID
    (fun r => { r with originSessionID := none }) (fun _ => rfl) db.accessTokens
  simp only [Db.sweptSessions, Db.sessionsTaken, refersTo, preAuth.keeps, login.keeps, codes, families,
    accesses]

/-- A state in which nothing is due stays. -/
theorem sweptSessions_nothing
    (noPreAuth : db.preAuthSessions.filter (!·.due preAuthCutoff) = db.preAuthSessions)
    (kept : db.loginSessions.filter (!·.retired cutoff) = db.loginSessions)
    (nobody : db.loginSessions.filter (·.retired cutoff) = []) :
    db.sweptSessions preAuthCutoff cutoff = db := by
  have free (reference : Option Uuid) : refersTo LoginSession.id [] reference = false := by
    cases reference <;> rfl
  simp only [Db.sweptSessions, noPreAuth, kept, nobody]
  rw [updateRows_none fun _ _ => free _, updateRows_none fun _ _ => free _,
    updateRows_none fun _ _ => free _]

end Swept

theorem sessions_batch {preAuthCutoff : Time} (keyed : db.Keyed) {count : Nat} {full : Bool}
    (ran : (Cleanup.sessions preAuthCutoff cutoff).batch db = .ok (count, full, after)) :
    ∃ preAuthTaken preAuthRest taken rest,
      Takes (·.id) (·.due (timestamp preAuthCutoff)) cleanupBatchSize db.preAuthSessions preAuthTaken
        preAuthRest ∧
      Takes LoginSession.id (·.retired (timestamp cutoff)) cleanupBatchSize db.loginSessions taken rest ∧
      count = preAuthTaken.length + taken.length ∧
      full = fullBatches (preAuthTaken.length, taken.length) ∧
      after = db.sessionsTaken preAuthRest taken rest := by
  rw [Cleanup.batch] at ran
  obtain ⟨_, executed, rfl, rfl⟩ := batchAlone_ok.mp ran
  simp only [cleanupSessions, Program.run_bind_ok, Tx.query_ok, Program.run_pure_ok,
    Prod.mk.injEq] at executed
  obtain ⟨_, _, preAuthDeleted, _, _, deleted, rfl, rfl⟩ := executed
  rw [exec] at preAuthDeleted
  obtain ⟨_, isOk, same⟩ := map_ok.mp preAuthDeleted
  cases isOk
  cases same
  rw [exec] at deleted
  obtain ⟨stored, removed, same⟩ := map_ok.mp deleted
  cases same
  rw [deleteLoginSessions_ok removed]
  exact ⟨_, _, _, _, takes_batch keyed.preAuthSessions, takes_batch keyed.loginSessions, rfl, rfl, rfl⟩

theorem sessions_drains (preAuthCutoff retiredCutoff : Time) :
    Drains (Cleanup.sessions preAuthCutoff retiredCutoff).batch Db.Keyed
      (Cleanup.sessions preAuthCutoff retiredCutoff).left
      (Cleanup.sessions preAuthCutoff retiredCutoff).Leaves where
  keeps keyed ran := by
    obtain ⟨_, _, _, _, preAuth, login, -, -, rfl⟩ := sessions_batch keyed ran
    exact
      { keyed with
        preAuthSessions := preAuth.distinct
        loginSessions := login.distinct
        authorizationCodes := nodup_updateRows (fun _ => rfl) keyed.authorizationCodes
        refreshTokenFamilies := nodup_updateRows (fun _ => rfl) keyed.refreshTokenFamilies
        accessTokens := nodup_updateRows (fun _ => rfl) keyed.accessTokens }
  takes keyed ran := by
    obtain ⟨_, _, _, _, preAuth, login, rfl, -, rfl⟩ := sessions_batch keyed ran
    have preAuthCounts := preAuth.counts
    have counts := login.counts
    simp only [Cleanup.left, Db.sessionsTaken]
    omega
  leads keyed ran last leaves := by
    obtain ⟨_, _, _, _, preAuth, login, -, -, rfl⟩ := sessions_batch keyed ran
    exact Eq.trans leaves (sweptSessions_taken preAuth login)
  moves keyed ran := by
    obtain ⟨_, _, _, _, -, -, rfl, full, -⟩ := sessions_batch keyed ran
    exact fullBatches_pos full.symm
  ends keyed ran := by
    obtain ⟨_, _, _, _, preAuth, login, -, short, rfl⟩ := sessions_batch keyed ran
    obtain ⟨preAuthShort, loginShort⟩ := fullBatches_false short.symm
    obtain ⟨noPreAuth, keptPreAuth, -⟩ := preAuth.nothing preAuthShort
    obtain ⟨none, kept, nobody⟩ := login.nothing loginShort
    refine ⟨?_, (sweptSessions_nothing keptPreAuth kept nobody).symm⟩
    simp only [Cleanup.left, Db.sessionsTaken, noPreAuth, none]

/-! ## Codes and access tokens -/

/-- The state after a batch of codes and access tokens; `accesses` are the access tokens that are
left. -/
def Db.artifactsTaken (db : Db) (taken rest : List AuthorizationCode) (accesses : List AccessToken) : Db :=
  { db with
    authorizationCodes := rest
    refreshTokenFamilies := updateRows (refersTo AuthorizationCode.id taken ·.originAuthorizationCodeID)
      (fun r => { r with originAuthorizationCodeID := none }) db.refreshTokenFamilies
    accessTokens := accesses }

/-- The access tokens after the codes they name were deleted. -/
def Db.accessesDetached (db : Db) (taken : List AuthorizationCode) : List AccessToken :=
  updateRows (refersTo AuthorizationCode.id taken ·.authorizationCodeID)
    (fun r => { r with authorizationCodeID := none }) db.accessTokens

theorem protocolArtifacts_batch (keyed : db.Keyed) {count : Nat} {full : Bool}
    (ran : (Cleanup.protocolArtifacts cutoff).batch db = .ok (count, full, after)) :
    ∃ taken rest accessTaken accessRest,
      Takes AuthorizationCode.id (·.due (timestamp cutoff)) cleanupBatchSize db.authorizationCodes taken
        rest ∧
      Takes AccessToken.id (·.due (timestamp cutoff)) cleanupBatchSize (db.accessesDetached taken)
        accessTaken accessRest ∧
      count = taken.length + accessTaken.length ∧
      full = fullBatches (taken.length, accessTaken.length) ∧
      after = db.artifactsTaken taken rest accessRest := by
  rw [Cleanup.batch] at ran
  obtain ⟨_, executed, rfl, rfl⟩ := batchAlone_ok.mp ran
  simp only [cleanupProtocolArtifacts, Program.run_bind_ok, Tx.query_ok, Program.run_pure_ok,
    Prod.mk.injEq] at executed
  obtain ⟨_, _, codesDeleted, _, _, accessesDeleted, rfl, rfl⟩ := executed
  rw [exec] at codesDeleted
  obtain ⟨_, removed, same⟩ := map_ok.mp codesDeleted
  cases same
  rw [deleteAuthorizationCodes] at removed
  obtain rfl := unlinkAccessTokens_ok removed
  rw [exec] at accessesDeleted
  obtain ⟨_, isOk, same⟩ := map_ok.mp accessesDeleted
  cases isOk
  cases same
  have distinct (taken : List AuthorizationCode) : ((db.accessesDetached taken).map (·.id)).Nodup :=
    nodup_updateRows (fun _ => rfl) keyed.accessTokens
  exact ⟨_, _, _, _, takes_batch keyed.authorizationCodes, takes_batch (distinct _), rfl, rfl, rfl⟩

section Swept

variable {taken rest : List AuthorizationCode} {accessTaken accessRest : List AccessToken}

/-- Whether an access token is due does not depend on its code. -/
theorem countP_detached (db : Db) (taken : List AuthorizationCode) :
    (db.accessesDetached taken).countP (·.due cutoff) = db.accessTokens.countP (·.due cutoff) :=
  countP_updateRows fun _ => rfl

theorem sweptArtifacts_taken
    (codes : Takes AuthorizationCode.id (·.due cutoff) cleanupBatchSize db.authorizationCodes taken rest)
    (accesses : Takes AccessToken.id (·.due cutoff) cleanupBatchSize (db.accessesDetached taken)
      accessTaken accessRest) :
    (db.artifactsTaken taken rest accessRest).sweptArtifacts cutoff = db.sweptArtifacts cutoff := by
  have families := codes.clears RefreshTokenFamily.originAuthorizationCodeID
    (fun r => { r with originAuthorizationCodeID := none }) (fun _ => rfl) db.refreshTokenFamilies
  have detached := codes.clears AccessToken.authorizationCodeID
    (fun r => { r with authorizationCodeID := none }) (fun _ => rfl)
    (db.accessTokens.filter (!·.due cutoff))
  have kept : accessRest.filter (!·.due cutoff) =
      updateRows (fun row => row.authorizationCodeID.any fun wanted => taken.any (·.id == wanted))
        (fun r => { r with authorizationCodeID := none }) (db.accessTokens.filter (!·.due cutoff)) := by
    rw [accesses.keeps, Db.accessesDetached]
    exact filter_updateRows_comm fun _ => rfl
  simp only [Db.sweptArtifacts, Db.artifactsTaken, refersTo, codes.keeps, families, kept, detached]

theorem sweptArtifacts_nothing
    (keptCodes : db.authorizationCodes.filter (!·.due cutoff) = db.authorizationCodes)
    (noCode : db.authorizationCodes.filter (·.due cutoff) = [])
    (kept : db.accessTokens.filter (!·.due cutoff) = db.accessTokens) :
    db.sweptArtifacts cutoff = db := by
  have free (reference : Option Uuid) : refersTo AuthorizationCode.id [] reference = false := by
    cases reference <;> rfl
  simp only [Db.sweptArtifacts, keptCodes, noCode, kept]
  rw [updateRows_none fun _ _ => free _, updateRows_none fun _ _ => free _]

end Swept

theorem protocolArtifacts_drains (cutoff : Time) :
    Drains (Cleanup.protocolArtifacts cutoff).batch Db.Keyed (Cleanup.protocolArtifacts cutoff).left
      (Cleanup.protocolArtifacts cutoff).Leaves where
  keeps keyed ran := by
    obtain ⟨_, _, _, _, codes, accesses, -, -, rfl⟩ := protocolArtifacts_batch keyed ran
    exact
      { keyed with
        authorizationCodes := codes.distinct
        refreshTokenFamilies := nodup_updateRows (fun _ => rfl) keyed.refreshTokenFamilies
        accessTokens := accesses.distinct }
  takes keyed ran := by
    obtain ⟨_, _, _, _, codes, accesses, rfl, -, rfl⟩ := protocolArtifacts_batch keyed ran
    have codeCounts := codes.counts
    have counts := accesses.counts
    rw [countP_detached] at counts
    simp only [Cleanup.left, Db.artifactsTaken]
    omega
  leads keyed ran last leaves := by
    obtain ⟨_, _, _, _, codes, accesses, -, -, rfl⟩ := protocolArtifacts_batch keyed ran
    exact Eq.trans leaves (sweptArtifacts_taken codes accesses)
  moves keyed ran := by
    obtain ⟨_, _, _, _, -, -, rfl, full, -⟩ := protocolArtifacts_batch keyed ran
    exact fullBatches_pos full.symm
  ends keyed ran := by
    obtain ⟨_, _, _, _, codes, accesses, -, short, rfl⟩ := protocolArtifacts_batch keyed ran
    obtain ⟨codesShort, accessesShort⟩ := fullBatches_false short.symm
    obtain ⟨none, kept, noCode⟩ := codes.nothing codesShort
    obtain ⟨noAccess, keptAccesses, -⟩ := accesses.nothing accessesShort
    refine ⟨?_, (sweptArtifacts_nothing kept noCode keptAccesses).symm⟩
    simp only [Cleanup.left, Db.artifactsTaken, none, noAccess]

/-! ## Generations and families -/

/-- The state after a batch of generations and families. -/
def Db.familiesTaken (db : Db) (rest : List RefreshToken) (families : List RefreshTokenFamily) : Db :=
  { db with
    refreshTokens := rest
    refreshTokenFamilies := untaken RefreshTokenFamily.id families db.refreshTokenFamilies }

theorem refreshArtifacts_batch (keyed : db.Keyed) {count : Nat} {full : Bool}
    (ran : (Cleanup.refreshArtifacts cutoff).batch db = .ok (count, full, after)) :
    ∃ taken rest families,
      Takes RefreshToken.id (db.generationDue (timestamp cutoff)) cleanupBatchSize db.refreshTokens taken
        rest ∧
      Takes RefreshTokenFamily.id ({ db with refreshTokens := rest }.familyDue (timestamp cutoff))
        cleanupBatchSize db.refreshTokenFamilies families
        (untaken RefreshTokenFamily.id families db.refreshTokenFamilies) ∧
      (∀ token ∈ rest, ∀ family ∈ families, family.id ≠ token.familyID) ∧
      count = taken.length + families.length ∧ full = fullBatches (taken.length, families.length) ∧
      after = db.familiesTaken rest families := by
  rw [Cleanup.batch] at ran
  obtain ⟨_, executed, rfl, rfl⟩ := batchAlone_ok.mp ran
  simp only [cleanupRefreshArtifacts, Program.run_bind_ok, Tx.query_ok, Program.run_pure_ok,
    Prod.mk.injEq] at executed
  obtain ⟨_, _, generationsDeleted, _, _, familiesDeleted, rfl, rfl⟩ := executed
  rw [exec] at generationsDeleted
  obtain ⟨_, removed, same⟩ := map_ok.mp generationsDeleted
  cases same
  rw [deleteRefreshTokens] at removed
  obtain ⟨-, rfl⟩ := restrict_ok.mp removed
  rw [exec] at familiesDeleted
  obtain ⟨_, dropped, same⟩ := map_ok.mp familiesDeleted
  cases same
  rw [deleteRefreshTokenFamilies] at dropped
  obtain ⟨-, rfl⟩ := restrict_ok.mp dropped
  refine ⟨_, _, _, takes_batch keyed.refreshTokens, takes_batch keyed.refreshTokenFamilies, ?_, rfl, rfl,
    rfl⟩
  intro token left family inBatch isFamily
  have isDue : Db.familyDue _ (timestamp cutoff) family = true := (mem_batch inBatch).2
  simp only [Db.familyDue, Bool.and_eq_true, Bool.not_eq_true', List.any_eq_false] at isDue
  exact isDue.1.2 token left (beq_iff_eq.mpr isFamily.symm)

section Swept

variable {taken rest : List RefreshToken} {families : List RefreshTokenFamily}

/-- A generation that is left keeps its family, so it is due after the batch if it was due before. -/
theorem generationDue_taken (apart : ∀ token ∈ rest, ∀ family ∈ families, family.id ≠ token.familyID)
    {token : RefreshToken} (left : token ∈ rest) :
    (db.familiesTaken rest families).generationDue cutoff token = db.generationDue cutoff token := by
  have sameFamily : (db.familiesTaken rest families).family? token.familyID = db.family? token.familyID :=
    find?_untaken (apart token left)
  rw [Db.generationDue, sameFamily]
  rfl

theorem countP_generationDue_taken (db : Db) (cutoff : Time)
    (apart : ∀ token ∈ rest, ∀ family ∈ families, family.id ≠ token.familyID) :
    rest.countP ((db.familiesTaken rest families).generationDue cutoff) =
      rest.countP (db.generationDue cutoff) :=
  List.countP_congr fun _ left => by rw [generationDue_taken apart left]

theorem sweptGenerations_taken
    (generations : Takes RefreshToken.id (db.generationDue cutoff) cleanupBatchSize db.refreshTokens taken
      rest)
    (apart : ∀ token ∈ rest, ∀ family ∈ families, family.id ≠ token.familyID) :
    ((db.familiesTaken rest families).sweptGenerations cutoff).refreshTokens =
      (db.sweptGenerations cutoff).refreshTokens := by
  simp only [Db.sweptGenerations]
  rw [← generations.keeps]
  exact List.filter_congr fun token left => by rw [generationDue_taken apart left]

/-- Whether a family is due depends on the generations that are left, not on the other families. -/
theorem familyDue_taken
    (generations : Takes RefreshToken.id (db.generationDue cutoff) cleanupBatchSize db.refreshTokens taken
      rest)
    (apart : ∀ token ∈ rest, ∀ family ∈ families, family.id ≠ token.familyID) :
    ((db.familiesTaken rest families).sweptGenerations cutoff).familyDue cutoff =
      (db.sweptGenerations cutoff).familyDue cutoff := by
  funext family
  rw [Db.familyDue, Db.familyDue, sweptGenerations_taken generations apart]
  rfl

/-- A family that is due while some generations are still to be deleted is due after that. -/
theorem familyDue_swept
    (generations : Takes RefreshToken.id (db.generationDue cutoff) cleanupBatchSize db.refreshTokens taken
      rest)
    (family : RefreshTokenFamily) (isDue : { db with refreshTokens := rest }.familyDue cutoff family) :
    (db.sweptGenerations cutoff).familyDue cutoff family := by
  simp only [Db.familyDue, Bool.and_eq_true, Bool.not_eq_true', List.any_eq_false] at isDue ⊢
  refine ⟨⟨isDue.1.1, fun token left => ?_⟩, isDue.2⟩
  simp only [Db.sweptGenerations] at left
  rw [← generations.keeps] at left
  exact isDue.1.2 token (List.mem_filter.mp left).1

theorem refreshArtifacts_left_taken
    (generations : Takes RefreshToken.id (db.generationDue (timestamp cutoff)) cleanupBatchSize
      db.refreshTokens taken rest)
    (apart : ∀ token ∈ rest, ∀ family ∈ families, family.id ≠ token.familyID) :
    (Cleanup.refreshArtifacts cutoff).left (db.familiesTaken rest families) =
      rest.countP (db.generationDue (timestamp cutoff)) +
        (untaken RefreshTokenFamily.id families db.refreshTokenFamilies).countP
          ((db.sweptGenerations (timestamp cutoff)).familyDue (timestamp cutoff)) := by
  rw [Cleanup.left, familyDue_taken generations apart, ← countP_generationDue_taken db _ apart]
  rfl

end Swept

theorem refreshArtifacts_drains (cutoff : Time) :
    Drains (Cleanup.refreshArtifacts cutoff).batch Db.Keyed (Cleanup.refreshArtifacts cutoff).left
      (Cleanup.refreshArtifacts cutoff).Leaves where
  keeps keyed ran := by
    obtain ⟨_, _, _, generations, families, -, -, -, rfl⟩ := refreshArtifacts_batch keyed ran
    exact
      { keyed with
        refreshTokens := generations.distinct
        refreshTokenFamilies := families.distinct }
  takes keyed ran := by
    obtain ⟨_, _, _, generations, families, apart, rfl, -, rfl⟩ := refreshArtifacts_batch keyed ran
    have generationCounts := generations.counts
    have familyCounts := families.counts_wider (familyDue_swept generations)
    rw [refreshArtifacts_left_taken generations apart, Cleanup.left]
    omega
  leads keyed ran last leaves := by
    obtain ⟨_, _, _, generations, families, apart, -, -, rfl⟩ := refreshArtifacts_batch keyed ran
    have kept := families.keeps_wider (familyDue_swept generations)
    have sameTokens := sweptGenerations_taken generations apart
    have sameFamilies := familyDue_taken generations apart
    simp only [Cleanup.Leaves, Db.sweptFamilies] at leaves ⊢
    rw [leaves, sameFamilies]
    simp only [Db.sweptGenerations, Db.familiesTaken] at sameTokens ⊢
    rw [sameTokens]
    congr 1
  moves keyed ran := by
    obtain ⟨_, _, _, -, -, -, rfl, full, -⟩ := refreshArtifacts_batch keyed ran
    exact fullBatches_pos full.symm
  ends keyed ran := by
    obtain ⟨_, _, _, generations, families, apart, -, short, rfl⟩ := refreshArtifacts_batch keyed ran
    obtain ⟨generationsShort, familiesShort⟩ := fullBatches_false short.symm
    obtain ⟨noGeneration, -, -⟩ := generations.nothing generationsShort
    -- All generations that are due are gone, so the families were looked at in the state without them.
    obtain rfl := generations.short generationsShort
    obtain ⟨noFamily, keptFamilies, -⟩ := families.nothing familiesShort
    have sameTokens := sweptGenerations_taken generations apart
    have sameFamilies := familyDue_taken generations apart
    constructor
    · rw [refreshArtifacts_left_taken generations apart, noGeneration, Nat.zero_add]
      exact noFamily
    · simp only [Cleanup.Leaves, Db.sweptFamilies]
      rw [sameFamilies]
      simp only [Db.sweptGenerations, Db.familiesTaken] at sameTokens ⊢
      rw [sameTokens]
      congr 1
      exact keptFamilies.symm

/-! ## Every loop -/

/-- Each loop moves the rows that are due into its count, batch by batch. -/
theorem Cleanup.drains : ∀ cleanup : Cleanup,
    Drains cleanup.batch Db.Keyed cleanup.left cleanup.Leaves
  | .sessions preAuthCutoff retiredCutoff => sessions_drains preAuthCutoff retiredCutoff
  | .expireTransactions now => expireTransactions_drains now
  | .authTransactions cutoff => authTransactions_drains cutoff
  | .protocolArtifacts cutoff => protocolArtifacts_drains cutoff
  | .refreshArtifacts cutoff => refreshArtifacts_drains cutoff
  | .logoutTransactions now terminalCutoff => logoutTransactions_drains now terminalCutoff

/-- `Service.Cleanup` of `authflow`: the transactions that ran out are expired, then the ones that
ended a day ago are deleted. An error of the second loop leaves the count of the first. -/
def cleanupTransactions (now : Time) (expireFuel deleteFuel : Nat) (db : Db) :
    Option (Drained Db StoreError) :=
  match (Cleanup.expireTransactions now).run expireFuel db with
  | none => none
  | some expired =>
    match expired.error with
    | some error => some ⟨expired.total, some error, expired.state⟩
    | none =>
      match (Cleanup.authTransactions (now - hours 24)).run deleteFuel expired.state with
      | none => none
      | some deleted =>
        match deleted.error with
        | some error => some ⟨expired.total, some error, deleted.state⟩
        | none => some ⟨expired.total + deleted.total, none, deleted.state⟩

/-- Deleting transactions leaves none that ran out. -/
theorem elapsed_of_deleted {now : Time} (none : (Cleanup.expireTransactions now).left db = 0)
    (leaves : (Cleanup.authTransactions cutoff).Leaves db after) :
    (Cleanup.expireTransactions now).left after = 0 := by
  obtain rfl : after = _ := leaves
  simp only [Cleanup.left, List.countP_eq_zero] at none ⊢
  exact fun row member => none row (List.mem_filter.mp member).1

theorem cleanupTransactions_ends (keyed : db.Keyed) (now : Time) :
    ∃ expireFuel deleteFuel outcome,
      cleanupTransactions now expireFuel deleteFuel db = some outcome ∧
      (outcome.error = none → ∃ expired,
        (Cleanup.expireTransactions now).Leaves db expired ∧
        (Cleanup.authTransactions (now - hours 24)).Leaves expired outcome.state ∧
        outcome.total = (Cleanup.expireTransactions now).left db +
          (Cleanup.authTransactions (now - hours 24)).left expired ∧
        (Cleanup.expireTransactions now).left outcome.state = 0 ∧
        (Cleanup.authTransactions (now - hours 24)).left outcome.state = 0) := by
  obtain ⟨expired, expiredRan, keyedThen, expiredSpec⟩ :=
    drain_ends (Cleanup.expireTransactions now).drains keyed
  obtain ⟨deleted, deletedRan, -, deletedSpec⟩ :=
    drain_ends (Cleanup.authTransactions (now - hours 24)).drains keyedThen
  refine ⟨(Cleanup.expireTransactions now).left db + 1,
    (Cleanup.authTransactions (now - hours 24)).left expired.state + 1, ?_⟩
  rw [cleanupTransactions, Cleanup.run, expiredRan]
  simp only
  cases failed : expired.error with
  | some error => exact ⟨_, rfl, nofun⟩
  | none =>
    obtain ⟨expiredTotal, noneElapsed, expiredLeaves⟩ := expiredSpec failed
    rw [Cleanup.run, deletedRan]
    simp only
    cases deletedFailed : deleted.error with
    | some error => exact ⟨_, rfl, nofun⟩
    | none =>
      obtain ⟨deletedTotal, noneLeft, deletedLeaves⟩ := deletedSpec deletedFailed
      refine ⟨_, rfl, fun _ => ⟨expired.state, expiredLeaves, deletedLeaves, ?_, ?_, noneLeft⟩⟩
      · rw [expiredTotal, deletedTotal]
      · exact elapsed_of_deleted noneElapsed deletedLeaves

/-- Every cleanup that runs alone ends. When no batch fails, it took every row that is due and no other,
its total is their number, and the rows that stay have lost at most references to the ones it took. -/
theorem cleanup_exact (keyed : db.Keyed) :
    (∀ cleanup : Cleanup, ∃ outcome, cleanup.run (cleanup.left db + 1) db = some outcome ∧
      (outcome.error = none →
        outcome.total = cleanup.left db ∧ cleanup.left outcome.state = 0 ∧
          cleanup.Leaves db outcome.state)) ∧
      ∀ now, ∃ expireFuel deleteFuel outcome,
        cleanupTransactions now expireFuel deleteFuel db = some outcome ∧
        (outcome.error = none → ∃ expired,
          (Cleanup.expireTransactions now).Leaves db expired ∧
          (Cleanup.authTransactions (now - hours 24)).Leaves expired outcome.state ∧
          outcome.total = (Cleanup.expireTransactions now).left db +
            (Cleanup.authTransactions (now - hours 24)).left expired ∧
          (Cleanup.expireTransactions now).left outcome.state = 0 ∧
          (Cleanup.authTransactions (now - hours 24)).left outcome.state = 0) := by
  refine ⟨fun cleanup => ?_, cleanupTransactions_ends keyed⟩
  obtain ⟨outcome, ended, -, spec⟩ := drain_ends cleanup.drains keyed
  exact ⟨outcome, ended, spec⟩

namespace Sample

/-- The access token of a flow outlives its code, and loses its reference to it. -/
def detached (outcome : Drained Db StoreError) : Bool :=
  outcome.error.isNone && exchanged.after.accessTokens.any fun token =>
    token.due (timestamp (at' 310)) = false && token.authorizationCodeID = some 7 &&
      decide (token ∉ outcome.state.accessTokens) &&
      decide ({ token with authorizationCodeID := none } ∈ outcome.state.accessTokens)

theorem cleanup_evaluated :
    ((exchanged.after.preAuthSessions.map (·.id)).Nodup ∧ (exchanged.after.loginSessions.map (·.id)).Nodup ∧
      (exchanged.after.authTransactions.map (·.id)).Nodup ∧
      (exchanged.after.authorizationCodes.map (·.id)).Nodup ∧
      (exchanged.after.refreshTokenFamilies.map (·.id)).Nodup ∧
      (exchanged.after.refreshTokens.map (·.id)).Nodup ∧ (exchanged.after.accessTokens.map (·.id)).Nodup ∧
      (exchanged.after.logoutTransactions.map (·.id)).Nodup) ∧
    ((Cleanup.protocolArtifacts (at' 400)).left exchanged.after = 2 ∧
      ((Cleanup.protocolArtifacts (at' 400)).run 3 exchanged.after).any (·.error.isNone) ∧
      (exchanged.after.sweptArtifacts (timestamp (at' 400))).accessTokens = []) ∧
    ((Cleanup.protocolArtifacts (at' 310)).run 2 exchanged.after).any detached := by
  decide +kernel

theorem exchanged_keyed : exchanged.after.Keyed := by
  obtain ⟨⟨preAuth, login, transactions, codes, families, generations, accesses, logouts⟩, -, -⟩ :=
    cleanup_evaluated
  exact ⟨preAuth, login, transactions, codes, families, generations, accesses, logouts⟩

end Sample

/-- The code and the access token of a flow are both due after 400 seconds. -/
theorem cleanup_exact_sample :
    ∃ outcome, (Cleanup.protocolArtifacts (Sample.at' 400)).run 3 Sample.exchanged.after = some outcome ∧
      outcome.error = none ∧ outcome.total = 2 ∧ outcome.state.accessTokens = [] := by
  obtain ⟨-, ⟨two, fine, gone⟩, -⟩ := Sample.cleanup_evaluated
  obtain ⟨outcome, ended, spec⟩ :=
    (cleanup_exact Sample.exchanged_keyed).1 (.protocolArtifacts (Sample.at' 400))
  rw [two] at ended
  rw [ended, Option.any_some, Option.isNone_iff_eq_none] at fine
  obtain ⟨total, -, leaves⟩ := spec fine
  refine ⟨outcome, ended, fine, total.trans two, ?_⟩
  rw [leaves]
  exact gone

/-- Between the end of the code and the end of the access token, the cleanup deletes the code and
changes the access token. -/
theorem cleanup_detaches_kept_token :
    Run Sample.sha .utc (Sample.exchanged :: Sample.flow) Sample.exchanged.after ∧
      ∃ outcome,
        (Cleanup.protocolArtifacts (Sample.at' 310)).run 2 Sample.exchanged.after = some outcome ∧
        outcome.error = none ∧
        ∃ token ∈ Sample.exchanged.after.accessTokens, token.due (timestamp (Sample.at' 310)) = false ∧
          token.authorizationCodeID = some 7 ∧ token ∉ outcome.state.accessTokens ∧
          { token with authorizationCodeID := none } ∈ outcome.state.accessTokens := by
  obtain ⟨-, -, evaluated⟩ := Sample.cleanup_evaluated
  cases ended : (Cleanup.protocolArtifacts (Sample.at' 310)).run 2 Sample.exchanged.after with
  | none =>
    rw [ended] at evaluated
    cases evaluated
  | some outcome =>
    rw [ended, Option.any_some, Sample.detached, Bool.and_eq_true, Option.isNone_iff_eq_none,
      List.any_eq_true] at evaluated
    obtain ⟨fine, token, stored, changed⟩ := evaluated
    simp only [Bool.and_eq_true, decide_eq_true_eq] at changed
    obtain ⟨⟨⟨notDue, ofCode⟩, gone⟩, there⟩ := changed
    exact ⟨Sample.exchanged_run, outcome, rfl, fine, token, stored, notDue, ofCode, gone, there⟩

end OneIssuer
