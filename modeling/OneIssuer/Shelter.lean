import OneIssuer.Invariants
import OneIssuer.Store.SessionSteps

/-!
# Session cleanup and revocation

`RevokeAllManagedUserSessions` and `RevokeOtherUserSessions` find the refresh families of a user
through the bindings of the user's unrevoked session rows. `CleanupSessions` deletes such rows thirty
days after they expired, while a family lives up to a year. A family whose only session row is deleted
is out of reach of both operations.

**What it does not establish.** How many families are out of reach in practice:
`cleanup_keeps_families_in_reach` says which ones are.
-/

set_option autoImplicit false

namespace OneIssuer

open Relational Queries Store Token

variable {db after : Db}

/-! ## Cleanup -/

/-- The session is due for deletion: revoked, expired or idle since the cutoff. -/
def LoginSession.retired (session : LoginSession) (cutoff : Time) : Bool :=
  session.revokedAt.any (· ≤ cutoff) || session.expiresAt ≤ cutoff || session.idleExpiresAt ≤ cutoff

/-- `CleanupSessions`: batches, each in its own transaction, until one is not full. -/
inductive CleanedSessions (preAuthCutoff retiredCutoff : Time) (locked : Uuid → Bool) :
    Db → Db → Prop where
  | last {db after : Db} {preauth login : Nat}
      (ran : (cleanupSessions preAuthCutoff retiredCutoff locked).run exec db =
        .ok ((preauth, login), after))
      (short : preauth < cleanupBatchSize ∧ login < cleanupBatchSize) :
      CleanedSessions preAuthCutoff retiredCutoff locked db after
  | more {db between after : Db} {preauth login : Nat}
      (ran : (cleanupSessions preAuthCutoff retiredCutoff locked).run exec db =
        .ok ((preauth, login), between))
      (full : ¬ (preauth < cleanupBatchSize ∧ login < cleanupBatchSize))
      (rest : CleanedSessions preAuthCutoff retiredCutoff locked between after) :
      CleanedSessions preAuthCutoff retiredCutoff locked db after

/-- `session.Service.Cleanup`. -/
def SessionsCleaned (now : Time) (locked : Uuid → Bool) : Db → Db → Prop :=
  CleanedSessions now (now - hours (30 * 24)) locked

/-- Rows that only forgot their origin session. -/
structure Db.SessionsForgotten (before after : Db) : Prop where
  users : after.users = before.users
  events : after.auditEvents = before.auditEvents
  families : Moved (fun old new => new = { old with originSessionID := new.originSessionID })
    before.refreshTokenFamilies after.refreshTokenFamilies
  accesses : Moved (fun old new => new = { old with originSessionID := new.originSessionID })
    before.accessTokens after.accessTokens

theorem Db.SessionsForgotten.trans {between : Db} (early : db.SessionsForgotten between)
    (late : between.SessionsForgotten after) : db.SessionsForgotten after where
  users := late.users.trans early.users
  events := late.events.trans early.events
  families := moved_trans (fun _ _ _ first second => by rw [second, first]) early.families
    late.families
  accesses := moved_trans (fun _ _ _ first second => by rw [second, first]) early.accesses
    late.accesses

/-- One batch deletes some of the sessions that are due, and all of them when it is not full. -/
theorem cleanupSessions_ok (sound : db.Sound) {preAuthCutoff retiredCutoff : Time}
    {locked : Uuid → Bool} {preauth login : Nat}
    (ran : (cleanupSessions preAuthCutoff retiredCutoff locked).run exec db =
      .ok ((preauth, login), after)) :
    db.SessionsForgotten after ∧
      ∃ doomed : List LoginSession, doomed.length = login ∧
        (∀ session ∈ doomed, session.retired (timestamp retiredCutoff) ∧
          locked session.id = false) ∧
        (login < cleanupBatchSize → ∀ session ∈ db.loginSessions,
          session.retired (timestamp retiredCutoff) → locked session.id = false →
          session ∈ doomed) ∧
        ∀ session, session ∈ after.loginSessions ↔ session ∈ db.loginSessions ∧ session ∉ doomed := by
  simp only [cleanupSessions, Program.run_bind_ok, Tx.query_ok, Program.run_pure_ok,
    Prod.mk.injEq] at ran
  obtain ⟨_, s, preauthDeleted, _, _, deleted, ⟨rfl, rfl⟩, rfl⟩ := ran
  rw [exec] at preauthDeleted
  obtain ⟨_, isOk, same⟩ := map_ok.mp preauthDeleted
  cases isOk
  cases same
  rw [exec] at deleted
  obtain ⟨stored, removed, same⟩ := map_ok.mp deleted
  cases same
  rw [deleteLoginSessions_ok removed]
  refine ⟨⟨rfl, rfl, ?_, ?_⟩, _, rfl, ?_, ?_, ?_⟩
  · exact moved_updateRows (fun _ => rfl) fun _ _ _ => rfl
  · exact moved_updateRows (fun _ => rfl) fun _ _ _ => rfl
  · intro session taken
    have free := not_skipped_of_batch taken
    exact ⟨(mem_batch taken).2, free⟩
  · exact fun short session member due free => mem_batch_of_short short member due free
  · intro session
    simp only [survivors, List.mem_filter, Bool.not_eq_true', List.any_eq_false, beq_iff_eq]
    refine and_congr_right fun member => ⟨?_, ?_⟩
    · exact fun untouched taken => untouched session taken rfl
    · intro kept doomed taken sameID
      exact kept (sound.sessions.unique (mem_batch taken).1 member sameID ▸ taken)

/-- After the cleanup exactly the sessions that are due, and not held by another transaction, are
gone. -/
theorem cleanedSessions_ok {preAuthCutoff retiredCutoff : Time} {locked : Uuid → Bool}
    (cleaned : CleanedSessions preAuthCutoff retiredCutoff locked db after) (sound : db.Sound) :
    after.Sound ∧ db.SessionsForgotten after ∧
      ∀ session, session ∈ after.loginSessions ↔ session ∈ db.loginSessions ∧
        ¬ (session.retired (timestamp retiredCutoff) ∧ locked session.id = false) := by
  induction cleaned with
  | last ran short =>
    obtain ⟨forgotten, doomed, -, due, all, kept⟩ := cleanupSessions_ok sound ran
    refine ⟨run_sound sound ran, forgotten, fun session => (kept session).trans ?_⟩
    refine and_congr_right fun member => not_congr ⟨due session, ?_⟩
    exact fun isDue => all short.2 session member isDue.1 isDue.2
  | more ran _ _ ih =>
    obtain ⟨forgotten, doomed, -, due, -, kept⟩ := cleanupSessions_ok sound ran
    obtain ⟨soundAfter, later, remaining⟩ := ih (run_sound sound ran)
    refine ⟨soundAfter, forgotten.trans later, fun session => (remaining session).trans ?_⟩
    rw [kept session, and_assoc]
    refine and_congr_right fun _ => and_iff_right_of_imp fun notDue taken => ?_
    exact notDue (due session taken)

/-! ## Revocation -/

/-- The user has this family, and it is revoked. -/
def Db.FamilyRevoked (db : Db) (userID id : Uuid) : Prop :=
  ∃ family ∈ db.refreshTokenFamilies, family.id = id ∧ family.userID = userID ∧
    family.revokedAt.isSome

instance (db : Db) (userID id : Uuid) : Decidable (db.FamilyRevoked userID id) :=
  inferInstanceAs (Decidable (∃ family ∈ db.refreshTokenFamilies, family.id = id ∧
    family.userID = userID ∧ family.revokedAt.isSome))

/-- The operations that revoke every session of a user, or every session but one. -/
inductive BulkRevocation where
  | all
  | others (currentSession : Uuid)
  deriving DecidableEq, Repr

namespace BulkRevocation

/-- `RevokeAllManagedUserSessions` or `RevokeOtherUserSessions`. -/
def body (which : BulkRevocation) (userID : Uuid) (now : Time) (event : Audit.ServiceEvent) : Tx Nat :=
  match which with
  | .all => revokeAllManagedUserSessions userID now event
  | .others currentSession => revokeOtherUserSessions userID currentSession now event

/-- The operation leaves this session out. -/
def spares (which : BulkRevocation) (session : LoginSession) : Bool :=
  match which with
  | .all => false
  | .others currentSession => session.id == currentSession

/-- The operation revokes this session. -/
def targets (which : BulkRevocation) (userID : Uuid) (session : LoginSession) : Bool :=
  session.userID == userID && session.revokedAt.isNone && !which.spares session

/-- The sessions the operation revokes, in the order it locks them. -/
def sessions (which : BulkRevocation) (userID : Uuid) (db : Db) : List LoginSession :=
  (lockedRows loginSessionsTable.order (fun r => r.userID == userID && r.revokedAt.isNone)
    db.loginSessions).filter fun session => !which.spares session

/-- The reason on the session rows. -/
def reason : BulkRevocation → RevokeReason
  | .all => .admin
  | .others _ => .others

variable {which : BulkRevocation} {userID : Uuid}

theorem mem_sessions {session : LoginSession} :
    session ∈ which.sessions userID db ↔
      session ∈ db.loginSessions ∧ which.targets userID session := by
  simp only [sessions, targets, List.mem_filter, mem_lockedRows, Bool.and_eq_true, and_assoc]

theorem sessions_distinct (sound : db.Sound) : ((which.sessions userID db).map (·.id)).Nodup := by
  refine nodup_filter _ ?_
  refine ((List.perm_insertionSort _ _).map _).nodup_iff.mpr ?_
  exact nodup_filter _ sound.sessions.distinct

/-- The bindings the operation revokes. -/
def bindings (which : BulkRevocation) (userID : Uuid) (db : Db) : List Uuid :=
  (which.sessions userID db).map (·.sessionBindingID)

theorem mem_bindings {id : Uuid} :
    id ∈ which.bindings userID db ↔
      ∃ session ∈ db.loginSessions, which.targets userID session ∧ session.sessionBindingID = id := by
  simp only [bindings, List.mem_map, mem_sessions, and_assoc]

theorem getUserByID_ok (sound : db.Sound) {operation : String} {absent : StoreError} {id : Uuid}
    {user : User} :
    (Tx.queryRow operation absent (getUserByID id)).run exec db = .ok (user, after) ↔
      (user ∈ db.users ∧ user.id = id) ∧ after = db := by
  simp only [Tx.queryRow_ok, getUserByID, exec_read_ok, ← find?_key sound.users.distinct,
    ← List.head?_filter]
  constructor
  · rintro ⟨rows, ⟨rfl, same⟩, isUser⟩
    exact ⟨isUser, same⟩
  · rintro ⟨isUser, same⟩
    exact ⟨_, ⟨rfl, same⟩, isUser⟩

theorem revokeSessionsAndLog_ok (operation : String) (now : Time) (event : Audit.ServiceEvent)
    (count : Nat) (after : Db) (sound : db.Sound) {sessions : List LoginSession}
    {reason : RevokeReason} (distinct : (sessions.map (·.id)).Nodup)
    (admitted : sessionReasons.contains reason) :
    (do let count ← revokeSessions operation sessions now .sessionRevoked reason
        insertAudit event.event
        return count : Tx Nat).run exec db = .ok (count, after) ↔
      ((uniqueBindings (sessions.map (·.sessionBindingID)) = [] ∨ now.isZero = false) ∧
        db.InOrder (.ofBindings (sessions.map (·.sessionBindingID)))
          (.ofBindings (sessions.map (·.sessionBindingID))) (timestamp now) ∧
        (∀ session ∈ sessions, db.SessionStampable (timestamp now) session.id) ∧
        event.event.row.insertViolation db = none) ∧
        count = sessions.length ∧
        after = (db.withoutSessions sessions (timestamp now) .sessionRevoked reason).logged
          event.event.row := by
  have ofFamily : familyReasons.contains .sessionRevoked := rfl
  have ofAccess : accessReasons.contains .sessionRevoked := rfl
  simp only [Program.run_bind_ok, Program.run_pure_ok, Prod.mk.injEq,
    revokeSessions_ok sound distinct admitted ofFamily ofAccess]
  constructor
  · rintro ⟨_, _, ⟨timed, inOrder, stampable, rfl, rfl⟩, _, _, inserted, rfl, rfl⟩
    obtain ⟨-, loggable, rfl⟩ := insertAudit_ok.mp inserted
    exact ⟨⟨timed, inOrder, stampable, loggable⟩, rfl, rfl⟩
  · rintro ⟨⟨timed, inOrder, stampable, loggable⟩, rfl, rfl⟩
    exact ⟨_, _, ⟨timed, inOrder, stampable, rfl, rfl⟩, (), _,
      insertAudit_ok.mpr ⟨event.valid, loggable, rfl⟩, rfl, rfl⟩

/-- When the operation commits. -/
structure Admitted (which : BulkRevocation) (userID : Uuid) (now : Time) (event : Audit.ServiceEvent)
    (db : Db) : Prop where
  known : which = .all → ∃ user ∈ db.users, user.id = userID
  timed : uniqueBindings (which.bindings userID db) = [] ∨ now.isZero = false
  inOrder : db.InOrder (.ofBindings (which.bindings userID db))
    (.ofBindings (which.bindings userID db)) (timestamp now)
  stampable : ∀ session ∈ which.sessions userID db, db.SessionStampable (timestamp now) session.id
  loggable : event.event.row.insertViolation db = none

theorem body_ok (sound : db.Sound) {now : Time} {event : Audit.ServiceEvent} {count : Nat} :
    (which.body userID now event).run exec db = .ok (count, after) ↔
      which.Admitted userID now event db ∧ count = (which.sessions userID db).length ∧
        after = (db.withoutSessions (which.sessions userID db) (timestamp now) .sessionRevoked
          which.reason).logged event.event.row := by
  have distinct : ((which.sessions userID db).map (·.id)).Nodup := sessions_distinct sound
  have admitted : sessionReasons.contains which.reason := by cases which <;> rfl
  cases which with
  | all =>
    have revokes := revokeSessionsAndLog_ok "revoke managed user session" now event count after sound
      distinct admitted
    have everySession : sessions .all userID db = lockedRows loginSessionsTable.order
        (fun r => r.userID == userID && r.revokedAt.isNone) db.loginSessions :=
      List.filter_eq_self.mpr fun _ _ => rfl
    have ran : (body .all userID now event).run exec db = .ok (count, after) ↔
        ∃ user s, (Tx.queryRow "find user for session revocation" .identityNotFound
          (getUserByID userID)).run exec db = .ok (user, s) ∧ _ := Program.run_bind_ok exec
    rw [ran]
    constructor
    · rintro ⟨user, s, isUser, revoked⟩
      obtain ⟨⟨member, isID⟩, rfl⟩ := (getUserByID_ok sound).mp isUser
      obtain ⟨⟨timed, inOrder, stampable, loggable⟩, isCount, isAfter⟩ :=
        revokes.mp (everySession ▸ revoked)
      exact ⟨⟨fun _ => ⟨user, member, isID⟩, timed, inOrder, stampable, loggable⟩, isCount, isAfter⟩
    · rintro ⟨⟨known, timed, inOrder, stampable, loggable⟩, isCount, isAfter⟩
      obtain ⟨user, member, isID⟩ := known rfl
      have revoked := revokes.mpr ⟨⟨timed, inOrder, stampable, loggable⟩, isCount, isAfter⟩
      rw [everySession] at revoked
      exact ⟨user, db, (getUserByID_ok sound).mpr ⟨⟨member, isID⟩, rfl⟩, revoked⟩
  | others currentSession =>
    have revokes := revokeSessionsAndLog_ok "revoke other user session" now event count after sound
      distinct admitted
    refine Iff.trans revokes ?_
    constructor
    · rintro ⟨⟨timed, inOrder, stampable, loggable⟩, isCount, isAfter⟩
      exact ⟨⟨nofun, timed, inOrder, stampable, loggable⟩, isCount, isAfter⟩
    · rintro ⟨⟨-, timed, inOrder, stampable, loggable⟩, isCount, isAfter⟩
      exact ⟨⟨timed, inOrder, stampable, loggable⟩, isCount, isAfter⟩

/-- The user's families that are revoked after the operation. -/
theorem body_revokes (sound : db.Sound) {now : Time} {event : Audit.ServiceEvent} {count : Nat}
    (ran : (which.body userID now event).run exec db = .ok (count, after)) {id : Uuid} :
    after.FamilyRevoked userID id ↔
      ∃ family ∈ db.refreshTokenFamilies, family.id = id ∧ family.userID = userID ∧
        (family.revokedAt.isSome ∨
          family.sessionBindingID ∈ which.bindings userID db ∧
            family.sessionBindingID ≠ Uuid.nil) := by
  obtain ⟨-, -, rfl⟩ := (body_ok sound).mp ran
  have stamps (family : RefreshTokenFamily) :
      (Selector.ofBindings (which.bindings userID db)).stampsFamily family ↔
        family.revokedAt = none ∧ family.sessionBindingID ∈ which.bindings userID db ∧
          family.sessionBindingID ≠ Uuid.nil := by
    rw [Selector.stampsFamily, Bool.and_eq_true, Option.isNone_iff_eq_none,
      Selector.ofBindings_ofFamily]
  constructor
  · rintro ⟨family, member, isID, isUser, isRevoked⟩
    obtain ⟨old, inBefore, same⟩ := mem_updateRows.mp member
    split at same
    · rename_i stamped
      rw [same] at isID isUser
      exact ⟨old, inBefore, isID, isUser, Or.inr ((stamps old).mp stamped).2⟩
    · rw [same] at isID isUser isRevoked
      exact ⟨old, inBefore, isID, isUser, Or.inl isRevoked⟩
  · rintro ⟨family, member, isID, isUser, isRevoked⟩
    refine ⟨_, mem_updateRows.mpr ⟨family, member, rfl⟩, ?_⟩
    split
    · exact ⟨isID, isUser, rfl⟩
    · rename_i untouched
      refine ⟨isID, isUser, ?_⟩
      cases unrevoked : family.revokedAt with
      | some revokedAt => rfl
      | none =>
        rw [unrevoked] at isRevoked
        exact absurd ((stamps family).mpr ⟨unrevoked, isRevoked.resolve_left (by simp)⟩) untouched

/-- An operation that commits before the cleanup commits after it. -/
theorem Admitted.cleaned {now : Time} {event : Audit.ServiceEvent}
    (admitted : which.Admitted userID now event db) (sound : db.Sound)
    (forgotten : db.SessionsForgotten after)
    (fewer : ∀ session ∈ after.loginSessions, session ∈ db.loginSessions) :
    which.Admitted userID now event after := by
  have fewerBindings {id : Uuid} (reached : id ∈ which.bindings userID after) :
      id ∈ which.bindings userID db := by
    obtain ⟨session, member, isTarget, isID⟩ := mem_bindings.mp reached
    exact mem_bindings.mpr ⟨session, fewer session member, isTarget, isID⟩
  refine ⟨?_, ?_, ⟨?_, ?_⟩, ?_, ?_⟩
  · rw [forgotten.users]
    exact admitted.known
  · refine admitted.timed.imp_left fun none => List.eq_nil_iff_forall_not_mem.mpr fun id reached => ?_
    obtain ⟨inAfter, notNil⟩ := mem_uniqueBindings.mp reached
    exact List.not_mem_nil (none ▸ mem_uniqueBindings.mpr ⟨fewerBindings inAfter, notNil⟩)
  · intro family member stamped
    obtain ⟨old, inBefore, same⟩ := forgotten.families.origin member
    rw [Selector.stampsFamily, Bool.and_eq_true, Selector.ofBindings_ofFamily] at stamped
    rw [same] at stamped ⊢
    refine admitted.inOrder.families old inBefore ?_
    rw [Selector.stampsFamily, Bool.and_eq_true, Selector.ofBindings_ofFamily]
    exact ⟨stamped.1, fewerBindings stamped.2.1, stamped.2.2⟩
  · intro token member stamped
    obtain ⟨old, inBefore, same⟩ := forgotten.accesses.origin member
    rw [same] at stamped ⊢
    refine admitted.inOrder.accesses old inBefore ?_
    rw [Selector.stampsAccess, Bool.and_eq_true, Bool.and_eq_true,
      Selector.ofBindings_ofAccess] at stamped ⊢
    obtain ⟨unrevoked, ⟨id, isID, reached, notNil⟩, live⟩ := stamped
    exact ⟨unrevoked, ⟨id, isID, fewerBindings reached, notNil⟩, live⟩
  · intro session member
    obtain ⟨inAfter, isTarget⟩ := mem_sessions.mp member
    obtain ⟨row, inBefore, sameID, unrevoked, inOrder⟩ :=
      admitted.stampable session (mem_sessions.mpr ⟨fewer session inAfter, isTarget⟩)
    have same := sound.sessions.unique inBefore (fewer session inAfter) sameID
    exact ⟨session, inAfter, rfl, same ▸ unrevoked, same ▸ inOrder⟩
  · have loggable := admitted.loggable
    have sameUsers : after.user? = db.user? := by
      funext id
      rw [Db.user?, Db.user?, forgotten.users]
    rw [AuditEvent.insertViolation] at loggable ⊢
    rw [forgotten.events, sameUsers]
    exact loggable

end BulkRevocation

/-- Every family the operation reaches is also reached through a session that the cleanup keeps. -/
def Db.KeptInReach (which : BulkRevocation) (userID : Uuid) (cutoff : Time) (locked : Uuid → Bool)
    (db : Db) : Prop :=
  ∀ family ∈ db.refreshTokenFamilies, family.userID = userID → family.revokedAt = none →
    family.sessionBindingID ≠ Uuid.nil →
    ∀ session ∈ db.loginSessions, which.targets userID session →
      session.sessionBindingID = family.sessionBindingID →
      ∃ kept ∈ db.loginSessions, which.targets userID kept ∧
        kept.sessionBindingID = family.sessionBindingID ∧
        ¬ (kept.retired cutoff ∧ locked kept.id = false)

instance (which : BulkRevocation) (userID : Uuid) (cutoff : Time) (locked : Uuid → Bool) (db : Db) :
    Decidable (db.KeptInReach which userID cutoff locked) := by
  unfold Db.KeptInReach
  infer_instance

/-- After the cleanup a bulk revocation still commits, and it revokes every family of the user that it
would have revoked before the cleanup exactly when each of them is reached through a session that the
cleanup keeps. -/
theorem cleanup_keeps_families_in_reach {sha : Sha256} {zone : Zone} {entries : List Entry}
    {which : BulkRevocation} {userID : Uuid} {cleanupNow now : Time} {locked : Uuid → Bool}
    {event : Audit.ServiceEvent} {cleaned revoked : Db} {count : Nat}
    (run : Run sha zone entries db) (cleanup : SessionsCleaned cleanupNow locked db cleaned)
    (ran : (which.body userID now event).run exec db = .ok (count, revoked)) :
    ∃ count' revoked', (which.body userID now event).run exec cleaned = .ok (count', revoked') ∧
      ((∀ id, revoked.FamilyRevoked userID id → revoked'.FamilyRevoked userID id) ↔
        db.KeptInReach which userID (timestamp (cleanupNow - hours (30 * 24))) locked) := by
  have sound := run.sound
  obtain ⟨soundAfter, forgotten, kept⟩ := cleanedSessions_ok cleanup sound
  have admitted := ((BulkRevocation.body_ok sound).mp ran).1.cleaned sound forgotten
    fun session member => ((kept session).mp member).1
  have ranAfter := (BulkRevocation.body_ok soundAfter).mpr ⟨admitted, rfl, rfl⟩
  refine ⟨_, _, ranAfter, ?_⟩
  simp only [BulkRevocation.body_revokes sound ran, BulkRevocation.body_revokes soundAfter ranAfter]
  constructor
  · intro covered family member isUser unrevoked notNil session inSessions isTarget sameBinding
    obtain ⟨new, inAfter, sameID, -, isRevoked⟩ := covered family.id ⟨family, member, rfl, isUser,
      Or.inr ⟨BulkRevocation.mem_bindings.mpr ⟨session, inSessions, isTarget, sameBinding⟩, notNil⟩⟩
    obtain ⟨old, inBefore, same⟩ := forgotten.families.origin inAfter
    have isFamily : old = family := by
      refine sound.families.unique inBefore member ?_
      rw [same] at sameID
      exact sameID
    rw [same, isFamily] at isRevoked
    obtain ⟨reached, -⟩ := isRevoked.resolve_left (by simp [unrevoked])
    obtain ⟨keptSession, inKept, isTarget, sameBinding⟩ := BulkRevocation.mem_bindings.mp reached
    obtain ⟨inSessions, notDue⟩ := (kept keptSession).mp inKept
    exact ⟨keptSession, inSessions, isTarget, sameBinding, notDue⟩
  · rintro inReach id ⟨family, member, isID, isUser, isRevoked⟩
    obtain ⟨new, inAfter, same⟩ := forgotten.families.kept member
    refine ⟨new, inAfter, ?_⟩
    rw [same]
    refine ⟨isID, isUser, ?_⟩
    cases unrevoked : family.revokedAt with
    | some revokedAt => exact Or.inl rfl
    | none =>
      rw [unrevoked] at isRevoked
      obtain ⟨reached, notNil⟩ := isRevoked.resolve_left nofun
      obtain ⟨session, inSessions, isTarget, sameBinding⟩ := BulkRevocation.mem_bindings.mp reached
      obtain ⟨keptSession, inSessions, isTarget, sameBinding, notDue⟩ :=
        inReach family member isUser unrevoked notNil session inSessions isTarget sameBinding
      refine Or.inr ⟨BulkRevocation.mem_bindings.mpr ⟨keptSession, ?_, isTarget, sameBinding⟩, notNil⟩
      exact (kept keptSession).mpr ⟨inSessions, notDue⟩

namespace Sample

/-- The exchange with the lifetimes of the defaults: 30 days for a token, 90 for the family. -/
def offlineExchanged : Entry :=
  .calm sha
    (.exchangeAuthorizationCode (codeInput (at' 20)) (mintWith (hours (30 * 24)) (hours (90 * 24))))
    codeIssued.after

/-- The family is used on the twentieth day. -/
def offlineRefreshed : Entry :=
  .calm sha
    (.exchangeRefreshToken (presentation (start + hours (20 * 24))) (remintWith (hours (30 * 24)))
      offlineExchanged.after offlineExchanged.after) offlineExchanged.after

/-- The thirty-first day after the session. -/
def monthLater : Time := start + hours (31 * 24)

theorem offline_fresh :
    Fresh (states flow codeIssued.after) codeIssued.after offlineExchanged.after ∧
      Fresh (states (offlineExchanged :: flow) offlineExchanged.after) offlineExchanged.after
        offlineRefreshed.after := by
  decide +kernel

theorem offlineExchanged_run : Run sha .utc (offlineExchanged :: flow) offlineExchanged.after :=
  flow_run.calm _ (by simp [Call.reads]) offline_fresh.1

theorem offlineRefreshed_run :
    Run sha .utc (offlineRefreshed :: offlineExchanged :: flow) offlineRefreshed.after :=
  offlineExchanged_run.calm _ (by simp [Call.reads, states]) offline_fresh.2

/-- The family lasts, and one of its tokens is unused and unexpired. -/
def usable (db : Db) (familyID : Uuid) (now : Time) : Bool :=
  db.refreshTokenFamilies.any (fun family => family.id == familyID &&
    family.revokedAt.isNone && now < family.absoluteExpiresAt) &&
  db.refreshTokens.any fun token => token.familyID == familyID && token.consumedAt.isNone &&
    now < token.expiresAt

theorem sheltered_evaluated :
    (cleanupSessions monthLater (monthLater - hours (30 * 24)) fun _ => false).passes exec
      offlineRefreshed.after fun counts cleaned =>
        counts.1 < cleanupBatchSize && counts.2 < cleanupBatchSize &&
        [BulkRevocation.all, .others 6].all fun which =>
          (which.body 1 monthLater (event 90)).passes exec offlineRefreshed.after
            (fun _ revoked => revoked.FamilyRevoked 1 10) &&
          (which.body 1 monthLater (event 90)).passes exec cleaned
            fun _ revoked => usable revoked 10 monthLater && !(revoked.FamilyRevoked 1 10) := by
  decide +kernel

theorem in_reach_evaluated :
    ((cleanupSessions (at' 50) (at' 50 - hours (30 * 24)) fun _ => false).passes exec
      offlineExchanged.after fun counts _ =>
        counts.1 < cleanupBatchSize && counts.2 < cleanupBatchSize) ∧
      (BulkRevocation.all.body 1 (at' 50) (event 90)).passes exec offlineExchanged.after
        (fun _ revoked => revoked.FamilyRevoked 1 10) ∧
      offlineExchanged.after.KeptInReach .all 1 (timestamp (at' 50 - hours (30 * 24)))
        fun _ => false := by
  decide +kernel

end Sample

/-- A family with a session that is not due is revoked after the cleanup as well. -/
theorem family_in_reach_sample :
    ∃ cleaned revoked : Db, SessionsCleaned (Sample.at' 50) (fun _ => false)
        Sample.offlineExchanged.after cleaned ∧
      (∃ count, (BulkRevocation.all.body 1 (Sample.at' 50) (Sample.event 90)).run exec cleaned =
        .ok (count, revoked)) ∧ revoked.FamilyRevoked 1 10 := by
  obtain ⟨cleans, revokes, inReach⟩ := Sample.in_reach_evaluated
  obtain ⟨counts, cleaned, ran, short⟩ := (Program.passes_iff exec).mp cleans
  obtain ⟨count, revoked, ranBefore, isRevoked⟩ := (Program.passes_iff exec).mp revokes
  have cleanup : SessionsCleaned (Sample.at' 50) (fun _ => false) Sample.offlineExchanged.after
      cleaned := .last ran (by simpa using short)
  obtain ⟨count', revoked', ranAfter, covered⟩ :=
    cleanup_keeps_families_in_reach Sample.offlineExchanged_run cleanup ranBefore
  exact ⟨cleaned, revoked', cleanup, ⟨count', ranAfter⟩,
    covered.mpr inReach 10 (of_decide_eq_true isRevoked)⟩

/-- The session of a family is deleted on the thirty-first day. Both operations would have revoked the
family; run after the cleanup they leave it usable. -/
theorem cleanup_shelters_family :
    ∃ cleaned : Db,
      Run Sample.sha .utc (Sample.offlineRefreshed :: Sample.offlineExchanged :: Sample.flow)
        Sample.offlineRefreshed.after ∧
      SessionsCleaned Sample.monthLater (fun _ => false) Sample.offlineRefreshed.after cleaned ∧
      ∀ which ∈ [BulkRevocation.all, .others 6], ∃ count revoked count' revoked',
        (which.body 1 Sample.monthLater (Sample.event 90)).run exec Sample.offlineRefreshed.after =
          .ok (count, revoked) ∧
        (which.body 1 Sample.monthLater (Sample.event 90)).run exec cleaned =
          .ok (count', revoked') ∧
        revoked.FamilyRevoked 1 10 ∧ ¬ revoked'.FamilyRevoked 1 10 ∧
        Sample.usable revoked' 10 Sample.monthLater := by
  obtain ⟨counts, cleaned, ran, evaluated⟩ := (Program.passes_iff exec).mp Sample.sheltered_evaluated
  rw [Bool.and_eq_true, Bool.and_eq_true, List.all_eq_true] at evaluated
  obtain ⟨⟨preauth, login⟩, sheltered⟩ := evaluated
  refine ⟨cleaned, Sample.offlineRefreshed_run,
    .last ran ⟨of_decide_eq_true preauth, of_decide_eq_true login⟩, fun which listed => ?_⟩
  obtain ⟨before, after⟩ := Bool.and_eq_true_iff.mp (sheltered which listed)
  obtain ⟨count, revoked, ranBefore, isRevoked⟩ := (Program.passes_iff exec).mp before
  obtain ⟨count', revoked', ranAfter, isUsable⟩ := (Program.passes_iff exec).mp after
  obtain ⟨isUsable, unrevoked⟩ := Bool.and_eq_true_iff.mp isUsable
  refine ⟨count, revoked, count', revoked', ranBefore, ranAfter, of_decide_eq_true isRevoked, ?_,
    isUsable⟩
  simpa using unrevoked

end OneIssuer
