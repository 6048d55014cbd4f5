import OneIssuer.Footprint
import OneIssuer.Store.Steps

/-!
# Revocation of sessions, run

The session revocations stamp the families and access tokens of some bindings and then the session
rows. `Db.SessionStampable` says when a row can take the stamp, and `revokeSessions_ok` when the whole
loop over the locked sessions runs and what it leaves.
-/

set_option autoImplicit false

namespace OneIssuer

open Relational Queries

variable {db after : Db} {now : Time} {reason : RevokeReason}

/-! ## One row -/

/-- The session a revocation leaves behind. -/
def LoginSession.revoked (session : LoginSession) (now : Time) (reason : RevokeReason) :
    LoginSession := { session with revokedAt := some now, revokeReason := some reason }

/-- A stored session may be revoked exactly when the instant is not before its creation. -/
theorem session_stampable {session : LoginSession} (valid : checkViolation session.checks = none)
    (admitted : sessionReasons.contains reason) :
    checkViolation (session.revoked now reason).checks = none ↔ session.createdAt ≤ now := by
  simp only [checkViolation_eq_none, LoginSession.checks, LoginSession.revoked, List.mem_cons,
    List.not_mem_nil, or_false, forall_eq_or_imp, forall_eq, Bool.and_eq_true, Option.all_some,
    revokeReasonValid] at valid ⊢
  obtain ⟨csrf, ⟨times, -⟩, address, -, token, agent⟩ := valid
  constructor
  · rintro ⟨-, ⟨-, inOrder⟩, -⟩
    exact of_decide_eq_true inOrder
  · intro inOrder
    exact ⟨csrf, ⟨times, decide_eq_true inOrder⟩, address, admitted, token, agent⟩

/-- The unrevoked sessions with one of these identifiers are revoked. -/
def Db.revokedSessions (db : Db) (ids : List Uuid) (now : Time) (reason : RevokeReason) : Db :=
  { db with
    loginSessions := updateRows (fun r => r.revokedAt.isNone && ids.contains r.id)
      (·.revoked now reason) db.loginSessions }

/-- There is an unrevoked session with this identifier that was not created after the instant. -/
def Db.SessionStampable (db : Db) (now : Time) (id : Uuid) : Prop :=
  ∃ session ∈ db.loginSessions, session.id = id ∧ session.revokedAt = none ∧
    session.createdAt ≤ now

theorem revokeSessionRow_ok (sound : db.Sound) {operation : String} {absent : StoreError} {id : Uuid}
    (admitted : sessionReasons.contains reason) :
    (Store.revokeSessionRow operation absent now (some reason) id).run exec db = .ok ((), after) ↔
      db.SessionStampable (timestamp now) id ∧
        after = db.revokedSessions [id] (timestamp now) reason := by
  have sameRows : db.revokedSessions [id] (timestamp now) reason =
      { db with
        loginSessions := updateRows
          (fun r => SessionChange.guard (.revoke (timestamp now) (some reason)) r && r.id == id)
          (SessionChange.apply (.revoke (timestamp now) (some reason))) db.loginSessions } := by
    have sameMatch (r : LoginSession) : (r.revokedAt.isNone && [id].contains r.id) =
        (SessionChange.guard (.revoke (timestamp now) (some reason)) r && r.id == id) := by
      rw [Bool.eq_iff_iff]
      simp [SessionChange.guard]
    simp only [Db.revokedSessions, sameMatch]
    rfl
  simp only [Store.revokeSessionRow, Program.run_bind_ok, Program.run_pure_ok, Prod.mk.injEq,
    revokeLoginSessionBindingByID]
  constructor
  · rintro ⟨row, s, revoked, -, rfl⟩
    obtain ⟨session, stored, isID, unrevoked, allowed, -, rfl⟩ := (queryRow_update
      exec_update_loginSessions (unique_of_key sound.sessions.distinct id)).mp revoked
    refine ⟨⟨session, stored, beq_iff_eq.mp isID, Option.isNone_iff_eq_none.mp unrevoked, ?_⟩,
      sameRows.symm⟩
    exact (session_stampable (sound.sessions.valid session stored) admitted).mp allowed
  · rintro ⟨⟨session, stored, isID, unrevoked, inOrder⟩, rfl⟩
    refine ⟨session.revoked (timestamp now) reason, _, (queryRow_update exec_update_loginSessions
      (unique_of_key sound.sessions.distinct id)).mpr ⟨session, stored, beq_iff_eq.mpr isID,
        Option.isNone_iff_eq_none.mpr unrevoked, ?_, rfl, rfl⟩, trivial, sameRows⟩
    exact (session_stampable (sound.sessions.valid session stored) admitted).mpr inOrder

/-! ## Many rows -/

/-- A session that the first stamp did not touch. -/
theorem sessionStampable_revoked {ids : List Uuid} {id : Uuid} {later : Time} (other : id ∉ ids) :
    (db.revokedSessions ids now reason).SessionStampable later id ↔
      db.SessionStampable later id := by
  constructor
  · rintro ⟨session, member, rfl, unrevoked, inOrder⟩
    obtain ⟨old, inBefore, rfl⟩ := mem_updateRows.mp member
    split at other
    · rename_i stamped
      exact absurd (List.contains_iff_mem.mp (Bool.and_eq_true_iff.mp stamped).2) other
    · rename_i untouched
      simp only [untouched] at unrevoked inOrder ⊢
      exact ⟨old, inBefore, rfl, unrevoked, inOrder⟩
  · rintro ⟨session, member, rfl, unrevoked, inOrder⟩
    refine ⟨session, mem_updateRows.mpr ⟨session, member, ?_⟩, rfl, unrevoked, inOrder⟩
    simp [other]

/-- Stamps add up. -/
theorem revokedSessions_append (first second : List Uuid) :
    (db.revokedSessions first now reason).revokedSessions second now reason =
      db.revokedSessions (first ++ second) now reason := by
  simp only [Db.revokedSessions, updateRows, List.map_map]
  congr 1
  refine List.map_congr_left fun session _ => ?_
  cases isRevoked : session.revokedAt with
  | some revokedAt => simp [isRevoked]
  | none =>
    by_cases inFirst : session.id ∈ first
    · simp [isRevoked, inFirst, LoginSession.revoked]
    · simp [isRevoked, inFirst]

theorem eachSession_ok {operation : String} (admitted : sessionReasons.contains reason)
    (sessions : List LoginSession) (distinct : (sessions.map (·.id)).Nodup) {db after : Db}
    (sound : db.Sound) :
    (Program.each (fun session => Store.revokeSessionRow operation (.noRows operation) now
        (some reason) session.id) sessions).run exec db = .ok ((), after) ↔
      (∀ session ∈ sessions, db.SessionStampable (timestamp now) session.id) ∧
        after = db.revokedSessions (sessions.map (·.id)) (timestamp now) reason := by
  induction sessions generalizing db with
  | nil =>
    have unchanged : db.revokedSessions [] (timestamp now) reason = db := by
      simp [Db.revokedSessions, updateRows]
    simp only [Program.each, Program.run_done, List.not_mem_nil, false_implies, implies_true,
      true_and, List.map_nil, unchanged, Except.ok.injEq, Prod.mk.injEq, eq_comm]
  | cons session rest ih =>
    obtain ⟨isNew, restDistinct⟩ := List.nodup_cons.mp distinct
    have others {now : Time} (other : LoginSession) (member : other ∈ rest) :
        (db.revokedSessions [session.id] (timestamp now) reason).SessionStampable (timestamp now)
            other.id ↔ db.SessionStampable (timestamp now) other.id := by
      refine sessionStampable_revoked fun same => isNew ?_
      exact List.mem_map.mpr ⟨other, member, List.mem_singleton.mp same⟩
    rw [Program.run_each_ok]
    constructor
    · rintro ⟨s, first, ran⟩
      have soundAfter := run_sound sound first
      obtain ⟨stampable, rfl⟩ := (revokeSessionRow_ok sound admitted).mp first
      obtain ⟨rest, rfl⟩ := (ih restDistinct soundAfter).mp ran
      refine ⟨List.forall_mem_cons.mpr ⟨stampable, fun other member => ?_⟩, ?_⟩
      · exact (others other member).mp (rest other member)
      · exact revokedSessions_append [session.id] _
    · rintro ⟨stampable, rfl⟩
      obtain ⟨first, rest⟩ := List.forall_mem_cons.mp stampable
      have ran : (Store.revokeSessionRow operation (.noRows operation) now (some reason)
          session.id).run exec db =
          .ok ((), db.revokedSessions [session.id] (timestamp now) reason) :=
        (revokeSessionRow_ok sound admitted).mpr ⟨first, rfl⟩
      refine ⟨_, ran, (ih restDistinct (run_sound sound ran)).mpr ⟨fun other member => ?_, ?_⟩⟩
      · exact (others other member).mpr (rest other member)
      · exact (revokedSessions_append [session.id] _).symm

/-! ## Bindings -/

/-- The selector of some bindings. -/
def Queries.Selector.ofBindings (bindingIDs : List Uuid) : Selector :=
  .bindings (Store.uniqueBindings bindingIDs)

@[simp] theorem mem_uniqueBindings {bindingIDs : List Uuid} {id : Uuid} :
    id ∈ Store.uniqueBindings bindingIDs ↔ id ∈ bindingIDs ∧ id ≠ Uuid.nil := by
  simp [Store.uniqueBindings]

theorem Queries.Selector.ofBindings_ofFamily {bindingIDs : List Uuid} {family : RefreshTokenFamily} :
    (Selector.ofBindings bindingIDs).ofFamily family ↔
      family.sessionBindingID ∈ bindingIDs ∧ family.sessionBindingID ≠ Uuid.nil := by
  simp [Selector.ofBindings, Selector.ofFamily]

theorem Queries.Selector.ofBindings_ofAccess {bindingIDs : List Uuid} {token : AccessToken} :
    (Selector.ofBindings bindingIDs).ofAccess token ↔
      ∃ id, token.sessionBindingID = some id ∧ id ∈ bindingIDs ∧ id ≠ Uuid.nil := by
  simp [Selector.ofBindings, Selector.ofAccess, Option.any_eq_true]

/-- A cascade over no binding changes nothing. -/
theorem cascaded_nothing :
    db.cascaded (.bindings []) (.bindings []) now reason = db := by
  simp [Db.cascaded, Db.revokedFamilies, Db.revokedAccesses, updateRows, Selector.stampsFamily,
    Selector.stampsAccess, Selector.ofFamily, Selector.ofAccess]

theorem revokeSessionBindingsCascade_ok (sound : db.Sound) {bindingIDs : List Uuid}
    (admitted : familyReasons.contains reason) (alsoAdmitted : accessReasons.contains reason) :
    (Store.revokeSessionBindingsCascade bindingIDs now reason).run exec db = .ok ((), after) ↔
      (Store.uniqueBindings bindingIDs = [] ∨ now.isZero = false) ∧
        db.InOrder (.ofBindings bindingIDs) (.ofBindings bindingIDs) (timestamp now) ∧
        after = db.cascaded (.ofBindings bindingIDs) (.ofBindings bindingIDs) (timestamp now)
          reason := by
  unfold Store.revokeSessionBindingsCascade Selector.ofBindings
  cases isBindings : Store.uniqueBindings bindingIDs with
  | nil =>
    have vacuous : db.InOrder (.bindings []) (.bindings []) (timestamp now) := by
      constructor <;> simp [Selector.stampsFamily, Selector.stampsAccess, Selector.ofFamily,
        Selector.ofAccess]
    simp only [List.isEmpty_nil, if_true, Program.run_pure, Except.ok.injEq, Prod.mk.injEq, true_and,
      true_or, vacuous, cascaded_nothing]
    exact eq_comm
  | cons first rest =>
    simp only [List.isEmpty_cons, Bool.false_eq_true, if_false, Program.run_bind_ok,
      Program.run_require_ok, cascade_ok, reduceCtorEq, false_or, Bool.not_eq_true']
    constructor
    · rintro ⟨_, s, ⟨timed, rfl⟩, families, accesses, rfl⟩
      exact ⟨timed, (inOrder_iff sound admitted alsoAdmitted).mp ⟨families, accesses⟩, rfl⟩
    · rintro ⟨timed, inOrder, rfl⟩
      obtain ⟨families, accesses⟩ := (inOrder_iff sound admitted alsoAdmitted).mpr inOrder
      exact ⟨(), db, ⟨timed, rfl⟩, families, accesses, rfl⟩

/-- The database after the revocation of locked sessions. -/
def Db.withoutSessions (db : Db) (sessions : List LoginSession) (now : Time)
    (familyReason reason : RevokeReason) : Db :=
  (db.cascaded (.ofBindings (sessions.map (·.sessionBindingID)))
    (.ofBindings (sessions.map (·.sessionBindingID))) now familyReason).revokedSessions
    (sessions.map (·.id)) now reason

theorem revokeSessions_ok (sound : db.Sound) {operation : String} {sessions : List LoginSession}
    {familyReason : RevokeReason} {count : Nat} (distinct : (sessions.map (·.id)).Nodup)
    (admitted : sessionReasons.contains reason) (familyAdmitted : familyReasons.contains familyReason)
    (accessAdmitted : accessReasons.contains familyReason) :
    (Store.revokeSessions operation sessions now familyReason reason).run exec db =
        .ok (count, after) ↔
      (Store.uniqueBindings (sessions.map (·.sessionBindingID)) = [] ∨ now.isZero = false) ∧
        db.InOrder (.ofBindings (sessions.map (·.sessionBindingID)))
          (.ofBindings (sessions.map (·.sessionBindingID))) (timestamp now) ∧
        (∀ session ∈ sessions, db.SessionStampable (timestamp now) session.id) ∧
        count = sessions.length ∧
        after = db.withoutSessions sessions (timestamp now) familyReason reason := by
  simp only [Store.revokeSessions, Program.run_bind_ok, Program.run_pure_ok, Prod.mk.injEq]
  constructor
  · rintro ⟨_, s, cascaded, _, t, revoked, rfl, rfl⟩
    have soundAfter := run_sound sound cascaded
    obtain ⟨timed, inOrder, rfl⟩ :=
      (revokeSessionBindingsCascade_ok sound familyAdmitted accessAdmitted).mp cascaded
    obtain ⟨stampable, rfl⟩ := (eachSession_ok admitted sessions distinct soundAfter).mp revoked
    exact ⟨timed, inOrder, stampable, rfl, rfl⟩
  · rintro ⟨timed, inOrder, stampable, rfl, rfl⟩
    have cascaded := (revokeSessionBindingsCascade_ok sound familyAdmitted accessAdmitted).mpr
      ⟨timed, inOrder, rfl⟩
    exact ⟨(), _, cascaded, (), _, (eachSession_ok admitted sessions distinct
      (run_sound sound cascaded)).mpr ⟨stampable, rfl⟩, rfl, rfl⟩

end OneIssuer
