import OneIssuer.Store.Rules

/-!
# Shared steps of the store, run

When the sub-programs of `Store.Support` succeed and what they leave behind, as equivalences: the
audit insert, the client with its children, and the revocation cascade. `Db.revoked` is the database
after a cascade, and `Dead` says what a cascade is for: nothing it selects is alive afterwards.
-/

set_option autoImplicit false

namespace OneIssuer

open Relational Queries
open OneIssuer.Consent (sortStrings)

/-! ## Clients -/

/-- The client a row and its children stand for. -/
def Db.clientOf (db : Db) (row : ClientRow) : Client :=
  mapClient row
    (sortStrings ((db.clientRedirectURIs.filter (·.clientID == row.id)).map (·.uri)))
    (sortStrings ((db.clientLogoutURIs.filter (·.clientID == row.id)).map (·.uri)))
    (sortStrings ((db.clientScopes.filter (·.clientID == row.id)).map (·.scope)))

section Clients

variable {db after : Db} {client : Client}

theorem loadClientChildren_run (row : ClientRow) :
    (Store.loadClientChildren row).run exec db = .ok (db.clientOf row, db) := by
  rfl

theorem loadClientChildren_ok {row : ClientRow} :
    (Store.loadClientChildren row).run exec db = .ok (client, after) ↔
      client = db.clientOf row ∧ after = db := by
  rw [loadClientChildren_run]
  simp [eq_comm]

theorem lockClient_ok (sound : db.Sound) {operation : String} {absent : StoreError} {id : Uuid} :
    (Store.lockClient operation absent id).run exec db = .ok (client, after) ↔
      ∃ row ∈ db.clients, row.id = id ∧ client = db.clientOf row ∧ after = db := by
  simp only [Store.lockClient, Program.run_bind_ok, sound.lockOIDCClientByID]
  constructor
  · rintro ⟨row, s, ⟨⟨member, isID⟩, rfl⟩, loaded⟩
    obtain ⟨rfl, rfl⟩ := loadClientChildren_ok.mp loaded
    exact ⟨row, member, isID, rfl, rfl⟩
  · rintro ⟨row, member, isID, rfl, rfl⟩
    exact ⟨row, _, ⟨⟨member, isID⟩, rfl⟩, loadClientChildren_run row⟩

end Clients

/-! ## Audit -/

section Audit

variable {db after : Db}

/-- The database with one more event. -/
def Db.logged (db : Db) (row : AuditEvent) : Db := { db with auditEvents := db.auditEvents ++ [row] }

theorem insertAudit_ok {event : Audit.Event} :
    (Store.insertAudit event).run exec db = .ok ((), after) ↔
      event.validate = true ∧ event.row.insertViolation db = none ∧ after = db.logged event.row := by
  simp only [Store.insertAudit, Program.run_bind_ok, Program.run_require_ok, Tx.query_ok,
    createAuditEvent, exec_insert_auditEvents]
  constructor
  · rintro ⟨_, s, ⟨valid, rfl⟩, allowed, rfl⟩
    exact ⟨valid, allowed, rfl⟩
  · rintro ⟨valid, allowed, rfl⟩
    exact ⟨(), db, ⟨valid, rfl⟩, allowed, rfl⟩

theorem insertNewAudit_ok {build : Uuid → Audit.Event} :
    (Store.insertNewAudit build).run exec db = .ok ((), after) ↔
      (build (freshEventID db)).validate = true ∧
        (build (freshEventID db)).row.insertViolation db = none ∧
        after = db.logged (build (freshEventID db)).row := by
  simp only [Store.insertNewAudit, Program.run_bind_ok, Program.run_require_ok, Tx.query_ok,
    insertAudit_ok]
  constructor
  · rintro ⟨id, s, executed, _, s', ⟨valid, rfl⟩, -, allowed, rfl⟩
    cases executed
    exact ⟨valid, allowed, rfl⟩
  · rintro ⟨valid, allowed, rfl⟩
    exact ⟨_, db, rfl, (), db, ⟨valid, rfl⟩, valid, allowed, rfl⟩

/-- The identifier of a new event is unused. -/
theorem ne_freshEventID {old : AuditEvent} (member : old ∈ db.auditEvents) :
    old.id ≠ freshEventID db := by
  have below (ids : List Uuid) : ∀ id ∈ ids, id ≤ ids.foldr max 0 := by
    induction ids with
    | nil => exact nofun
    | cons first rest ih =>
      intro id inIDs
      rcases List.mem_cons.mp inIDs with rfl | inRest
      · exact le_max_left ..
      · exact (ih id inRest).trans (le_max_right ..)
  have notAbove := below _ old.id (List.mem_map_of_mem member)
  simp only [freshEventID]
  lia

/-- Two events that may not both be recorded have one type and one target. -/
theorem AuditEvent.oncePerTarget_eq_some {first second : AuditEvent} {key : String × Uuid}
    (isFirst : first.oncePerTarget = some key) (isSecond : second.oncePerTarget = some key) :
    first.eventType = second.eventType ∧ first.targetID = second.targetID := by
  simp only [AuditEvent.oncePerTarget] at isFirst isSecond
  split at isFirst <;> cases isFirst <;> split at isSecond <;> simp_all

/-- A protocol event can be recorded about a target it was not recorded about before. -/
theorem insertProtocolAudit_run {type : Audit.EventType} {result : Audit.Result} {actor target : Uuid}
    {targetType : Audit.TargetType} {requestID : Audit.RequestID} {changed : List String} {now : Time}
    (known : ∃ user ∈ db.users, user.id = actor) (notNil : target ≠ Uuid.nil) (notZero : now ≠ 0)
    (listed : ∀ field ∈ Audit.compact (sortStrings changed), field ∈ Audit.validChangedFields)
    (unrecorded : type ∈ [.authorizationCodeExchangeRejected, .refreshTokenExchangeRejected,
      .refreshTokenReuseDetected] → ∀ old ∈ db.auditEvents, old.oncePerTarget ≠ none →
        old.eventType = type → old.targetID ≠ some target) :
    ∃ event, event.eventType = type ∧
      (Store.insertProtocolAudit type result actor targetType target requestID changed now).run exec
        db = .ok ((), db.logged event) := by
  refine ⟨_, rfl, insertNewAudit_ok.mpr ⟨?_, ?_, rfl⟩⟩
  · have listed : ∀ field ∈ Audit.compact (sortStrings changed),
        Audit.validChangedFields.contains field := by simpa using listed
    simpa [Audit.Event.validate, Audit.newEvent, freshEventID, Uuid.nil, Time.isZero, requestID.valid,
      notZero] using ⟨notNil, by simpa using listed⟩
  · simp only [AuditEvent.insertViolation, firstViolation_eq_none, List.mem_cons, List.not_mem_nil,
      or_false, forall_eq_or_imp, forall_eq, checkViolation_eq_none, AuditEvent.checks]
    refine ⟨?_, ?_, ?_, ?_⟩
    · refine ⟨by simpa [Audit.newEvent, Audit.Event.row] using listed, ?_, rfl⟩
      by_cases isEmpty : requestID.text = ""
      · simp [Audit.Event.row, Audit.newEvent, pointerString, isEmpty]
      · simp [Audit.Event.row, Audit.newEvent, pointerString, isEmpty, requestID.valid]
    · rw [uniqueViolation_eq_none, List.any_eq_false]
      exact fun old member => by
        simpa [Audit.Event.row, Audit.newEvent] using ne_freshEventID member
    · rw [Option.bind_eq_none_iff]
      intro key isKey
      rw [uniqueViolation_eq_none, List.any_eq_false]
      intro old member
      rw [beq_iff_eq]
      intro sameKey
      obtain ⟨sameType, sameTarget⟩ := AuditEvent.oncePerTarget_eq_some sameKey isKey
      refine unrecorded ?_ old member (sameKey ▸ Option.some_ne_none key) sameType sameTarget
      by_contra ordinary
      exact Option.some_ne_none key (isKey.symm.trans (AuditEvent.oncePerTarget_eq_none ordinary))
    · obtain ⟨user, member, isActor⟩ := known
      rw [foreignKeyViolation_eq_none]
      simpa [Db.resolves, Audit.Event.row, Audit.newEvent, Db.user?] using ⟨user, member, isActor⟩

end Audit

/-! ## Cascades -/

section Cascades

variable {db after : Db} {families accesses : Selector} {now : Time} {reason : RevokeReason}

/-- The family a revocation leaves behind. -/
def RefreshTokenFamily.revoked (family : RefreshTokenFamily) (now : Time) (reason : RevokeReason) :
    RefreshTokenFamily := { family with revokedAt := some now, revokeReason := some reason }

/-- The access token a revocation leaves behind. -/
def AccessToken.revoked (token : AccessToken) (now : Time) (reason : RevokeReason) : AccessToken :=
  { token with revokedAt := some now, revokeReason := some reason }

/-- The families a cascade stamps. -/
def Queries.Selector.stampsFamily (selector : Selector) (family : RefreshTokenFamily) : Bool :=
  family.revokedAt.isNone && selector.ofFamily family

/-- The access tokens a cascade stamps. -/
def Queries.Selector.stampsAccess (selector : Selector) (now : Time) (token : AccessToken) : Bool :=
  token.revokedAt.isNone && (selector.ofAccess token && now < token.expiresAt)

/-- The database after its families were revoked. -/
def Db.revokedFamilies (db : Db) (selector : Selector) (now : Time) (reason : RevokeReason) : Db :=
  { db with
    refreshTokenFamilies := updateRows selector.stampsFamily
      (·.revoked now reason) db.refreshTokenFamilies }

/-- The database after its live access tokens were revoked. -/
def Db.revokedAccesses (db : Db) (selector : Selector) (now : Time) (reason : RevokeReason) : Db :=
  { db with
    accessTokens := updateRows (selector.stampsAccess now) (·.revoked now reason) db.accessTokens }

/-- Every family the cascade stamps may carry the stamp. -/
def Db.FamiliesStampable (db : Db) (selector : Selector) (now : Time) (reason : RevokeReason) :
    Prop :=
  ∀ family ∈ db.refreshTokenFamilies, selector.stampsFamily family →
    checkViolation ((family.revoked now reason).checks db.zone) = none

/-- Every access token the cascade stamps may carry the stamp. -/
def Db.AccessesStampable (db : Db) (selector : Selector) (now : Time) (reason : RevokeReason) :
    Prop :=
  ∀ token ∈ db.accessTokens, selector.stampsAccess now token →
    checkViolation (token.revoked now reason).checks = none

theorem exec_revokeRefreshTokenFamilies {selector : Selector} {answer : List RefreshTokenFamily} :
    exec (revokeRefreshTokenFamilies selector now (some reason)) db = .ok (answer, after) ↔
      db.FamiliesStampable selector now reason ∧
        answer = (db.refreshTokenFamilies.filter selector.stampsFamily).map (·.revoked now reason) ∧
        after = db.revokedFamilies selector now reason :=
  query_update exec_update_refreshTokenFamilies

theorem exec_revokeLiveAccessTokens {selector : Selector} {answer : List AccessToken} :
    exec (revokeLiveAccessTokens selector now (some reason)) db = .ok (answer, after) ↔
      db.AccessesStampable selector now reason ∧
        answer =
          (db.accessTokens.filter (selector.stampsAccess now)).map (·.revoked now reason) ∧
        after = db.revokedAccesses selector now reason :=
  query_update exec_update_accessTokens

/-- The database after a cascade. -/
def Db.cascaded (db : Db) (families accesses : Selector) (now : Time) (reason : RevokeReason) : Db :=
  (db.revokedFamilies families now reason).revokedAccesses accesses now reason

theorem cascade_ok {lockFamilies lockAccesses revokeFamilies revokeAccesses : String} :
    (Store.cascade families accesses now reason lockFamilies lockAccesses revokeFamilies
        revokeAccesses).run exec db = .ok ((), after) ↔
      db.FamiliesStampable families (timestamp now) reason ∧
        db.AccessesStampable accesses (timestamp now) reason ∧
        after = db.cascaded families accesses (timestamp now) reason := by
  simp only [Store.cascade, Program.run_bind_ok, Tx.query_ok, lockUnrevokedRefreshTokenFamilies,
    lockLiveAccessTokens, exec_lock_refreshTokenFamilies, exec_lock_accessTokens,
    exec_revokeRefreshTokenFamilies, exec_revokeLiveAccessTokens, Program.run_pure_ok,
    Prod.mk.injEq]
  constructor
  · rintro ⟨_, _, ⟨-, rfl⟩, _, _, ⟨-, rfl⟩, _, _, ⟨stampable, -, rfl⟩, _, _, ⟨stamps, -, rfl⟩, -, rfl⟩
    exact ⟨stampable, stamps, rfl⟩
  · rintro ⟨stampable, stamps, rfl⟩
    exact ⟨_, _, ⟨rfl, rfl⟩, _, _, ⟨rfl, rfl⟩, _, _, ⟨stampable, rfl, rfl⟩, _, _,
      ⟨stamps, rfl, rfl⟩, trivial, rfl⟩

/-! ### When a row may be stamped -/

/-- A stored family may be revoked exactly when the instant is not before its creation. -/
theorem family_stampable {zone : Zone} {family : RefreshTokenFamily}
    (valid : checkViolation (family.checks zone) = none) (admitted : familyReasons.contains reason) :
    checkViolation ((family.revoked now reason).checks zone) = none ↔ family.createdAt ≤ now := by
  simp only [checkViolation_eq_none, RefreshTokenFamily.checks, RefreshTokenFamily.revoked,
    List.mem_cons, List.not_mem_nil, or_false, forall_eq_or_imp, forall_eq, Bool.and_eq_true,
    decide_eq_true_eq, Option.all_some, revokeReasonValid] at valid ⊢
  constructor
  · exact fun stamped => of_decide_eq_true stamped.1.2
  · exact fun inOrder => ⟨⟨⟨decide_eq_true valid.1.1.1, decide_eq_true valid.1.1.2⟩,
      decide_eq_true inOrder⟩, admitted, valid.2.2⟩

/-- A stored access token may be revoked exactly when the instant is not before its issue. -/
theorem access_stampable {token : AccessToken} (valid : checkViolation token.checks = none)
    (admitted : accessReasons.contains reason) :
    checkViolation (token.revoked now reason).checks = none ↔ token.issuedAt ≤ now := by
  simp only [checkViolation_eq_none, AccessToken.checks, AccessToken.revoked,
    List.mem_cons, List.not_mem_nil, or_false, forall_eq_or_imp, forall_eq, Bool.and_eq_true,
    decide_eq_true_eq, Option.all_some, revokeReasonValid] at valid ⊢
  constructor
  · exact fun stamped => of_decide_eq_true stamped.2.1.2
  · exact fun inOrder => ⟨valid.1, ⟨⟨decide_eq_true valid.2.1.1.1, decide_eq_true valid.2.1.1.2⟩,
      decide_eq_true inOrder⟩, valid.2.2.1, admitted, valid.2.2.2.2⟩

theorem familiesStampable_iff (sound : db.Sound) (admitted : familyReasons.contains reason) :
    db.FamiliesStampable families now reason ↔
      ∀ family ∈ db.refreshTokenFamilies, families.stampsFamily family → family.createdAt ≤ now :=
  forall₂_congr fun family member => imp_congr_right fun _ =>
    family_stampable (sound.families.valid family member) admitted

theorem accessesStampable_iff (sound : db.Sound) (admitted : accessReasons.contains reason) :
    db.AccessesStampable accesses now reason ↔
      ∀ token ∈ db.accessTokens, accesses.stampsAccess now token → token.issuedAt ≤ now :=
  forall₂_congr fun token member => imp_congr_right fun _ =>
    access_stampable (sound.accesses.valid token member) admitted

/-- What a cascade stamps was not created after the instant. -/
structure Db.InOrder (families accesses : Selector) (now : Time) (db : Db) : Prop where
  families : ∀ family ∈ db.refreshTokenFamilies, families.stampsFamily family →
    family.createdAt ≤ now
  accesses : ∀ token ∈ db.accessTokens, accesses.stampsAccess now token → token.issuedAt ≤ now

theorem inOrder_iff (sound : db.Sound) {accessReason : RevokeReason}
    (admitted : familyReasons.contains reason) (alsoAdmitted : accessReasons.contains accessReason) :
    db.FamiliesStampable families now reason ∧ db.AccessesStampable accesses now accessReason ↔
      db.InOrder families accesses now := by
  rw [familiesStampable_iff sound admitted, accessesStampable_iff sound alsoAdmitted]
  exact ⟨fun ⟨families, accesses⟩ => ⟨families, accesses⟩,
    fun ⟨families, accesses⟩ => ⟨families, accesses⟩⟩

/-! ### What a cascade leaves -/

/-- Nothing the selectors name is alive: families are revoked, access tokens are revoked or
expired. -/
structure Db.Dead (families accesses : Selector) (now : Time) (db : Db) : Prop where
  families : ∀ family ∈ db.refreshTokenFamilies, families.ofFamily family → family.revokedAt.isSome
  accesses : ∀ token ∈ db.accessTokens, accesses.ofAccess token →
    token.revokedAt.isSome ∨ token.expiresAt ≤ now

theorem revokedFamilies_dead {family : RefreshTokenFamily}
    (member : family ∈ (db.revokedFamilies families now reason).refreshTokenFamilies)
    (selected : families.ofFamily family) : family.revokedAt.isSome := by
  obtain ⟨old, inBefore, rfl⟩ := mem_updateRows.mp member
  split
  · rfl
  · rename_i notStamped
    rw [if_neg notStamped] at selected
    rw [Selector.stampsFamily, selected, Bool.and_true] at notStamped
    exact Option.isSome_iff_ne_none.mpr fun unrevoked => notStamped (unrevoked ▸ rfl)

/-- A selected family is there after the cascade, and revoked. -/
theorem revokedFamilies_kept {family : RefreshTokenFamily}
    (stored : family ∈ db.refreshTokenFamilies) (selected : families.ofFamily family) :
    ∃ row ∈ (db.revokedFamilies families now reason).refreshTokenFamilies, row.id = family.id ∧
      row.revokedAt.isSome := by
  cases revoked : family.revokedAt with
  | none =>
    exact ⟨family.revoked now reason, mem_updateRows.mpr
      ⟨family, stored, by simp [Selector.stampsFamily, revoked, selected]⟩, rfl, rfl⟩
  | some time =>
    exact ⟨family, mem_updateRows.mpr ⟨family, stored, by simp [Selector.stampsFamily, revoked]⟩,
      rfl, by simp [revoked]⟩

theorem revokedAccesses_dead {token : AccessToken}
    (member : token ∈ (db.revokedAccesses accesses now reason).accessTokens)
    (selected : accesses.ofAccess token) : token.revokedAt.isSome ∨ token.expiresAt ≤ now := by
  obtain ⟨old, inBefore, rfl⟩ := mem_updateRows.mp member
  split
  · exact Or.inl rfl
  · rename_i notStamped
    rw [if_neg notStamped] at selected
    rw [Selector.stampsAccess, selected, Bool.true_and, Bool.and_eq_true, decide_eq_true_eq] at notStamped
    by_cases unrevoked : old.revokedAt.isNone
    · exact Or.inr (not_lt.mp fun live => notStamped ⟨unrevoked, live⟩)
    · exact Or.inl (by simpa [Option.isSome_iff_ne_none] using unrevoked)

/-- Nothing a cascade selects is alive after it. -/
theorem cascaded_dead : (db.cascaded families accesses now reason).Dead families accesses now where
  families family member selected := by
    have inRevoked : family ∈ (db.revokedFamilies families now reason).refreshTokenFamilies := member
    exact revokedFamilies_dead inRevoked selected
  accesses _ member selected := revokedAccesses_dead member selected

end Cascades

end OneIssuer
