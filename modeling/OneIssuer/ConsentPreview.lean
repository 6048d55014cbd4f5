import OneIssuer.Browser.Activity
import OneIssuer.ScopeChain

/-!
# Consent preview and consent commit

`Evaluate` looks at the grant of a user before a code is issued; `lockAndApplyConsent` looks at it again
when the code is issued, and an interactive consent writes it. Both reduce to one question about the
stored grant (`Grants`): it is unrevoked and has every requested scope.

`Evaluate` reads a row more strictly than the commit does. It refuses a grant that was created at Go's
zero time, and PostgreSQL stores the first microsecond of that clock as zero.

**What it does not establish.** That the user saw the scopes that an interactive commit grants.
-/

set_option autoImplicit false

namespace OneIssuer.Browser

open Relational Store Token Consent

/-! ## The grant of a user for a client -/

/-- `GetConsentGrantByUserClient`. -/
def grantOf (db : Db) (userID clientID : Uuid) : Option ConsentGrant :=
  db.consentGrants.find? fun row => row.userID == userID && row.clientID == clientID

/-- The grant of the user for the client is unrevoked and has these scopes. -/
def Grants (db : Db) (userID clientID : Uuid) (scopes : List String) : Prop :=
  ∃ grant, grantOf db userID clientID = some grant ∧ grant.revokedAt = none ∧
    ∀ scope ∈ scopes, scope ∈ grant.scopes

/-- The grant of the user for the client, if there is one, has an identifier and a creation time. -/
def Presentable (db : Db) (userID clientID : Uuid) : Prop :=
  ∀ grant, grantOf db userID clientID = some grant →
    grant.id ≠ Uuid.nil ∧ grant.createdAt.isZero = false

section Grants

variable {db after : Db} {userID clientID : Uuid} {grant : ConsentGrant}

theorem grantOf_some (sound : db.Sound) :
    grantOf db userID clientID = some grant ↔
      grant ∈ db.consentGrants ∧ grant.userID = userID ∧ grant.clientID = clientID := by
  constructor
  · intro found
    have parties := List.find?_some found
    simp only [Bool.and_eq_true, beq_iff_eq] at parties
    exact ⟨List.mem_of_find?_eq_some found, parties⟩
  · rintro ⟨member, rfl, rfl⟩
    cases found : grantOf db grant.userID grant.clientID with
    | none =>
      have absent := List.find?_eq_none.mp found grant member
      simp at absent
    | some other =>
      have parties := List.find?_some found
      simp only [Bool.and_eq_true, beq_iff_eq] at parties
      have same : other = grant := eq_of_key sound.grantParties (List.mem_of_find?_eq_some found)
        member (by rw [parties.1, parties.2])
      rw [same]

theorem grantOf_none :
    grantOf db userID clientID = none ↔
      ∀ grant ∈ db.consentGrants, ¬ (grant.userID = userID ∧ grant.clientID = clientID) := by
  simp [grantOf, List.find?_eq_none]

/-- The row `lockAndApplyConsent` locks is the row `Evaluate` reads. -/
theorem lockedGrant (sound : db.Sound) :
    (lockedRows consentGrantsTable.order (fun r => r.userID == userID && r.clientID == clientID)
      db.consentGrants).head? = grantOf db userID clientID := by
  cases locked : (lockedRows consentGrantsTable.order
      (fun r => r.userID == userID && r.clientID == clientID) db.consentGrants).head? with
  | none =>
    symm
    rw [grantOf_none]
    rintro grant member ⟨isUser, isClient⟩
    have inLocked : grant ∈ lockedRows consentGrantsTable.order
        (fun r => r.userID == userID && r.clientID == clientID) db.consentGrants :=
      mem_lockedRows.mpr ⟨member, by simp [isUser, isClient]⟩
    rw [List.head?_eq_none_iff.mp locked] at inLocked
    cases inLocked
  | some grant =>
    obtain ⟨member, parties⟩ := lockedRows_head locked
    simp only [Bool.and_eq_true, beq_iff_eq] at parties
    exact ((grantOf_some sound).mpr ⟨member, parties⟩).symm

/-- The scopes of a stored grant are their own canonical form. -/
theorem grant_canonical (sound : db.Sound) (member : grant ∈ db.consentGrants) :
    canonicalScopes grant.scopes = some grant.scopes := by
  have valid : scopesValid 1 grant.scopes = true :=
    sound.grants.check member "consent_grants_scopes_valid" (by simp [ConsentGrant.checks])
  simp only [scopesValid, Bool.and_eq_true, sortedUnique, beq_iff_eq, List.all_eq_true,
    List.contains_iff_mem] at valid
  obtain ⟨⟨⟨-, listed⟩, openid⟩, unique⟩ := valid
  have sorted := sortedSet_pairwise grant.scopes
  rw [unique] at sorted
  exact canonicalScopes_listed _
    (mem_sublists_of_sorted (by decide) sorted fun scope inScopes => listed scope inScopes) openid

end Grants

/-! ## The preview -/

/-- A request `Evaluate` accepts: a user, an active client and a scope set of the client. -/
structure Admissible (userID : Uuid) (client : Client) (scopes requested : List String) : Prop where
  isUser : userID ≠ Uuid.nil
  isActive : activeClientRecord client = true
  canonical : canonicalScopes scopes = some requested
  registered : scopeSubset requested client.scopes = true

/-- What `Evaluate` reports in a state. -/
def preview (app : Application) (environment : Environment) (db : Db) (userID : Uuid) (client : Client)
    (scopes : List String) : Option Evaluation :=
  (runAlone app environment (evaluate userID client scopes) (0, db)).1

/-- `Evaluate` reports that the grant covers the request. -/
def Covers (app : Application) (environment : Environment) (db : Db) (userID : Uuid) (client : Client)
    (scopes : List String) : Prop :=
  ∃ evaluated, preview app environment db userID client scopes = some evaluated ∧
    evaluated.covers = true

section Preview

variable {app : Application} {environment : Environment} {db after : Db} {userID : Uuid}
  {client : Client} {scopes requested : List String}

theorem preview_eq (admissible : Admissible userID client scopes requested) :
    preview app environment db userID client scopes =
      evaluation requested client userID (grantOf db userID client.id) := by
  have accepted : (userID == Uuid.nil || !activeClientRecord client ||
      !scopeSubset requested client.scopes) = false := by
    simp [admissible.isUser, admissible.isActive, admissible.registered]
  unfold preview runAlone evaluate
  simp only [admissible.canonical, accepted, Bool.false_eq_true, if_false]
  rfl

/-- The requested scopes are supported. -/
theorem Admissible.supported (admissible : Admissible userID client scopes requested) :
    ∀ scope ∈ requested, supported scope := by
  obtain ⟨rfl, allSupported⟩ := canonicalScopes_some admissible.canonical
  exact fun scope member => allSupported scope (mem_sortStrings.mp member)

/-- A request within the client's scopes leaves nothing over exactly when the grant has its scopes. -/
theorem Admissible.covered (admissible : Admissible userID client scopes requested)
    (stored : List String) :
    (difference requested (intersection stored client.scopes)).isEmpty = true ↔
      ∀ scope ∈ requested, scope ∈ stored := by
  rw [List.isEmpty_iff, difference_eq_nil]
  constructor
  · intro within scope member
    exact (mem_intersection.mp (within scope member (admissible.supported scope member))).1
  · intro within scope member isSupported
    exact mem_intersection.mpr ⟨within scope member, isSupported,
      scopeSubset_iff.mp admissible.registered scope member⟩

/-- Without a grant something is left over. -/
theorem Admissible.uncovered (admissible : Admissible userID client scopes requested) :
    (difference requested []).isEmpty = false := by
  obtain ⟨⟨-, -, openid⟩, rfl⟩ := canonicalScopes_iff.mp admissible.canonical
  have left : "openid" ∈ difference (sortStrings scopes) [] :=
    mem_difference.mpr ⟨mem_sortStrings.mpr openid, rfl, List.not_mem_nil⟩
  rw [List.isEmpty_eq_false_iff]
  exact List.ne_nil_of_mem left

/-- What a stored grant says about a request. -/
theorem evaluation_stored (sound : db.Sound) (presentable : Presentable db userID client.id)
    (admissible : Admissible userID client scopes requested) {grant : ConsentGrant}
    (found : grantOf db userID client.id = some grant) :
    ∃ evaluated, evaluation requested client userID (some grant) = some evaluated ∧
      (evaluated.covers = true ↔ grant.revokedAt = none ∧ ∀ scope ∈ requested, scope ∈ grant.scopes) := by
  obtain ⟨named, dated⟩ := presentable grant found
  obtain ⟨member, rfl, isClient⟩ := (grantOf_some sound).mp found
  have ordered : (decide (grant.createdAt ≤ grant.updatedAt) &&
      grant.revokedAt.all fun t => grant.createdAt ≤ t) = true :=
    sound.grants.check member "consent_grants_timestamps_valid" (by simp [ConsentGrant.checks])
  have versioned : decide (0 < grant.version) = true :=
    sound.grants.check member "consent_grants_version_valid" (by simp [ConsentGrant.checks])
  have accepted : (grant.id == Uuid.nil || grant.userID != grant.userID || grant.clientID != client.id ||
      decide (grant.version < 1) || grant.createdAt.isZero || decide (grant.updatedAt < grant.createdAt) ||
      grant.revokedAt.any fun t => decide (t < grant.createdAt)) = false := by
    obtain ⟨updated, revoked⟩ := Bool.and_eq_true_iff.mp ordered
    have positive := of_decide_eq_true versioned
    have notRevoked : (grant.revokedAt.any fun t => decide (t < grant.createdAt)) = false := by
      cases isRevoked : grant.revokedAt with
      | none => rfl
      | some time =>
        rw [isRevoked] at revoked
        exact decide_eq_false (Int.not_lt.mpr (of_decide_eq_true revoked))
    have notOld : decide (grant.updatedAt < grant.createdAt) = false :=
      decide_eq_false (Int.not_lt.mpr (of_decide_eq_true updated))
    have notZero : decide (grant.version < 1) = false := decide_eq_false (Int.not_lt.mpr positive)
    simp only [dated, notRevoked, notOld, notZero, isClient, bne_self_eq_false, Bool.or_false,
      beq_eq_false_iff_ne]
    exact named
  refine ⟨_, by
    simp only [evaluation, accepted, Bool.false_eq_true, if_false, grant_canonical sound member]
    rfl, ?_⟩
  cases isRevoked : grant.revokedAt with
  | none => simpa [isRevoked] using admissible.covered grant.scopes
  | some time => simp [admissible.uncovered]

/-- `Evaluate` reports that a request is covered exactly when the stored grant has its scopes. -/
theorem covers_iff (sound : db.Sound) (presentable : Presentable db userID client.id)
    (admissible : Admissible userID client scopes requested) :
    Covers app environment db userID client scopes ↔ Grants db userID client.id requested := by
  unfold Covers Grants
  rw [preview_eq admissible]
  cases found : grantOf db userID client.id with
  | none =>
    constructor
    · rintro ⟨_, isEvaluated, isCovered⟩
      cases isEvaluated
      cases isCovered
    · rintro ⟨_, isSome, -⟩
      cases isSome
  | some grant =>
    obtain ⟨evaluated, isEvaluated, covered⟩ := evaluation_stored sound presentable admissible found
    rw [isEvaluated]
    constructor
    · rintro ⟨_, same, isCovered⟩
      obtain rfl := Option.some.inj same
      exact ⟨grant, rfl, covered.mp isCovered⟩
    · rintro ⟨_, same, isGranted⟩
      obtain rfl := Option.some.inj same
      exact ⟨evaluated, rfl, covered.mpr isGranted⟩

end Preview

/-! ## The commit -/

section Commit

variable {db after : Db} {client : Client} {scopes requested : List String} {commit : IssueCommit}

theorem lockGrant_run (sound : db.Sound) (operation : String) (userID clientID : Uuid) :
    (Tx.queryOne operation (Queries.lockConsentGrantByUserClient userID clientID)).run exec db =
      .ok (grantOf db userID clientID, db) :=
  Tx.queryOne_ok.mpr ⟨_, exec_lock_consentGrants.mpr ⟨rfl, rfl⟩, (lockedGrant sound).symm⟩

/-- A stored grant passes the checks of the commit. -/
theorem storedGrant_checked (presentable : Presentable db commit.userID client.id) (sound : db.Sound)
    {grant : ConsentGrant}
    (found : grantOf db commit.userID client.id = some grant) :
    (grant.id != Uuid.nil && grant.userID == commit.userID && grant.clientID == client.id &&
      decide (1 ≤ grant.version)) = true := by
  obtain ⟨member, isUser, isClient⟩ := (grantOf_some sound).mp found
  have versioned : decide (0 < grant.version) = true :=
    sound.grants.check member "consent_grants_version_valid" (by simp [ConsentGrant.checks])
  have positive : 1 ≤ grant.version := of_decide_eq_true versioned
  simp [(presentable grant found).1, isUser, isClient, positive]

/-- Without a question to the user the commit asks the question of the preview, and writes nothing. -/
theorem silent_granted (sound : db.Sound) (presentable : Presentable db commit.userID client.id)
    (admissible : Admissible commit.userID client scopes requested)
    (silent : commit.interactiveConsent = false)
    (granted : Grants db commit.userID client.id requested) :
    ∃ grant, (lockAndApplyConsent commit client requested).run exec db =
      .ok ((grant, .unchanged), db) := by
  obtain ⟨grant, found, unrevoked, covered⟩ := granted
  have canonical := grant_canonical sound ((grantOf_some sound).mp found).1
  have isCovered := (admissible.covered grant.scopes).mpr covered
  have notRevoked : grant.revokedAt.isSome = false := by rw [unrevoked]; rfl
  refine ⟨grant, ?_⟩
  rw [lockAndApplyConsent, Program.run_bind, lockGrant_run sound, found]
  simp only [canonical, Program.need, Program.run_bind, Program.run_done, Program.require,
    storedGrant_checked presentable sound found, if_true, notRevoked, Bool.false_eq_true, if_false,
    applyActiveConsent, silent, Bool.not_false, isCovered]
  rfl

theorem silent_refused (sound : db.Sound) (presentable : Presentable db commit.userID client.id)
    (admissible : Admissible commit.userID client scopes requested)
    (silent : commit.interactiveConsent = false)
    (refused : ¬ Grants db commit.userID client.id requested) :
    (lockAndApplyConsent commit client requested).run exec db =
      .error .authorizationConsentRequired := by
  rw [lockAndApplyConsent, Program.run_bind, lockGrant_run sound]
  cases found : grantOf db commit.userID client.id with
  | none => simp [Program.run_bind, Program.require, silent]
  | some grant =>
    have canonical := grant_canonical sound ((grantOf_some sound).mp found).1
    simp only [canonical, Program.need, Program.run_bind, Program.run_done, Program.require,
      storedGrant_checked presentable sound found, if_true]
    cases isRevoked : grant.revokedAt with
    | some time => simp [silent, Program.run_bind]
    | none =>
      have uncovered : (difference requested (intersection grant.scopes client.scopes)).isEmpty = false := by
        rw [Bool.eq_false_iff]
        intro isCovered
        exact refused ⟨grant, found, isRevoked, (admissible.covered grant.scopes).mp isCovered⟩
      simp [applyActiveConsent, silent, uncovered, Program.run_bind, Program.require]

/-- A changed grant counts its change. -/
theorem grantChange_version (change : GrantChange) (grant : ConsentGrant) :
    (change.apply grant).version = grant.version + 1 := by cases change <;> rfl

/-- What an interactive consent makes of the grant that was there before. -/
structure Settled (old : Option ConsentGrant) (requested : List String) (new : ConsentGrant) : Prop where
  unrevoked : new.revokedAt = none
  scopes : ∀ scope, scope ∈ new.scopes ↔
    scope ∈ requested ∨ ∃ row, old = some row ∧ row.revokedAt = none ∧ scope ∈ row.scopes
  version : new.version = match old with
    | none => 1
    | some row => if new = row then row.version else row.version + 1

/-- An interactive commit leaves the grant it answers, and that grant is settled. -/
theorem interactive_settles (sound : db.Sound)
    (admissible : Admissible commit.userID client scopes requested)
    (interactive : commit.interactiveConsent = true) {grant : ConsentGrant} {outcome : GrantOutcome}
    (ran : (lockAndApplyConsent commit client requested).run exec db = .ok ((grant, outcome), after)) :
    grantOf after commit.userID client.id = some grant ∧
      Settled (grantOf db commit.userID client.id) requested grant := by
  have soundAfter : after.Sound := run_sound sound ran
  rw [lockAndApplyConsent, Program.run_bind, lockGrant_run sound] at ran
  cases found : grantOf db commit.userID client.id with
  | none =>
    simp only [found, Program.run_bind_ok, Program.run_require_ok, Tx.query_ok,
      Queries.createConsentGrant, exec_insert_consentGrants, Program.run_pure_ok, Prod.mk.injEq] at ran
    obtain ⟨_, _, ⟨-, rfl⟩, _, _, ⟨-, rfl⟩, ⟨rfl, -⟩, rfl⟩ := ran
    refine ⟨(grantOf_some soundAfter).mpr ⟨List.mem_append_right _ List.mem_cons_self, rfl, rfl⟩, ?_⟩
    exact ⟨rfl, by simp [proposedGrant], rfl⟩
  | some old =>
    obtain ⟨member, isUser, isClient⟩ := (grantOf_some sound).mp found
    simp only [found, grant_canonical sound member, Program.run_bind_ok, Program.run_need_ok,
      Program.run_require_ok, Option.some.injEq] at ran
    obtain ⟨_, _, ⟨rfl, rfl⟩, _, _, ⟨-, rfl⟩, ran⟩ := ran
    have counted : ∀ change : GrantChange, (change.apply old).version =
        if change.apply old = old then old.version else old.version + 1 := by
      intro change
      have changed : change.apply old ≠ old := fun same => by
        have version := grantChange_version change old
        rw [same] at version
        omega
      rw [if_neg changed, grantChange_version]
    split at ran
    · rename_i revoked
      simp only [Program.run_bind_ok, Program.run_require_ok, Program.run_pure_ok,
        Prod.mk.injEq] at ran
      obtain ⟨_, _, ⟨-, rfl⟩, _, _, changed, ⟨rfl, -⟩, rfl⟩ := ran
      obtain ⟨rfl, rfl⟩ := changeGrant_ok sound member changed
      refine ⟨(grantOf_some soundAfter).mpr ⟨changed_mem member revoked, isUser, isClient⟩,
        rfl, fun scope => ?_, counted _⟩
      refine ⟨.inl, fun either => either.elim id ?_⟩
      rintro ⟨row, same, unrevoked, -⟩
      obtain rfl := Option.some.inj same
      rw [unrevoked] at revoked
      cases revoked
    · rename_i notRevoked
      have unrevoked := Option.not_isSome_iff_eq_none.mp notRevoked
      have oldScopes : ∀ scope, (∃ row, some old = some row ∧ row.revokedAt = none ∧ scope ∈ row.scopes) ↔
          scope ∈ old.scopes := fun scope => by simp [unrevoked]
      have inUnion : ∀ scope, scope ∈ union old.scopes requested ↔ scope ∈ requested ∨
          ∃ row, some old = some row ∧ row.revokedAt = none ∧ scope ∈ row.scopes := by
        intro scope
        have supportedOld := (canonicalScopes_some (grant_canonical sound member)).2
        rw [mem_union, oldScopes, or_comm]
        exact and_iff_right_of_imp fun either => either.elim (admissible.supported scope) (supportedOld scope)
      simp only [applyActiveConsent, interactive, Bool.not_true, Bool.false_eq_true, if_false] at ran
      split at ran
      · rename_i same
        cases ran
        refine ⟨found, unrevoked, fun scope => ?_, by simp⟩
        rw [← inUnion, beq_iff_eq.mp same]
      · simp only [Program.run_bind_ok, Program.run_pure_ok, Prod.mk.injEq] at ran
        obtain ⟨_, _, changed, ⟨rfl, -⟩, rfl⟩ := ran
        obtain ⟨rfl, rfl⟩ := changeGrant_ok sound member changed
        have allowed : GrantChange.guard (.expand (union old.scopes requested)
            (timestamp commit.createdAt)) old = true := by simp [GrantChange.guard, unrevoked]
        exact ⟨(grantOf_some soundAfter).mpr ⟨changed_mem member allowed, isUser, isClient⟩,
          unrevoked, inUnion, counted _⟩

end Commit

/-! ## Later states -/

section Later

variable {sha : Sha256} {zone : Zone} {entries later past : List Entry} {db : Db} {entry : Entry}
  {userID clientID : Uuid} {scopes : List String}

/-- The calls that write grants. -/
theorem grants_cases (took : entry.Ran sha) (sound : entry.before.Sound) :
    entry.after.consentGrants = entry.before.consentGrants ∨
      (∃ commit grant, Nonempty (Issued commit grant entry.before entry.after)) ∨
      ∃ input, GrantRevocationEnd input entry.before entry.after := by
  rcases took.cases with ran | ⟨-, unchanged⟩
  · by_cases writes : .grant ∈ entry.call.kinds
    · cases isCall : entry.call <;>
        simp only [isCall, Call.kinds, List.mem_cons, reduceCtorEq, List.not_mem_nil, or_false,
          or_true] at writes
      · rw [isCall] at ran
        exact .inr (.inl ⟨_, issue_ran sound ran⟩)
      · rw [isCall] at ran
        obtain ⟨⟨_, revoked⟩, -⟩ := quietly_ok.mp ran
        exact .inr (.inr ⟨_, revokeCurrentUserGrant_ok sound revoked⟩)
    · have within := entry.call.body_within sha
      rcases entry.call.kinds_retire with retiring | growing
      · rw [retiring] at within
        exact .inl (run_shrank within ran).grants
      · exact .inl ((run_stayed within growing ran).grants writes)
  · exact .inl (by rw [unchanged])

/-- A SET clause on one grant leaves the others alone. -/
theorem changedGrants_kept {grants : List ConsentGrant} {change : GrantChange} {id : Uuid}
    {old : ConsentGrant} (member : old ∈ grants) :
    old ∈ changedGrants grants change id ∨
      change.guard old = true ∧ change.apply old ∈ changedGrants grants change id := by
  by_cases chosen : (change.guard old && old.id == id) = true
  · have applied : change.apply old ∈ changedGrants grants change id :=
      mem_updateRows.mpr ⟨old, member, by rw [if_pos chosen]⟩
    exact .inr ⟨(Bool.and_eq_true_iff.mp chosen).1, applied⟩
  · exact .inl (mem_updateRows.mpr ⟨old, member, by rw [if_neg chosen]⟩)

theorem changedGrants_other {grants : List ConsentGrant} {change : GrantChange} {id : Uuid}
    {old : ConsentGrant} (member : old ∈ grants) (other : old.id ≠ id) :
    old ∈ changedGrants grants change id :=
  mem_updateRows.mpr ⟨old, member, by simp [other]⟩

/-- The grant is still there; unless it is revoked now, it has its scopes. -/
def Kept (old : ConsentGrant) (grants : List ConsentGrant) : Prop :=
  ∃ new ∈ grants, new.userID = old.userID ∧ new.clientID = old.clientID ∧
    (new.revokedAt = none → ∀ scope ∈ old.scopes, scope ∈ new.scopes)

theorem Kept.of_mem {old : ConsentGrant} {grants : List ConsentGrant} (member : old ∈ grants) :
    Kept old grants := ⟨old, member, rfl, rfl, fun _ _ inScopes => inScopes⟩

theorem consent_kept {commit : IssueCommit} {requested : List String} {grant old : ConsentGrant}
    {grants : List ConsentGrant} (sound : db.Sound)
    (ended : ConsentEnd commit clientID requested db grant grants) (member : old ∈ db.consentGrants)
    (unrevoked : old.revokedAt = none) : Kept old grants := by
  cases ended with
  | unchanged => exact .of_mem member
  | created => exact .of_mem (List.mem_append_left _ member)
  | @expanded current inGrants _ _ _ _ wider widerScopes _ =>
    by_cases same : old.id = current.id
    · obtain rfl := sound.grants.unique member inGrants same
      have allowed : GrantChange.guard (.expand wider (timestamp commit.createdAt)) old = true := by
        simp [GrantChange.guard, unrevoked]
      exact ⟨_, changed_mem member allowed, rfl, rfl, fun _ => widerScopes⟩
    · exact .of_mem (changedGrants_other member same)
  | reactivated =>
    rcases changedGrants_kept member with kept | ⟨allowed, -⟩
    · exact .of_mem kept
    · simp [GrantChange.guard, unrevoked] at allowed

theorem revocation_kept {input : RevokeInput} {after : Db} {old : ConsentGrant}
    (ended : GrantRevocationEnd input db after) (member : old ∈ db.consentGrants) :
    Kept old after.consentGrants := by
  cases ended with
  | unchanged => exact .of_mem member
  | @revoked _ grant _ _ _ _ _ _ _ _ _ appended =>
    have isAfter : after.consentGrants = changedGrants db.consentGrants _ grant.id :=
      congrArg Db.consentGrants appended
    rw [isAfter]
    rcases changedGrants_kept member with kept | ⟨-, applied⟩
    · exact .of_mem kept
    · exact ⟨_, applied, rfl, rfl, nofun⟩

/-- One step keeps the scopes of an unrevoked grant, unless it revokes the grant. -/
theorem grants_step (took : entry.Ran sha) (sound : entry.before.Sound)
    (granted : Grants entry.before userID clientID scopes)
    (unrevoked : ∀ grant, grantOf entry.after userID clientID = some grant → grant.revokedAt = none) :
    Grants entry.after userID clientID scopes := by
  obtain ⟨old, found, isUnrevoked, covered⟩ := granted
  obtain ⟨member, rfl, rfl⟩ := (grantOf_some sound).mp found
  have kept : Kept old entry.after.consentGrants := by
    rcases grants_cases took sound with unchanged | ⟨commit, grant, ⟨issued⟩⟩ | ⟨input, revocation⟩
    · exact .of_mem (unchanged ▸ member)
    · have isAfter : entry.after.consentGrants = issued.grants :=
        congrArg Db.consentGrants issued.isAfter
      rw [isAfter]
      exact consent_kept sound issued.consent member isUnrevoked
    · exact revocation_kept revocation member
  obtain ⟨new, inAfter, sameUser, sameClient, wider⟩ := kept
  have isNew := (grantOf_some (took.sound sound)).mpr ⟨inAfter, sameUser, sameClient⟩
  have stillUnrevoked := unrevoked new isNew
  exact ⟨new, isNew, stillUnrevoked, fun scope inScopes =>
    wider stillUnrevoked scope (covered scope inScopes)⟩

/-- The step between `later` and `past`. -/
theorem Run.at_append (later : List Entry) (run : Run sha zone (later ++ entry :: past) db) :
    Run.At sha zone (later ++ entry :: past) db entry later past := by
  induction later generalizing db with
  | nil =>
    cases run with
    | step ran took read fresh =>
      exact ⟨rfl, ran, .step ran took read fresh, took, read, fun _ seen => seen⟩
  | cons last later ih =>
    cases run with
    | step ran took read fresh =>
      have found := ih ran
      exact { found with
        split := congrArg (last :: ·) found.split
        states := fun seen inPart => List.mem_cons_of_mem _ (found.states seen inPart) }

/-- What a grant has, it has until it is revoked. -/
theorem grants_lasting {start : Db} (begun : Run sha zone past start)
    (granted : Grants start userID clientID scopes) (run : Run sha zone (later ++ past) db)
    (unrevoked : ∀ seen ∈ states later db, ∀ grant, grantOf seen userID clientID = some grant →
      grant.revokedAt = none) :
    Grants db userID clientID scopes := by
  induction later generalizing db with
  | nil =>
    obtain rfl := begun.unique run
    exact granted
  | cons last later ih =>
    rw [List.cons_append] at run
    cases run with
    | step ran took read fresh =>
      have before := ih ran fun seen inStates => unrevoked seen (List.mem_cons_of_mem _ inStates)
      exact grants_step took ran.sound before (unrevoked _ List.mem_cons_self)

end Later

/-- The transaction a code is issued for is the expected one. -/
theorem checked_transaction {row : AuthTransaction} {expected : Transaction} {now : Time}
    (checked : validateLockedAuthorizationTransaction row expected now = .ok ()) :
    row.clientID = expected.clientID ∧ row.scopes = expected.scopes := by
  unfold validateLockedAuthorizationTransaction at checked
  split at checked
  · cases checked
  · split at checked
    · split at checked <;> cases checked
    · split at checked
      · rename_i isExpected
        simp only [matchesExpected, Bool.and_eq_true, beq_iff_eq] at isExpected
        tauto
      · cases checked

/-! ## Agreement -/

/-- The preview and the commit of consent agree, and a grant that was given covers what it was given for
until it is revoked, as long as the client is active and has the scopes. -/
theorem consent_preview_agrees (app : Application) (environment : Environment) :
    (∀ (db : Db) (client : Client) (scopes requested : List String) (commit : IssueCommit),
      db.Sound → Presentable db commit.userID client.id →
      Admissible commit.userID client scopes requested →
      (commit.interactiveConsent = false →
        (Covers app environment db commit.userID client scopes ↔
          (lockAndApplyConsent commit client requested).run exec db ≠
            .error .authorizationConsentRequired) ∧
        ∀ result after, (lockAndApplyConsent commit client requested).run exec db =
          .ok (result, after) → after = db) ∧
      (commit.interactiveConsent = true → ∀ grant outcome after,
        (lockAndApplyConsent commit client requested).run exec db = .ok ((grant, outcome), after) →
        grantOf after commit.userID client.id = some grant ∧
          Settled (grantOf db commit.userID client.id) requested grant)) ∧
    ∀ (zone : Zone) (entries later past : List Entry) (db : Db) (entry : Entry) (commit : IssueCommit)
      (answer : Answer) (row : ClientRow) (scopes : List String),
      Run.At app.sha zone entries db entry later past → Run app.sha zone entries db →
      Presentable db commit.userID row.id →
      entry.call = .issueAuthorizationCode commit → entry.outcome = .ok answer →
      commit.interactiveConsent = true →
      row ∈ db.clients → commit.transaction.clientID = some row.id →
      activeClientRecord (db.clientOf row) = true →
      scopes.Nodup → "openid" ∈ scopes →
      (∀ scope ∈ scopes, scope ∈ commit.transaction.scopes ∧ scope ∈ (db.clientOf row).scopes) →
      (∀ seen ∈ states later db, ∀ grant, grantOf seen commit.userID row.id = some grant →
        grant.revokedAt = none) →
      Covers app environment db commit.userID (db.clientOf row) scopes := by
  refine ⟨fun db client scopes requested commit sound presentable admissible => ⟨fun silent => ?_,
    fun interactive grant outcome after ran => interactive_settles sound admissible interactive ran⟩, ?_⟩
  · rw [covers_iff sound presentable admissible]
    by_cases granted : Grants db commit.userID client.id requested
    · obtain ⟨grant, ran⟩ := silent_granted sound presentable admissible silent granted
      rw [ran]
      refine ⟨iff_of_true granted nofun, fun result after ended => ?_⟩
      exact (Prod.mk.inj (Except.ok.inj ended)).2.symm
    · have ran := silent_refused sound presentable admissible silent granted
      rw [ran]
      exact ⟨iff_of_false granted fun other => other rfl, nofun⟩
  · intro zone entries later past db entry commit answer row scopes found run presentable isCall answered
      interactive inClients isClient isActive nodup openid inside unrevoked
    have ran := found.took.of_ok answered
    rw [isCall] at ran
    obtain ⟨grant, ⟨issued⟩⟩ := issue_ran found.before.sound ran
    obtain ⟨sameClient, sameScopes⟩ := checked_transaction issued.checked
    have isRow : issued.clientID = row.id :=
      Option.some.inj (issued.transactionClient.symm.trans (sameClient.trans isClient))
    -- The issue leaves a grant with the requested scopes, and later steps keep them.
    have given : Grants entry.after commit.userID row.id commit.transaction.scopes := by
      obtain ⟨stored, inGrants, -, isUser, ofClient, isUnrevoked, covered⟩ := issued.consent.covers
      have inAfter : stored ∈ entry.after.consentGrants := by
        rw [issued.isAfter]
        exact inGrants
      refine ⟨stored, (grantOf_some found.after.sound).mpr ⟨inAfter, isUser, ofClient.trans isRow⟩,
        isUnrevoked, fun scope member => covered scope ?_⟩
      rw [(canonicalScopes_some issued.canonical).1, mem_sortStrings, sameScopes]
      exact member
    rw [found.split] at run
    have lasting := grants_lasting found.after given run unrevoked
    obtain ⟨stored, isStored, isUnrevoked, covered⟩ := lasting
    have allSupported : ∀ scope ∈ scopes, supported scope := by
      have transactionScopes := (canonicalScopes_some issued.canonical).2
      rw [sameScopes] at transactionScopes
      exact fun scope member => transactionScopes scope (inside scope member).1
    have admissible : Admissible commit.userID (db.clientOf row) scopes (sortStrings scopes) :=
      { isUser := by
          have valid := issued.valid
          simp only [validateIssueCommit, Bool.and_eq_true, bne_iff_ne] at valid
          tauto
        isActive
        canonical := canonicalScopes_iff.mpr ⟨⟨nodup, allSupported, openid⟩, rfl⟩
        registered := scopeSubset_iff.mpr fun scope member =>
          (inside scope (mem_sortStrings.mp member)).2 }
    rw [covers_iff run.sound presentable admissible]
    exact ⟨stored, isStored, isUnrevoked, fun scope member =>
      covered scope (inside scope (mem_sortStrings.mp member)).1⟩

namespace Sample

open OneIssuer.Sample (client clientCreated codeIssued digest event exchanged exchanged_run flow flow_run
  registration scopes start transaction)

/-- The sample application with the digest of the sample run. -/
def flowApp : Application := { app with sha := OneIssuer.Sample.sha }

/-- The sample issue without a question to the user. -/
def silentIssue : IssueCommit := { OneIssuer.Sample.issue with interactiveConsent := false }

theorem issued_evaluated :
    codeIssued.outcome = .ok .done ∧
      (∀ db ∈ [codeIssued.after, exchanged.after], ∀ grant ∈ db.consentGrants,
        grant.id ≠ Uuid.nil ∧ grant.createdAt.isZero = false ∧ grant.revokedAt = none) ∧
      exchanged.after.authorizationCodes ≠ codeIssued.after.authorizationCodes ∧
      ∃ row ∈ exchanged.after.clients, row.id = 2 ∧
        activeClientRecord (exchanged.after.clientOf row) = true ∧
        ∀ scope ∈ ["profile", "openid"],
          scope ∈ transaction.scopes ∧ scope ∈ (exchanged.after.clientOf row).scopes := by
  decide +kernel

theorem sample_admissible : Admissible silentIssue.userID client scopes scopes :=
  ⟨by decide, by decide, by decide, by decide⟩

/-- After the sample issue a silent commit agrees with the preview, and a part of the request is covered
after the exchange of the code too. -/
theorem consent_preview_agrees_sample :
    (Covers flowApp environment codeIssued.after 1 client scopes ↔
      (lockAndApplyConsent silentIssue client scopes).run exec codeIssued.after ≠
        .error .authorizationConsentRequired) ∧
    exchanged.after.authorizationCodes ≠ codeIssued.after.authorizationCodes ∧
    ∃ row ∈ exchanged.after.clients,
      Covers flowApp environment exchanged.after 1 (exchanged.after.clientOf row)
        ["profile", "openid"] := by
  obtain ⟨answered, standing, moved, row, inClients, isRow, isActive, inside⟩ := issued_evaluated
  have issuedListed : codeIssued.after ∈ [codeIssued.after, exchanged.after] := List.mem_cons_self
  have exchangedListed : exchanged.after ∈ [codeIssued.after, exchanged.after] :=
    List.mem_cons_of_mem _ (List.mem_singleton_self _)
  have presentable : ∀ db ∈ [codeIssued.after, exchanged.after], db.Sound →
      ∀ userID clientID, Presentable db userID clientID :=
    fun db listed sound _ _ grant found =>
      have stands := standing db listed grant ((grantOf_some sound).mp found).1
      ⟨stands.1, stands.2.1⟩
  have agrees := consent_preview_agrees flowApp environment
  refine ⟨((agrees.1 codeIssued.after client scopes scopes silentIssue flow_run.sound
    (presentable _ issuedListed flow_run.sound _ _) sample_admissible).1 rfl).1, moved, row, inClients, ?_⟩
  refine agrees.2 .utc (exchanged :: flow) [exchanged] flow.tail exchanged.after codeIssued
    OneIssuer.Sample.issue .done row _ (Run.at_append [exchanged] exchanged_run) exchanged_run
    (presentable _ exchangedListed exchanged_run.sound _ _) rfl answered rfl inClients ?_ isActive
    (by decide) (by decide) inside fun seen inStates grant found => ?_
  · rw [isRow]
    rfl
  · rcases List.mem_cons.mp inStates with isLast | earlier
    · rw [isLast] at found
      exact (standing _ exchangedListed grant ((grantOf_some exchanged_run.sound).mp found).1).2.2
    · have isIssued : seen = codeIssued.after := by
        simpa only [List.map_cons, List.map_nil, List.mem_singleton, exchanged, Entry.calm] using earlier
      rw [isIssued] at found
      exact (standing _ issuedListed grant ((grantOf_some flow_run.sound).mp found).1).2.2

/-- A flow in the first microsecond of the clock. -/
def earlyTransaction : Transaction :=
  { transaction with createdAt := 1, expiresAt := 1 + minutes 10 }

def earlyIssue : IssueCommit :=
  { OneIssuer.Sample.issue with
    transaction := earlyTransaction, authenticatedAt := 1, createdAt := 1, expiresAt := 1 + minutes 5 }

def earlyStarted : Entry :=
  .calm OneIssuer.Sample.sha (.createAuthTransaction earlyTransaction (event 2)) clientCreated.after

def earlyKnown : Entry :=
  .calm OneIssuer.Sample.sha
    (.createPreAuth ⟨4, digest 4, digest 4, 3, start, start + minutes 5⟩) earlyStarted.after

def earlyRegistered : Entry :=
  .calm OneIssuer.Sample.sha (.commitRegistration registration) earlyKnown.after

def earlyIssued : Entry :=
  .calm OneIssuer.Sample.sha (.issueAuthorizationCode earlyIssue) earlyRegistered.after

def earlyFlow : List Entry := [earlyIssued, earlyRegistered, earlyKnown, earlyStarted, clientCreated]

theorem early_evaluated :
    Fresh (states earlyFlow.tail earlyIssued.before) earlyIssued.before earlyIssued.after ∧
      earlyIssued.outcome = .ok .done ∧
      (preview flowApp environment earlyIssued.after 1 client scopes).isNone = true ∧
      ((lockAndApplyConsent silentIssue client scopes).run exec earlyIssued.after).isOk = true := by
  decide +kernel

/-- A grant given in the first microsecond of the clock is stored with Go's zero time: the preview
refuses it, the commit accepts it. -/
theorem preview_refuses_early_grant :
    Run OneIssuer.Sample.sha .utc earlyFlow earlyIssued.after ∧ earlyIssued.outcome = .ok .done ∧
      Admissible silentIssue.userID client scopes scopes ∧
      ¬ Covers flowApp environment earlyIssued.after silentIssue.userID client scopes ∧
      (lockAndApplyConsent silentIssue client scopes).run exec earlyIssued.after ≠
        .error .authorizationConsentRequired := by
  obtain ⟨fresh, answered, refused, accepted⟩ := early_evaluated
  have created : Run OneIssuer.Sample.sha .utc [clientCreated] clientCreated.after :=
    Run.start.quiet _ (by simp [Call.reads]) (by simp [Call.kinds])
  have started : Run OneIssuer.Sample.sha .utc [earlyStarted, clientCreated] earlyStarted.after :=
    created.quiet _ (by simp [Call.reads]) (by simp [Call.kinds])
  have known : Run OneIssuer.Sample.sha .utc [earlyKnown, earlyStarted, clientCreated]
      earlyKnown.after := started.quiet _ (by simp [Call.reads]) (by simp [Call.kinds])
  have registered : Run OneIssuer.Sample.sha .utc earlyFlow.tail earlyRegistered.after :=
    known.quiet _ (by simp [Call.reads]) (by simp [Call.kinds])
  refine ⟨registered.calm _ (by simp [Call.reads]) fresh, answered, sample_admissible, ?_, ?_⟩
  · rintro ⟨evaluated, isEvaluated, -⟩
    rw [show silentIssue.userID = 1 from rfl] at isEvaluated
    rw [isEvaluated] at refused
    cases refused
  · intro failed
    rw [failed] at accepted
    cases accepted

end Sample

end OneIssuer.Browser
